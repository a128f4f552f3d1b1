import CodeSurvey.Json.Basic

namespace CodeSurvey

namespace Json

def hexDigit (n : Nat) : Char :=
  if n < 10 then Char.ofNat ('0'.toNat + n) else Char.ofNat ('a'.toNat + (n - 10))

def escapeChar (c : Char) : List Char :=
  if c = '"' then ['\\', '"']
  else if c = '\\' then ['\\', '\\']
  else if c = '\n' then ['\\', 'n']
  else if c = '\r' then ['\\', 'r']
  else if c = '\t' then ['\\', 't']
  else if c.toNat = 8 then ['\\', 'b']
  else if c.toNat = 12 then ['\\', 'f']
  else if c.toNat < 32 then ['\\', 'u', '0', '0', hexDigit (c.toNat / 16), hexDigit (c.toNat % 16)]
  else [c]

def quote (s : String) : String :=
  String.ofList ('"' :: (s.toList.flatMap escapeChar ++ ['"']))

def realText (d : Double) : String :=
  d.textWith "NaN" "Infinity"

structure Separators where
  item : String
  name : String
  deriving DecidableEq, Repr

def Separators.tight : Separators := ⟨",", ":"⟩

def Separators.spaced : Separators := ⟨", ", ": "⟩

mutual

def textWith (s : Separators) : Json → String
  | null => "null"
  | bool true => "true"
  | bool false => "false"
  | int n => toString n
  | real d => realText d
  | str t => quote t
  | arr items => "[" ++ s.item.intercalate (textsWith s items) ++ "]"
  | obj fields => "\x7b" ++ s.item.intercalate (fieldTextsWith s fields) ++ "\x7d"

def textsWith (s : Separators) : List Json → List String
  | [] => []
  | v :: rest => textWith s v :: textsWith s rest

def fieldTextsWith (s : Separators) : List (String × Json) → List String
  | [] => []
  | (n, v) :: rest => (quote n ++ s.name ++ textWith s v) :: fieldTextsWith s rest

end

def text (v : Json) : String := textWith .spaced v

def indentation (depth : Nat) : String :=
  String.ofList ('\n' :: List.replicate (2 * depth) ' ')

def block (opening closing : String) (depth : Nat) : List String → String
  | [] => opening ++ closing
  | texts =>
      opening ++ indentation (depth + 1) ++ ("," ++ indentation (depth + 1)).intercalate texts
        ++ indentation depth ++ closing

mutual

def indented (depth : Nat) : Json → String
  | arr items => block "[" "]" depth (indentedItems (depth + 1) items)
  | obj fields => block "\x7b" "\x7d" depth (indentedFields (depth + 1) fields)
  | v => text v

def indentedItems (depth : Nat) : List Json → List String
  | [] => []
  | v :: rest => indented depth v :: indentedItems depth rest

def indentedFields (depth : Nat) : List (String × Json) → List String
  | [] => []
  | (n, v) :: rest => (quote n ++ ": " ++ indented depth v) :: indentedFields depth rest

end

def fieldLe (a b : String × Json) : Bool :=
  a.1 ≤ b.1

mutual

def sorted : Json → Json
  | arr items => arr (sortedItems items)
  | obj fields => obj ((sortedFields fields).mergeSort fieldLe)
  | v => v

def sortedItems : List Json → List Json
  | [] => []
  | v :: rest => sorted v :: sortedItems rest

def sortedFields : List (String × Json) → List (String × Json)
  | [] => []
  | (n, v) :: rest => (n, sorted v) :: sortedFields rest

end

def canonical (v : Json) : String :=
  textWith .tight v.sorted

end Json

end CodeSurvey
