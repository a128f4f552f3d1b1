import CodeSurvey.Script.Cursor

namespace CodeSurvey.Script

namespace Semicolon

inductive Passed where
  | refused
  | sameLine (rest : List Char)
  | on (rest : List Char)

def isLineEnd (c : Char) : Bool :=
  c == '\n' || isSeparator c

def passBlock (broken : Bool) : List Char → Option (Bool × List Char)
  | '*' :: '/' :: rest => some (broken, rest)
  | c :: rest => passBlock (broken || isLineEnd c) rest
  | [] => none

def pass (through : Bool) : Nat → Bool → List Char → Passed
  | 0, _, cs => .on cs
  | fuel + 1, broken, cs =>
      match cs.dropWhile isSpace with
      | '/' :: '/' :: rest => pass through fuel broken (rest.dropWhile fun c => !isLineEnd c)
      | '/' :: '*' :: rest =>
          match passBlock false rest with
          | none => .on []
          | some (b, rest) =>
              let broken := broken || b
              if !through && rest.head? != some '/' then
                (if broken then .on rest else .sameLine rest)
              else pass through fuel broken rest
      | '/' :: _ => .refused
      | rest => .on rest

def afterIn : List Char → Bool
  | c :: rest =>
      if !c.isAlpha then false
      else
        let word := "stanceof".toList
        if word.isPrefixOf (c :: rest) then (rest.drop 7).head?.any Char.isAlpha else true
  | [] => false

def startsAnew : List Char → Bool
  | '.' :: rest => rest.head?.any Char.isDigit
  | '+' :: rest => rest.head? == some '+'
  | '-' :: rest => rest.head? == some '-'
  | '!' :: rest => rest.head? != some '='
  | 'i' :: 'n' :: rest => afterIn rest
  | c :: _ => c.toNat != 96 && !(",:;*%><=[(?^|&/".toList.contains c)
  | [] => true

def nextLine (fuel : Nat) (cs : List Char) : Bool :=
  match pass true fuel false cs with
  | .refused => false
  | .sameLine rest | .on rest => startsAnew rest

def isLeftOut (early : Bool) : Nat → List Char → Bool
  | 0, _ => false
  | _, [] => true
  | fuel + 1, '/' :: rest =>
      match pass false fuel false ('/' :: rest) with
      | .refused => false
      | .sameLine rest => resume early fuel rest
      | .on rest =>
          if early && !(rest.head? == some ',' || rest.head? == some '=') then true
          else resume early fuel rest
  | fuel + 1, c :: rest => resume early fuel (c :: rest)
where
  resume (early : Bool) (fuel : Nat) : List Char → Bool
    | [] => false
    | c :: rest =>
        if c == '}' then true
        else if isLineEnd c then nextLine fuel rest
        else if !isSpace c then false
        else isLeftOut early fuel rest

end Semicolon

def endsFrom (early : Bool) : Nat → Cursor → Bool
  | 0, _ => false
  | fuel + 1, c =>
      if Semicolon.isLeftOut early (c.left + 2) c.rest then true
      else match afterComment (c.rest.dropWhile isBlank) with
        | some rest => endsFrom early fuel (.before rest)
        | none => false

def endsHere (early : Bool) : Parse Bool := fun c =>
  some (endsFrom early (c.left + 1) c, c)

def semicolon (early : Bool) : Parse Unit := do
  if ← endsHere early then return
  mark ";"

end CodeSurvey.Script
