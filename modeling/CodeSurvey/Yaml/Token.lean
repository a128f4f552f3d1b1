import CodeSurvey.Text.Utf8
import CodeSurvey.Yaml.Quoted
import CodeSurvey.Yaml.Unquoted

namespace CodeSurvey.Yaml

inductive Directive where
  | version (major : Nat)
  | tags (handle space : String)
  | other
  deriving DecidableEq, Repr

inductive Token where
  | directive (d : Directive)
  | documentStart
  | documentEnd
  | blockList
  | blockTable
  | blockEnd
  | flowList
  | flowListEnd
  | flowTable
  | flowTableEnd
  | item
  | comma
  | key
  | value
  | alias (name : String)
  | anchor (name : String)
  | tag (handle : Option String) (suffix : String)
  | text (content : String) (plain : Bool)
  deriving DecidableEq, Repr

namespace Token

def mayFollowName (c : Char) : Bool := isGap c || "?:,]\x7d%@\x60".toList.contains c

def anchorName : Scan String := do
  skip 1
  let name ← takeWhile isNameChar
  if name.isEmpty then refuse
  needNext mayFollowName
  return String.ofList name

def isUriChar (c : Char) : Bool :=
  c.isAlphanum || "-;/?:@&=+$,_.!~*'()[]".toList.contains c

def octets : List Char → Scan (List UInt8)
  | [] => return []
  | _ :: limit => do
      match ← ahead with
      | '%' :: a :: b :: _ =>
          if !isHex a || !isHex b then refuse
          skip 3
          return UInt8.ofNat (numberIn 16 [a, b]) :: (← octets limit)
      | '%' :: _ => refuse
      | _ => return []

def uriFrom : List Char → Scan (List Char)
  | [] => return []
  | _ :: limit => do
      let run ← takeWhile isUriChar
      if (← peek) == some '%' then
        match Text.Utf8.decode (← octets (← ahead)) with
        | .ok cs => return run ++ cs ++ (← uriFrom limit)
        | .error _ => refuse
      else return run

def uri : Scan String := do
  let before := (← get).index
  let text ← uriFrom (← ahead)
  if (← get).index = before then refuse else return String.ofList text

def handle : Scan String := do
  if (← peek) != some '!' then refuse
  skip 1
  if (← peek) == some ' ' then return "!"
  let name ← takeWhile isNameChar
  if (← peek) != some '!' then refuse
  skip 1
  return String.ofList ('!' :: name ++ ['!'])

def hasHandle (cs : List Char) : Bool :=
  (cs.takeWhile fun c => !isSpaceOrBreak c).contains '!'

def tagHere : Scan Token := do
  match (← ahead).drop 1 with
  | '<' :: _ => do
      skip 2
      let suffix ← uri
      if (← peek) != some '>' then refuse
      skip 1
      needNext isSpaceOrBreak
      return .tag none suffix
  | cs =>
      if cs.head?.all isGap then
        skip 1
        needNext isSpaceOrBreak
        return .tag none "!"
      else
        let handle ← if hasHandle cs then handle else do
          skip 1
          pure "!"
        let suffix ← uri
        needNext isSpaceOrBreak
        return .tag (some handle) suffix

def number : Scan Nat := do
  let digits ← takeWhile Char.isDigit
  if digits.isEmpty then refuse else return numberIn 10 digits

def version : Scan Directive := do
  skipWhile (· == ' ')
  let major ← number
  if (← peek) != some '.' then refuse
  skip 1
  let _ ← number
  needNext isSpaceOrBreak
  return .version major

def tagSpace : Scan Directive := do
  skipWhile (· == ' ')
  let handle ← handle
  if (← peek) != some ' ' then refuse
  skipWhile (· == ' ')
  let space ← uri
  needNext isSpaceOrBreak
  return .tags handle space

def directiveHere : Scan Token := do
  skip 1
  let name ← takeWhile isNameChar
  if name.isEmpty then refuse
  needNext isSpaceOrBreak
  let d ← match String.ofList name with
    | "YAML" => version
    | "TAG" => tagSpace
    | _ => do
        skipWhile (!isBreak ·)
        pure .other
  restOfLine
  return .directive d

end Token

end CodeSurvey.Yaml
