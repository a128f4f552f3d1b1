import CodeSurvey.Json.Display
import CodeSurvey.Yaml.Scalar

namespace CodeSurvey.Yaml

def isPrintable (c : Char) : Bool :=
  let n := c.toNat
  c == '\t' || c == '\n' || (0x20 ≤ n && n ≤ 0x7e) || n = 0x85 || (0xa0 ≤ n && n ≤ 0xd7ff)
    || (0xe000 ≤ n && n ≤ 0xfffd) || 0x10000 ≤ n

namespace Node

def isMerge : Node → Bool
  | text none content => content == "<<"
  | text (some tag) _ => tag == .merge
  | _ => false

def name : Node → Except Fault String
  | text none "=" => .ok "="
  | text none content => Json.display <$> Scalar.plain content
  | text (some .value) content => .ok content
  | text (some tag) content => Json.display <$> Scalar.tagged tag content
  | _ => .error .settingsText

structure Entries where
  merged : Fields := []
  own : Fields := []

def Entries.all (e : Entries) : Fields := e.merged ++ e.own

mutual

def value : Node → Except Fault Json
  | text none content => Scalar.plain content
  | text (some tag) content => Scalar.tagged tag content
  | list tag items => do
      if tag != .list then throw .settingsText
      return .arr (← values items)
  | table tag pairs => do
      if tag != .table then throw .settingsText
      return .obj (Fields.putAll [] (← entries pairs).all)

def values : List Node → Except Fault (List Json)
  | [] => return []
  | n :: rest => do return (← value n) :: (← values rest)

def entries : List (Node × Node) → Except Fault Entries
  | [] => return {}
  | (k, v) :: rest => do
      if isMerge k then
        let taken ← takenOver v
        let others ← entries rest
        return { others with merged := taken ++ others.merged }
      else
        let n ← name k
        let v ← value v
        let others ← entries rest
        return { others with own := (n, v) :: others.own }

def takenOver : Node → Except Fault Fields
  | table _ pairs => return (← entries pairs).all
  | list _ items => takenFrom items
  | _ => throw .settingsText

def takenFrom : List Node → Except Fault Fields
  | [] => return []
  | table _ pairs :: rest => do
      let others ← takenFrom rest
      return others ++ (← entries pairs).all
  | _ :: _ => throw .settingsText

end

end Node

def read (text : String) : Except Fault Json := do
  let cs := Text.unifyLines text.toList
  if !cs.all isPrintable then throw .settingsText
  match ← Node.ofTokens (← Layout.tokensOf cs) with
  | some n => n.value
  | none => return .null

end CodeSurvey.Yaml
