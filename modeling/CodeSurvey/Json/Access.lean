import CodeSurvey.Fault
import CodeSurvey.Json.Display

namespace CodeSurvey

namespace Json

def elements : Json → Except Fault (List Json)
  | arr items => .ok items
  | str s => .ok (s.toList.map fun c => str (String.singleton c))
  | obj fields => .ok ((Fields.names fields).map str)
  | _ => .error .mistyped

def keyText : Json → Except Fault String
  | str s => .ok s
  | null => .ok "null"
  | bool true => .ok "true"
  | bool false => .ok "false"
  | int n => .ok (toString n)
  | real d => .ok (d.textWith "NaN" "Infinity")
  | arr _ | obj _ => .error .mistyped

def asPair (v : Json) : Except Fault (String × Json) := do
  match ← v.elements with
  | [key, value] => return (← key.keyText, value)
  | _ => .error .invalid

def asFields : Json → Except Fault Fields
  | obj fields => .ok fields
  | v => do (← v.elements).foldlM (fun acc item => do
      let (name, value) ← item.asPair
      pure (acc.put name value)) []

def get (v : Json) (name : String) : Except Fault Json :=
  match v with
  | obj fields => .ok ((Fields.get? fields name).getD null)
  | _ => .error .unsupported

def getOr (v : Json) (name : String) (default : Json) : Except Fault Json :=
  match v with
  | obj fields => .ok ((Fields.get? fields name).getD default)
  | _ => .error .unsupported

def require (v : Json) (name : String) : Except Fault Json :=
  match v with
  | obj fields =>
      match Fields.get? fields name with
      | some value => .ok value
      | none => .error (.missingKey (Text.quoted name))
  | _ => .error .mistyped

def asText : Json → Except Fault String
  | str s => .ok s
  | _ => .error .unsupported

def count : Json → Except Fault Nat
  | arr items => .ok items.length
  | str s => .ok s.length
  | obj fields => .ok fields.length
  | _ => .error .mistyped

end Json

end CodeSurvey
