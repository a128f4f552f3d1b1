import CodeSurvey.FileTree
import CodeSurvey.Store.Basic

namespace CodeSurvey

namespace StoreFile

def signature : List UInt8 := 0xFF :: Text.Utf8.encode "rows\n"

def rowJson (row : StoreKey × String) : Json :=
  .ofTexts [row.1.analyzer, row.1.identifier, row.2]

def encode (rows : Table String) : List UInt8 :=
  signature ++ Text.Utf8.encode (Json.arr (rows.map rowJson)).text

def rowOf : Json → Option (StoreKey × String)
  | .arr [.str analyzer, .str identifier, .str payload] => some (⟨analyzer, identifier⟩, payload)
  | _ => none

def rowsOf (cs : List Char) : Option (Table String) :=
  match Json.readChars cs with
  | .ok (.arr rows) => rows.mapM rowOf
  | _ => none

def decode (octets : List UInt8) : Option (Table String) :=
  if octets.isEmpty then some []
  else if signature.isPrefixOf octets then
    match Text.Utf8.decode (octets.drop signature.length) with
    | .ok cs => rowsOf cs
    | .error _ => none
  else none

def toFault (x : Except PlaceFault α) : Except Fault α :=
  x.mapError .place

def save (t : FileTree) (place : Place) : Store → Except Fault FileTree
  | .texts rows => toFault (t.write place (encode rows))
  | .values _ => .ok t

def rowsAt (t : FileTree) (place : Place) : Except Fault (Table String) :=
  match t.octets place with
  | .ok octets =>
      match decode octets with
      | some rows => .ok rows
      | none => .error (.place .notStore)
  | .error .missing => .ok []
  | .error _ => .error (.place .storeUnopened)

def openAt (t : FileTree) (place : Place) : Except Fault (Store × FileTree) := do
  let t ← toFault (t.makeFolders place.dropLast)
  let store := Store.texts (← rowsAt t place)
  return (store, ← save t place store)

end StoreFile

end CodeSurvey
