import CodeSurvey.Fault
import CodeSurvey.Path
import CodeSurvey.Text.Utf8

namespace CodeSurvey

inductive Entry where
  | folder
  | file (octets : List UInt8)
  deriving DecidableEq, Repr

def Entry.isFile : Entry → Bool
  | file _ => true
  | folder => false

abbrev Place := List String

structure FileTree where
  entries : List (Place × Entry) := []
  deriving Repr

namespace FileTree

def entryAt (t : FileTree) (place : Place) : Option Entry :=
  if place.isEmpty then some .folder else t.entries.lookup place

def isFolder (t : FileTree) (place : Place) : Bool :=
  t.entryAt place == some .folder

def isFile (t : FileTree) (place : Place) : Bool :=
  (t.entryAt place).any (·.isFile)

def isThere (t : FileTree) (place : Place) : Bool :=
  (t.entryAt place).isSome

def above (place : Place) : List Place :=
  (List.range place.length).map fun n => place.take n

def look (t : FileTree) (place : Place) : Except PlaceFault Entry :=
  match (above place).find? fun p => !t.isFolder p with
  | some p => .error (if t.isFile p then .notFolder else .missing)
  | none =>
      match t.entryAt place with
      | some e => .ok e
      | none => .error .missing

def octets (t : FileTree) (place : Place) : Except PlaceFault (List UInt8) := do
  match ← t.look place with
  | .file octets => .ok octets
  | .folder => .error .isFolder

def set (t : FileTree) (place : Place) (e : Entry) : FileTree :=
  if place.isEmpty then t
  else if t.isThere place then
    ⟨t.entries.map fun entry => if entry.1 = place then (place, e) else entry⟩
  else ⟨t.entries ++ [(place, e)]⟩

def addFolder (t : FileTree) (place : Place) : FileTree :=
  if t.isThere place then t else t.set place .folder

def makeFolders (t : FileTree) (place : Place) : Except PlaceFault FileTree :=
  if t.isFile place then .error .exists
  else if (above place).any t.isFile then .error .notFolder
  else .ok ((above place ++ [place]).foldl addFolder t)

def write (t : FileTree) (place : Place) (octets : List UInt8) : Except PlaceFault FileTree :=
  match t.look place with
  | .ok .folder => .error .isFolder
  | .ok (.file _) => .ok (t.set place (.file octets))
  | .error fault =>
      if fault = .missing && t.isFolder place.dropLast then .ok (t.set place (.file octets))
      else .error fault

def writeText (t : FileTree) (place : Place) (text : String) : Except PlaceFault FileTree := do
  let t ← t.makeFolders place.dropLast
  t.write place (Text.Utf8.encode text)

def isAtOrBelow (top place : Place) : Bool :=
  top.isPrefixOf place

def remove (t : FileTree) (place : Place) : FileTree :=
  ⟨t.entries.filter fun entry => !isAtOrBelow place entry.1⟩

def move (t : FileTree) (source target : Place) : FileTree :=
  ⟨t.entries.map fun entry =>
    if isAtOrBelow source entry.1 then (target ++ entry.1.drop source.length, entry.2) else entry⟩

def filesBelow (t : FileTree) (top : Place) : List Place :=
  t.entries.filterMap fun (place, e) =>
    if e.isFile && isAtOrBelow top place && top.length < place.length then
      some (place.drop top.length)
    else none

def text (t : FileTree) (place : Place) : Except Fault (List Char) :=
  match t.octets place with
  | .error fault => .error (.place fault)
  | .ok octets =>
      match Text.Utf8.decode octets with
      | .ok cs => .ok (Text.unifyLines cs)
      | .error _ => .error .undecodable

end FileTree

end CodeSurvey
