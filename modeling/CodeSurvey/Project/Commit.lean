import CodeSurvey.FileTree
import CodeSurvey.Text.Blank

namespace CodeSurvey.Commit

def dataName : String := ".git"

def chars (octets : List UInt8) : List Char :=
  octets.map fun b => Char.ofNat b.toNat

def content? (t : FileTree) (place : Place) : Option (List Char) :=
  match t.octets place with
  | .ok octets => some (chars octets)
  | .error _ => none

def after? (lead : String) (cs : List Char) : Option (List Char) :=
  if lead.toList.isPrefixOf cs then some (cs.drop lead.length) else none

def isHex (c : Char) : Bool :=
  c.isDigit || ('a' ≤ c && c ≤ 'f') || ('A' ≤ c && c ≤ 'F')

def hash? (cs : List Char) : Option String :=
  let digits := cs.take 40
  if digits.length = 40 && digits.all isHex && (cs.drop 40).head?.all Text.isBlank then
    some (String.ofList (digits.map Char.toLower))
  else none

def pointsTo? (cs : List Char) : Option (List Char) :=
  (after? "ref:" (Text.trim cs)).map Text.trimLeft

def namesHead (cs : List Char) : Bool :=
  match pointsTo? cs with
  | some name => "refs/".toList.isPrefixOf name
  | none => (cs.take 40).length = 40 && (cs.take 40).all isHex

def isRepository (t : FileTree) (place : Place) : Bool :=
  (content? t (place ++ ["HEAD"])).any namesHead
    && t.isFolder (place ++ ["objects"]) && t.isFolder (place ++ ["refs"])

inductive Lookup where
  | found (repository : Place)
  | broken
  | absent

def repositoryAt (t : FileTree) (folder : Place) : Lookup :=
  match t.entryAt (folder ++ [dataName]) with
  | some (.file octets) =>
      match after? "gitdir: " (chars octets) with
      | some way =>
          let way := String.ofList (Text.trim way)
          let place := Path.located ("/" ++ Path.join folder) way
          if isRepository t place then .found place else .broken
      | none => .broken
  | some .folder =>
      if isRepository t (folder ++ [dataName]) then .found (folder ++ [dataName])
      else if isRepository t folder then .found folder
      else .absent
  | none => if isRepository t folder then .found folder else .absent

def repository? (t : FileTree) (folder : Place) : Option Place :=
  let folders := ((List.range (folder.length + 1)).map fun n => folder.take n).reverse
  (folders.findSome? fun f =>
    match repositoryAt t f with
    | .found place => some (some place)
    | .broken => some none
    | .absent => none).bind id

def packedHash? (t : FileTree) (repository : Place) (name : List Char) : Option String :=
  ((content? t (repository ++ ["packed-refs"])).bind fun cs =>
    (Text.pieces '\n' cs).find? fun line => line.drop 41 == name
      && line.getD 40 'x' == ' ').bind hash?

def resolve (t : FileTree) (repository : Place) : Nat → List Char → Option String
  | 0, _ => none
  | depth + 1, name =>
      match content? t (repository ++ Path.split (String.ofList name)) with
      | some cs =>
          match pointsTo? cs with
          | some next => resolve t repository depth next
          | none => hash? cs
      | none => packedHash? t repository name

def head? (t : FileTree) (root : Place) : Option String :=
  if t.isThere (root ++ [dataName]) then
    (repository? t root).bind fun place => resolve t place 6 "HEAD".toList
  else none

end CodeSurvey.Commit
