import CodeSurvey.Analysis.Basic
import CodeSurvey.Outline.Basic

namespace CodeSurvey

namespace Definitions

structure Entry where
  name : String
  isClass : Bool
  line : Int
  deriving DecidableEq, Repr

def Entry.toJson (e : Entry) : Json :=
  .obj [("name", .str e.name), ("kind", .str (if e.isClass then "class" else "function")),
    ("line", .int e.line),
    ("visibility", .str (if e.name.toList.head? = some '_' then "private" else "public"))]

def entryOf (item : OutlineItem) : Option Entry :=
  match item.kind with
  | .function | .asyncFunction => some ⟨item.name, false, item.line⟩
  | .classDef => some ⟨item.name, true, item.line⟩
  | .block => none

def le (a b : Entry) : Bool :=
  a.line < b.line || (a.line == b.line && a.name ≤ b.name)

def collect (items : List OutlineItem) : List Entry :=
  ((OutlineItem.all items).filterMap entryOf).mergeSort le

def inFile (items : List OutlineItem) (_ : FileContext) : Except Fault Findings :=
  .ok { result := (collect items).map Entry.toJson }

end Definitions

end CodeSurvey
