import CodeSurvey.Project.Meta

namespace CodeSurvey

structure ReportMeta where
  analyzer : Json
  dialect : Json
  identifier : Json
  configuration : Fields
  target : Option ProjectMeta := none
  reference : Option ProjectMeta := none
  fromCache : Bool := false
  deriving Repr, BEq

namespace ReportMeta

def toFields (m : ReportMeta) : Fields :=
  [("name", m.analyzer), ("requiredAstDialect", m.dialect), ("identifier", m.identifier)]
    ++ (m.target.map fun p => ("targetProject", p.toJson)).toList
    ++ (m.reference.map fun p => ("referenceProject", p.toJson)).toList
    ++ [("configuration", .obj m.configuration)]
    ++ (if m.fromCache then [("__fromCache", .bool true)] else [])

def toJson (m : ReportMeta) : Json := .obj m.toFields

def ofJson (data : Json) : Except Fault ReportMeta := do
  let target ← data.get "targetProject"
  let reference ← data.get "referenceProject"
  return {
    analyzer := ← data.getOr "name" (.str "")
    dialect := ← data.getOr "requiredAstDialect" (.str "")
    identifier := ← data.getOr "identifier" (.str "")
    configuration := ← (← data.getOr "configuration" (.obj [])).asFields
    target := ← ProjectMeta.ofJson? target
    reference := ← ProjectMeta.ofJson? reference
    fromCache := !(← data.getOr "__fromCache" (.bool false)).isEmpty }

end ReportMeta

structure Report where
  output : Json
  about : ReportMeta
  deriving Repr, BEq

namespace Report

def isSquareBracket (c : Char) : Bool := c == '[' || c == ']'

def skipReason (r : Report) : Option String :=
  match r.output with
  | .str s => some (String.ofList
      ((s.toList.dropWhile isSquareBracket).reverse.dropWhile isSquareBracket).reverse)
  | _ => none

def isSkipped (r : Report) : Bool := r.skipReason.isSome

def mark (r : Report) (fromCache : Bool) : Report :=
  { r with about := { r.about with fromCache } }

def toPlain (r : Report) : Json :=
  .obj [("queryOutput", r.output), ("analyzerMeta", r.about.toJson)]

def toWrapped (r : Report) : Json :=
  .obj [("queryOutput", r.output), ("meta", .obj [("analyzerMeta", r.about.toJson)])]

def aboutOf (value : Json) : Except Fault Json :=
  match value with
  | .obj fields =>
      match Fields.get? fields "analyzerMeta" with
      | some about => .ok about
      | none => do (← value.require "meta").require "analyzerMeta"
  | _ => .error .mistyped

def ofJson (value : Json) : Except Fault Report := do
  let about ← aboutOf value
  return { output := ← value.require "queryOutput", about := ← ReportMeta.ofJson about }

def portable (r : Report) : Json :=
  (r.mark false).toPlain

end Report

inductive Provided where
  | report (r : Report)
  | raw (value : Json)
  deriving Repr

namespace Provided

def unwind : Provided → Except Fault Report
  | report r => .ok r
  | raw value => Report.ofJson value

def portable (p : Provided) : Except Fault Json :=
  Report.portable <$> p.unwind

end Provided

end CodeSurvey
