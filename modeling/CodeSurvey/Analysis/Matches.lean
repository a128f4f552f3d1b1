import CodeSurvey.Analysis.Imports

namespace CodeSurvey

namespace Matches

def comesFrom (name source : String) : Bool :=
  source == name || (name.toList ++ ['/']).isPrefixOf source.toList

def exporter (reference : ProjectMeta) : String :=
  reference.name ++ "#" ++ reference.version

def entry (reference : ProjectMeta) (specifiers source : Json) : Json :=
  .obj [("importSpecifiers", specifiers), ("source", source),
    ("exportingProject", .str (exporter reference))]

def inFile (root : Node) (context : FileContext) : Except Fault Findings :=
  match context.reference with
  | none => .ok { result := [] }
  | some reference =>
      let kept := (Imports.collect root context.path).filter fun e =>
        comesFrom reference.name e.source
      .ok { result := kept.map fun e => entry reference (.ofTexts e.specifiers) (.str e.source) }

def reportedItem (reference : ProjectMeta) (item : Json) : Except Fault (Option Json) := do
  let source ← item.require "source"
  if comesFrom reference.name (← source.asText) then
    return some (entry reference (← item.require "importSpecifiers") source)
  else return none

def reportedEntries (reference : ProjectMeta) (items : List Json) : Except Fault (List Json) := do
  return (← items.mapM (reportedItem reference)).filterMap id

def reportedFile? (reference : ProjectMeta) (entry : Json) : Except Fault (Option Json) := do
  let found ← reportedEntries reference (← (← entry.require "result").elements)
  if found.isEmpty then return none
  return some (.obj [("file", ← entry.require "file"), ("meta", .null), ("result", .arr found)])

def fromReport (imports : Report) (reference : Option ProjectMeta) : Except Fault Json := do
  match reference with
  | none => return .arr []
  | some reference =>
      let files ← (← imports.output.elements).mapM (reportedFile? reference)
      return .arr (files.filterMap id)

end Matches

end CodeSurvey
