import CodeSurvey.Report.Basic

namespace CodeSurvey

abbrev SourceReader (Tree : Type) := String → Except Fault (Option Tree)

structure FileContext where
  text : String
  path : String
  project : ProjectMeta
  reference : Option ProjectMeta := none
  options : Fields := []

structure Findings where
  result : List Json
  about : Json := .null

structure Analyzer (Tree : Type) where
  name : String
  dialect : String
  requiresReference : Bool := false
  consumes : Option String := none
  inFile : Tree → FileContext → Except Fault Findings
  fromReport : Option (Report → Option ProjectMeta → Except Fault Json) := none

end CodeSurvey
