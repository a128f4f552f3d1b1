import CodeSurvey.Analysis.Definitions
import CodeSurvey.Analysis.Exports
import CodeSurvey.Analysis.Matches
import CodeSurvey.Outline.Reader
import CodeSurvey.Script.Reader

namespace CodeSurvey

inductive SourceTree where
  | script (root : Node)
  | outline (items : List OutlineItem)

namespace SourceTree

def root : SourceTree → Node
  | script root => root
  | outline _ => { kind := "program" }

def items : SourceTree → List OutlineItem
  | script _ => []
  | outline items => items

end SourceTree

namespace Catalogue

def scriptDialect : String := "javascript"

def outlineDialect : String := "python"

def findImports : Analyzer SourceTree :=
  { name := "find-imports", dialect := scriptDialect, inFile := fun t => Imports.inFile t.root }

def findExports : Analyzer SourceTree :=
  { name := "find-exports", dialect := scriptDialect, inFile := fun t => Exports.inFile t.root }

def matchImports : Analyzer SourceTree :=
  { name := "match-imports"
    dialect := scriptDialect
    requiresReference := true
    consumes := some findImports.name
    inFile := fun t => Matches.inFile t.root
    fromReport := some Matches.fromReport }

def findDefinitions : Analyzer SourceTree :=
  { name := "find-definitions", dialect := outlineDialect, inFile := fun t => Definitions.inFile t.items }

def all : List (Analyzer SourceTree) := [findImports, findExports, matchImports, findDefinitions]

def knownNames : List String :=
  (all.map (·.name)).mergeSort fun a b => a ≤ b

def find (name : String) : Except Fault (Analyzer SourceTree) :=
  match all.find? fun a => a.name == name with
  | some a => .ok a
  | none => .error (.setup (.unknownAnalyzer name knownNames))

end Catalogue

namespace Dialect

def readScript : SourceReader SourceTree :=
  fun text => .ok ((Script.read text).map .script)

def readOutline : SourceReader SourceTree :=
  fun text => do return (← Outline.read text).map .outline

def readerFor (dialect : String) : Except Fault (SourceReader SourceTree) :=
  if dialect == Catalogue.outlineDialect then .ok readOutline
  else if dialect == Catalogue.scriptDialect then .ok readScript
  else .error (.dialect dialect)

end Dialect

end CodeSurvey
