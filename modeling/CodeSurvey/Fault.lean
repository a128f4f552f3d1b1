namespace CodeSurvey

inductive ManifestFault where
  | notFound (place : String)
  | unreadable (place : String) (reason : String)
  | notObject (place : String)
  deriving DecidableEq, Repr

def ManifestFault.message : ManifestFault → String
  | notFound place => s!"manifest not found: {place}"
  | unreadable place reason => s!"cannot read manifest {place}: {reason}"
  | notObject place => s!"manifest is not a JSON object: {place}"

inductive SetupFault where
  | noTarget (analyzer : String)
  | unusable (analyzer : String) (provided : String)
  | noReference (analyzer : String)
  | noFiles (analyzer : String)
  | unknownAnalyzer (name : String) (known : List String)
  deriving DecidableEq, Repr

def SetupFault.message : SetupFault → String
  | noTarget a => s!"{a}: a target project path or result is required"
  | unusable a provided => s!"{a}: cannot analyze a provided '{provided}' result"
  | noReference a => s!"{a}: a reference project is required"
  | noFiles a => s!"{a}: no target files to analyze"
  | unknownAnalyzer name known =>
      "unknown analyzer '" ++ name ++ "' (known: " ++ ", ".intercalate known ++ ")"

inductive PlaceFault where
  | isFolder
  | notFolder
  | exists
  | missing
  | notStore
  | storeUnopened
  deriving DecidableEq, Repr

inductive Fault where
  | manifest (cause : ManifestFault)
  | dialect (name : String)
  | setup (cause : SetupFault)
  | missingKey (key : String)
  | mistyped
  | unsupported
  | invalid
  | nestedTooDeep
  | undecodable
  | settingsText
  | place (cause : PlaceFault)
  | analysis (message : String)
  deriving DecidableEq, Repr

namespace Fault

def message? : Fault → Option String
  | manifest cause => some cause.message
  | dialect name => some s!"unsupported AST dialect: {name}"
  | setup cause => some cause.message
  | missingKey key => some key
  | analysis message => some message
  | _ => none

def isReported : Fault → Bool
  | manifest _ | dialect _ | setup _ => true
  | _ => false

end Fault

end CodeSurvey
