import CodeSurvey.Digest
import CodeSurvey.Json.Reader
import CodeSurvey.Run.Config
import CodeSurvey.Text.Utf8

namespace CodeSurvey.Identity

def isSafe (c : Char) : Bool :=
  c.isAlphanum || c == '.' || c == '_' || c == '-'

def sanitize : List Char → List Char
  | [] => []
  | c :: rest =>
      if isSafe c then c :: sanitize rest
      else match rest with
        | d :: _ => if isSafe d then '-' :: sanitize rest else sanitize rest
        | [] => ['-']

def stripHyphens (cs : List Char) : List Char :=
  ((cs.dropWhile (· == '-')).reverse.dropWhile (· == '-')).reverse

def orElse (cs : List Char) (default : String) : List Char :=
  if cs.isEmpty then default.toList else cs

def segment (p : ProjectMeta) : List Char :=
  orElse (stripHyphens (sanitize (p.name.toList.dropWhile (· == '@')))) "unknown"
    ++ '_' :: orElse (sanitize p.version.toList) "0.0.0"

def projectSeed (p : Option ProjectMeta) : Json :=
  .ofOption (p.map fun p => p.withoutPath.toJson)

def seedOf (target reference : Option ProjectMeta) (configuration : Fields) : Json :=
  .obj [("targetProject", projectSeed target), ("referenceProject", projectSeed reference),
    ("analyzerConfig", .obj (Config.withoutPaths configuration))]

def seed (target reference : Option ProjectMeta) (c : Config) : Except Fault Json := do
  return seedOf target reference (← c.toFields)

def label (target reference : Option ProjectMeta) : List Char :=
  let first := match target with
    | some p => segment p
    | none => "unknown".toList
  match reference with
  | some p => first ++ "_+_".toList ++ segment p
  | none => first

def digestLength : Nat := 16

def digest (seed : Json) : List Char :=
  (Digest.sha1 (Text.Utf8.encode seed.canonical)).take digestLength

def ofSeed (target reference : Option ProjectMeta) (seed : Json) : String :=
  String.ofList (label target reference ++ "__".toList ++ digest seed)

def derive (target reference : Option ProjectMeta) (c : Config) : Except Fault String := do
  return ofSeed target reference (← seed target reference c)

def checkWritable (target reference : Option ProjectMeta) (c : Config) : Except Fault Unit := do
  (← seed target reference c).checkWritable

end CodeSurvey.Identity
