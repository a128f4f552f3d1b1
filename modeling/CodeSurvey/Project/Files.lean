import CodeSurvey.FileTree
import CodeSurvey.Pattern.Allowlist
import CodeSurvey.Project.Commit
import CodeSurvey.Project.Manifest
import CodeSurvey.Project.Scope
import CodeSurvey.Text.Casing

namespace CodeSurvey

structure SourceFile where
  file : String
  text : String
  deriving Repr, BEq

structure ProjectInput where
  project : ProjectMeta
  entries : List SourceFile
  deriving Repr

namespace ProjectFiles

def alwaysExcluded : List String :=
  ["**/.git/**", "**/node_modules/**", "**/.venv/**", "**/__pycache__/**", "**/.pytest_cache/**",
   ".git", "node_modules", ".venv"]

def hasSuffix (suffixes : List String) (path : String) : Bool :=
  suffixes.isEmpty || suffixes.contains (Text.lowered (Path.suffix (Path.fileName path)))

def isExcluded (path : String) : Bool :=
  Pattern.matchesAny (alwaysExcluded.map String.toList) path.toList

def pathLe (a b : String) : Bool := a ≤ b

def discover (t : FileTree) (root : Place) (scope : Scope) : Except Fault (List String) := do
  let suffixes ← scope.extensions.mapM fun e => Text.lowered <$> e.asText
  let paths := (t.filesBelow root).map Path.join
  let candidates := paths.filter fun p => hasSuffix suffixes p && !isExcluded p
  if candidates.isEmpty then return []
  let allowlist ← scope.patterns
  return (candidates.filter (Pattern.admits allowlist)).mergeSort pathLe

def readEntry (t : FileTree) (root : Place) (path : String) : Option SourceFile :=
  let place := root ++ Path.split path
  match t.text place with
  | .ok cs => some ⟨"/" ++ Path.join place, String.ofList cs⟩
  | .error _ => none

def metaAt (t : FileTree) (withCommit : Bool) (root : Place) : Except Fault ProjectMeta := do
  let manifest ← Manifest.read t root
  return Manifest.describe manifest root (if withCommit then Commit.head? t root else none)

def gatherOne (t : FileTree) (scope : Scope) (root : Place) : Except Fault ProjectInput := do
  let project ← metaAt t true root
  let paths ← discover t root scope
  return ⟨project, paths.filterMap (readEntry t root)⟩

end ProjectFiles

end CodeSurvey
