import CodeSurvey.Project.Manifest
import CodeSurvey.Version.Range

namespace CodeSurvey

inductive Verdict where
  | compatible
  | noDependency
  | noMatchedVersion
  | refused (reason : String)
  deriving DecidableEq, Repr

def Verdict.reason? : Verdict → Option String
  | compatible => none
  | noDependency => some "no-dependency"
  | noMatchedVersion => some "no-matched-version"
  | refused reason => some reason

namespace Gate

-- Of two sections that name the same project, the one that comes first counts.
def sections : List String := ["devDependencies", "dependencies", "peerDependencies"]

def sectionOf (manifest : Fields) (name : String) : Fields :=
  match manifest.get? name with
  | some (.obj fields) => fields
  | _ => []

def addMissing (found : List (String × String)) (field : String × Json) : List (String × String) :=
  match found.lookup field.1 with
  | some _ => found
  | none => found ++ [(field.1, field.2.display)]

def dependencies (manifest : Fields) : List (String × String) :=
  (sections.flatMap (sectionOf manifest)).foldl addMissing []

abbrev Matcher := String → String → Bool

def decide (accepts : Matcher) (reference target : Fields) : Except Fault Verdict :=
  match (reference.get? "name").getD .null with
  | .arr _ | .obj _ => .error .mistyped
  | .str name =>
      match (dependencies target).lookup name with
      | none => .ok .noDependency
      | some range =>
          let version := ((reference.get? "version").getD (.str "")).display
          .ok (if accepts version range then .compatible else .noMatchedVersion)
  | _ => .ok .noDependency

def check (accepts : Matcher) (t : FileTree) (reference target : Place) : Except Fault Verdict := do
  let reference ← Manifest.read t reference
  let target ← Manifest.read t target
  decide accepts reference target

end Gate

end CodeSurvey
