import CodeSurvey.Project.Scope
import CodeSurvey.Report.Basic

namespace CodeSurvey

inductive ScopeSetting where
  | unset
  | scope (s : Scope)
  | malformed
  deriving Repr

namespace ScopeSetting

def ofJson (value : Json) : Except Fault ScopeSetting :=
  match value with
  | .null => .ok unset
  | .obj _ => scope <$> Scope.ofJson value
  | _ => .ok malformed

def scope? : ScopeSetting → Option Scope
  | scope s => some s
  | _ => none

def orDefault : ScopeSetting → ScopeSetting
  | unset => scope {}
  | s => s

def toJson? : ScopeSetting → Except Fault (Option Json)
  | unset => .ok none
  | scope s => .ok (some s.toJson)
  | malformed => .error .unsupported

end ScopeSetting

structure Config where
  targetPath : Option String := none
  referencePath : Option String := none
  gather : ScopeSetting := .scope {}
  gatherReference : ScopeSetting := .unset
  skipCheck : Bool := false
  targetResult : Option Provided := none
  referenceResult : Option Provided := none
  options : Fields := []
  deriving Repr

namespace Config

def targetPathKey := "targetProjectPath"

def referencePathKey := "referenceProjectPath"

def pathText (value : Json) : Option String :=
  value.present.map Json.display

def take (c : Config) (name : String) (value : Json) : Except Fault Config :=
  match name with
  | "targetProjectPath" => .ok { c with targetPath := pathText value }
  | "referenceProjectPath" => .ok { c with referencePath := pathText value }
  | "gatherFilesConfig" => do return { c with gather := (← ScopeSetting.ofJson value).orDefault }
  | "gatherFilesConfigReference" => do return { c with gatherReference := ← ScopeSetting.ofJson value }
  | "skipCheckMatchCompatibility" => .ok { c with skipCheck := !value.isEmpty }
  | "targetProjectResult" => .ok { c with targetResult := value.present.map .raw }
  | "referenceProjectResult" => .ok { c with referenceResult := value.present.map .raw }
  | "options" => .ok c
  | _ => .ok { c with options := c.options.put name value }

def ofFields (data : Fields) : Except Fault Config := do
  let given := (data.get? "options").getD .null
  let options ← if given.isEmpty then pure [] else given.asFields
  data.foldlM (fun c field => c.take field.1 field.2) { options }

def putSome (fields : Fields) (name : String) (value : Option Json) : Fields :=
  match value with
  | some v => fields.put name v
  | none => fields

def toFields (c : Config) : Except Fault Fields := do
  let fields := putSome c.options targetPathKey (c.targetPath.map .str)
  let fields := putSome fields referencePathKey (c.referencePath.map .str)
  let fields := putSome fields "gatherFilesConfig" (← c.gather.toJson?)
  let fields := putSome fields "gatherFilesConfigReference" (← c.gatherReference.toJson?)
  let fields :=
    if c.skipCheck then fields.put "skipCheckMatchCompatibility" (.bool true) else fields
  let fields := putSome fields "targetProjectResult" (← c.targetResult.mapM Provided.portable)
  return putSome fields "referenceProjectResult" (← c.referenceResult.mapM Provided.portable)

def withoutPaths (fields : Fields) : Fields :=
  fields.filter fun field => field.1 != targetPathKey && field.1 != referencePathKey

def unwound (c : Config) : Except Fault Config := do
  let target ← c.targetResult.mapM Provided.unwind
  let reference ← c.referenceResult.mapM Provided.unwind
  return { c with
    targetResult := target.map .report
    referenceResult := reference.map .report }

def given (path : Option String) : Option String :=
  path.filter (!·.isEmpty)

end Config

end CodeSurvey
