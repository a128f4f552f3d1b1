import CodeSurvey.Path
import CodeSurvey.Run.Config

namespace CodeSurvey.Portable

mutual

def withSlashes (key : Option String) : Json → Json
  | .obj fields => .obj (fieldsWithSlashes fields)
  | .arr items => .arr (itemsWithSlashes items)
  | .str s => if key = some "file" then .str (Path.withSlashes s) else .str s
  | v => v

def itemsWithSlashes : List Json → List Json
  | [] => []
  | v :: rest => withSlashes none v :: itemsWithSlashes rest

def fieldsWithSlashes : List (String × Json) → List (String × Json)
  | [] => []
  | (n, v) :: rest => (n, withSlashes (some n) v) :: fieldsWithSlashes rest

end

def dropResult (fields : Fields) : Fields :=
  if fields.has "referenceProjectResult" then fields.erase "referenceProjectResult"
  else fields.erase "targetProjectResult"

def configuration (c : Config) : Except Fault Fields := do
  return dropResult (Config.withoutPaths (← c.toFields))

def stripEntry : Json → Json
  | .obj fields =>
      match Fields.get? fields "project" with
      | some (.obj project) =>
          .obj (Fields.put fields "project" (.obj (Fields.erase project "path")))
      | _ => .obj fields
  | v => v

def stripPaths : Json → Json
  | .arr entries => .arr (entries.map stripEntry)
  | v => v

structure Label where
  analyzer : String
  dialect : String
  identifier : String
  deriving Repr

def report (output : Json) (c : Config) (label : Label) (target reference : Option ProjectMeta)
    (separator : String) : Except Fault Report := do
  let configuration ← configuration c
  let own := separator = "/"
  let output := stripPaths output
  return {
    output := if own then output else withSlashes none output
    about := {
      analyzer := .str label.analyzer
      dialect := .str label.dialect
      identifier := .str label.identifier
      configuration := if own then configuration else fieldsWithSlashes configuration
      target := target.map (·.withoutPath)
      reference := reference.map (·.withoutPath) } }

end CodeSurvey.Portable
