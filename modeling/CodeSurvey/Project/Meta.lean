import CodeSurvey.Json.Access

namespace CodeSurvey

structure ProjectMeta where
  name : String
  version : String
  path : Option Json := none
  commit : Option Json := none
  deriving Repr, BEq

namespace ProjectMeta

def withoutPath (p : ProjectMeta) : ProjectMeta :=
  { p with path := none }

def toFields (p : ProjectMeta) : Fields :=
  [("name", .str p.name), ("version", .str p.version)]
    ++ (match p.commit with
        | some c => if c.isEmpty then [] else [("commitHash", c)]
        | none => [])
    ++ (match p.path with
        | some path => [("path", path)]
        | none => [])

def toJson (p : ProjectMeta) : Json := .obj p.toFields

def ofJson (data : Json) : Except Fault ProjectMeta := do
  return {
    name := (← data.getOr "name" (.str "")).display
    version := (← data.getOr "version" (.str "")).display
    path := (← data.get "path").present
    commit := (← data.get "commitHash").present }

def ofJson? (data : Json) : Except Fault (Option ProjectMeta) :=
  if data.isEmpty then .ok none else some <$> ofJson data

end ProjectMeta

end CodeSurvey
