import CodeSurvey.Json.Access

namespace CodeSurvey

structure Scope where
  extensions : List Json := [.str ".js"]
  allowlist : List Json := []
  deriving Repr, BEq

namespace Scope

def toJson (s : Scope) : Json :=
  .obj [("extensions", .arr s.extensions), ("allowlist", .arr s.allowlist)]

def ofJson (data : Json) : Except Fault Scope := do
  return {
    extensions := ← (← data.getOr "extensions" (Json.ofTexts [".js"])).elements
    allowlist := ← (← data.getOr "allowlist" (.arr [])).elements }

def patterns (s : Scope) : Except Fault (List String) :=
  s.allowlist.mapM Json.asText

end Scope

end CodeSurvey
