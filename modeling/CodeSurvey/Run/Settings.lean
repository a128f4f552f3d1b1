import CodeSurvey.FileTree
import CodeSurvey.Json.Access
import CodeSurvey.Path
import CodeSurvey.Project.Scope
import CodeSurvey.Text.Blank
import CodeSurvey.Text.Casing
import CodeSurvey.Yaml.Reader

namespace CodeSurvey

abbrev Environment := List (String × String)

def Environment.value (env : Environment) (name : String) : String :=
  Text.trimmed ((env.lookup name).getD "")

structure Settings where
  cachePath : String
  gather : Scope
  gatherReference : Scope
  level : String := "INFO"
  format : String := "text"
  deriving Repr

namespace Settings

def defaultText : String :=
  "cache:\n  path: .astgate/cache.db\ngather:\n  extensions:\n    - \".js\"\n  allowlist:\n    - \"!coverage\"\n    - \"!test\"\n  allowlist_reference:\n    - \"!coverage\"\n    - \"!test\"\nlogging:\n  level: INFO\n  format: text\n"

def defaultCachePath : String := ".astgate/cache.db"

def asPath : Json → Except Fault String
  | .str s => .ok (Path.tidy s)
  | _ => .error .mistyped

def ofJson (data : Json) : Except Fault Settings := do
  let cache ← data.getOr "cache" (.obj [])
  let gather ← data.getOr "gather" (.obj [])
  let logging ← data.getOr "logging" (.obj [])
  let extensions ← (← gather.getOr "extensions" (.ofTexts [".js"])).elements
  let allowlist ← (← gather.getOr "allowlist" (.arr [])).elements
  let referenceAllowlist ← (← gather.getOr "allowlist_reference" (.arr allowlist)).elements
  let level ← logging.getOr "level" (.str "INFO")
  let format ← logging.getOr "format" (.str "text")
  let cachePath ← asPath (← cache.getOr "path" (.str defaultCachePath))
  return {
    cachePath
    gather := ⟨extensions, allowlist⟩
    gatherReference := ⟨extensions, referenceAllowlist⟩
    level := level.display
    format := format.display }

def cacheVariable : String := "ASTGATE_CACHE_DB"

def levelVariable : String := "ASTGATE_LOG_LEVEL"

def formatVariable : String := "ASTGATE_LOG_FORMAT"

def adjusted (env : Environment) (s : Settings) : Settings :=
  let cache := env.value cacheVariable
  let level := env.value levelVariable
  let format := Text.lowered (env.value formatVariable)
  { s with
    cachePath := if cache.isEmpty then s.cachePath else Path.tidy cache
    level := if level.isEmpty then s.level else Text.raised level
    format := if format == "text" || format == "json" then format else s.format }

def ofData (env : Environment) (data : Json) : Except Fault Settings :=
  adjusted env <$> ofJson data

def ofText (env : Environment) (text : String) : Except Fault Settings := do
  let data ← Yaml.read text
  ofData env (if data.isEmpty then .obj [] else data)

def default (env : Environment) : Except Fault Settings :=
  ofText env defaultText

def load (env : Environment) (t : FileTree) (place : Place) : Except Fault Settings :=
  match t.look place with
  | .ok _ => do ofText env (String.ofList (← t.text place))
  | .error _ => default env

def ensure (t : FileTree) (place : Place) (force : Bool) : Except Fault FileTree :=
  match t.look place, force with
  | .ok _, false => .ok t
  | _, _ => (t.writeText place defaultText).mapError .place

end Settings

structure ScopeChoice where
  extensions : List String := []
  allowlist : List String := []
  referenceAllowlist : List String := []

namespace ScopeChoice

def isMade (c : ScopeChoice) : Bool :=
  !(c.extensions.isEmpty && c.allowlist.isEmpty && c.referenceAllowlist.isEmpty)

def orElse (choice : List String) (default : List Json) : List Json :=
  if choice.isEmpty then default else choice.map .str

def gather (c : ScopeChoice) (s : Settings) : Scope :=
  ⟨orElse c.extensions s.gather.extensions, orElse c.allowlist s.gather.allowlist⟩

def gatherReference (c : ScopeChoice) (s : Settings) : Scope :=
  ⟨orElse c.extensions s.gatherReference.extensions,
   orElse c.referenceAllowlist s.gatherReference.allowlist⟩

end ScopeChoice

end CodeSurvey
