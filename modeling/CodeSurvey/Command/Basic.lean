import CodeSurvey.Command.Words
import CodeSurvey.Run.Settings

namespace CodeSurvey

structure RunRequest where
  analyzer : String
  targets : List String
  references : List String := []
  choice : ScopeChoice := {}
  skipCheck : Bool := false
  settings : String
  output : Option String := none

inductive Command where
  | init (settings : String) (force : Bool)
  | run (request : RunRequest)
  | forget (analyzer identifier settings : String)

namespace Command

def defaultSettings : String := ".astgate/settings.yaml"

def settingsRule : OptionRule := { name := "settings", spellings := ["--settings"] }

def initRules : List OptionRule :=
  [settingsRule,
   { name := "force", spellings := ["--force"], kind := .switch true },
   { name := "force", spellings := ["--no-force"], kind := .switch false }]

def runRules : List OptionRule :=
  [settingsRule,
   { name := "target", spellings := ["--target", "-t"] },
   { name := "reference", spellings := ["--reference", "-r"] },
   { name := "ext", spellings := ["--ext"] },
   { name := "allowlist", spellings := ["--allowlist"] },
   { name := "allowlist-reference", spellings := ["--allowlist-reference"] },
   { name := "skip-compat", spellings := ["--skip-compat"], kind := .switch true },
   { name := "output", spellings := ["--output"] }]

def settingsOf (w : Words) : String := (w.last? "settings").getD defaultSettings

def initOf (w : Words) : Option Command :=
  if w.arguments.isEmpty then some (.init (settingsOf w) (w.isOn "force")) else none

def runOf (w : Words) : Option Command :=
  match w.arguments, w.all "target" with
  | [analyzer], target :: targets => some (.run {
      analyzer
      targets := target :: targets
      references := w.all "reference"
      choice := ⟨w.all "ext", w.all "allowlist", w.all "allowlist-reference"⟩
      skipCheck := w.isOn "skip-compat"
      settings := settingsOf w
      output := w.last? "output" })
  | _, _ => none

def forgetOf (w : Words) : Option Command :=
  match w.arguments with
  | [analyzer, identifier] => some (.forget analyzer identifier (settingsOf w))
  | _ => none

def ofName (name : String) (words : List String) : Option Command :=
  match name with
  | "init" => (Words.read initRules words).bind initOf
  | "run" => (Words.read runRules words).bind runOf
  | "forget" => (Words.read [settingsRule] words).bind forgetOf
  | _ => none

def ofArguments : List String → Option Command
  | "--" :: name :: words => ofName name words
  | name :: words => ofName name words
  | [] => none

def usage : String :=
  "usage: astgate init [--settings FILE] [--force]\n" ++
  "       astgate run ANALYZER -t TARGET... [-r REFERENCE...] [--ext EXT...] [--allowlist PATTERN...]\n" ++
  "                   [--allowlist-reference PATTERN...] [--skip-compat] [--settings FILE] [--output FILE]\n" ++
  "       astgate forget ANALYZER IDENTIFIER [--settings FILE]"

end Command

end CodeSurvey
