import CodeSurvey.Analysis.Basic
import CodeSurvey.Log.Line
import CodeSurvey.Project.Files
import CodeSurvey.Run.Identity
import CodeSurvey.Run.Portable
import CodeSurvey.Run.Traced
import CodeSurvey.Store.Basic

namespace CodeSurvey

structure Surroundings (Tree : Type) where
  describe : String → Except Fault ProjectMeta
  gather : String → Scope → Except Fault ProjectInput
  readerFor : String → Except Fault (SourceReader Tree)
  admits : String → String → Except Fault Verdict
  folder : String := "/"
  separator : String := "/"

structure ParsedFile (Tree : Type) where
  file : String
  text : String
  tree : Tree

structure ParsedProject (Tree : Type) where
  entries : List (ParsedFile Tree) := []
  failed : List String := []

def readFiles {Tree : Type} (reader : SourceReader Tree) :
    List SourceFile → Except Fault (ParsedProject Tree)
  | [] => .ok {}
  | f :: rest => do
      let tree ← reader f.text
      let project ← readFiles reader rest
      match tree with
      | some tree => return { project with entries := ⟨f.file, f.text, tree⟩ :: project.entries }
      | none => return { project with failed := f.file :: project.failed }

namespace Survey

structure Prepared where
  config : Config
  identifier : String
  target : Option ProjectMeta
  reference : Option ProjectMeta
  files : Option ProjectInput := none

inductive Stage where
  | finished (r : Report)
  | ready (p : Prepared)

variable {Tree : Type}

def reusable (a : Analyzer Tree) (c : Config) : Except Fault (Option Report) :=
  match c.targetResult, a.fromReport with
  | some provided, some _ => do
      let r ← provided.unwind
      match r.output with
      | .arr _ =>
          return if r.about.analyzer == .ofOption (a.consumes.map .str) then some r else none
      | _ => return none
  | _, _ => .ok none

def validate (a : Analyzer Tree) (c : Config) : Except Fault Unit := do
  if (Config.given c.targetPath).isNone then
    match c.targetResult with
    | none => throw (.setup (.noTarget a.name))
    | some provided =>
        if (← reusable a c).isNone then
          throw (.setup (.unusable a.name (← provided.unwind).about.analyzer.display))
  if a.requiresReference && (Config.given c.referencePath).isNone && c.referenceResult.isNone then
    throw (.setup (.noReference a.name))

def targetMeta (w : Surroundings Tree) (c : Config) : Except Fault (Option ProjectMeta) :=
  match c.targetResult with
  | some provided => do return (← provided.unwind).about.target
  | none => some <$> w.describe (c.targetPath.getD "")

def referenceMeta (w : Surroundings Tree) (c : Config) : Except Fault (Option ProjectMeta) :=
  match c.referenceResult with
  | some provided => do return (← provided.unwind).about.target
  | none => (Config.given c.referencePath).mapM w.describe

def label (a : Analyzer Tree) (identifier : String) : Portable.Label :=
  ⟨a.name, a.dialect, identifier⟩

def reportOf (w : Surroundings Tree) (a : Analyzer Tree) (p : Prepared) (output : Json) :
    Except Fault Report :=
  Portable.report output p.config (label a p.identifier) p.target p.reference w.separator

def pairToCheck (c : Config) : Option (String × String) :=
  match Config.given c.referencePath, Config.given c.targetPath with
  | some reference, some target => if c.skipCheck then none else some (reference, target)
  | _, _ => none

def refusal (w : Surroundings Tree) (c : Config) : Traced (Option String) :=
  match pairToCheck c with
  | none => pure none
  | some (reference, target) => do
      Traced.event (.checked reference target)
      let verdict ← Traced.ofExcept (w.admits reference target)
      return verdict.reason?

def column (a : Analyzer Tree) : String := Text.padRight nameColumn a.name

-- A kept payload that is no report counts as absent.
def reportOfPayload (payload : Json) : Except Fault (Option Report) :=
  if payload.isEmpty then .ok none
  else match Report.ofJson payload with
    | .ok r => .ok (some (r.mark true))
    | .error (.missingKey _) => .ok none
    | .error .mistyped => .ok none
    | .error f => .error f

def cached (store : Store) (key : StoreKey) : Except Fault (Option Report) := do
  match ← store.get key with
  | some payload => reportOfPayload payload
  | none => return none

def gather (w : Surroundings Tree) (path : String) (scope : Scope) : Traced ProjectInput := do
  Traced.event (.gathered path scope)
  Traced.ofExcept (w.gather path scope)

def scopeFor (c : Config) : Scope := c.gather.scope?.getD {}

def referenceScope (c : Config) : Scope := c.gatherReference.scope?.getD (scopeFor c)

def collect (w : Surroundings Tree) (a : Analyzer Tree) (p : Prepared) : Traced Prepared := do
  let provided ← Traced.ofExcept (reusable a p.config)
  let files ← match Config.given p.config.targetPath, provided with
    | some path, none => some <$> gather w path (scopeFor p.config)
    | _, _ => pure none
  match Config.given p.config.referencePath with
  | some path => do
      let _ ← gather w path (referenceScope p.config)
      return { p with files }
  | none => return { p with files }

def named (w : Surroundings Tree) (a : Analyzer Tree) (c : Config) : Except Fault Prepared := do
  let config ← c.unwound
  validate a config
  let target ← targetMeta w config
  let reference ← referenceMeta w config
  let identifier ← Identity.derive target reference config
  return { config, identifier, target, reference }

-- What an identifier is made from is written out before it becomes a digest.
def identify (w : Surroundings Tree) (a : Analyzer Tree) (c : Config) : Except Fault Prepared := do
  let p ← named w a c
  Identity.checkWritable p.target p.reference p.config
  return p

def key (a : Analyzer Tree) (p : Prepared) : StoreKey := ⟨a.name, p.identifier⟩

def started (a : Analyzer Tree) (step : String) : Traced Unit :=
  Traced.debug ("Analyzer \"" ++ a.name ++ "\": started " ++ step ++ " method")

def leaveOut (w : Surroundings Tree) (a : Analyzer Tree) (p : Prepared) (reason : String) :
    Traced Stage := do
  Traced.info ("skipping " ++ column a ++ " for " ++ p.identifier ++ ": (" ++ reason ++ ")\n"
    ++ p.config.targetPath.getD "")
  let r ← Traced.ofExcept (reportOf w a p (.str ("[" ++ reason ++ "]")))
  return .finished r

def prepare (w : Surroundings Tree) (a : Analyzer Tree) (store : Store) (c : Config) :
    Traced Stage := do
  started a "prepare"
  let p ← Traced.ofExcept (identify w a c)
  match ← refusal w p.config with
  | some reason => leaveOut w a p reason
  | none =>
      match ← Traced.ofExcept (cached store (key a p)) with
      | some r => do
          Traced.success s!"cached version found for {p.identifier}"
          return .finished r
      | none => do
          Traced.info ("starting " ++ column a ++ " for " ++ p.identifier)
          return .ready (← collect w a p)

def analyzeFile (w : Surroundings Tree) (a : Analyzer Tree) (p : Prepared) (project : ProjectMeta)
    (root : String) (f : ParsedFile Tree) : Traced (String × Findings) := do
  let path ← Traced.ofExcept (Path.nameFromRoot w.folder f.file root)
  Traced.debug f.file
  Traced.event (.analyzed path)
  let findings ← Traced.ofExcept (a.inFile f.tree
    { text := f.text, path, project, reference := p.reference, options := p.config.options })
  return (path, findings)

def analyzeFiles (w : Surroundings Tree) (a : Analyzer Tree) (p : Prepared) (project : ProjectMeta)
    (root : String) :
    List (ParsedFile Tree) → Traced (List (String × Findings))
  | [] => pure []
  | f :: rest => do
      let first ← analyzeFile w a p project root f
      let others ← analyzeFiles w a p project root rest
      return first :: others

def entryJson (path : String) (f : Findings) : Json :=
  .obj [("file", .str path), ("meta", f.about), ("result", .arr f.result)]

def outputOf (found : List (String × Findings)) : Json :=
  .arr ((found.filter fun entry => !entry.2.result.isEmpty).map fun entry =>
    entryJson entry.1 entry.2)

def rootOf (c : Config) (project : ProjectMeta) : String :=
  match project.path with
  | some path => if path.isEmpty then (Config.given c.targetPath).getD "." else path.display
  | none => (Config.given c.targetPath).getD "."

def readProject (w : Surroundings Tree) (a : Analyzer Tree) (input : ProjectInput) :
    Traced (ParsedProject Tree) := do
  Traced.event (.parsed a.dialect)
  let reader ← Traced.ofExcept (w.readerFor a.dialect)
  Traced.ofExcept (readFiles reader input.entries)

def noteFailures (a : Analyzer Tree) (failed : List String) : Traced Unit :=
  if failed.isEmpty then pure ()
  else Traced.info s!"{failed.length} file(s) could not be parsed as {a.dialect}"

def fromFiles (w : Surroundings Tree) (a : Analyzer Tree) (p : Prepared) (input : ProjectInput) :
    Traced Json := do
  let parsed ← readProject w a input
  noteFailures a parsed.failed
  let found ← analyzeFiles w a p (p.target.getD input.project) (rootOf p.config input.project)
    parsed.entries
  return outputOf found

def traverse (w : Surroundings Tree) (a : Analyzer Tree) (p : Prepared) : Traced Json := do
  started a "traverse"
  match ← Traced.ofExcept (reusable a p.config), a.fromReport with
  | some r, some rule => do
      Traced.event (.derived a.name)
      Traced.ofExcept (rule r p.reference)
  | _, _ =>
      match p.files with
      | none => Traced.fail (.setup (.noFiles a.name))
      | some input => fromFiles w a p input

structure Run where
  outcome : Except Fault Report
  store : Store
  events : List Event

def keep (a : Analyzer Tree) (store : Store) (p : Prepared) (t : Traced Report) : Run :=
  match t.outcome with
  | .error f => { outcome := .error f, store, events := t.events }
  | .ok r =>
      match store.write (key a p) r with
      | .error f => { outcome := .error f, store, events := t.events }
      | .ok store =>
          { outcome := .ok r
            store
            events :=
              t.events ++ [.message .success ("finished " ++ column a ++ " for " ++ p.identifier)] }

def produce (w : Surroundings Tree) (a : Analyzer Tree) (p : Prepared) : Traced Report := do
  let output ← traverse w a p
  started a "finalize"
  Traced.ofExcept (reportOf w a p output)

def after (events : List Event) (r : Run) : Run :=
  { r with events := events ++ r.events }

def run (w : Surroundings Tree) (a : Analyzer Tree) (store : Store) (c : Config) : Run :=
  let prepared := prepare w a store c
  match prepared.outcome with
  | .error f => { outcome := .error f, store, events := prepared.events }
  | .ok (.finished r) => { outcome := .ok r, store, events := prepared.events }
  | .ok (.ready p) => after prepared.events (keep a store p (produce w a p))

def execute (w : Surroundings Tree) (a : Analyzer Tree) (store : Store) (c : Except Fault Config) :
    Run :=
  let begun := (started a "execute").events
  match c with
  | .error f => { outcome := .error f, store, events := begun }
  | .ok c => after begun (run w a store c)

end Survey

end CodeSurvey
