import CodeSurvey.Command.Basic
import CodeSurvey.Log.Line
import CodeSurvey.Run.Batch
import CodeSurvey.Run.Disk
import CodeSurvey.Store.File

namespace CodeSurvey

namespace Command

structure Outcome where
  exit : Nat := 0
  output : List String := []
  messages : List String := []
  fault : Option Fault := none
  disk : Disk

structure Setting where
  environment : Environment
  time : LogFormat → String

def programName : String := "astgate"

def note (text : String) : String := "[" ++ programName ++ "] " ++ text

namespace Outcome

def print (o : Outcome) (line : String) : Outcome := { o with output := o.output ++ [line] }

def fail (o : Outcome) (f : Fault) : Outcome :=
  if f.isReported then
    { o with exit := 1, messages := o.messages ++ [note ("error: " ++ f.message?.getD "")] }
  else { o with exit := 1, fault := some f }

end Outcome

def executeInit (d : Disk) (settings : String) (force : Bool) : Outcome :=
  let o : Outcome := { disk := d }
  match Settings.ensure d.tree (d.place settings) force with
  | .ok tree =>
      { o with disk := { d with tree } }.print (note ("settings at " ++ d.fullPath settings))
  | .error f => o.fail f

def executeForget (s : Setting) (d : Disk) (key : StoreKey) (settings : String) : Outcome :=
  let o : Outcome := { disk := d }
  let opened := do
    let engine ← Settings.load s.environment d.tree (d.place settings)
    let place := d.place engine.cachePath
    let (store, tree) ← StoreFile.openAt d.tree place
    return (store.has key, tree, ← StoreFile.save tree place (store.erase key))
  match opened with
  | .error f => o.fail f
  | .ok (true, _, tree) =>
      { o with disk := { d with tree } }.print
        (note ("removed " ++ key.analyzer ++ " " ++ key.identifier))
  | .ok (false, tree, _) =>
      { o with disk := { d with tree }, exit := 1 }.print
        (note ("no cached result for " ++ key.analyzer ++ " " ++ key.identifier))

def planOf (d : Disk) (engine : Settings) (r : RunRequest) : BatchPlan :=
  { targets := r.targets.map d.fullPath
    references := r.references.map d.fullPath
    gather := if r.choice.isMade then r.choice.gather engine else engine.gather
    gatherReference := if r.choice.isMade then r.choice.gatherReference engine
      else engine.gatherReference
    skipCheck := r.skipCheck }

def logLines (s : Setting) (engine : Settings) (events : List Event) : List String :=
  let format := LogFormat.ofSetting engine.format
  let shown := (events.filterMap Event.message?).filter fun m =>
    m.1.passes (LogLevel.threshold engine.level)
  shown.map fun (level, text) =>
    LogLine.render format
      { time := s.time format, level := level.number, logger := programName, message := text }

def resultLine (r : Report) : Except Fault String := do
  let status ← match r.skipReason with
    | some reason => pure ("skipped (" ++ reason ++ ")")
    | none => do pure (toString (← r.output.count) ++ " file(s)")
  return "- " ++ r.about.identifier.display ++ ": " ++ status
    ++ (if r.about.fromCache then " [cached]" else "")

def printResults (o : Outcome) : List Report → Outcome
  | [] => o
  | r :: rest =>
      match resultLine r with
      | .ok line => printResults (o.print line) rest
      | .error f => o.fail f

def countLine (analyzer : String) (rs : List Report) : String :=
  note
    s!"{analyzer} complete: {(Batch.analyzed rs).length} analyzed, {(Batch.skipped rs).length} skipped, {(Batch.fromCache rs).length} from cache"

def resultsText (rs : List Report) : String :=
  Json.indented 0 (.arr (rs.map Report.toWrapped))

def writeResults (o : Outcome) (path : Option String) (rs : List Report) : Outcome :=
  match path with
  | none => o
  | some path =>
      match o.disk.tree.writeText (o.disk.place path) (resultsText rs) with
      | .ok tree =>
          { o with disk := { o.disk with tree } }.print (note ("results: " ++ Path.tidy path))
      | .error f => o.fail (.place f)

def finishRun (o : Outcome) (r : RunRequest) (rs : List Report) : Outcome :=
  let o := printResults o rs
  if o.exit != 0 then o
  else
    let o := writeResults o r.output rs
    if o.exit != 0 then o else o.print (countLine r.analyzer rs)

def runOn (s : Setting) (o : Outcome) (engine : Settings) (r : RunRequest) (place : Place)
    (store : Store) : Outcome :=
  match Catalogue.find r.analyzer with
  | .error f => o.fail f
  | .ok a =>
      let run := Batch.run (o.disk.surroundings "/") a store (planOf o.disk engine r)
      let o := { o with messages := o.messages ++ logLines s engine run.events }
      match StoreFile.save o.disk.tree place run.store with
      | .error f => o.fail f
      | .ok tree =>
          let o := { o with disk := { o.disk with tree } }
          match run.outcome with
          | .error f => o.fail f
          | .ok rs => finishRun o r rs

def executeRun (s : Setting) (d : Disk) (r : RunRequest) : Outcome :=
  let o : Outcome := { disk := d }
  match Settings.load s.environment d.tree (d.place r.settings) with
  | .error f => o.fail f
  | .ok engine =>
      let place := d.place engine.cachePath
      match StoreFile.openAt d.tree place with
      | .error f => o.fail f
      | .ok (store, tree) => runOn s { o with disk := { d with tree } } engine r place store

def execute (s : Setting) (d : Disk) : Command → Outcome
  | init settings force => executeInit d settings force
  | run request => executeRun s d request
  | forget analyzer identifier settings => executeForget s d ⟨analyzer, identifier⟩ settings

end Command

end CodeSurvey
