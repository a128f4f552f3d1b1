import CodeSurvey.Run.Survey

namespace CodeSurvey

structure BatchPlan where
  targets : List String
  references : List String := []
  gather : Scope
  gatherReference : Scope
  skipCheck : Bool := false
  options : Fields := []

namespace BatchPlan

def pairs (p : BatchPlan) : List (String × Option String) :=
  p.targets.flatMap fun target =>
    if p.references.isEmpty then [(target, none)]
    else p.references.map fun reference => (target, some reference)

def configFor (p : BatchPlan) (pair : String × Option String) : Config :=
  { targetPath := some pair.1
    referencePath := pair.2
    gather := .scope p.gather
    gatherReference := if pair.2.isSome then .scope p.gatherReference else .unset
    skipCheck := p.skipCheck
    options := p.options }

def configs (p : BatchPlan) : List Config :=
  p.pairs.map p.configFor

end BatchPlan

namespace Batch

structure Run where
  outcome : Except Fault (List Report)
  store : Store
  events : List Event

variable {Tree : Type}

def runAll (w : Surroundings Tree) (a : Analyzer Tree) : Store → List Config → Run
  | store, [] => { outcome := .ok [], store, events := [] }
  | store, c :: rest =>
      let first := Survey.execute w a store (.ok c)
      match first.outcome with
      | .error f => { outcome := .error f, store := first.store, events := first.events }
      | .ok r =>
          let others := runAll w a first.store rest
          { outcome := (r :: ·) <$> others.outcome
            store := others.store
            events := first.events ++ others.events }

def run (w : Surroundings Tree) (a : Analyzer Tree) (store : Store) (p : BatchPlan) : Run :=
  runAll w a store p.configs

def analyzed (results : List Report) : List Report := results.filter fun r => !r.isSkipped

def skipped (results : List Report) : List Report := results.filter (·.isSkipped)

def fromCache (results : List Report) : List Report := results.filter (·.about.fromCache)

def flattened (results : List Report) : Except Fault (List Json) := do
  return (← (analyzed results).mapM fun r => r.output.elements).flatten

end Batch

end CodeSurvey
