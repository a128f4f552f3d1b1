import CodeSurvey.Log.Level
import CodeSurvey.Project.Gate
import CodeSurvey.Project.Scope

namespace CodeSurvey

inductive Event where
  | message (level : LogLevel) (text : String)
  | gathered (path : String) (scope : Scope)
  | checked (reference target : String)
  | parsed (dialect : String)
  | analyzed (path : String)
  | derived (analyzer : String)
  deriving Repr

namespace Event

def message? : Event → Option (LogLevel × String)
  | message level text => some (level, text)
  | _ => none

def gathered? : Event → Option (String × Scope)
  | gathered path scope => some (path, scope)
  | _ => none

def checked? : Event → Option (String × String)
  | checked reference target => some (reference, target)
  | _ => none

end Event

structure Traced (α : Type) where
  events : List Event
  outcome : Except Fault α

namespace Traced

def done (a : α) : Traced α := ⟨[], .ok a⟩

def fail (f : Fault) : Traced α := ⟨[], .error f⟩

def ofExcept (x : Except Fault α) : Traced α := ⟨[], x⟩

def event (e : Event) : Traced Unit := ⟨[e], .ok ()⟩

def andThen (x : Traced α) (f : α → Traced β) : Traced β :=
  match x.outcome with
  | .ok a => ⟨x.events ++ (f a).events, (f a).outcome⟩
  | .error e => ⟨x.events, .error e⟩

instance : Monad Traced where
  pure := done
  bind := andThen

def log (level : LogLevel) (text : String) : Traced Unit := event (.message level text)

def debug (text : String) : Traced Unit := log .debug text

def info (text : String) : Traced Unit := log .info text

def success (text : String) : Traced Unit := log .success text

theorem outcome_bind (x : Traced α) (f : α → Traced β) :
    (x >>= f).outcome = x.outcome >>= fun a => (f a).outcome := by
  show (andThen x f).outcome = _
  unfold andThen
  cases x.outcome <;> rfl

theorem events_bind_of_ok {x : Traced α} {a : α} (f : α → Traced β) (h : x.outcome = .ok a) :
    (x >>= f).events = x.events ++ (f a).events := by
  show (andThen x f).events = _
  simp [andThen, h]

theorem events_bind_of_error {x : Traced α} {e : Fault} (f : α → Traced β)
    (h : x.outcome = .error e) :
    (x >>= f).events = x.events := by
  show (andThen x f).events = _
  simp [andThen, h]

theorem outcome_event (e : Event) : (event e).outcome = .ok () := rfl

theorem outcome_ofExcept (x : Except Fault α) : (ofExcept x).outcome = x := rfl

end Traced

end CodeSurvey
