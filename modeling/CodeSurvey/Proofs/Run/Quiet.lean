import CodeSurvey.Run.Traced

namespace CodeSurvey

def Event.isTraversal : Event → Bool
  | .gathered _ _ | .parsed _ | .analyzed _ | .derived _ => true
  | .message _ _ | .checked _ _ => false

def QuietEvents (events : List Event) : Prop := ∀ e ∈ events, e.isTraversal = false

theorem QuietEvents.append {first second : List Event} (h1 : QuietEvents first)
    (h2 : QuietEvents second) :
    QuietEvents (first ++ second) := by
  intro e he
  rcases List.mem_append.1 he with h | h
  · exact h1 e h
  · exact h2 e h

namespace Traced

variable {α β : Type}

theorem outcome_map (f : α → β) (x : Traced α) : (f <$> x).outcome = f <$> x.outcome := by
  show (andThen x _).outcome = _
  unfold andThen
  cases x.outcome <;> rfl

theorem bind_congr_of_ok {x : Traced α} {f g : α → Traced β}
    (h : ∀ a, x.outcome = .ok a → f a = g a) :
    (x >>= f) = x >>= g := by
  show andThen x f = andThen x g
  unfold andThen
  split
  · rename_i a hx
    rw [h a hx]
  · rfl

def Quiet (x : Traced α) : Prop := QuietEvents x.events

theorem quiet_pure (a : α) : Quiet (pure a : Traced α) := fun _ h => absurd h List.not_mem_nil

theorem quiet_ofExcept (x : Except Fault α) :
    Quiet (ofExcept x) := fun _ h => absurd h List.not_mem_nil

theorem quiet_event {e : Event} (h : e.isTraversal = false) : Quiet (event e) := by
  intro d hd
  rw [List.mem_singleton.1 hd]
  exact h

theorem quiet_log (level : LogLevel) (text : String) : Quiet (log level text) := quiet_event rfl

theorem Quiet.bind {x : Traced α} {f : α → Traced β} (hx : Quiet x)
    (hf : ∀ a, x.outcome = .ok a → Quiet (f a)) :
    Quiet (x >>= f) := by
  cases h : x.outcome with
  | error e =>
      unfold Quiet
      rw [events_bind_of_error f h]
      exact hx
  | ok a =>
      unfold Quiet
      rw [events_bind_of_ok f h]
      exact hx.append (hf a h)

end Traced

end CodeSurvey
