import CodeSurvey.Proofs.Outcome
import CodeSurvey.Proofs.Run.Quiet
import CodeSurvey.Run.Survey

namespace CodeSurvey.Survey

variable {Tree : Type} {w : Surroundings Tree} {a : Analyzer Tree} {store : Store} {c : Config}
  {p : Prepared}

structure Named (w : Surroundings Tree) (a : Analyzer Tree) (c : Config) (p : Prepared) : Prop where
  unwound : c.unwound = .ok p.config
  validated : validate a p.config = .ok ()
  target : targetMeta w p.config = .ok p.target
  reference : referenceMeta w p.config = .ok p.reference
  identifier : Identity.derive p.target p.reference p.config = .ok p.identifier
  files : p.files = none

structure Identified (w : Surroundings Tree) (a : Analyzer Tree) (c : Config) (p : Prepared) : Prop
    extends Named w a c p where
  writable : Identity.checkWritable p.target p.reference p.config = .ok ()

theorem named_eq_ok_iff : named w a c = .ok p ↔ Named w a c p := by
  constructor
  · intro h
    obtain ⟨config, hunwound, h⟩ := Outcome.bind_eq_ok.1 h
    obtain ⟨_, hvalid, h⟩ := Outcome.bind_eq_ok.1 h
    obtain ⟨target, htarget, h⟩ := Outcome.bind_eq_ok.1 h
    obtain ⟨reference, hreference, h⟩ := Outcome.bind_eq_ok.1 h
    obtain ⟨identifier, hident, h⟩ := Outcome.bind_eq_ok.1 h
    obtain rfl := Except.ok.inj h
    exact ⟨hunwound, hvalid, htarget, hreference, hident, rfl⟩
  · intro h
    obtain ⟨config, identifier, target, reference, files⟩ := p
    obtain rfl : files = none := h.files
    simp only [named, h.unwound, h.validated, h.target, h.reference, h.identifier, Outcome.ok_bind]
    rfl

theorem identify_eq_ok_iff : identify w a c = .ok p ↔ Identified w a c p := by
  constructor
  · intro h
    obtain ⟨q, hq, h⟩ := Outcome.bind_eq_ok.1 h
    obtain ⟨_, hwritable, h⟩ := Outcome.bind_eq_ok.1 h
    obtain rfl := Except.ok.inj h
    exact ⟨named_eq_ok_iff.1 hq, hwritable⟩
  · intro h
    rw [identify, named_eq_ok_iff.2 h.toNamed, Outcome.ok_bind, h.writable]
    rfl

theorem quiet_started (a : Analyzer Tree) (step : String) :
    (started a step).Quiet := Traced.quiet_log _ _

theorem quiet_refusal (w : Surroundings Tree) (c : Config) : (refusal w c).Quiet := by
  unfold refusal
  split
  · exact Traced.quiet_pure none
  · exact (Traced.quiet_event rfl).bind fun _ _ => (Traced.quiet_ofExcept _).bind fun _ _ =>
      Traced.quiet_pure _

theorem quiet_leaveOut (w : Surroundings Tree) (a : Analyzer Tree) (p : Prepared)
    (reason : String) :
    (leaveOut w a p reason).Quiet :=
  (Traced.quiet_log _ _).bind fun _ _ => (Traced.quiet_ofExcept _).bind fun _ _ =>
    Traced.quiet_pure _

def made (w : Surroundings Tree) (a : Analyzer Tree) (p : Prepared) : Except Fault Report := do
  let p ← (collect w a p).outcome
  (produce w a p).outcome

def fresh (w : Surroundings Tree) (a : Analyzer Tree) (p : Prepared) : Except Fault Report := do
  let r ← made w a p
  r.toWrapped.checkWritable
  return r

theorem fresh_eq_ok_iff {r : Report} :
    fresh w a p = .ok r ↔ made w a p = .ok r ∧ r.toWrapped.checkWritable = .ok () := by
  constructor
  · intro h
    obtain ⟨s, hs, h⟩ := Outcome.bind_eq_ok.1 h
    obtain ⟨_, hwritable, h⟩ := Outcome.bind_eq_ok.1 h
    obtain rfl := Except.ok.inj h
    exact ⟨hs, hwritable⟩
  · rintro ⟨hr, hwritable⟩
    rw [fresh, hr, Outcome.ok_bind, hwritable]
    rfl

theorem fresh_of_unwritable {r : Report} {f : Fault} (hr : made w a p = .ok r)
    (hwritable : r.toWrapped.checkWritable = .error f) : fresh w a p = .error f := by
  rw [fresh, hr, Outcome.ok_bind, hwritable]
  rfl

section Collect

def filesFor (w : Surroundings Tree) (c : Config) (provided : Option Report) :
    Except Fault (Option ProjectInput) :=
  match Config.given c.targetPath, provided with
  | some path, none => some <$> w.gather path (scopeFor c)
  | _, _ => .ok none

def referenceFiles (w : Surroundings Tree) (c : Config) : Except Fault (Option ProjectInput) :=
  match Config.given c.referencePath with
  | some path => some <$> w.gather path (referenceScope c)
  | none => .ok none

theorem outcome_gather (path : String) (scope : Scope) :
    (gather w path scope).outcome = w.gather path scope := by
  simp only [gather, Traced.outcome_bind, Traced.outcome_event, Outcome.ok_bind,
    Traced.outcome_ofExcept]

theorem outcome_collect (w : Surroundings Tree) (a : Analyzer Tree) (p : Prepared) :
    (collect w a p).outcome = (do
    let provided ← reusable a p.config
    let files ← filesFor w p.config provided
    let _ ← referenceFiles w p.config
    return { p with files }) := by
  unfold collect filesFor referenceFiles
  simp only [Traced.outcome_bind, Traced.outcome_ofExcept]
  congr
  funext provided
  have hreference (files : Option ProjectInput) :
      (match Config.given p.config.referencePath with
        | some path => do
            let _ ← gather w path (referenceScope p.config)
            return { p with files }
        | none => return { p with files } : Traced Prepared).outcome
      = (match Config.given p.config.referencePath with
          | some path => some <$> w.gather path (referenceScope p.config)
          | none => .ok none) >>= fun _ => .ok { p with files } := by
    cases Config.given p.config.referencePath with
    | none => rfl
    | some path =>
        simp only [Traced.outcome_bind, outcome_gather]
        cases w.gather path (referenceScope p.config) <;> rfl
  cases Config.given p.config.targetPath with
  | none => exact hreference none
  | some path =>
      cases provided with
      | some r => exact hreference none
      | none =>
          rw [Traced.outcome_bind, Traced.outcome_map, outcome_gather]
          simp only []
          cases w.gather path (scopeFor p.config) with
          | error f => rfl
          | ok input => exact hreference (some input)

theorem collect_files {p' : Prepared} (h : (collect w a p).outcome = .ok p') :
    ∃ files, p' = { p with files } := by
  rw [outcome_collect] at h
  obtain ⟨_, -, h⟩ := Outcome.bind_eq_ok.1 h
  obtain ⟨files, -, h⟩ := Outcome.bind_eq_ok.1 h
  obtain ⟨_, -, h⟩ := Outcome.bind_eq_ok.1 h
  exact ⟨files, (Except.ok.inj h).symm⟩

end Collect

section Prepare

theorem outcome_leaveOut (reason : String) :
    (leaveOut w a p reason).outcome = Stage.finished <$> reportOf w a p
    (.str ("[" ++ reason ++ "]")) := by
  simp only [leaveOut, Traced.info, Traced.log, Traced.outcome_bind, Traced.outcome_event,
    Outcome.ok_bind, Traced.outcome_ofExcept]
  cases reportOf w a p (.str ("[" ++ reason ++ "]")) <;> rfl

theorem outcome_prepare : (prepare w a store c).outcome = (do
    let p ← identify w a c
    match ← (refusal w p.config).outcome with
    | some reason => Stage.finished <$> reportOf w a p (.str ("[" ++ reason ++ "]"))
    | none =>
        match ← cached store (key a p) with
        | some r => .ok (.finished r)
        | none => Stage.ready <$> (collect w a p).outcome) := by
  simp only [prepare, started, Traced.info, Traced.success, Traced.debug, Traced.log,
    Traced.outcome_bind, Traced.outcome_event, Outcome.ok_bind, Traced.outcome_ofExcept]
  congr
  funext p
  congr
  funext reason
  cases reason with
  | some reason => exact outcome_leaveOut reason
  | none =>
      simp only [Traced.outcome_bind, Traced.outcome_ofExcept]
      congr
      funext r
      cases r with
      | some r => rfl
      | none =>
          simp only [Traced.outcome_bind, Traced.outcome_event, Outcome.ok_bind]
          cases (collect w a p).outcome <;> rfl

theorem quiet_prepare {r : Report} (h : (prepare w a store c).outcome = .ok (.finished r)) :
    (prepare w a store c).Quiet := by
  refine (quiet_started a _).bind fun _ _ => (Traced.quiet_ofExcept _).bind fun p hp => ?_
  refine (quiet_refusal w p.config).bind fun reason hreason => ?_
  cases reason with
  | some reason => exact quiet_leaveOut w a p reason
  | none =>
      refine (Traced.quiet_ofExcept _).bind fun kept hkept => ?_
      cases kept with
      | some r => exact (Traced.quiet_log _ _).bind fun _ _ => Traced.quiet_pure _
      | none =>
          simp only [Traced.outcome_ofExcept] at hp hkept
          simp only [outcome_prepare, hp, hreason, hkept, Outcome.ok_bind] at h
          obtain ⟨_, -, h⟩ := Outcome.map_eq_ok.1 h
          exact absurd h (by simp)

end Prepare

section Run

theorem run_of_prepare_error {f : Fault} (h : (prepare w a store c).outcome = .error f) :
    (run w a store c).outcome = .error f ∧ (run w a store c).store = store := by
  unfold run
  simp only [h, and_self]

theorem run_of_identify_error {f : Fault} (hp : identify w a c = .error f) :
    (run w a store c).outcome = .error f ∧ (run w a store c).store = store := by
  refine run_of_prepare_error ?_
  rw [outcome_prepare, hp, Outcome.error_bind]

theorem run_of_refusal_error {f : Fault} (hp : identify w a c = .ok p)
    (hr : (refusal w p.config).outcome = .error f) :
    (run w a store c).outcome = .error f ∧ (run w a store c).store = store := by
  refine run_of_prepare_error ?_
  rw [outcome_prepare, hp, Outcome.ok_bind, hr, Outcome.error_bind]

theorem run_of_cached_error {f : Fault} (hp : identify w a c = .ok p)
    (hr : (refusal w p.config).outcome = .ok none) (hc : cached store (key a p) = .error f) :
    (run w a store c).outcome = .error f ∧ (run w a store c).store = store := by
  refine run_of_prepare_error ?_
  simp only [outcome_prepare, hp, hr, hc, Outcome.ok_bind, Outcome.error_bind]

theorem run_of_finished {r : Report} (h : (prepare w a store c).outcome = .ok (.finished r)) :
    (run w a store c).outcome = .ok r ∧ (run w a store c).store = store
      ∧ QuietEvents (run w a store c).events := by
  have hquiet := quiet_prepare h
  unfold run
  simp only [h, true_and]
  exact hquiet

theorem run_of_refused {reason : String} {r : Report} (hp : identify w a c = .ok p)
    (hr : (refusal w p.config).outcome = .ok (some reason))
    (hreport : reportOf w a p (.str ("[" ++ reason ++ "]")) = .ok r) :
    (run w a store c).outcome = .ok r ∧ (run w a store c).store = store
      ∧ QuietEvents (run w a store c).events := by
  refine run_of_finished ?_
  simp only [outcome_prepare, hp, hr, hreport, Outcome.ok_bind, Outcome.map_ok]

theorem run_of_cached {r : Report} (hp : identify w a c = .ok p)
    (hr : (refusal w p.config).outcome = .ok none) (hc : cached store (key a p) = .ok (some r)) :
    (run w a store c).outcome = .ok r ∧ (run w a store c).store = store
      ∧ QuietEvents (run w a store c).events := by
  refine run_of_finished ?_
  simp only [outcome_prepare, hp, hr, hc, Outcome.ok_bind]

theorem run_of_fresh (hp : identify w a c = .ok p) (hr : (refusal w p.config).outcome = .ok none)
    (hc : cached store (key a p) = .ok none) :
    (run w a store c).outcome = fresh w a p
      ∧ (run w a store c).store = (match fresh w a p with
        | .ok r => store.put (key a p) r
        | .error _ => store) := by
  have h : (prepare w a store c).outcome = Stage.ready <$> (collect w a p).outcome := by
    simp only [outcome_prepare, hp, hr, hc, Outcome.ok_bind]
  cases hcollect : (collect w a p).outcome with
  | error f =>
      rw [hcollect] at h
      obtain ⟨houtcome, hstore⟩ := run_of_prepare_error h
      rw [houtcome, hstore]
      simp only [fresh, made, hcollect, Outcome.error_bind, and_self]
  | ok p' =>
      have hkey : key a p' = key a p := by
        obtain ⟨files, rfl⟩ := collect_files hcollect
        rfl
      rw [hcollect] at h
      unfold run
      simp only [h, Outcome.map_ok, fresh, made, hcollect, Outcome.ok_bind, after, keep, hkey]
      cases (produce w a p').outcome with
      | error f => exact ⟨rfl, rfl⟩
      | ok r =>
          simp only [Outcome.ok_bind, Store.write]
          cases r.toWrapped.checkWritable with
          | error f => exact ⟨rfl, rfl⟩
          | ok _ => exact ⟨rfl, rfl⟩

def answer (w : Surroundings Tree) (a : Analyzer Tree) (store : Store) (p : Prepared) :
    Except Fault (Report × Store) := do
  match ← (refusal w p.config).outcome with
  | some reason => return (← reportOf w a p (.str ("[" ++ reason ++ "]")), store)
  | none =>
      match ← cached store (key a p) with
      | some r => return (r, store)
      | none =>
          let r ← fresh w a p
          return (r, store.put (key a p) r)

theorem run_eq (w : Surroundings Tree) (a : Analyzer Tree) (store : Store) (c : Config) :
    (run w a store c).outcome = Prod.fst <$> (identify w a c >>= answer w a store)
      ∧ (run w a store c).store
      = (Prod.snd <$> (identify w a c >>= answer w a store)).toOption.getD store := by
  cases hp : identify w a c with
  | error f => exact run_of_identify_error hp
  | ok p =>
      rw [Outcome.ok_bind, answer]
      cases hr : (refusal w p.config).outcome with
      | error f => exact run_of_refusal_error hp hr
      | ok refused =>
          cases refused with
          | some reason =>
              simp only [Outcome.ok_bind]
              cases hreport : reportOf w a p (.str ("[" ++ reason ++ "]")) with
              | error f =>
                  refine run_of_prepare_error ?_
                  simp only [outcome_prepare, hp, hr, hreport, Outcome.ok_bind, Outcome.map_error]
              | ok r => exact ⟨(run_of_refused hp hr hreport).1, (run_of_refused hp hr hreport).2.1⟩
          | none =>
              simp only [Outcome.ok_bind]
              cases hc : cached store (key a p) with
              | error f => exact run_of_cached_error hp hr hc
              | ok kept =>
                  cases kept with
                  | some r => exact ⟨(run_of_cached hp hr hc).1, (run_of_cached hp hr hc).2.1⟩
                  | none =>
                      obtain ⟨houtcome, hstore⟩ := run_of_fresh hp hr hc
                      rw [houtcome, hstore]
                      cases fresh w a p with
                      | error f => exact ⟨rfl, rfl⟩
                      | ok r => exact ⟨rfl, rfl⟩

theorem prepare_congr {other : Store}
    (h : ∀ p, identify w a c = .ok p → (refusal w p.config).outcome = .ok none →
    cached store (key a p) = cached other (key a p)) : prepare w a store c
      = prepare w a other c := by
  unfold prepare
  apply Traced.bind_congr_of_ok
  intro _ _
  apply Traced.bind_congr_of_ok
  intro p hp
  apply Traced.bind_congr_of_ok
  intro reason hreason
  cases reason with
  | some reason => rfl
  | none => rw [h p hp hreason]

theorem run_congr {other : Store}
    (h : ∀ p, identify w a c = .ok p → (refusal w p.config).outcome = .ok none →
    cached store (key a p) = cached other (key a p)) :
    (run w a store c).outcome = (run w a other c).outcome
      ∧ (run w a store c).events = (run w a other c).events := by
  unfold run
  rw [prepare_congr h]
  cases hstage : (prepare w a other c).outcome with
  | error f => simp only [hstage, and_self]
  | ok stage =>
      cases stage with
      | finished r => simp only [hstage, and_self]
      | ready p =>
          simp only [hstage, after, keep]
          cases (produce w a p).outcome with
          | error f => exact ⟨rfl, rfl⟩
          | ok r =>
              simp only [Store.write]
              cases r.toWrapped.checkWritable with
              | error f => exact ⟨rfl, rfl⟩
              | ok _ => exact ⟨rfl, rfl⟩

end Run

end CodeSurvey.Survey
