import CodeSurvey.Proofs.Run.Portable
import CodeSurvey.Proofs.Run.Traversal
import CodeSurvey.Proofs.Store.Laws
import CodeSurvey.Run.Disk

namespace CodeSurvey

namespace Survey

variable {Tree : Type} {w : Surroundings Tree} {a : Analyzer Tree} {store : Store} {config : Config}
  {p : Prepared}

def Refuses (w : Surroundings Tree) (c : Config) (reason : String) : Prop :=
  ∃ reference target verdict, Config.given c.referencePath = some reference
    ∧ Config.given c.targetPath = some target ∧ c.skipCheck = false
    ∧ w.admits reference target = .ok verdict ∧ verdict.reason? = some reason

def Passes (w : Surroundings Tree) (c : Config) : Prop :=
  ∀ reference target, Config.given c.referencePath = some reference →
    Config.given c.targetPath = some target →
    c.skipCheck = false → ∃ verdict, w.admits reference target = .ok verdict
      ∧ verdict.reason? = none

def Keeps (store : Store) (key : StoreKey) (r : Report) : Prop :=
  ∃ payload, store.get key = .ok (some payload) ∧ payload.isEmpty = false
    ∧ Report.ofJson payload = .ok r

theorem outcome_refusal {c : Config} {reference target : String}
    (hreference : Config.given c.referencePath = some reference)
    (htarget : Config.given c.targetPath = some target) (hskip : c.skipCheck = false) :
    (refusal w c).outcome = Verdict.reason? <$> w.admits reference target := by
  simp only [refusal, pairToCheck, hreference, htarget, hskip, Bool.false_eq_true, if_false,
    Traced.outcome_bind, Traced.outcome_event, Outcome.ok_bind, Traced.outcome_ofExcept]
  cases w.admits reference target <;> rfl

theorem refusal_of_refuses {c : Config} {reason : String} (h : Refuses w c reason) :
    (refusal w c).outcome = .ok (some reason) := by
  obtain ⟨reference, target, verdict, hreference, htarget, hskip, hadmits, hreason⟩ := h
  rw [outcome_refusal hreference htarget hskip, hadmits, Outcome.map_ok, hreason]

theorem refusal_eq_none {c : Config}
    (h : (∃ reference target, pairToCheck c = some (reference, target)) → False) :
    (refusal w c).outcome = .ok none := by
  unfold refusal
  split
  · rfl
  · rename_i reference target hpair
    exact (h ⟨reference, target, hpair⟩).elim

theorem pairToCheck_eq_some_iff {c : Config} {reference target : String} :
    pairToCheck c = some (reference, target) ↔ Config.given c.referencePath = some reference
      ∧ Config.given c.targetPath = some target ∧ c.skipCheck = false := by
  unfold pairToCheck
  constructor
  · intro h
    split at h
    · rename_i hreference htarget
      split at h
      · exact absurd h (by simp)
      · rename_i hskip
        obtain ⟨rfl, rfl⟩ := Prod.mk.inj (Option.some.inj h)
        exact ⟨hreference, htarget, by simpa using hskip⟩
    · exact absurd h (by simp)
  · rintro ⟨hreference, htarget, hskip⟩
    rw [hreference, htarget]
    simp [hskip]

theorem refusal_of_passes {c : Config} (h : Passes w c) : (refusal w c).outcome = .ok none := by
  cases hpair : pairToCheck c with
  | none => exact refusal_eq_none (by simp [hpair])
  | some pair =>
      obtain ⟨hreference, htarget, hskip⟩ := pairToCheck_eq_some_iff.1 hpair
      obtain ⟨verdict, hadmits, hreason⟩ := h _ _ hreference htarget hskip
      rw [outcome_refusal hreference htarget hskip, hadmits, Outcome.map_ok, hreason]

theorem passes_of_refusal {c : Config} (h : (refusal w c).outcome = .ok none) : Passes w c := by
  intro reference target hreference htarget hskip
  rw [outcome_refusal hreference htarget hskip] at h
  exact Outcome.map_eq_ok.1 h

theorem refuses_of_refusal {c : Config} {reason : String}
    (h : (refusal w c).outcome = .ok (some reason)) :
    Refuses w c reason := by
  cases hpair : pairToCheck c with
  | none =>
      rw [refusal_eq_none (by simp [hpair])] at h
      exact absurd h (by simp)
  | some pair =>
      obtain ⟨hreference, htarget, hskip⟩ := pairToCheck_eq_some_iff.1 hpair
      rw [outcome_refusal hreference htarget hskip] at h
      obtain ⟨verdict, hadmits, hreason⟩ := Outcome.map_eq_ok.1 h
      exact ⟨_, _, verdict, hreference, htarget, hskip, hadmits, hreason⟩

theorem cached_of_keeps {key : StoreKey} {r : Report} (h : Keeps store key r) :
    cached store key = .ok (some (r.mark true)) := by
  obtain ⟨payload, hget, hempty, hread⟩ := h
  simp only [cached, hget, Outcome.ok_bind, reportOfPayload, hempty, hread,
    Bool.false_eq_true, if_false]

theorem mem_keys_of_keeps {key : StoreKey} {r : Report} (h : Keeps store key r) :
    key ∈ store.keys := by
  obtain ⟨payload, hget, -⟩ := h
  exact Store.mem_keys_of_get hget

theorem keeps_of_cached {key : StoreKey} {r : Report} (h : cached store key = .ok (some r)) :
    ∃ row, Keeps store key row ∧ r = row.mark true := by
  obtain ⟨payload, hget, h⟩ := Outcome.bind_eq_ok.1 h
  cases payload with
  | none => exact absurd h (by simp)
  | some payload =>
      simp only [reportOfPayload] at h
      split at h
      · exact absurd h (by simp)
      · rename_i hempty
        split at h
        · rename_i row hread
          obtain rfl := Option.some.inj (Except.ok.inj h)
          exact ⟨row, ⟨payload, hget, by simpa using hempty, hread⟩, rfl⟩
        · exact absurd h (by simp)
        · exact absurd h (by simp)
        · exact absurd h (by simp)

theorem report_of_named (h : Named w a config p) (output : Json) :
    ∃ r, reportOf w a p output = .ok r := by
  obtain ⟨seed, hseed, -⟩ := Outcome.bind_eq_ok.1 h.identifier
  obtain ⟨fields, hfields, -⟩ := Outcome.bind_eq_ok.1 hseed
  have hconfiguration : Portable.configuration p.config
      = .ok (Portable.dropResult (Config.withoutPaths fields)) := by
    simp only [Portable.configuration, hfields, Outcome.ok_bind]
    rfl
  exact Portable.report_of_configuration hconfiguration _ _ _ _ _

def ListsFindings (a : Analyzer Tree) : Prop :=
  ∀ rule, a.fromReport = some rule → ∀ r reference output, rule r reference = .ok output →
    output.IsList

theorem isList_traverse (ha : ListsFindings a) {output : Json}
    (h : (traverse w a p).outcome = .ok output) :
    output.IsList := by
  rw [outcome_traverse] at h
  obtain ⟨provided, -, h⟩ := Outcome.bind_eq_ok.1 h
  split at h
  · rename_i rule hrule
    exact ha rule hrule _ _ _ h
  · split at h
    · exact absurd h (by simp)
    · rw [outcome_fromFiles] at h
      obtain ⟨reader, -, h⟩ := Outcome.bind_eq_ok.1 h
      obtain ⟨parsed, -, h⟩ := Outcome.bind_eq_ok.1 h
      obtain ⟨found, -, h⟩ := Outcome.bind_eq_ok.1 h
      exact ⟨_, (Except.ok.inj h).symm⟩

theorem made_eq_ok {r : Report} (h : made w a p = .ok r) :
    ∃ p' output, (collect w a p).outcome = .ok p' ∧ (traverse w a p').outcome = .ok output
      ∧ reportOf w a p' output = .ok r := by
  obtain ⟨p', hcollect, h⟩ := Outcome.bind_eq_ok.1 h
  rw [outcome_produce] at h
  obtain ⟨output, htraverse, h⟩ := Outcome.bind_eq_ok.1 h
  exact ⟨p', output, hcollect, htraverse, h⟩

theorem fresh_eq_ok {r : Report} (h : fresh w a p = .ok r) :
    ∃ p' output, (collect w a p).outcome = .ok p' ∧ (traverse w a p').outcome = .ok output
      ∧ reportOf w a p' output = .ok r :=
  made_eq_ok (fresh_eq_ok_iff.1 h).1

theorem isList_fresh (ha : ListsFindings a) {r : Report} (h : fresh w a p = .ok r) :
    r.output.IsList := by
  obtain ⟨p', output, -, htraverse, hreport⟩ := fresh_eq_ok h
  rw [Portable.output_report hreport]
  exact Portable.isList_findings (isList_traverse ha htraverse)

theorem fromCache_fresh {r : Report} (h : fresh w a p = .ok r) : r.about.fromCache = false := by
  obtain ⟨p', output, -, -, hreport⟩ := fresh_eq_ok h
  exact Portable.fromCache_report hreport

theorem pathless_fresh {r : Report} (h : fresh w a p = .ok r) : r.about.Pathless := by
  obtain ⟨p', output, -, -, hreport⟩ := fresh_eq_ok h
  exact Portable.pathless_report hreport

end Survey

theorem Gate.reason_of_check {accepts : Gate.Matcher} {t : FileTree} {reference target : Place}
    {verdict : Verdict} (h : Gate.check accepts t reference target = .ok verdict) {reason : String}
    (hr : verdict.reason? = some reason) :
    reason = "no-dependency" ∨ reason = "no-matched-version" := by
  obtain ⟨manifest, -, h⟩ := Outcome.bind_eq_ok.1 h
  obtain ⟨other, -, h⟩ := Outcome.bind_eq_ok.1 h
  unfold Gate.decide at h
  split at h
  · exact absurd h (by simp)
  · exact absurd h (by simp)
  · split at h
    · obtain rfl := Except.ok.inj h
      exact .inl (Option.some.inj hr).symm
    · obtain rfl := Except.ok.inj h
      split at hr
      · exact absurd hr (by simp [Verdict.reason?])
      · exact .inr (Option.some.inj hr).symm
  · obtain rfl := Except.ok.inj h
    exact .inl (Option.some.inj hr).symm

theorem Matches.isList_fromReport {imports : Report} {reference : Option ProjectMeta}
    {output : Json} (h : Matches.fromReport imports reference = .ok output) : output.IsList := by
  unfold Matches.fromReport at h
  cases reference with
  | none => exact ⟨[], (Except.ok.inj h).symm⟩
  | some reference =>
      obtain ⟨elements, -, h⟩ := Outcome.bind_eq_ok.1 h
      obtain ⟨files, -, h⟩ := Outcome.bind_eq_ok.1 h
      exact ⟨_, (Except.ok.inj h).symm⟩

theorem Catalogue.eq_fromReport {a : Analyzer SourceTree} (ha : a ∈ Catalogue.all)
    {rule : Report → Option ProjectMeta → Except Fault Json} (hrule : a.fromReport = some rule) :
    rule = Matches.fromReport := by
  simp only [Catalogue.all, List.mem_cons, List.not_mem_nil, or_false] at ha
  rcases ha with rfl | rfl | rfl | rfl
  · exact absurd hrule (by simp [Catalogue.findImports])
  · exact absurd hrule (by simp [Catalogue.findExports])
  · exact (Option.some.inj hrule).symm
  · exact absurd hrule (by simp [Catalogue.findDefinitions])

theorem Catalogue.listsFindings {a : Analyzer SourceTree} (ha : a ∈ Catalogue.all) :
    Survey.ListsFindings a := by
  intro rule hrule r reference output h
  obtain rfl := Catalogue.eq_fromReport ha hrule
  exact Matches.isList_fromReport h

namespace Survey

inductive Ending where
  | raised
  | leftOut
  | served
  | computed
  deriving DecidableEq, Repr

variable {Tree : Type} (w : Surroundings Tree) (a : Analyzer Tree) (store : Store)
  (c : Except Fault Config)

def LeavesOut (reason : String) : Prop :=
  ∃ config p, c = .ok config ∧ Identified w a config p ∧ Refuses w p.config reason

def Serves (r : Report) : Prop :=
  ∃ config p, c = .ok config ∧ Identified w a config p ∧ Passes w p.config ∧ Keeps store (key a p) r

structure Makes (p : Prepared) (r : Report) : Prop where
  identified : ∃ config, c = .ok config ∧ Identified w a config p
  passes : Passes w p.config
  unkept : cached store (key a p) = .ok none
  made : made w a p = .ok r

def Ends (result : Run) : Ending → Prop
  | .raised => (∃ f, result.outcome = .error f) ∧ result.store = store
  | .leftOut =>
      ∃ reason r, LeavesOut w a c reason
        ∧ (reason = "no-dependency" ∨ reason = "no-matched-version")
        ∧ result.outcome = .ok r ∧ r.about.fromCache = false
        ∧ r.output = .str ("[" ++ reason ++ "]") ∧ result.store = store
  | .served => ∃ r, Serves w a store c r ∧ result.outcome = .ok (r.mark true) ∧ result.store = store
  | .computed =>
      ∃ p r, Makes w a store c p r ∧ store.write (key a p) r = .ok result.store
        ∧ result.outcome = .ok r ∧ r.about.fromCache = false ∧ r.output.IsList
        ∧ result.store = store.put (key a p) r ∧ result.store.Holds (key a p) r.toWrapped
        ∧ result.store.erase (key a p) = store.erase (key a p)

variable {w a store c}

def endingOf : Except Fault Report → Ending
  | .error _ => .raised
  | .ok r =>
      if r.about.fromCache then .served
      else match r.output with
        | .arr _ => .computed
        | _ => .leftOut

theorem store_of_ends {result : Run} {e : Ending} (h : Ends w a store c result e)
    (he : e ≠ .computed) :
    result.store = store := by
  cases e with
  | raised => exact h.2
  | leftOut =>
      obtain ⟨_, _, -, -, -, -, -, hstore⟩ := h
      exact hstore
  | served =>
      obtain ⟨_, -, -, hstore⟩ := h
      exact hstore
  | computed => exact absurd rfl he

theorem endingOf_of_ends {result : Run} {e : Ending} (h : Ends w a store c result e) :
    endingOf result.outcome = e := by
  cases e with
  | raised =>
      obtain ⟨⟨f, hf⟩, -⟩ := h
      rw [hf]
      rfl
  | leftOut =>
      obtain ⟨reason, r, -, -, hr, hmark, houtput, -⟩ := h
      simp only [hr, endingOf, hmark, houtput, Bool.false_eq_true, if_false]
  | served =>
      obtain ⟨r, -, hr, -⟩ := h
      rw [hr]
      rfl
  | computed =>
      obtain ⟨p, r, -, -, hr, hmark, ⟨items, hitems⟩, -⟩ := h
      simp only [hr, endingOf, hmark, hitems, Bool.false_eq_true, if_false]

theorem outcome_execute (config : Config) :
    (execute w a store (.ok config)).outcome = (run w a store config).outcome := rfl

theorem store_execute (config : Config) :
    (execute w a store (.ok config)).store = (run w a store config).store := rfl

theorem quiet_execute {config : Config} (h : QuietEvents (run w a store config).events) :
    QuietEvents (execute w a store (.ok config)).events :=
  QuietEvents.append (quiet_started a "execute") h

def KnownReasons (w : Surroundings Tree) : Prop :=
  ∀ reference target verdict reason, w.admits reference target = .ok verdict →
    verdict.reason? = some reason →
    reason = "no-dependency" ∨ reason = "no-matched-version"

theorem ends_of_leavesOut (hw : KnownReasons w) {reason : String} (h : LeavesOut w a c reason) :
    Ends w a store c (execute w a store c) .leftOut := by
  obtain ⟨config, p, rfl, hp, hrefuses⟩ := h
  obtain ⟨r, hr⟩ := report_of_named hp.toNamed (.str ("[" ++ reason ++ "]"))
  obtain ⟨houtcome, hstore, -⟩ :=
    run_of_refused (identify_eq_ok_iff.2 hp) (refusal_of_refuses hrefuses) hr
  obtain ⟨reference, target, verdict, -, -, -, hadmits, hreason⟩ := id hrefuses
  refine ⟨reason, r, ⟨config, p, rfl, hp, hrefuses⟩, hw _ _ _ _ hadmits hreason, houtcome,
    Portable.fromCache_report hr, ?_, hstore⟩
  rw [Portable.output_report hr, Portable.findings_str]

theorem ends_of_serves {r : Report} (h : Serves w a store c r) :
    Ends w a store c (execute w a store c) .served := by
  obtain ⟨config, p, rfl, hp, hpasses, hkeeps⟩ := h
  obtain ⟨houtcome, hstore, -⟩ :=
    run_of_cached (identify_eq_ok_iff.2 hp) (refusal_of_passes hpasses) (cached_of_keeps hkeeps)
  exact ⟨r, ⟨config, p, rfl, hp, hpasses, hkeeps⟩, houtcome, hstore⟩

theorem quiet_of_leavesOut {reason : String} (h : LeavesOut w a c reason) :
    QuietEvents (execute w a store c).events := by
  obtain ⟨config, p, rfl, hp, hrefuses⟩ := h
  obtain ⟨r, hr⟩ := report_of_named hp.toNamed (.str ("[" ++ reason ++ "]"))
  obtain ⟨-, -, hquiet⟩ := run_of_refused (identify_eq_ok_iff.2 hp) (refusal_of_refuses hrefuses) hr
  exact quiet_execute hquiet

theorem quiet_of_serves {r : Report} (h : Serves w a store c r) :
    QuietEvents (execute w a store c).events := by
  obtain ⟨config, p, rfl, hp, hpasses, hkeeps⟩ := h
  obtain ⟨-, -, hquiet⟩ :=
    run_of_cached (identify_eq_ok_iff.2 hp) (refusal_of_passes hpasses) (cached_of_keeps hkeeps)
  exact quiet_execute hquiet

theorem ends_of_makes (ha : ListsFindings a) {p : Prepared} {r : Report} {s : Store}
    (h : Makes w a store c p r) (hs : store.write (key a p) r = .ok s) :
    Ends w a store c (execute w a store c) .computed := by
  obtain ⟨config, rfl, hp⟩ := h.identified
  obtain ⟨hwritable, rfl⟩ := Store.write_eq_ok_iff.1 hs
  have hfresh : fresh w a p = .ok r := fresh_eq_ok_iff.2 ⟨h.made, hwritable⟩
  obtain ⟨houtcome, hstore⟩ :=
    run_of_fresh (identify_eq_ok_iff.2 hp) (refusal_of_passes h.passes) h.unkept
  rw [hfresh] at houtcome hstore
  rw [← store_execute] at hstore
  refine ⟨p, r, h, hs.trans (congrArg _ hstore.symm), houtcome, fromCache_fresh hfresh,
    isList_fresh ha hfresh, hstore, ?_, ?_⟩
  · rw [hstore]
    exact Store.holds_put store (key a p) r
  · rw [hstore]
    exact Store.erase_put store (key a p) r

theorem execute_of_unwritten {p : Prepared} {r : Report} {f : Fault} (h : Makes w a store c p r)
    (hf : store.write (key a p) r = .error f) :
    (execute w a store c).outcome = .error f ∧ (execute w a store c).store = store := by
  obtain ⟨config, rfl, hp⟩ := h.identified
  have hfresh := fresh_of_unwritable h.made (Store.write_eq_error_iff.1 hf)
  obtain ⟨houtcome, hstore⟩ :=
    run_of_fresh (identify_eq_ok_iff.2 hp) (refusal_of_passes h.passes) h.unkept
  rw [hfresh] at houtcome hstore
  exact ⟨houtcome, hstore⟩

theorem exists_ends (hw : KnownReasons w) (ha : ListsFindings a) (store : Store)
    (c : Except Fault Config) :
    ∃ e, Ends w a store c (execute w a store c) e := by
  -- The cases come in the order in which a survey can end. Only the last one writes to the store.
  cases c with
  | error f => exact ⟨.raised, ⟨f, rfl⟩, rfl⟩
  | ok config =>
      cases hp : identify w a config with
      | error f =>
          obtain ⟨houtcome, hstore⟩ := run_of_identify_error hp
          exact ⟨.raised, ⟨f, houtcome⟩, hstore⟩
      | ok p =>
          have hidentified := identify_eq_ok_iff.1 hp
          cases hrefusal : (refusal w p.config).outcome with
          | error f =>
              obtain ⟨houtcome, hstore⟩ := run_of_refusal_error hp hrefusal
              exact ⟨.raised, ⟨f, houtcome⟩, hstore⟩
          | ok reason =>
              cases reason with
              | some reason =>
                  exact ⟨.leftOut,
                    ends_of_leavesOut hw ⟨config, p, rfl, hidentified, refuses_of_refusal hrefusal⟩⟩
              | none =>
                  cases hcached : cached store (key a p) with
                  | error f =>
                      obtain ⟨houtcome, hstore⟩ := run_of_cached_error hp hrefusal hcached
                      exact ⟨.raised, ⟨f, houtcome⟩, hstore⟩
                  | ok kept =>
                      cases kept with
                      | some r =>
                          obtain ⟨row, hkeeps, -⟩ := keeps_of_cached hcached
                          exact ⟨.served, ends_of_serves
                            ⟨config, p, rfl, hidentified, passes_of_refusal hrefusal, hkeeps⟩⟩
                      | none =>
                          cases hfresh : fresh w a p with
                          | error f =>
                              obtain ⟨houtcome, hstore⟩ := run_of_fresh hp hrefusal hcached
                              rw [hfresh] at houtcome hstore
                              exact ⟨.raised, ⟨f, houtcome⟩, hstore⟩
                          | ok r =>
                              obtain ⟨hmade, hwritable⟩ := fresh_eq_ok_iff.1 hfresh
                              exact ⟨.computed, ends_of_makes ha
                                ⟨⟨config, rfl, hidentified⟩, passes_of_refusal hrefusal,
                                  hcached, hmade⟩
                                (Store.write_eq_ok_iff.2 ⟨hwritable, rfl⟩)⟩

end Survey

theorem Disk.knownReasons (d : Disk) (separator : String) :
    Survey.KnownReasons (d.surroundings separator) :=
  fun _ _ _ _ hadmits hreason => Gate.reason_of_check hadmits hreason

end CodeSurvey
