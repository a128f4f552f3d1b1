import CodeSurvey.Proofs.Run.Endings
import CodeSurvey.Proofs.Run.Proper

namespace CodeSurvey

structure Report.Keepable (r : Report) : Prop where
  proper : r.Proper
  pathless : r.about.Pathless
  writable : r.toWrapped.checkWritable = .ok ()

namespace Survey

variable {Tree : Type} {w : Surroundings Tree} {a : Analyzer Tree} {store : Store}
  {c : Except Fault Config}

theorem cached_of_holds {key : StoreKey} {r : Report} (hr : r.Keepable)
    (h : store.Holds key r.toWrapped) :
    cached store key = .ok (some (r.settled.mark true)) :=
  cached_of_keeps ⟨r.toWrapped, Store.get_of_holds hr.proper.toWrapped hr.writable h, rfl,
    Report.ofJson_toWrapped hr.pathless.definite⟩

theorem holds_execute (hw : KnownReasons w) (ha : ListsFindings a) {key : StoreKey} {r : Report}
    (hr : r.Keepable) (h : store.Holds key r.toWrapped) :
    (execute w a store c).store.Holds key r.toWrapped := by
  obtain ⟨e, he⟩ := exists_ends hw ha store c
  by_cases hcomputed : e = .computed
  · subst hcomputed
    obtain ⟨p, r', hmakes, -, -, -, -, hstore, -⟩ := he
    have hne : key ≠ Survey.key a p := by
      rintro rfl
      exact absurd ((cached_of_holds hr h).symm.trans hmakes.unkept) (by simp)
    rw [hstore]
    exact Store.holds_of_agreesAt (Store.agreesAt_put hne store r') h
  · rw [store_of_ends he hcomputed]
    exact h

end Survey

namespace Session

structure Call where
  disk : Disk
  separator : String
  analyzer : Analyzer SourceTree
  config : Except Fault Config
  registered : analyzer ∈ Catalogue.all
  proper : ∀ c, config = .ok c → c.Proper

namespace Call

def surroundings (call : Call) : Surroundings SourceTree :=
  call.disk.surroundings call.separator

def run (call : Call) (store : Store) : Survey.Run :=
  Survey.execute call.surroundings call.analyzer store call.config

def Derives (call : Call) (key : StoreKey) : Prop :=
  ∃ c p, call.config = .ok c ∧ Survey.Identified call.surroundings call.analyzer c p
    ∧ key = Survey.key call.analyzer p

def LeavesOut (call : Call) (reason : String) : Prop :=
  Survey.LeavesOut call.surroundings call.analyzer call.config reason

end Call

inductive Step where
  | survey (call : Call)
  | erase (key : StoreKey)

def Step.apply (store : Store) : Step → Store
  | survey call => (call.run store).store
  | erase key => store.erase key

def after (store : Store) (steps : List Step) : Store :=
  steps.foldl Step.apply store

theorem holds_after {key : StoreKey} {r : Report} (hr : r.Keepable) {store : Store}
    (h : store.Holds key r.toWrapped) {steps : List Step} (hkept : .erase key ∉ steps) :
    (after store steps).Holds key r.toWrapped := by
  -- The row is the invariant: surveys leave it alone, and no erasure is of its key.
  induction steps generalizing store with
  | nil => exact h
  | cons step steps ih =>
      refine ih ?_ fun hmem => hkept (List.mem_cons_of_mem _ hmem)
      cases step with
      | survey call =>
          exact Survey.holds_execute (call.disk.knownReasons call.separator)
            (Catalogue.listsFindings call.registered) hr h
      | erase other =>
          have hne : key ≠ other := by
            rintro rfl
            exact hkept List.mem_cons_self
          exact Store.holds_of_agreesAt (Store.agreesAt_erase hne store) h

theorem Call.key_unique {call : Call} {c : Config} {p : Survey.Prepared} {key : StoreKey}
    (h : call.Derives key) (hc : call.config = .ok c)
    (hp : Survey.Identified call.surroundings call.analyzer c p) :
    Survey.key call.analyzer p = key := by
  obtain ⟨c', p', hc', hp', rfl⟩ := h
  obtain rfl := Except.ok.inj (hc'.symm.trans hc)
  have h1 := Survey.identify_eq_ok_iff.2 hp
  have h2 := Survey.identify_eq_ok_iff.2 hp'
  obtain rfl := Except.ok.inj (h1.symm.trans h2)
  rfl

theorem Call.exists_ends (call : Call) (store : Store) :
    ∃ e, Survey.Ends call.surroundings call.analyzer store call.config (call.run store) e :=
  Survey.exists_ends (call.disk.knownReasons call.separator)
    (Catalogue.listsFindings call.registered) store
    call.config

theorem Call.outcome_run {call : Call} {c : Config} (hc : call.config = .ok c) (store : Store) :
    (call.run store).outcome = (Survey.run call.surroundings call.analyzer store c).outcome := by
  rw [Call.run, hc, Survey.outcome_execute]

theorem Call.store_run {call : Call} {c : Config} (hc : call.config = .ok c) (store : Store) :
    (call.run store).store = (Survey.run call.surroundings call.analyzer store c).store := by
  rw [Call.run, hc, Survey.store_execute]

theorem Call.quiet_run {call : Call} {c : Config} (hc : call.config = .ok c) {store : Store}
    (h : QuietEvents (Survey.run call.surroundings call.analyzer store c).events) :
    QuietEvents (call.run store).events := by
  rw [Call.run, hc]
  exact Survey.quiet_execute h

theorem fresh_of_computed {call : Call} {store : Store} {c : Config} {p : Survey.Prepared}
    {r : Report} (hc : call.config = .ok c)
    (hp : Survey.Identified call.surroundings call.analyzer c p)
    (hpasses : Survey.Passes call.surroundings p.config)
    (hcached : Survey.cached store (Survey.key call.analyzer p) = .ok none)
    (hr : (call.run store).outcome = .ok r) :
    Survey.fresh call.surroundings call.analyzer p = .ok r := by
  obtain ⟨houtcome, -⟩ := Survey.run_of_fresh (Survey.identify_eq_ok_iff.2 hp)
    (Survey.refusal_of_passes hpasses) hcached
  rw [← houtcome, ← hr, Call.outcome_run hc]

inductive Answers (call : Call) (store : Store) : Report → Prop where
  | leftOut {reason : String} {r : Report} (hleaves : call.LeavesOut reason)
      (houtput : r.output = .str ("[" ++ reason ++ "]")) (hnew : r.about.fromCache = false)
      (hstore : (call.run store).store = store) : Answers call store r
  | served {row : Report} (hserves : Survey.Serves call.surroundings call.analyzer store
      call.config row)
      (hstore : (call.run store).store = store) : Answers call store (row.mark true)
  | computed {c : Config} {p : Survey.Prepared} {r : Report} (hc : call.config = .ok c)
      (hp : Survey.Identified call.surroundings call.analyzer c p)
        (hpasses : Survey.Passes call.surroundings p.config)
      (hcached : Survey.cached store (Survey.key call.analyzer p) = .ok none)
      (hfresh : Survey.fresh call.surroundings call.analyzer p = .ok r)
        (hnew : r.about.fromCache = false)
      (hstore : (call.run store).store = store.put (Survey.key call.analyzer p) r)
      (hholds : (call.run store).store.Holds (Survey.key call.analyzer p) r.toWrapped) :
        Answers call store r

theorem answers_of_ok {call : Call} {store : Store} {r : Report}
    (hr : (call.run store).outcome = .ok r) :
    Answers call store r := by
  obtain ⟨e, he⟩ := call.exists_ends store
  cases e with
  | raised =>
      obtain ⟨⟨f, hf⟩, -⟩ := he
      exact absurd (hr.symm.trans hf) (by simp)
  | leftOut =>
      obtain ⟨reason, r', hleaves, -, hr', hnew, houtput, hstore⟩ := he
      obtain rfl := Except.ok.inj (hr.symm.trans hr')
      exact .leftOut hleaves houtput hnew hstore
  | served =>
      obtain ⟨row, hserves, hr', hstore⟩ := he
      obtain rfl := Except.ok.inj (hr.symm.trans hr')
      exact .served hserves hstore
  | computed =>
      obtain ⟨p, r', hmakes, -, hr', hnew, -, hstore, hholds, -⟩ := he
      obtain ⟨c, hc, hp⟩ := hmakes.identified
      obtain rfl := Except.ok.inj (hr.symm.trans hr')
      exact .computed hc hp hmakes.passes hmakes.unkept
        (fresh_of_computed hc hp hmakes.passes hmakes.unkept hr) hnew
        hstore hholds

theorem fresh_of_new {call : Call} {store : Store} {r : Report}
    (hr : (call.run store).outcome = .ok r) (hnew : r.about.fromCache = false)
    (hfound : r.isSkipped = false) :
    ∃ c p, call.config = .ok c ∧ Survey.Identified call.surroundings call.analyzer c p
      ∧ Survey.Passes call.surroundings p.config
      ∧ Survey.fresh call.surroundings call.analyzer p = .ok r
      ∧ (call.run store).store = store.put (Survey.key call.analyzer p) r
      ∧ (call.run store).store.Holds (Survey.key call.analyzer p) r.toWrapped := by
  cases answers_of_ok hr with
  | leftOut _ houtput _ _ =>
      exact absurd hfound (by simp [Report.isSkipped, Report.skipReason, houtput])
  | served _ _ => exact absurd hnew (by simp [Report.mark])
  | computed hc hp hpasses _ hfresh _ hstore hholds =>
      exact ⟨_, _, hc, hp, hpasses, hfresh, hstore, hholds⟩

theorem Call.keepable_of_fresh {call : Call} {c : Config} {p : Survey.Prepared} {r : Report}
    (hc : call.config = .ok c) (hp : Survey.Identified call.surroundings call.analyzer c p)
    (h : Survey.fresh call.surroundings call.analyzer p = .ok r) : r.Keepable := by
  have hproper := hp.proper (call.disk.describesProper call.separator) (call.proper c hc)
  obtain ⟨-, hwritable⟩ := Survey.fresh_eq_ok_iff.1 h
  exact ⟨Survey.proper_fresh (Catalogue.findsProper call.registered) hproper h,
    Survey.pathless_fresh h, hwritable⟩

theorem kept_of_new {call : Call} {key : StoreKey} (hkey : call.Derives key) {store : Store}
    {r : Report} (hr : (call.run store).outcome = .ok r) (hnew : r.about.fromCache = false)
    (hfound : r.isSkipped = false) :
    r.Keepable ∧ (call.run store).store.Holds key r.toWrapped := by
  obtain ⟨c, p, hc, hp, -, hfresh, -, hholds⟩ := fresh_of_new hr hnew hfound
  rw [Call.key_unique hkey hc hp] at hholds
  exact ⟨Call.keepable_of_fresh hc hp hfresh, hholds⟩

theorem cached_of_new {call : Call} {key : StoreKey} (hkey : call.Derives key) {store : Store}
    {r : Report} (hr : (call.run store).outcome = .ok r) (hnew : r.about.fromCache = false)
    (hfound : r.isSkipped = false) :
    Survey.cached (call.run store).store key = .ok (some (r.settled.mark true)) := by
  obtain ⟨hkeepable, hholds⟩ := kept_of_new hkey hr hnew hfound
  exact Survey.cached_of_holds hkeepable hholds

theorem answered_of_holds {key : StoreKey} {r r' : Report} (hr : r.Keepable) {now : Store}
    (hrow : now.Holds key r.toWrapped) {last : Call} (hlast : last.Derives key)
    (hr' : (last.run now).outcome = .ok r') :
    ((∃ reason, last.LeavesOut reason ∧ r'.output = .str ("[" ++ reason ++ "]"))
      ∨ r' = r.settled.mark true)
    ∧ QuietEvents (last.run now).events ∧ (last.run now).store = now := by
  have hcached := Survey.cached_of_holds hr hrow
  cases answers_of_ok hr' with
  | leftOut hleaves houtput _ hstore =>
      exact ⟨.inl ⟨_, hleaves, houtput⟩, Survey.quiet_of_leavesOut hleaves, hstore⟩
  | served hserves hstore =>
      refine ⟨.inr ?_, Survey.quiet_of_serves hserves, hstore⟩
      obtain ⟨c, p, hc, hp, -, hkeeps⟩ := hserves
      rw [← Call.key_unique hlast hc hp, Survey.cached_of_keeps hkeeps] at hcached
      exact Option.some.inj (Except.ok.inj hcached)
  | computed hc hp _ hunkept _ _ _ _ =>
      rw [← Call.key_unique hlast hc hp, hunkept] at hcached
      exact absurd hcached (by simp)

theorem after_survey (store : Store) (before between : List Step) (call : Call) :
    after store (before ++ .survey call :: between)
      = after (call.run (after store before)).store between :=
  List.foldl_append

theorem again_after {call : Call} {store : Store} {r : Report}
    (hr : (call.run store).outcome = .ok r) (hnew : r.about.fromCache = false)
    (hfound : r.isSkipped = false) {key : StoreKey} (hkey : call.Derives key) {between : List Step}
    (hkept : .erase key ∉ between) :
    (call.run (after (call.run store).store between)).outcome = .ok (r.settled.mark true) := by
  obtain ⟨c, p, hc, hp, hpasses, -⟩ := fresh_of_new hr hnew hfound
  obtain rfl := Call.key_unique hkey hc hp
  obtain ⟨hkeepable, hholds⟩ := kept_of_new hkey hr hnew hfound
  have hcached := Survey.cached_of_holds hkeepable (holds_after hkeepable hholds hkept)
  rw [Call.outcome_run hc]
  exact (Survey.run_of_cached (Survey.identify_eq_ok_iff.2 hp)
    (Survey.refusal_of_passes hpasses) hcached).1

theorem again_of_new {call : Call} {store : Store} {r : Report}
    (hr : (call.run store).outcome = .ok r) (hnew : r.about.fromCache = false)
    (hfound : r.isSkipped = false) :
    ∃ key, call.Derives key ∧ (call.run (call.run store).store).outcome
      = .ok (r.settled.mark true) := by
  obtain ⟨c, p, hc, hp, -⟩ := fresh_of_new hr hnew hfound
  have hkey : call.Derives (Survey.key call.analyzer p) := ⟨c, p, hc, hp, rfl⟩
  exact ⟨_, hkey, again_after hr hnew hfound hkey List.not_mem_nil⟩

end Session

end CodeSurvey
