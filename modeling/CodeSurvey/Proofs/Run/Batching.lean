import CodeSurvey.Proofs.Run.SameKey
import CodeSurvey.Run.Batch

namespace CodeSurvey

namespace Session

open Survey

def Call.Computes (call : Call) (key : StoreKey) (r : Report) : Prop :=
  ∃ c p, call.config = .ok c ∧ Identified call.surroundings call.analyzer c p
    ∧ Passes call.surroundings p.config
    ∧ key = Survey.key call.analyzer p ∧ fresh call.surroundings call.analyzer p = .ok r

def Call.Alone (call : Call) (r : Report) : Prop :=
  ∀ store : Store, store.keys = [] → ∃ s, (call.run store).outcome = .ok s
    ∧ s.toWrapped = (r.mark false).toWrapped

namespace Call.Computes

variable {call : Call} {key : StoreKey} {r : Report}

theorem unique (h : call.Computes key r) {other : StoreKey} {s : Report}
    (h' : call.Computes other s) :
    other = key ∧ s = r := by
  obtain ⟨c, p, hc, hp, -, rfl, hr⟩ := h
  obtain ⟨c', p', hc', hp', -, rfl, hs⟩ := h'
  obtain rfl := Except.ok.inj (hc.symm.trans hc')
  obtain rfl := Except.ok.inj ((identify_eq_ok_iff.2 hp).symm.trans (identify_eq_ok_iff.2 hp'))
  exact ⟨rfl, Except.ok.inj (hs.symm.trans hr)⟩

theorem keepable (h : call.Computes key r) : r.Keepable := by
  obtain ⟨c, p, hc, hp, -, -, hr⟩ := h
  exact Call.keepable_of_fresh hc hp hr

theorem alone (h : call.Computes key r) : call.Alone r := by
  intro store hstore
  obtain ⟨c, p, hc, hp, hpasses, rfl, hr⟩ := h
  have hcached : cached store (Survey.key call.analyzer p) = .ok none := by
    rw [cached, Store.get_of_not_mem (by rw [hstore]; exact List.not_mem_nil)]
    rfl
  refine ⟨r, ?_, by rw [Report.mark_of_fromCache (fromCache_fresh hr)]⟩
  rw [Call.outcome_run hc,
    (run_of_fresh (identify_eq_ok_iff.2 hp) (refusal_of_passes hpasses) hcached).1, hr]

theorem not_leavesOut (h : call.Computes key r) {reason : String} : ¬call.LeavesOut reason := by
  rintro ⟨c', p', hc', hp', hrefuses⟩
  obtain ⟨c, p, hc, hp, hpasses, -⟩ := h
  obtain rfl := Except.ok.inj (hc.symm.trans hc')
  obtain rfl := Except.ok.inj ((identify_eq_ok_iff.2 hp).symm.trans (identify_eq_ok_iff.2 hp'))
  exact absurd ((refusal_of_passes hpasses).symm.trans (refusal_of_refuses hrefuses)) nofun

end Call.Computes

theorem alone_of_leavesOut {call : Call} {reason : String} (h : call.LeavesOut reason)
    {store : Store} {r : Report} (hr : (call.run store).outcome = .ok r)
    (hnew : r.about.fromCache = false) : call.Alone r := by
  intro other _
  obtain ⟨c, p, hc, hp, hrefuses⟩ := h
  have hsame : (Survey.run call.surroundings call.analyzer other c).outcome
      = (Survey.run call.surroundings call.analyzer store c).outcome := by
    refine (run_congr fun q hq hpasses => ?_).1
    obtain rfl := Except.ok.inj ((identify_eq_ok_iff.2 hp).symm.trans hq)
    exact absurd ((refusal_of_refuses hrefuses).symm.trans hpasses) nofun
  refine ⟨r, ?_, by rw [Report.mark_of_fromCache hnew]⟩
  rw [Call.outcome_run hc, hsame, ← Call.outcome_run hc, hr]

structure OneBatch (d : Disk) (separator : String) (calls : List Call) : Prop where
  disk : ∀ call ∈ calls, call.disk = d
  separator : ∀ call ∈ calls, call.separator = separator
  settings : ∀ call ∈ calls, ∀ other ∈ calls, ∀ c c', call.config = .ok c → other.config = .ok c' →
    SameSettings c c'
  noClash : ∀ call ∈ calls, ∀ other ∈ calls, call.NoClash other

theorem OneBatch.surroundings {d : Disk} {separator : String} {calls : List Call}
    (h : OneBatch d separator calls) {call : Call} (hcall : call ∈ calls) :
    call.surroundings = d.surroundings separator := by
  rw [Call.surroundings, h.disk call hcall, h.separator call hcall]

theorem OneBatch.computes {d : Disk} {separator : String} {calls : List Call}
    (hsound : d.tree.Sound) (hd : d.Consistent) (h : OneBatch d separator calls) {call other : Call}
    (hcall : call ∈ calls) (hother : other ∈ calls) {c : Config} {p : Prepared}
    (hc : call.config = .ok c) (hp : Identified call.surroundings call.analyzer c p)
    (hpasses : Passes call.surroundings p.config) {r : Report}
    (hr : other.Computes (key call.analyzer p) r) : call.Computes (key call.analyzer p) r := by
  obtain ⟨c', q, hc', hq, -, hkey, hfresh⟩ := hr
  obtain ⟨hname, hidentifier⟩ := StoreKey.mk.inj hkey
  have hanalyzer := Catalogue.eq_of_name call.registered other.registered hname
  have hsettings := h.settings call hcall other hother c c' hc hc'
  obtain rfl := Except.ok.inj (hp.unwound.symm.trans hsettings.unwound.1)
  obtain rfl := Except.ok.inj (hq.unwound.symm.trans hsettings.unwound.2)
  have hproper := hp.proper (call.disk.describesProper call.separator) (call.proper _ hc)
  have hproper' := hq.proper (other.disk.describesProper other.separator) (other.proper _ hc')
  have hsame : p.subject.Same q.subject := by
    refine Identity.Subject.same_of_identifier hproper.subject hproper'.subject
      (fun seed seed' hseed hseed' => ?_)
      hp.identifier ?_
    · exact h.noClash call hcall other hother seed seed' ⟨_, p, hc, hp, hseed⟩
        ⟨_, q, hc', hq, hseed'⟩
    · rw [hidentifier]
      exact hq.identifier
  have hvalid := hp.validated
  refine ⟨_, p, hc, hp, hpasses, rfl, ?_⟩
  rw [h.surroundings hcall] at hp ⊢
  rw [h.surroundings hother, ← hanalyzer] at hq hfresh
  have hagree := (samePrepared_of_same hsound hd hsettings hp hq hidentifier.symm hsame).fresh
    (Catalogue.respects call.registered) hvalid
  rw [hfresh] at hagree
  cases hfound : fresh (d.surroundings separator) call.analyzer p with
  | error f =>
      rw [hfound] at hagree
      cases hagree
  | ok s =>
      rw [hfound] at hagree
      rw [hagree.rel]

structure KeptFrom (done : List Call) (store : Store) : Prop where
  rows : ∀ key ∈ store.keys, ∃ call ∈ done, ∃ r, call.Computes key r ∧ store.Holds key r.toWrapped
  found : ∀ call ∈ done, ∀ key r, call.Computes key r → store.Holds key r.toWrapped

theorem keptFrom_nothing {store : Store} (h : store.keys = []) : KeptFrom [] store where
  rows key hkey := by
    rw [h] at hkey
    exact absurd hkey List.not_mem_nil
  found call hcall := absurd hcall List.not_mem_nil

theorem holds_run {call : Call} {key : StoreKey} {r : Report} (hr : r.Keepable) {store : Store}
    (h : store.Holds key r.toWrapped) : (call.run store).store.Holds key r.toWrapped :=
  holds_execute (call.disk.knownReasons call.separator)
    (Catalogue.listsFindings call.registered) hr h

theorem KeptFrom.extend {done : List Call} {store : Store} (h : KeptFrom done store) {call : Call}
    (hfound : ∀ key r, call.Computes key r → (call.run store).store.Holds key r.toWrapped)
    (hrows : ∀ key ∈ (call.run store).store.keys, ∃ other ∈ done ++ [call], ∃ r,
      other.Computes key r) :
    KeptFrom (done ++ [call]) (call.run store).store := by
  have hall : ∀ other ∈ done ++ [call], ∀ key r, other.Computes key r →
      (call.run store).store.Holds key r.toWrapped := by
    intro other hother
    rcases List.mem_append.1 hother with hother | hother
    · exact fun key r hr => holds_run hr.keepable (h.found other hother key r hr)
    · obtain rfl := List.mem_singleton.1 hother
      exact hfound
  refine ⟨fun key hkey => ?_, hall⟩
  obtain ⟨other, hother, r, hr⟩ := hrows key hkey
  exact ⟨other, hother, r, hr, hall other hother key r hr⟩

theorem KeptFrom.rows_before {done : List Call} {store : Store} (h : KeptFrom done store)
    (call : Call) :
    ∀ key ∈ store.keys, ∃ other ∈ done ++ [call], ∃ r, other.Computes key r := by
  intro key hkey
  obtain ⟨other, hother, r, hr, -⟩ := h.rows key hkey
  exact ⟨other, List.mem_append_left _ hother, r, hr⟩

theorem alone_of_served {call : Call} {key : StoreKey} {r : Report} (h : call.Computes key r) :
    call.Alone (r.settled.mark true) := by
  intro store hstore
  obtain ⟨s, hs, hwritten⟩ := h.alone store hstore
  refine ⟨s, hs, hwritten.trans ?_⟩
  show (r.mark false).toWrapped = (r.mark false).settled.toWrapped
  rw [Report.toWrapped_settled]

theorem keptFrom_run {d : Disk} {separator : String} {calls : List Call} (hsound : d.tree.Sound)
    (hd : d.Consistent) (hbatch : OneBatch d separator calls) {done : List Call}
    (hdone : ∀ other ∈ done, other ∈ calls) {call : Call} (hcall : call ∈ calls) {store : Store}
    (h : KeptFrom done store) {r : Report} (hr : (call.run store).outcome = .ok r) :
    KeptFrom (done ++ [call]) (call.run store).store ∧ call.Alone r := by
  cases answers_of_ok hr with
  | leftOut hleaves _ hnew hstore =>
      refine ⟨h.extend (fun key s hs => absurd hleaves hs.not_leavesOut) ?_,
        alone_of_leavesOut hleaves hr hnew⟩
      rw [hstore]
      exact h.rows_before call
  | @served row hserves hstore =>
      obtain ⟨c, p, hc, hp, hpasses, hkeeps⟩ := hserves
      have hcached := cached_of_keeps hkeeps
      -- The row was computed for another pair, but this one would have computed the same.
      obtain ⟨other, hother, s, hs, hrow⟩ := h.rows _ (mem_keys_of_keeps hkeeps)
      have hcomputes := hbatch.computes hsound hd hcall (hdone other hother) hc hp hpasses hs
      rw [cached_of_holds hs.keepable hrow] at hcached
      have hmarked := (Option.some.inj (Except.ok.inj hcached)).symm
      refine ⟨h.extend (fun k t ht => ?_) ?_, hmarked ▸ alone_of_served hcomputes⟩
      · obtain ⟨rfl, rfl⟩ := hcomputes.unique ht
        rw [hstore]
        exact hrow
      · rw [hstore]
        exact h.rows_before call
  | computed hc hp hpasses hcached hfresh hnew hstore hholds =>
      have hcomputes : call.Computes _ r := ⟨_, _, hc, hp, hpasses, rfl, hfresh⟩
      refine ⟨h.extend (fun k t ht => ?_) (fun key hkey => ?_), hcomputes.alone⟩
      · obtain ⟨rfl, rfl⟩ := hcomputes.unique ht
        exact hholds
      · rw [hstore, Store.keys_put, List.mem_append, List.mem_singleton] at hkey
        rcases hkey with hkey | rfl
        · exact h.rows_before call key (List.mem_of_mem_filter hkey)
        · exact ⟨call, List.mem_append_right _ List.mem_cons_self, r, hcomputes⟩

inductive Completes : Store → List Call → List Report → Store → Prop where
  | nil (store : Store) : Completes store [] [] store
  | cons {store final : Store} {call : Call} {r : Report} {calls : List Call}
      {results : List Report}
      (hr : (call.run store).outcome = .ok r)
        (h : Completes (call.run store).store calls results final) :
      Completes store (call :: calls) (r :: results) final

theorem keptFrom_completes {d : Disk} {separator : String} {all : List Call} (hsound : d.tree.Sound)
    (hd : d.Consistent) (hbatch : OneBatch d separator all) {done calls : List Call}
    {store final : Store} {results : List Report} (hdone : ∀ other ∈ done, other ∈ all)
    (hcalls : ∀ other ∈ calls, other ∈ all) (hkept : KeptFrom done store)
    (h : Completes store calls results final) :
    KeptFrom (done ++ calls) final ∧ List.Forall₂ Call.Alone calls results := by
  induction h generalizing done with
  | nil store =>
      rw [List.append_nil]
      exact ⟨hkept, .nil⟩
  | @cons store final call r calls results hr _ ih =>
      have hcall := hcalls call List.mem_cons_self
      obtain ⟨hkept, halone⟩ := keptFrom_run hsound hd hbatch hdone hcall hkept hr
      have hdone' : ∀ other ∈ done ++ [call], other ∈ all := by
        intro other hother
        rcases List.mem_append.1 hother with hother | hother
        · exact hdone other hother
        · exact List.mem_singleton.1 hother ▸ hcall
      obtain ⟨hfinal, hrest⟩ :=
        ih hdone' (fun other hother => hcalls other (List.mem_cons_of_mem _ hother)) hkept
      rw [List.append_assoc] at hfinal
      exact ⟨hfinal, .cons halone hrest⟩

theorem KeptFrom.same_rows {calls others : List Call} {store store' : Store}
    (h : KeptFrom calls store) (h' : KeptFrom others store')
    (hcalls : ∀ call, call ∈ calls ↔ call ∈ others) (key : StoreKey) :
    (key ∉ store.keys ∧ key ∉ store'.keys) ∨ ∃ v, store.Holds key v ∧ store'.Holds key v := by
  by_cases hkey : key ∈ store.keys
  · obtain ⟨call, hcall, r, hr, hrow⟩ := h.rows key hkey
    exact .inr ⟨r.toWrapped, hrow, h'.found call ((hcalls call).1 hcall) key r hr⟩
  · by_cases hkey' : key ∈ store'.keys
    · obtain ⟨call, hcall, r, hr, hrow⟩ := h'.rows key hkey'
      exact .inr ⟨r.toWrapped, h.found call ((hcalls call).2 hcall) key r hr, hrow⟩
    · exact .inl ⟨hkey, hkey'⟩

end Session

namespace Survey

theorem store_of_execute_error {Tree : Type} {w : Surroundings Tree} {a : Analyzer Tree}
    {store : Store} {c : Config} {f : Fault} (h : (execute w a store (.ok c)).outcome = .error f) :
    (execute w a store (.ok c)).store = store := by
  rw [outcome_execute, (run_eq w a store c).1] at h
  rw [store_execute, (run_eq w a store c).2, Outcome.map_eq_error.1 h]
  rfl

end Survey

namespace Batch

open Survey

variable {Tree : Type} {w : Surroundings Tree} {a : Analyzer Tree} {store : Store} {c : Config}

theorem runAll_of_error {f : Fault} (rest : List Config)
    (h : (execute w a store (.ok c)).outcome = .error f) :
    (runAll w a store (c :: rest)).outcome = .error f
      ∧ (runAll w a store (c :: rest)).store = store := by
  unfold runAll
  simp only [h, store_of_execute_error h, and_self]

theorem runAll_of_ok {r : Report} (rest : List Config)
    (h : (execute w a store (.ok c)).outcome = .ok r) :
    (runAll w a store (c :: rest)).outcome
      = (r :: ·) <$> (runAll w a (execute w a store (.ok c)).store rest).outcome
      ∧ (runAll w a store (c :: rest)).store
      = (runAll w a (execute w a store (.ok c)).store rest).store := by
  conv => enter [1, 1]; unfold runAll
  conv => enter [2, 1]; unfold runAll
  simp only [h, and_self]

theorem runAll_append {before : List Config} {results : List Report} (rest : List Config)
    (h : (runAll w a store before).outcome = .ok results) :
    (runAll w a store (before ++ rest)).outcome
        = (results ++ ·) <$> (runAll w a (runAll w a store before).store rest).outcome
      ∧ (runAll w a store (before ++ rest)).store
      = (runAll w a (runAll w a store before).store rest).store := by
  induction before generalizing store results with
  | nil =>
      obtain rfl := Except.ok.inj h
      exact ⟨(id_map _).symm, rfl⟩
  | cons c before ih =>
      cases hfirst : (execute w a store (.ok c)).outcome with
      | error f =>
          rw [(runAll_of_error before hfirst).1] at h
          exact absurd h nofun
      | ok r =>
          obtain ⟨houtcome, hstore⟩ := runAll_of_ok before hfirst
          rw [houtcome] at h
          obtain ⟨others, hothers, rfl⟩ := Outcome.map_eq_ok.1 h
          obtain ⟨hrest, hfinal⟩ := ih hothers
          obtain ⟨houtcome', hstore'⟩ := runAll_of_ok (before ++ rest) hfirst
          rw [List.cons_append, houtcome', hstore', hrest, hfinal, hstore, Functor.map_map]
          exact ⟨rfl, rfl⟩

theorem exists_failure {configs : List Config} {f : Fault}
    (h : (runAll w a store configs).outcome = .error f) :
    ∃ before c rest results, configs = before ++ c :: rest
      ∧ (runAll w a store before).outcome = .ok results
      ∧ (execute w a (runAll w a store before).store (.ok c)).outcome = .error f := by
  induction configs generalizing store with
  | nil => exact absurd h nofun
  | cons c configs ih =>
      cases hfirst : (execute w a store (.ok c)).outcome with
      | error g =>
          rw [(runAll_of_error configs hfirst).1] at h
          obtain rfl := Except.error.inj h
          exact ⟨[], c, configs, [], rfl, rfl, hfirst⟩
      | ok r =>
          rw [(runAll_of_ok configs hfirst).1] at h
          obtain ⟨before, other, rest, results, rfl, hbefore, hother⟩ :=
            ih (Outcome.map_eq_error.1 h)
          obtain ⟨houtcome, hstore⟩ := runAll_of_ok before hfirst
          refine ⟨c :: before, other, rest, r :: results, rfl, ?_, ?_⟩
          · rw [houtcome, hbefore, Outcome.map_ok]
          · rw [hstore]
            exact hother

theorem runAll_eq_error_iff {α : Type} (configFor : α → Config) (items : List α) (f : Fault) :
    (runAll w a store (items.map configFor)).outcome = .error f ↔ ∃ before item others results,
      items = before ++ item :: others
      ∧ (runAll w a store (before.map configFor)).outcome = .ok results
      ∧ (execute w a (runAll w a store (before.map configFor)).store (.ok (configFor item))).outcome
      = .error f
      ∧ (runAll w a store (items.map configFor)).store
      = (runAll w a store (before.map configFor)).store := by
  constructor
  · intro h
    obtain ⟨configs, c, rest, results, hsplit, hbefore, hfailed⟩ := exists_failure h
    obtain ⟨before, tail, rfl, rfl, htail⟩ := List.map_eq_append_iff.1 hsplit
    obtain ⟨item, others, rfl, rfl, rfl⟩ := List.map_eq_cons_iff.1 htail
    refine ⟨before, item, others, results, rfl, hbefore, hfailed, ?_⟩
    rw [List.map_append, List.map_cons, (runAll_append _ hbefore).2, (runAll_of_error _ hfailed).2]
  · rintro ⟨before, item, others, results, rfl, hbefore, hfailed, -⟩
    rw [List.map_append, List.map_cons, (runAll_append _ hbefore).1, (runAll_of_error _ hfailed).1,
      Outcome.map_error]

end Batch

namespace BatchPlan

open Session (Call Completes)

variable {plan plan' : BatchPlan}

structure Proper (plan : BatchPlan) : Prop where
  gather : plan.gather.Proper
  gatherReference : plan.gatherReference.Proper
  options : plan.options.Proper

theorem Proper.configFor (h : plan.Proper) (pair : String × Option String) :
    (plan.configFor pair).Proper where
  gather s hs := ScopeSetting.scope.inj hs ▸ h.gather
  gatherReference s hs := by
    unfold BatchPlan.configFor at hs
    simp only at hs
    split at hs
    · exact ScopeSetting.scope.inj hs ▸ h.gatherReference
    · exact absurd hs nofun
  targetResult p hp := absurd hp nofun
  referenceResult p hp := absurd hp nofun
  options := h.options

def partners (plan : BatchPlan) : List (Option String) :=
  if plan.references.isEmpty then [none] else plan.references.map some

theorem pairs_eq (plan : BatchPlan) :
    plan.pairs = plan.targets.flatMap fun target => plan.partners.map (Prod.mk target) := by
  unfold pairs partners
  cases plan.references.isEmpty with
  | true => rfl
  | false => simp only [Bool.false_eq_true, if_false, List.map_map, Function.comp_def]

theorem length_pairs (plan : BatchPlan) :
    plan.pairs.length = plan.targets.length * plan.partners.length := by
  simp [pairs_eq, List.length_flatMap]

theorem getElem?_pairs {i j : Nat} {target : String} {partner : Option String}
    (hi : plan.targets[i]? = some target) (hj : plan.partners[j]? = some partner) :
    plan.pairs[i * plan.partners.length + j]? = some (target, partner) := by
  rw [pairs_eq]
  generalize plan.targets = targets at hi
  induction targets generalizing i with
  | nil => exact absurd hi (by simp)
  | cons first rest ih =>
      obtain ⟨hlength, -⟩ := List.getElem?_eq_some_iff.1 hj
      rw [List.flatMap_cons]
      cases i with
      | zero =>
          obtain rfl := Option.some.inj hi
          rw [Nat.zero_mul, Nat.zero_add,
            List.getElem?_append_left (by rw [List.length_map]; exact hlength), List.getElem?_map,
            hj, Option.map_some]
      | succ i =>
          have hindex :
              (i + 1) * plan.partners.length + j - (plan.partners.map (Prod.mk first)).length
              = i * plan.partners.length + j := by
            rw [List.length_map, Nat.succ_mul]
            omega
          rw [List.getElem?_append_right (by rw [List.length_map, Nat.succ_mul]; omega), hindex]
          exact ih hi

structure Reorders (plan plan' : BatchPlan) : Prop where
  rest : ∃ targets references, plan' = { plan with targets, references }
  targets : plan.targets.Perm plan'.targets
  references : plan.references.Perm plan'.references

theorem Reorders.configFor (h : plan.Reorders plan') : plan'.configFor = plan.configFor := by
  obtain ⟨targets, references, rfl⟩ := h.rest
  rfl

theorem Reorders.pairs (h : plan.Reorders plan') : plan.pairs.Perm plan'.pairs := by
  have hpartners : plan.partners.Perm plan'.partners := by
    unfold partners
    rw [h.references.isEmpty_eq]
    split
    · exact .refl _
    · exact h.references.map some
  rw [pairs_eq, pairs_eq]
  exact h.targets.flatMap fun target _ => hpartners.map _

section Calls

variable {d : Disk} {separator : String} {a : Analyzer SourceTree}

def call (d : Disk) (separator : String) (ha : a ∈ Catalogue.all) (h : plan.Proper)
    (pair : String × Option String) :
    Call where
  disk := d
  separator := separator
  analyzer := a
  config := .ok (plan.configFor pair)
  registered := ha
  proper _ hc := Except.ok.inj hc ▸ h.configFor pair

def NoClash (plan : BatchPlan) (w : Surroundings SourceTree) (a : Analyzer SourceTree) : Prop :=
  ∀ pair ∈ plan.pairs, ∀ other ∈ plan.pairs, ∀ p q, Survey.Identified w a (plan.configFor pair) p →
    Survey.Identified w a (plan.configFor other) q → p.subject.NoClash q.subject

def Alone (plan : BatchPlan) (w : Surroundings SourceTree) (a : Analyzer SourceTree)
    (pair : String × Option String) (r : Report) : Prop :=
  ∀ store : Store, store.keys = [] → ∃ s,
  (Survey.execute w a store (.ok (plan.configFor pair))).outcome = .ok s
    ∧ s.toWrapped = (r.mark false).toWrapped

theorem partner_mem {pair : String × Option String} (h : pair ∈ plan.pairs) :
    pair.2 ∈ plan.partners := by
  rw [pairs_eq] at h
  obtain ⟨target, -, h⟩ := List.mem_flatMap.1 h
  obtain ⟨partner, hpartner, rfl⟩ := List.mem_map.1 h
  exact hpartner

theorem sameSettings_of_mem {pair other : String × Option String} (h : pair ∈ plan.pairs)
    (h' : other ∈ plan.pairs) :
    Survey.SameSettings (plan.configFor pair) (plan.configFor other) := by
  have hsome : pair.2.isSome = other.2.isSome := by
    have hpartner := partner_mem h
    have hpartner' := partner_mem h'
    unfold partners at hpartner hpartner'
    split at hpartner
    · rw [if_pos ‹_›] at hpartner'
      rw [List.mem_singleton.1 hpartner, List.mem_singleton.1 hpartner']
    · rw [if_neg ‹_›] at hpartner'
      obtain ⟨_, -, hpair⟩ := List.mem_map.1 hpartner
      obtain ⟨_, -, hother⟩ := List.mem_map.1 hpartner'
      rw [← hpair, ← hother]
      rfl
  refine ⟨⟨some other.1, other.2, ?_⟩, rfl, rfl⟩
  simp only [BatchPlan.configFor, hsome]

theorem oneBatch (ha : a ∈ Catalogue.all) (h : plan.Proper)
    (hclash : plan.NoClash (d.surroundings separator) a) :
    Session.OneBatch d separator (plan.pairs.map (plan.call d separator ha h)) where
  disk other hother := by
    obtain ⟨pair, -, rfl⟩ := List.mem_map.1 hother
    rfl
  separator other hother := by
    obtain ⟨pair, -, rfl⟩ := List.mem_map.1 hother
    rfl
  settings first hfirst other hother c c' hc hc' := by
    obtain ⟨pair, hpair, rfl⟩ := List.mem_map.1 hfirst
    obtain ⟨pair', hpair', rfl⟩ := List.mem_map.1 hother
    obtain rfl := Except.ok.inj hc
    obtain rfl := Except.ok.inj hc'
    exact sameSettings_of_mem hpair hpair'
  noClash first hfirst other hother seed seed' hseed hseed' := by
    obtain ⟨pair, hpair, rfl⟩ := List.mem_map.1 hfirst
    obtain ⟨pair', hpair', rfl⟩ := List.mem_map.1 hother
    obtain ⟨c, p, hc, hp, hseed⟩ := hseed
    obtain ⟨c', q, hc', hq, hseed'⟩ := hseed'
    obtain rfl := Except.ok.inj hc
    obtain rfl := Except.ok.inj hc'
    exact hclash pair hpair pair' hpair' p q hp hq seed seed' hseed hseed'

theorem completes_of_runAll (ha : a ∈ Catalogue.all) (h : plan.Proper)
    {pairs : List (String × Option String)} {store : Store} {results : List Report}
    (hok : (Batch.runAll (d.surroundings separator) a store (pairs.map plan.configFor)).outcome
      = .ok results) :
    Completes store (pairs.map (plan.call d separator ha h)) results
      (Batch.runAll (d.surroundings separator) a store (pairs.map plan.configFor)).store := by
  induction pairs generalizing store results with
  | nil =>
      obtain rfl := Except.ok.inj hok
      exact .nil store
  | cons pair rest ih =>
      cases hfirst :
          (Survey.execute (d.surroundings separator) a store
            (.ok (plan.configFor pair))).outcome with
      | error f =>
          rw [List.map_cons, (Batch.runAll_of_error _ hfirst).1] at hok
          exact absurd hok nofun
      | ok r =>
          obtain ⟨houtcome, hstore⟩ := Batch.runAll_of_ok (rest.map plan.configFor) hfirst
          rw [List.map_cons, houtcome] at hok
          obtain ⟨others, hothers, rfl⟩ := Outcome.map_eq_ok.1 hok
          rw [List.map_cons, List.map_cons, hstore]
          exact .cons hfirst (ih hothers)

theorem keptFrom_run (hsound : d.tree.Sound) (hd : d.Consistent) (ha : a ∈ Catalogue.all)
    (h : plan.Proper) (hclash : plan.NoClash (d.surroundings separator) a)
    {pairs : List (String × Option String)} (hpairs : ∀ pair ∈ pairs, pair ∈ plan.pairs)
    {store : Store} (hstore : store.keys = []) {results : List Report}
    (hok : (Batch.runAll (d.surroundings separator) a store (pairs.map plan.configFor)).outcome
      = .ok results) :
    Session.KeptFrom (pairs.map (plan.call d separator ha h))
      (Batch.runAll (d.surroundings separator) a store (pairs.map plan.configFor)).store
    ∧ List.Forall₂ (plan.Alone (d.surroundings separator) a) pairs results := by
  have hcalls : ∀ other ∈ pairs.map (plan.call d separator ha h),
      other ∈ plan.pairs.map (plan.call d separator ha h) := by
    intro other hother
    obtain ⟨pair, hpair, rfl⟩ := List.mem_map.1 hother
    exact List.mem_map_of_mem (hpairs pair hpair)
  obtain ⟨hkept, halone⟩ := Session.keptFrom_completes hsound hd (oneBatch ha h hclash)
    (fun _ hmem => absurd hmem List.not_mem_nil) hcalls (Session.keptFrom_nothing hstore)
    (completes_of_runAll ha h hok)
  exact ⟨hkept, (List.forall₂_map_left_iff.1 halone).imp fun _ _ h => h⟩

end Calls

theorem order_is_irrelevant (d : Disk) (separator : String) (hsound : d.tree.Sound)
    (hd : d.Consistent) {a : Analyzer SourceTree} (ha : a ∈ Catalogue.all) (plan plan' : BatchPlan)
    (h : plan.Reorders plan') (hproper : plan.Proper)
    (hclash : plan.NoClash (d.surroundings separator) a) (store store' : Store)
    (hstore : store.keys = []) (hstore' : store'.keys = []) :
    (∀ results results', (Batch.run (d.surroundings separator) a store plan).outcome = .ok results →
      (Batch.run (d.surroundings separator) a store' plan').outcome = .ok results' →
      List.Forall₂ (plan.Alone (d.surroundings separator) a) plan.pairs results
      ∧ List.Forall₂ (plan.Alone (d.surroundings separator) a) plan'.pairs results'
      ∧ (∀ pair r r', (pair, r) ∈ plan.pairs.zip results → (pair, r') ∈ plan'.pairs.zip results' →
        (r.mark false).toWrapped = (r'.mark false).toWrapped)
      ∧ ∀ key, (key ∉ (Batch.run (d.surroundings separator) a store plan).store.keys
          ∧ key ∉ (Batch.run (d.surroundings separator) a store' plan').store.keys)
        ∨ ∃ v, (Batch.run (d.surroundings separator) a store plan).store.Holds key v
          ∧ (Batch.run (d.surroundings separator) a store' plan').store.Holds key v)
    ∧ (plan.pairs.length = plan.targets.length * plan.partners.length
      ∧ ∀ i j target partner, plan.targets[i]? = some target → plan.partners[j]? = some partner →
        plan.pairs[i * plan.partners.length + j]? = some (target, partner))
    ∧ ∀ f, (Batch.run (d.surroundings separator) a store plan).outcome = .error f ↔
      ∃ before pair others results, plan.pairs = before ++ pair :: others
        ∧ (Batch.runAll (d.surroundings separator) a store (before.map plan.configFor)).outcome
        = .ok results ∧ (Survey.execute (d.surroundings separator) a
            (Batch.runAll (d.surroundings separator) a store (before.map plan.configFor)).store
            (.ok (plan.configFor pair))).outcome = .error f
        ∧ (Batch.run (d.surroundings separator) a store plan).store
          = (Batch.runAll (d.surroundings separator) a store
            (before.map plan.configFor)).store := by
  refine ⟨fun results results' hok hok' => ?_,
    ⟨length_pairs plan, fun i j target partner => getElem?_pairs⟩,
    Batch.runAll_eq_error_iff plan.configFor plan.pairs⟩
  have hconfigs : plan'.configs = plan'.pairs.map plan.configFor := by rw [configs, h.configFor]
  unfold Batch.run at hok' ⊢
  rw [hconfigs] at hok' ⊢
  obtain ⟨hkept, halone⟩ :=
    keptFrom_run hsound hd ha hproper hclash (fun _ hpair => hpair) hstore hok
  obtain ⟨hkept', halone'⟩ :=
    keptFrom_run hsound hd ha hproper hclash (fun _ hpair => h.pairs.mem_iff.2 hpair) hstore' hok'
  refine ⟨halone, halone', fun pair r r' hr hr' => ?_, hkept.same_rows hkept' fun other => ?_⟩
  · obtain ⟨s, hs, hwritten⟩ := (List.forall₂_iff_zip.1 halone).2 hr (.values []) rfl
    obtain ⟨s', hs', hwritten'⟩ := (List.forall₂_iff_zip.1 halone').2 hr' (.values []) rfl
    obtain rfl := Except.ok.inj (hs.symm.trans hs')
    exact hwritten.symm.trans hwritten'
  · exact (h.pairs.map _).mem_iff

section Example

open Session (appImports cached_of_new findImports_mem findImports_new proper_findInApp)

def projectsBelow (folder : String) : List (Place × Entry) :=
  [([folder], .folder), ([folder, "app"], .folder),
   ([folder, "app", "package.json"], .file [0x7b, 0x7d]),
    ([folder, "app", "index.js"], .file (Text.Utf8.encode "import a from 'lib';")),
    ([folder, "lib"], .folder), ([folder, "lib", "package.json"], .file [0x7b, 0x7d])]

def copies : Disk := { tree := { entries := projectsBelow "home" ++ projectsBelow "work" } }

theorem sound_copies : copies.tree.Sound := by
  have hname : ∀ name ∈ ["home", "work", "app", "lib", "package.json", "index.js"],
      Path.IsName name := by
    simp only [List.forall_mem_cons]
    exact ⟨⟨by decide, by decide, by decide, by decide +kernel⟩,
      ⟨by decide, by decide, by decide, by decide +kernel⟩,
      ⟨by decide, by decide, by decide, by decide +kernel⟩,
      ⟨by decide, by decide, by decide, by decide +kernel⟩,
      ⟨by decide, by decide, by decide, by decide +kernel⟩,
      ⟨by decide, by decide, by decide, by decide +kernel⟩, fun _ h => absurd h List.not_mem_nil⟩
  constructor
  · simp [copies, projectsBelow]
  · have hsegments : ∀ entry ∈ copies.tree.entries, ∀ name ∈ entry.1,
        name ∈ ["home", "work", "app", "lib", "package.json", "index.js"] := by
      simp [copies, projectsBelow]
    exact fun entry hentry name hmem => hname name (hsegments entry hentry name hmem)

theorem moved_copies {folder other name : String} (hfolder : folder ∈ ["home", "work"])
    (hother : other ∈ ["home", "work"]) (hname : name ∈ ["app", "lib"]) :
    ProjectFiles.Moved copies.tree copies.tree [folder, name] [other, name] := by
  simp only [List.mem_cons, List.not_mem_nil, or_false] at hfolder hother hname
  have hcopied (way : Place) : copies.tree.entryAt ([folder, name] ++ way)
      = copies.tree.entryAt ([other, name] ++ way) := by
    rcases hfolder with rfl | rfl <;> rcases hother with rfl | rfl <;>
      rcases hname with rfl | rfl <;>
      simp [FileTree.entryAt, copies, projectsBelow, List.lookup_cons]
  refine ⟨hcopied, ?_, ?_, ?_, .inr rfl⟩
  · rcases hfolder with rfl | rfl <;> rcases hname with rfl | rfl <;> decide
  · rcases hother with rfl | rfl <;> rcases hname with rfl | rfl <;> decide
  · rcases hfolder with rfl | rfl <;> rcases hother with rfl | rfl <;>
      rcases hname with rfl | rfl <;> rfl

theorem root_of_metaAt_copies {root : Place} {m : ProjectMeta}
    (h : ProjectFiles.metaAt copies.tree true root = .ok m) :
    ∃ folder ∈ ["home", "work"], ∃ name ∈ ["app", "lib"], root = [folder, name]
      ∧ m.name = name := by
  obtain ⟨octets, hoctets⟩ := ProjectFiles.octets_of_metaAt h
  have hentry := FileTree.entryAt_of_octets hoctets
  rw [FileTree.entryAt, if_neg (by simp),
    FileTree.lookup_eq_some_iff sound_copies.distinct] at hentry
  have hplaces : ∀ entry ∈ copies.tree.entries, entry.1.getLast? = some "package.json" →
      entry.1.dropLast ∈ [["home", "app"], ["home", "lib"], ["work", "app"], ["work", "lib"]] := by
    decide
  have hroot := hplaces _ hentry (by simp [Manifest.fileName])
  simp only [List.dropLast_concat, List.mem_cons, List.not_mem_nil, or_false] at hroot
  rcases hroot with rfl | rfl | rfl | rfl
  · exact ⟨"home", by simp, "app", by simp, rfl, by rw [← Except.ok.inj h]; rfl⟩
  · exact ⟨"home", by simp, "lib", by simp, rfl, by rw [← Except.ok.inj h]; rfl⟩
  · exact ⟨"work", by simp, "app", by simp, rfl, by rw [← Except.ok.inj h]; rfl⟩
  · exact ⟨"work", by simp, "lib", by simp, rfl, by rw [← Except.ok.inj h]; rfl⟩

theorem consistent_copies : copies.Consistent := by
  intro path path' m m' hm hm' hname _ _
  obtain ⟨folder, hfolder, name, hmem, hroot, hnamed⟩ := root_of_metaAt_copies hm
  obtain ⟨other, hother, name', -, hroot', hnamed'⟩ := root_of_metaAt_copies hm'
  obtain rfl : name = name' := hnamed.symm.trans (hname.trans hnamed')
  rw [hroot, hroot']
  exact (moved_copies hfolder hother hmem).copied

def pairwise : BatchPlan :=
  { targets := ["/home/app", "/work/app"]
    references := ["/home/lib", "/work/lib"]
    gather := {}
    gatherReference := {}
    skipCheck := true }

def reordered : BatchPlan :=
  { pairwise with
    targets := ["/work/app", "/home/app"]
    references := ["/work/lib", "/home/lib"] }

theorem proper_pairwise : pairwise.Proper :=
  ⟨proper_findInApp.gather _ rfl, proper_findInApp.gather _ rfl, Fields.proper_nil⟩

theorem reorders_pairwise : pairwise.Reorders reordered :=
  ⟨⟨_, _, rfl⟩, .swap _ _ _, .swap _ _ _⟩

def callOf (pair : String × Option String) : Call :=
  pairwise.call copies "/" findImports_mem proper_pairwise pair

def pathTo (folder name : String) : String := "/" ++ folder ++ "/" ++ name

theorem sameProject_copies {folder other name : String} (hfolder : folder ∈ ["home", "work"])
    (hother : other ∈ ["home", "work"]) (hname : name ∈ ["app", "lib"]) :
    Disk.SameProject copies copies (pathTo folder name) (pathTo other name) := by
  have hmoved := moved_copies hfolder hother hname
  simp only [List.mem_cons, List.not_mem_nil, or_false] at hfolder hother hname
  rcases hfolder with rfl | rfl <;> rcases hother with rfl | rfl <;> rcases hname with rfl | rfl <;>
    exact ⟨rfl, rfl, hmoved⟩

theorem mem_pairwise :
    ∀ pair ∈ pairwise.pairs, ∃ folder ∈ ["home", "work"], ∃ other ∈ ["home", "work"],
      pair = (pathTo folder "app", some (pathTo other "lib")) := by
  decide +kernel

theorem elsewhere_callOf {pair other : String × Option String} (h : pair ∈ pairwise.pairs)
    (h' : other ∈ pairwise.pairs) : (callOf pair).Elsewhere (callOf other) := by
  obtain ⟨folder, hfolder, folder', hfolder', rfl⟩ := mem_pairwise pair h
  obtain ⟨place, hplace, place', hplace', rfl⟩ := mem_pairwise other h'
  exact ⟨rfl, rfl, sound_copies, sound_copies, _, _, _, rfl, rfl,
    .same (sameProject_copies hfolder hplace (by simp)),
    .same (sameProject_copies hfolder' hplace' (by simp))⟩

theorem noClash_pairwise : pairwise.NoClash (copies.surroundings "/") Catalogue.findImports := by
  intro pair hpair other hother p q hp hq seed seed' hseed hseed' _
  rw [(elsewhere_callOf hpair hother).seed_eq ⟨_, p, rfl, hp, hseed⟩ ⟨_, q, rfl, hq, hseed'⟩]

def firstPair : String × Option String := ("/home/app", some "/home/lib")

theorem firstPair_mem : firstPair ∈ pairwise.pairs := by simp [pairs, pairwise, firstPair]

theorem firstPair_new : ∃ r key, ((callOf firstPair).run (.values [])).outcome = .ok r
      ∧ r.about.fromCache = false
    ∧ r.isSkipped = false ∧ (callOf firstPair).Derives key := by
  obtain ⟨p, hp, hconfig, -, -, hfits⟩ :=
    Survey.exists_identified (d := 899) (c := pairwise.configFor firstPair)
      (w := copies.surroundings "/") (a := Catalogue.findImports)
      (t := some { name := "app", version := "0.0.0", path := some (.str "/home/app") })
      (r := some { name := "lib", version := "0.0.0", path := some (.str "/home/lib") })
      rfl rfl (by rfl) (by rfl) rfl rfl rfl rfl (by decide)
  have hskip : p.config.skipCheck = true := by rw [hconfig]; rfl
  obtain ⟨r, hr, hnew, hfound⟩ := findImports_new (callOf firstPair) "/home/app" rfl rfl hp hfits
    (by rw [hconfig]; rfl) (fun _ _ _ _ hchecked => absurd (hskip.symm.trans hchecked) nofun)
    (by rw [hconfig]; decide +kernel) (by rw [hconfig]; decide +kernel)
  exact ⟨r, _, hr, hnew, hfound, pairwise.configFor firstPair, p, rfl, hp, rfl⟩

theorem runAll_of_kept {pair : String × Option String} (hpair : pair ∈ pairwise.pairs)
    {store now : Store} {r : Report} {key : StoreKey}
    (hr : ((callOf pair).run store).outcome = .ok r) (hnew : r.about.fromCache = false)
    (hfound : r.isSkipped = false) (hkey : (callOf pair).Derives key)
    (hkept : Survey.cached now key = .ok (some (r.settled.mark true)))
    {others : List (String × Option String)} (hothers : ∀ other ∈ others, other ∈ pairwise.pairs) :
    (Batch.runAll (copies.surroundings "/") Catalogue.findImports now
    (others.map pairwise.configFor)).outcome
      = .ok (List.replicate others.length (r.settled.mark true)) := by
  induction others with
  | nil => rfl
  | cons other rest ih =>
      obtain ⟨hserved, -, hstore⟩ :=
        Call.Elsewhere.served (elsewhere_callOf hpair (hothers other List.mem_cons_self))
          hkey hr hnew hfound hkept
      have hserved : (Survey.execute (copies.surroundings "/") Catalogue.findImports now
          (.ok (pairwise.configFor other))).outcome = .ok (r.settled.mark true) := hserved
      have hstore : (Survey.execute (copies.surroundings "/") Catalogue.findImports now
          (.ok (pairwise.configFor other))).store = now := hstore
      rw [List.map_cons, (Batch.runAll_of_ok _ hserved).1, hstore, ih fun q hq =>
        hothers q (List.mem_cons_of_mem _ hq)]
      rfl

theorem runAll_pairs (first : String × Option String) (others : List (String × Option String))
    (hpairs : ∀ pair ∈ first :: others, pair ∈ pairwise.pairs) {r : Report} {key : StoreKey}
    (hr : ((callOf firstPair).run (.values [])).outcome = .ok r) (hnew : r.about.fromCache = false)
    (hfound : r.isSkipped = false) (hkey : (callOf firstPair).Derives key) :
    (Batch.runAll (copies.surroundings "/") Catalogue.findImports (.values [])
      ((first :: others).map pairwise.configFor)).outcome
      = .ok (r :: List.replicate others.length (r.settled.mark true)) := by
  obtain ⟨hagree, hstore⟩ :=
    (elsewhere_callOf firstPair_mem (hpairs first List.mem_cons_self)).run (.values [])
  rw [hr] at hagree
  have hfirst : (Survey.execute (copies.surroundings "/") Catalogue.findImports (.values [])
      (.ok (pairwise.configFor first))).outcome = .ok r := hagree.eq_ok
  have hstore : (Survey.execute (copies.surroundings "/") Catalogue.findImports (.values [])
      (.ok (pairwise.configFor first))).store = ((callOf firstPair).run (.values [])).store :=
    hstore
  rw [List.map_cons, (Batch.runAll_of_ok _ hfirst).1, hstore,
    runAll_of_kept firstPair_mem hr hnew hfound hkey (cached_of_new hkey hr hnew hfound)
      fun pair hpair => hpairs pair (List.mem_cons_of_mem _ hpair)]
  rfl

theorem order_is_irrelevant_of_copies : ∃ r s,
    (Batch.run (copies.surroundings "/") Catalogue.findImports (.values []) pairwise).outcome = .ok
    [r, s, s, s]
    ∧ (Batch.run (copies.surroundings "/") Catalogue.findImports (.values []) reordered).outcome
    = .ok [r, s, s, s]
    ∧ pairwise.pairs.head? = some firstPair ∧ reordered.pairs.getLast? = some firstPair
    ∧ (r.mark false).toWrapped = (s.mark false).toWrapped
    ∧ pairwise.Alone (copies.surroundings "/") Catalogue.findImports firstPair s := by
  obtain ⟨r, key, hr, hnew, hfound, hkey⟩ := firstPair_new
  have hrun := runAll_pairs firstPair pairwise.pairs.tail (fun _ h => h) hr hnew hfound hkey
  have hrun' := runAll_pairs ("/work/app", some "/work/lib") reordered.pairs.tail
    (fun _ h => reorders_pairwise.pairs.mem_iff.2 h) hr hnew hfound hkey
  obtain ⟨hsame, -⟩ :=
    order_is_irrelevant copies "/" sound_copies consistent_copies findImports_mem pairwise reordered
      reorders_pairwise proper_pairwise noClash_pairwise (.values []) (.values []) rfl rfl
  obtain ⟨-, halone, hequal, -⟩ := hsame _ _ hrun hrun'
  refine ⟨r, r.settled.mark true, hrun, hrun', rfl, rfl, hequal firstPair r _ ?_ ?_, ?_⟩
  · exact List.mem_cons_self
  · simp [reordered, pairs, pairwise, firstPair]
  · exact (List.forall₂_iff_zip.1 halone).2 (by simp [reordered, pairs, pairwise, firstPair])

end Example

end BatchPlan

end CodeSurvey
