import CodeSurvey.Proofs.Run.Agreement
import CodeSurvey.Proofs.Run.Repetition

namespace CodeSurvey

theorem Catalogue.eq_of_name {a b : Analyzer SourceTree} (ha : a ∈ all) (hb : b ∈ all)
    (h : a.name = b.name) :
    a = b := by
  simp only [all, List.mem_cons, List.not_mem_nil, or_false] at ha hb
  rcases ha with rfl | rfl | rfl | rfl <;> rcases hb with rfl | rfl | rfl | rfl <;>
    first | rfl | exact absurd h (by decide)

namespace Session

open Survey

def Call.Finds (call : Call) (key : StoreKey) (r : Report) : Prop :=
  ∃ c p, call.config = .ok c ∧ Identified call.surroundings call.analyzer c p
    ∧ key = Survey.key call.analyzer p ∧ fresh call.surroundings call.analyzer p = .ok r

def Accounted (calls : List Call) (store : Store) : Prop :=
  ∀ key, store.get key = .ok none ∨ ∃ call ∈ calls, ∃ r, call.Finds key r
    ∧ store.Holds key r.toWrapped

theorem Accounted.mono {calls others : List Call} {store : Store} (h : Accounted calls store) :
    Accounted (calls ++ others) store := by
  intro key
  rcases h key with hnone | ⟨call, hcall, hrest⟩
  · exact .inl hnone
  · exact .inr ⟨call, List.mem_append_left _ hcall, hrest⟩

theorem accounted_run {calls : List Call} {store : Store} (h : Accounted calls store)
    (call : Call) :
    Accounted (calls ++ [call]) (call.run store).store := by
  obtain ⟨e, he⟩ := call.exists_ends store
  by_cases hcomputed : e = .computed
  · subst hcomputed
    obtain ⟨p, r, hmakes, -, hr, -, -, hstore, hholds, -⟩ := he
    obtain ⟨c, hc, hp⟩ := hmakes.identified
    intro key
    by_cases hkey : key = Survey.key call.analyzer p
    · have hfinds : call.Finds key r :=
        ⟨c, p, hc, hp, hkey, fresh_of_computed hc hp hmakes.passes hmakes.unkept hr⟩
      exact .inr ⟨call, List.mem_append_right _ List.mem_cons_self, r, hfinds, hkey ▸ hholds⟩
    · have hagrees := Store.agreesAt_put hkey store r
      rw [hstore]
      rcases h key with hnone | ⟨other, hother, s, hfinds, hrow⟩
      · exact .inl ((Store.get_of_agreesAt hagrees).trans hnone)
      · exact .inr ⟨other, List.mem_append_left _ hother, s, hfinds,
          Store.holds_of_agreesAt hagrees hrow⟩
  · rw [store_of_ends he hcomputed]
    exact h.mono

theorem accounted_after {done : List Call} {store : Store} (h : Accounted done store)
    (calls : List Call) :
    Accounted (done ++ calls) (after store (calls.map .survey)) := by
  -- The calls done so far account for the rows, and each further call adds itself to them.
  induction calls generalizing done store with
  | nil =>
      rw [List.append_nil]
      exact h
  | cons call rest ih =>
      have hrest := ih (accounted_run h call)
      rw [List.append_assoc] at hrest
      exact hrest

def Call.Seeds (call : Call) (seed : Json) : Prop :=
  ∃ c p, call.config = .ok c ∧ Identified call.surroundings call.analyzer c p
    ∧ Identity.seed p.target p.reference p.config = .ok seed

structure OneWorld (d : Disk) (separator : String) (calls : List Call) : Prop where
  disk : ∀ call ∈ calls, call.disk = d
  separator : ∀ call ∈ calls, call.separator = separator
  unreserved : ∀ call ∈ calls, ∀ c, call.config = .ok c → c.Unreserved
  oneTarget : ∀ call ∈ calls, ∀ c, call.config = .ok c → OneTarget c
  noClash : ∀ call ∈ calls, ∀ other ∈ calls, ∀ seed seed', call.Seeds seed → other.Seeds seed' →
    Identity.digest seed = Identity.digest seed' → seed.canonical = seed'.canonical

theorem OneWorld.surroundings {d : Disk} {separator : String} {calls : List Call}
    (h : OneWorld d separator calls) {call : Call} (hcall : call ∈ calls) :
    call.surroundings = d.surroundings separator := by
  rw [Call.surroundings, h.disk call hcall, h.separator call hcall]

theorem alike_of_finds {d : Disk} {separator : String} {calls : List Call} (hsound : d.tree.Sound)
    (hd : d.Consistent) (h : OneWorld d separator calls) {call other : Call} (hcall : call ∈ calls)
    (hother : other ∈ calls) {key : StoreKey} {r r' : Report} (hr : call.Finds key r)
    (hr' : other.Finds key r') :
    r.toWrapped.Alike r'.toWrapped := by
  obtain ⟨c, p, hc, hp, rfl, hfresh⟩ := hr
  obtain ⟨c', p', hc', hp', hkey, hfresh'⟩ := hr'
  obtain ⟨hname, hidentifier⟩ := StoreKey.mk.inj hkey
  have hanalyzer := Catalogue.eq_of_name call.registered other.registered hname
  obtain ⟨seed, hseed, hderived⟩ := Outcome.bind_eq_ok.1 hp.identifier
  obtain ⟨seed', hseed', hderived'⟩ := Outcome.bind_eq_ok.1 hp'.identifier
  obtain ⟨fields, hfields, hbuilt⟩ := Outcome.bind_eq_ok.1 hseed
  obtain ⟨fields', hfields', hbuilt'⟩ := Outcome.bind_eq_ok.1 hseed'
  -- One identifier means one digest, and so one canonical text of both seeds.
  have hdigest : Identity.digest seed = Identity.digest seed' :=
    Identity.digest_of_ofSeed
      (((Except.ok.inj hderived).trans hidentifier).trans (Except.ok.inj hderived').symm)
  have hcanonical := h.noClash call hcall other hother seed seed' ⟨c, p, hc, hp, hseed⟩
    ⟨c', p', hc', hp', hseed'⟩ hdigest
  rw [← Except.ok.inj hbuilt, ← Except.ok.inj hbuilt'] at hcanonical
  have hproper := hp.proper (call.disk.describesProper call.separator) (call.proper c hc)
  have hproper' := hp'.proper (other.disk.describesProper other.separator) (other.proper c' hc')
  have hsame :=
    Identity.sameSeed_of_canonical hproper.target hproper.reference hproper'.target
        hproper'.reference
      (Config.proper_toFields hproper.config hfields)
      (Config.proper_toFields hproper'.config hfields') hcanonical
  rw [h.surroundings hcall] at hp hfresh
  rw [h.surroundings hother, ← hanalyzer] at hp' hfresh'
  exact alike_of_sameSeed hsound hd call.registered (call.proper c hc) (other.proper c' hc')
    (h.unreserved call hcall c hc) (h.unreserved other hother c' hc') (h.oneTarget call hcall c hc)
    (h.oneTarget other hother c' hc') hp hp' hfields hfields' hsame hidentifier hfresh hfresh'

theorem accounted_of_empty {store : Store} (h : store.keys = []) : Accounted [] store := by
  intro key
  refine .inl (Store.get_of_not_mem ?_)
  rw [h]
  exact List.not_mem_nil

theorem finds_of_empty {call : Call} {store : Store} (hstore : store.keys = []) {key : StoreKey}
    (hkey : call.Derives key) (hadmitted : ¬∃ reason, call.LeavesOut reason) {r : Report}
    (hr : (call.run store).outcome = .ok r) :
    call.Finds key r ∧ r.about.fromCache = false := by
  cases answers_of_ok hr with
  | leftOut hleaves _ _ _ => exact absurd ⟨_, hleaves⟩ hadmitted
  | served hserves _ =>
      obtain ⟨c, p, -, -, -, payload, hget, -⟩ := hserves
      rw [Store.get_of_not_mem (by rw [hstore]; exact List.not_mem_nil)] at hget
      exact absurd hget (by simp)
  | computed hc hp _ _ hfresh hnew _ _ =>
      exact ⟨⟨_, _, hc, hp, (Call.key_unique hkey hc hp).symm, hfresh⟩, hnew⟩

theorem not_leavesOut_of_serves {call : Call} {store : Store} {r : Report}
    (h : Serves call.surroundings call.analyzer store call.config r) :
    ¬∃ reason, call.LeavesOut reason := by
  obtain ⟨c, p, hc, hp, hpasses, -⟩ := h
  rintro ⟨reason, c', p', hc', hp', hrefuses⟩
  obtain rfl := Except.ok.inj (hc.symm.trans hc')
  obtain rfl := Except.ok.inj ((identify_eq_ok_iff.2 hp).symm.trans (identify_eq_ok_iff.2 hp'))
  exact absurd ((refusal_of_passes hpasses).symm.trans (refusal_of_refuses hrefuses)) (by simp)

theorem answer_alike_without_store (d : Disk) (separator : String) (hsound : d.tree.Sound)
    (hd : d.Consistent) (store other : Store) (hstore : store.keys = []) (hother : other.keys = [])
    (calls : List Call) (last : Call) (hworld : OneWorld d separator (calls ++ [last]))
    (r r' : Report) (hr : (last.run (after store (calls.map .survey))).outcome = .ok r)
    (hserved : r.about.fromCache = true) (hr' : (last.run other).outcome = .ok r') :
    (r.mark false).toWrapped.Alike (r'.mark false).toWrapped := by
  have haccounted := accounted_after (accounted_of_empty hstore) calls
  rw [List.nil_append] at haccounted
  generalize after store (calls.map .survey) = now at hr haccounted
  cases answers_of_ok hr with
  | leftOut _ _ hnew _ => exact absurd (hserved.symm.trans hnew) (by simp)
  | computed _ _ _ _ _ hnew _ _ => exact absurd (hserved.symm.trans hnew) (by simp)
  | @served row hserves _ =>
      obtain ⟨c, p, hc, hp, -, hkeeps⟩ := id hserves
      have hcached := cached_of_keeps hkeeps
      rcases haccounted (Survey.key last.analyzer p) with hnone | ⟨call, hcall, kept, hfinds, hrow⟩
      · rw [cached, hnone] at hcached
        exact absurd hcached (by simp)
      · obtain ⟨hfinds', hnew⟩ :=
          finds_of_empty hother ⟨c, p, hc, hp, rfl⟩ (not_leavesOut_of_serves hserves) hr'
        have halike := alike_of_finds hsound hd hworld (List.mem_append_left _ hcall)
          (List.mem_append_right _ List.mem_cons_self) hfinds hfinds'
        obtain ⟨c', p', hc', hp', -, hfresh⟩ := hfinds
        rw [cached_of_holds (Call.keepable_of_fresh hc' hp' hfresh) hrow] at hcached
        have hrow' := (Option.some.inj (Except.ok.inj hcached)).symm
        have hmark : ((row.mark true).mark false).toWrapped = kept.toWrapped := by
          rw [hrow']
          show (kept.settled.mark false).toWrapped = _
          rw [Report.mark_settled, Report.toWrapped_settled,
            Report.mark_of_fromCache (fromCache_fresh hfresh)]
        rw [hmark, Report.mark_of_fromCache hnew]
        exact halike

section Example

theorem sound_smallProject : smallProject.tree.Sound := by
  have happ : Path.IsName "app" := ⟨by decide, by decide, by decide, by decide +kernel⟩
  have hmanifest : Path.IsName "package.json" :=
    ⟨by decide, by decide, by decide, by decide +kernel⟩
  have hindex : Path.IsName "index.js" := ⟨by decide, by decide, by decide, by decide +kernel⟩
  constructor
  · simp [smallProject]
  · intro entry hentry
    simp only [smallProject, List.mem_cons, List.not_mem_nil, or_false] at hentry
    rcases hentry with rfl | rfl | rfl
    · simpa [Path.AreNames] using happ
    · simpa [Path.AreNames] using ⟨happ, hmanifest⟩
    · simpa [Path.AreNames] using ⟨happ, hindex⟩

theorem place_of_metaAt_smallProject {root : Place} {m : ProjectMeta}
    (h : ProjectFiles.metaAt smallProject.tree true root = .ok m) : root = ["app"] := by
  obtain ⟨octets, hoctets⟩ := ProjectFiles.octets_of_metaAt h
  have hentry := FileTree.entryAt_of_octets hoctets
  rw [FileTree.entryAt, if_neg (by simp),
    FileTree.lookup_eq_some_iff sound_smallProject.distinct] at hentry
  simp only [smallProject, Manifest.fileName, List.mem_cons, List.not_mem_nil, or_false,
    Prod.mk.injEq] at hentry
  rcases hentry with ⟨-, hfolder⟩ | ⟨hplace, -⟩ | ⟨hplace, -⟩
  · exact absurd hfolder (by simp)
  · exact List.append_cancel_right (hplace.trans (rfl : _ = ["app"] ++ ["package.json"]))
  · have hlast := congrArg List.getLast? hplace
    simp at hlast

theorem consistent_smallProject : smallProject.Consistent := by
  intro path path' m m' hm hm' _ _ _
  rw [place_of_metaAt_smallProject hm, place_of_metaAt_smallProject hm']
  exact fun way => rfl

theorem oneWorld_appImports : OneWorld smallProject "/" [appImports, appImports] where
  disk call hcall := by
    obtain rfl : call = appImports := by simpa using hcall
    rfl
  separator call hcall := by
    obtain rfl : call = appImports := by simpa using hcall
    rfl
  unreserved call hcall c hc := by
    obtain rfl : call = appImports := by simpa using hcall
    obtain rfl := Except.ok.inj hc
    exact fun _ _ => rfl
  oneTarget call hcall c hc := by
    obtain rfl : call = appImports := by simpa using hcall
    obtain rfl := Except.ok.inj hc
    exact .inl rfl
  noClash call hcall other hother seed seed' hseed hseed' _ := by
    obtain rfl : call = appImports := by simpa using hcall
    obtain rfl : other = appImports := by simpa using hother
    obtain ⟨c, p, hc, hp, hseed⟩ := hseed
    obtain ⟨c', p', hc', hp', hseed'⟩ := hseed'
    obtain rfl := Except.ok.inj (hc.symm.trans hc')
    obtain rfl := Except.ok.inj ((identify_eq_ok_iff.2 hp).symm.trans (identify_eq_ok_iff.2 hp'))
    rw [Except.ok.inj (hseed.symm.trans hseed')]

theorem answer_alike_without_store_in_app : ∃ r r',
    (appImports.run (after (.values []) ([appImports].map .survey))).outcome = .ok r
      ∧ r.about.fromCache = true
    ∧ (appImports.run (.values [])).outcome = .ok r'
    ∧ (r.mark false).toWrapped.Alike (r'.mark false).toWrapped := by
  obtain ⟨r', hr', hnew, hfound⟩ := appImports_new
  obtain ⟨key, -, hr⟩ := again_of_new hr' hnew hfound
  exact ⟨_, r', hr, rfl, hr', answer_alike_without_store smallProject "/" sound_smallProject
    consistent_smallProject
    (.values []) (.values []) rfl rfl [appImports] appImports oneWorld_appImports _ r' hr rfl hr'⟩

end Example

end Session

end CodeSurvey
