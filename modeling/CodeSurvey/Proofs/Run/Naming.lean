import CodeSurvey.Proofs.Run.Identifier
import CodeSurvey.Proofs.Run.Transparency

namespace CodeSurvey

def ProjectMeta.Differ (m m' : ProjectMeta) : Prop :=
  m.name ≠ m'.name ∨ m.version ≠ m'.version ∨ m.commit ≠ m'.commit

theorem ProjectFiles.not_same_of_differ {t t' : FileTree} {root other : Place} {m m' : ProjectMeta}
    (hm : metaAt t true root = .ok m) (hm' : metaAt t' true other = .ok m') (h : m.Differ m') :
    ¬m.Same m' := by
  intro hsame
  rcases h with h | h | h
  · exact h hsame.name
  · exact h hsame.version
  · have hcommit := (Json.option_sameValue_iff (ProjectMeta.proper_commit (proper_metaAt hm))
      (ProjectMeta.proper_commit (proper_metaAt hm'))).1 hsame.commit
    rw [commit_of_metaAt hm, commit_of_metaAt hm'] at hcommit
    exact h hcommit

theorem ProjectMeta.Same.of_withoutPath {m m' n n' : ProjectMeta} (h : n.Same n')
    (hm : n.withoutPath = m.withoutPath) (hm' : n'.withoutPath = m'.withoutPath) : m.Same m' := by
  obtain ⟨hname, hversion, -, hcommit⟩ := ProjectMeta.mk.inj hm
  obtain ⟨hname', hversion', -, hcommit'⟩ := ProjectMeta.mk.inj hm'
  refine ⟨?_, ?_, ?_⟩
  · rw [← hname, ← hname', h.name]
  · rw [← hversion, ← hversion', h.version]
  · rw [← hcommit, ← hcommit']
    exact h.commit

namespace Survey

variable {Tree : Type} {w : Surroundings Tree} {a : Analyzer Tree} {store : Store} {c : Config}
  {p : Prepared} {path : String} {m : ProjectMeta}

structure OnFiles (w : Surroundings Tree) (a : Analyzer Tree) (c : Config) (p : Prepared)
    (path : String) (m : ProjectMeta) : Prop where
  identified : Identified w a c p
  given : Config.given p.config.targetPath = some path
  gathered : reusable a p.config = .ok none
  described : w.describe path = .ok m

def Names (c : Config) (m : ProjectMeta) : Prop :=
  ∀ provided ∈ c.targetResult, ∃ r, provided.unwind = .ok r
    ∧ r.about.target.map (·.withoutPath) = some m.withoutPath

theorem OnFiles.target_iff (h : OnFiles w a c p path m) :
    p.target.map (·.withoutPath) = some m.withoutPath ↔ Names p.config m := by
  have htarget := h.identified.target
  cases hresult : p.config.targetResult with
  | none =>
      have hsome := (Option.filter_eq_some_iff.1 h.given).1
      rw [targetMeta, hresult, hsome, Option.getD_some, h.described, Outcome.map_ok] at htarget
      rw [← Except.ok.inj htarget]
      exact ⟨fun _ provided hprovided => absurd (hresult.symm.trans hprovided) (by simp),
        fun _ => rfl⟩
  | some provided =>
      rw [targetMeta, hresult] at htarget
      obtain ⟨r, hr, htarget⟩ := Outcome.bind_eq_ok.1 htarget
      rw [← Except.ok.inj htarget]
      constructor
      · intro hnamed other hother
        obtain rfl := Option.some.inj (hresult.symm.trans hother)
        exact ⟨r, hr, hnamed⟩
      · intro hnames
        obtain ⟨r', hr', hnamed⟩ := hnames provided hresult
        obtain rfl := Except.ok.inj (hr.symm.trans hr')
        exact hnamed

theorem target_of_reportOf {output : Json} {r : Report} (h : reportOf w a p output = .ok r) :
    r.about.target = p.target.map (·.withoutPath) := by
  obtain ⟨fields, -, rfl⟩ := Portable.report_eq_ok h
  rfl

theorem target_of_new (hp : Identified w a c p) {r : Report}
    (hr : (run w a store c).outcome = .ok r) (hnew : r.about.fromCache = false) :
    r.about.target = p.target.map (·.withoutPath) := by
  have hidentify := identify_eq_ok_iff.2 hp
  cases hrefusal : (refusal w p.config).outcome with
  | error f => exact absurd (hr.symm.trans (run_of_refusal_error hidentify hrefusal).1) (by simp)
  | ok reason =>
      cases reason with
      | some reason =>
          obtain ⟨s, hs⟩ := report_of_named hp.toNamed (.str ("[" ++ reason ++ "]"))
          obtain rfl := Except.ok.inj (hr.symm.trans (run_of_refused hidentify hrefusal hs).1)
          exact target_of_reportOf hs
      | none =>
          cases hcached : cached store (key a p) with
          | error f =>
              exact absurd (hr.symm.trans (run_of_cached_error hidentify hrefusal hcached).1)
                (by simp)
          | ok found =>
              cases found with
              | some s =>
                  obtain rfl :=
                    Except.ok.inj (hr.symm.trans (run_of_cached hidentify hrefusal hcached).1)
                  obtain ⟨row, -, rfl⟩ := keeps_of_cached hcached
                  exact absurd hnew (by simp [Report.mark])
              | none =>
                  have hfresh := hr.symm.trans (run_of_fresh hidentify hrefusal hcached).1
                  obtain ⟨p', output, hcollect, -, hreport⟩ := fresh_eq_ok hfresh.symm
                  obtain ⟨files, rfl⟩ := collect_files hcollect
                  exact target_of_reportOf hreport

def Prepared.subject (p : Prepared) : Identity.Subject :=
  ⟨p.target, p.reference, p.config⟩

theorem Prepared.Proper.subject (h : p.Proper) : p.subject.Proper :=
  ⟨h.target, h.reference, h.config⟩

end Survey

namespace Session

open Survey

section Others

theorem agreesAt_run {key : StoreKey} {other : Call} (h : ¬other.Derives key) (store : Store) :
    Store.AgreesAt key (other.run store).store store := by
  obtain ⟨e, he⟩ := other.exists_ends store
  by_cases hcomputed : e = .computed
  · subst hcomputed
    obtain ⟨p, r, hmakes, -, -, -, -, hstore, -⟩ := he
    obtain ⟨c, hc, hp⟩ := hmakes.identified
    rw [hstore]
    apply Store.agreesAt_put
    rintro rfl
    exact h ⟨c, p, hc, hp, rfl⟩
  · rw [store_of_ends he hcomputed]
    cases store <;> rfl

theorem get_after {key : StoreKey} {others : List Call} (h : ∀ other ∈ others, ¬other.Derives key)
    (store : Store) :
    (after store (others.map .survey)).get key = store.get key := by
  induction others generalizing store with
  | nil => rfl
  | cons other rest ih =>
      have hrest :=
        ih (fun call hcall => h call (List.mem_cons_of_mem _ hcall)) (other.run store).store
      exact hrest.trans (Store.get_of_agreesAt (agreesAt_run (h other List.mem_cons_self) store))

theorem outcome_after {call : Call} {others : List Call}
    (h : ∀ key, call.Derives key → ∀ other ∈ others, ¬other.Derives key) (store : Store) :
    (call.run (after store (others.map .survey))).outcome = (call.run store).outcome := by
  cases hc : call.config with
  | error f =>
      rw [Call.run, Call.run, hc]
      rfl
  | ok c =>
      rw [Call.outcome_run hc, Call.outcome_run hc]
      refine (run_congr fun p hp _ => ?_).1
      rw [cached, cached, get_after (h _ ⟨c, p, hc, identify_eq_ok_iff.1 hp, rfl⟩)]

end Others

def Call.NoClash (call other : Call) : Prop :=
  ∀ seed seed', call.Seeds seed → other.Seeds seed' → Identity.digest seed = Identity.digest seed' →
    seed.canonical = seed'.canonical

def Call.SurveysFiles (call : Call) (m : ProjectMeta) : Prop :=
  ∃ c p path, call.config = .ok c ∧ OnFiles call.surroundings call.analyzer c p path m
    ∧ Names p.config m

theorem Call.SurveysFiles.not_derives {call other : Call} {m m' : ProjectMeta}
    (hcall : call.SurveysFiles m) (hother : other.SurveysFiles m') (hdiffer : m.Differ m')
    (hclash : call.NoClash other) {key : StoreKey} (hkey : call.Derives key) :
    ¬other.Derives key := by
  intro hkey'
  obtain ⟨c, p, path, hc, h, hnames⟩ := hcall
  obtain ⟨c', p', path', hc', h', hnames'⟩ := hother
  have hsame : p.subject.Same p'.subject := by
    have hidentifier : p.identifier = p'.identifier :=
      (StoreKey.mk.inj
        ((key_unique hkey hc h.identified).trans (key_unique hkey' hc' h'.identified).symm)).2
    have hproper :=
      h.identified.proper (call.disk.describesProper call.separator) (call.proper c hc)
    have hproper' :=
      h'.identified.proper (other.disk.describesProper other.separator) (other.proper c' hc')
    apply Identity.Subject.same_of_identifier hproper.subject hproper'.subject
      _ h.identified.identifier
    · rw [hidentifier]
      exact h'.identified.identifier
    · intro seed seed' hseed hseed'
      exact hclash seed seed' ⟨c, p, hc, h.identified, hseed⟩ ⟨c', p', hc', h'.identified, hseed'⟩
  obtain ⟨n, hn, hnamed⟩ := Option.map_eq_some_iff.1 (h.target_iff.2 hnames)
  obtain ⟨n', hn', hnamed'⟩ := Option.map_eq_some_iff.1 (h'.target_iff.2 hnames')
  have htarget : Option.Rel ProjectMeta.Same p.target p'.target := hsame.target
  rw [hn, hn', Option.rel_some_some] at htarget
  exact ProjectFiles.not_same_of_differ h.described h'.described hdiffer
    (htarget.of_withoutPath hnamed hnamed')

theorem analyzed_project_is_named (call : Call) {c : Config} {p : Prepared} {path : String}
    {m : ProjectMeta} (hc : call.config = .ok c)
    (h : OnFiles call.surroundings call.analyzer c p path m) :
    (∀ store r, (call.run store).outcome = .ok r → r.about.fromCache = false →
      (r.about.target = some m.withoutPath ↔ Names p.config m))
    ∧ (Names p.config m → Identity.derive (some m.withoutPath) p.reference p.config
      = .ok p.identifier ∧ ∀ others : List Call,
        (∀ other ∈ others, call.NoClash other ∧ ∃ m', other.SurveysFiles m' ∧ m.Differ m') →
        (∀ key, call.Derives key → ∀ other ∈ others, ¬other.Derives key)
        ∧ ∀ store, (call.run (after store (others.map .survey))).outcome
        = (call.run store).outcome) := by
  constructor
  · intro store r hr hnew
    rw [Call.outcome_run hc] at hr
    rw [target_of_new h.identified hr hnew]
    exact h.target_iff
  · intro hnames
    constructor
    · have hmoved : p.subject.Moved ⟨some m.withoutPath, p.reference, p.config⟩ :=
        ⟨(h.target_iff.2 hnames).symm, rfl, _, _, rfl⟩
      exact (Identity.Subject.identifier_of_moved hmoved).trans h.identified.identifier
    · intro others hothers
      have hkeys : ∀ key, call.Derives key → ∀ other ∈ others, ¬other.Derives key := by
        intro key hkey other hother
        obtain ⟨hclash, m', hsurveys, hdiffer⟩ := hothers other hother
        exact Call.SurveysFiles.not_derives ⟨c, p, path, hc, h, hnames⟩ hsurveys hdiffer hclash hkey
      exact ⟨hkeys, outcome_after hkeys⟩

section Example

theorem analyzed_project_is_named_in_app : ∃ p m r,
    OnFiles appImports.surroundings Catalogue.findImports findInApp p "/app" m ∧ Names p.config m
    ∧ (appImports.run (.values [])).outcome = .ok r ∧ r.about.fromCache = false
    ∧ r.about.target = some m.withoutPath
    ∧ Identity.derive (some m.withoutPath) p.reference p.config = .ok p.identifier := by
  obtain ⟨p, hp, happ⟩ := identified_appImports
  have hfiles : OnFiles appImports.surroundings Catalogue.findImports findInApp p "/app"
      { name := "app", version := "0.0.0", path := some (.str "/app") } :=
    ⟨hp, by rw [happ.config]; rfl, by rw [happ.config]; rfl, by rfl⟩
  have hnames :
      Names p.config { name := "app", version := "0.0.0", path := some (.str "/app") } := by
    rw [happ.config]
    exact fun _ h => absurd h (by simp [findInApp])
  obtain ⟨r, hr, hnew, -⟩ := appImports_new
  obtain ⟨htarget, hrest⟩ := analyzed_project_is_named appImports rfl hfiles
  exact ⟨p, _, r, hfiles, hnames, hr, hnew, (htarget _ r hr hnew).2 hnames, (hrest hnames).1⟩

def twoProjects : Disk :=
  { tree := { entries := [(["app"], .folder), (["app", "package.json"], .file [0x7b, 0x7d]),
      (["lib"], .folder), (["lib", "package.json"], .file [0x7b, 0x7d])] } }

def besideReport (path : String) : Config :=
  { targetPath := some path, targetResult := some (.report noImports) }

theorem proper_besideReport (path : String) : (besideReport path).Proper where
  gather s hs := by
    obtain rfl := ScopeSetting.scope.inj hs
    exact ⟨fun v hv => List.mem_singleton.1 hv ▸ .str _, fun _ h => absurd h List.not_mem_nil⟩
  gatherReference s hs := absurd hs (by simp [besideReport])
  targetResult p hp := Option.some.inj hp ▸ proper_noImports
  referenceResult p hp := absurd hp (by simp [besideReport])
  options := Fields.proper_nil

def besideReportCall (path : String) : Call :=
  { disk := twoProjects
    separator := "/"
    analyzer := Catalogue.findImports
    config := .ok (besideReport path)
    registered := findImports_mem
    proper := fun _ h => Except.ok.inj h ▸ proper_besideReport path }

theorem identified_besideReport (path : String) (hpath : Config.given (some path) = some path) :
    ∃ p, Identified (besideReportCall path).surroundings Catalogue.findImports (besideReport path) p
      ∧ p.subject = ⟨noImports.about.target, none, besideReport path⟩ ∧ p.Fits 900 := by
  have hvalid : validate Catalogue.findImports (besideReport path) = .ok () := by
    rw [validate, show Config.given (besideReport path).targetPath = some path from hpath]
    rfl
  obtain ⟨p, hp, hconfig, htarget, hreference, hfits⟩ :=
    exists_identified (d := 899) (c := besideReport path)
      (w := (besideReportCall path).surroundings) rfl hvalid rfl rfl rfl rfl rfl rfl (by decide)
  exact ⟨p, hp, by rw [Prepared.subject, hconfig, htarget, hreference]; rfl, hfits⟩

theorem onFiles_besideReport {path : String} {p : Prepared} {m : ProjectMeta}
    (hp : Identified (besideReportCall path).surroundings Catalogue.findImports
      (besideReport path) p)
    (hsubject : p.subject = ⟨noImports.about.target, none, besideReport path⟩)
    (hpath : Config.given (some path) = some path)
    (hm : (besideReportCall path).surroundings.describe path = .ok m) :
    OnFiles (besideReportCall path).surroundings Catalogue.findImports (besideReport path) p path
      m := by
  obtain ⟨-, -, hconfig⟩ := Identity.Subject.mk.inj hsubject
  refine ⟨hp, ?_, ?_, hm⟩
  · rw [hconfig]
    exact hpath
  · rw [hconfig]
    rfl

theorem key_besideReport {path path' : String} {p p' : Prepared}
    (hp : Identified (besideReportCall path).surroundings Catalogue.findImports
      (besideReport path) p)
    (hp' : Identified (besideReportCall path').surroundings Catalogue.findImports
      (besideReport path') p')
    (hsubject : p.subject = ⟨noImports.about.target, none, besideReport path⟩)
    (hsubject' : p'.subject = ⟨noImports.about.target, none, besideReport path'⟩) :
    key Catalogue.findImports p = key Catalogue.findImports p' := by
  have hmoved : p.subject.Moved p'.subject := by
    rw [hsubject, hsubject']
    exact ⟨rfl, rfl, _, _, rfl⟩
  have hidentifier : p'.subject.identifier = p.subject.identifier :=
    Identity.Subject.identifier_of_moved hmoved
  rw [key, key, Except.ok.inj ((hp'.identifier.symm.trans hidentifier).trans hp.identifier)]

theorem provided_project_is_named_in_folders : ∃ p p' m m' r,
    OnFiles (besideReportCall "/app").surroundings Catalogue.findImports
      (besideReport "/app") p "/app" m
    ∧ OnFiles (besideReportCall "/lib").surroundings Catalogue.findImports (besideReport "/lib")
      p' "/lib" m'
    ∧ m.Differ m' ∧ key Catalogue.findImports p = key Catalogue.findImports p'
    ∧ ((besideReportCall "/app").run (.values [])).outcome = .ok r ∧ r.about.fromCache = false
    ∧ r.about.target ≠ some m.withoutPath ∧ r.about.target ≠ some m'.withoutPath
    ∧ ((besideReportCall "/lib").run ((besideReportCall "/app").run (.values [])).store).outcome
      = .ok (r.settled.mark true) := by
  obtain ⟨p, hp, hsubject, hfits⟩ := identified_besideReport "/app" rfl
  obtain ⟨p', hp', hsubject', -⟩ := identified_besideReport "/lib" rfl
  obtain ⟨htarget, -, hconfig⟩ := Identity.Subject.mk.inj hsubject
  obtain ⟨-, -, hconfig'⟩ := Identity.Subject.mk.inj hsubject'
  have hkey := key_besideReport hp hp' hsubject hsubject'
  obtain ⟨r, hr, hnew, hfound⟩ :
      ∃ r, ((besideReportCall "/app").run (.values [])).outcome = .ok r ∧ r.about.fromCache = false
        ∧ r.isSkipped = false := by
    apply findImports_new (besideReportCall "/app") "/app" rfl rfl hp hfits
    · rw [hconfig]
      rfl
    · rw [hconfig]
      exact passes_of_no_reference rfl
    · rw [hconfig]
      decide +kernel
    · rw [hconfig]
      rfl
  have hnamed : r.about.target = some { name := "app", version := "1.0.0" } := by
    rw [Call.outcome_run rfl] at hr
    rw [target_of_new hp hr hnew, htarget]
    rfl
  refine ⟨p, p', { name := "app", version := "0.0.0", path := some (.str "/app") },
    { name := "lib", version := "0.0.0", path := some (.str "/lib") }, r,
    onFiles_besideReport hp hsubject rfl (by rfl), onFiles_besideReport hp' hsubject' rfl (by rfl),
    .inl (by decide), hkey, hr, hnew, ?_, ?_, ?_⟩
  · rw [hnamed]
    simp [ProjectMeta.withoutPath]
  · rw [hnamed]
    simp [ProjectMeta.withoutPath]
  · have hderives : (besideReportCall "/app").Derives (key Catalogue.findImports p') :=
      ⟨besideReport "/app", p, rfl, hp, hkey.symm⟩
    have hkept := cached_of_new hderives hr hnew hfound
    have hpasses : Passes (besideReportCall "/lib").surroundings p'.config := by
      rw [hconfig']
      exact passes_of_no_reference rfl
    rw [Call.outcome_run rfl]
    exact (run_of_cached (identify_eq_ok_iff.2 hp') (refusal_of_passes hpasses) hkept).1

end Example

end Session

end CodeSurvey
