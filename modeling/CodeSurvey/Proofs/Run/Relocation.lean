import CodeSurvey.Proofs.Run.Identifier
import CodeSurvey.Proofs.Run.Transparency

namespace CodeSurvey

open Outcome (Agree)

theorem ProjectMeta.sameName_of_withoutPath {m m' : Option ProjectMeta}
    (h : m'.map (·.withoutPath) = m.map (·.withoutPath)) : SameName m m' := by
  have hnames (p : Option ProjectMeta) :
      p.map (fun m => (m.name, m.version)) = (p.map (·.withoutPath)).map fun m =>
        (m.name, m.version) := by
    rw [Option.map_map]
    rfl
  rw [SameName, hnames m, hnames m', h]

namespace Survey

variable {Tree : Type} {w w' : Surroundings Tree} {a : Analyzer Tree} {c c' : Config}
  {p p' : Prepared} {store : Store}

structure SameSite (w w' : Surroundings Tree) (path path' : String) : Prop where
  given : Config.given (some path) = some path
  given' : Config.given (some path') = some path'
  described :
    Agree (fun m m' => m'.withoutPath = m.withoutPath) (w.describe path) (w'.describe path')
  gathered : ∀ scope, Agree (ProjectFiles.SameInput w.folder w'.folder) (w.gather path scope)
    (w'.gather path' scope)

inductive SameSites (w w' : Surroundings Tree) : Option String → Option String → Prop where
  | absent {path path' : Option String} (h : Config.given path = none)
      (h' : Config.given path' = none) :
      SameSites w w' path path'
  | same {path path' : String} (h : SameSite w w' path path') :
      SameSites w w' (some path) (some path')

structure Relocated (w w' : Surroundings Tree) (c c' : Config) : Prop where
  config : ∃ targetPath referencePath, c' = { c with targetPath, referencePath }
  target : SameSites w w' c.targetPath c'.targetPath
  reference : SameSites w w' c.referencePath c'.referencePath
  admits : ∀ reference target reference' target', Config.given c.referencePath = some reference →
    Config.given c.targetPath = some target → Config.given c'.referencePath = some reference' →
    Config.given c'.targetPath = some target' →
      Agree Eq (w.admits reference target) (w'.admits reference' target')
  readers : w.readerFor = w'.readerFor
  separator : w.separator = w'.separator

structure SamePrepared (w w' : Surroundings Tree) (p p' : Prepared) : Prop where
  config : Relocated w w' p.config p'.config
  identifier : p'.identifier = p.identifier
  target : p'.target.map (·.withoutPath) = p.target.map (·.withoutPath)
  reference : p'.reference.map (·.withoutPath) = p.reference.map (·.withoutPath)

theorem SamePrepared.seed (h : SamePrepared w w' p p') :
    Identity.seed p'.target p'.reference p'.config = Identity.seed p.target p.reference p.config :=
  Identity.Subject.seed_of_moved (s := ⟨p.target, p.reference, p.config⟩)
    (t := ⟨p'.target, p'.reference, p'.config⟩) ⟨h.target, h.reference, h.config.config⟩

theorem SameSites.cases {path path' : Option String} (h : SameSites w w' path path') :
    (Config.given path = none ∧ Config.given path' = none)
      ∨ ∃ site site', path = some site ∧ path' = some site' ∧ SameSite w w' site site' := by
  cases h with
  | absent h h' => exact .inl ⟨h, h'⟩
  | same h => exact .inr ⟨_, _, rfl, rfl, h⟩

theorem SameSites.isNone {path path' : Option String} (h : SameSites w w' path path') :
    (Config.given path').isNone = (Config.given path).isNone := by
  cases h with
  | absent h h' => rw [h, h']
  | same h =>
      rw [h.given, h.given']
      rfl

namespace Relocated

theorem unwound (h : Relocated w w' c c') : Agree (Relocated w w') c.unwound c'.unwound := by
  obtain ⟨targetPath, referencePath, rfl⟩ := h.config
  refine (Agree.of_eq rfl).bind fun target target' _ _ htarget => ?_
  refine (Agree.of_eq rfl).bind fun reference reference' _ _ hreference => ?_
  subst htarget hreference
  exact .ok ⟨⟨targetPath, referencePath, rfl⟩, h.target, h.reference, h.admits, h.readers,
    h.separator⟩

theorem reusable (h : Relocated w w' c c') : reusable a c' = reusable a c := by
  obtain ⟨targetPath, referencePath, rfl⟩ := h.config
  rfl

theorem validate (h : Relocated w w' c c') : validate a c' = validate a c := by
  have hreusable := h.reusable (a := a)
  have htarget := h.target.isNone
  have hreference := h.reference.isNone
  obtain ⟨targetPath, referencePath, rfl⟩ := h.config
  simp only [Survey.validate, htarget, hreference, hreusable]

theorem settings (h : Relocated w w' c c') : c'.settings = c.settings := by
  obtain ⟨targetPath, referencePath, rfl⟩ := h.config
  exact Config.settings_of_paths c targetPath referencePath

theorem targetMeta (h : Relocated w w' c c') (hvalid : Survey.validate a c = .ok ()) :
    Agree (fun m m' => m'.map (·.withoutPath) = m.map (·.withoutPath)) (targetMeta w c)
      (targetMeta w' c') := by
  have hresult : c'.targetResult = c.targetResult := by
    obtain ⟨_, _, rfl⟩ := h.config
    rfl
  unfold Survey.targetMeta
  rw [hresult]
  cases hprovided : c.targetResult with
  | some provided => exact (Agree.of_eq rfl).bind fun r r' _ _ hsame => .ok (by rw [hsame])
  | none =>
      rcases h.target.cases with ⟨hnone, -⟩ | ⟨path, path', hpath, hpath', hsite⟩
      · obtain ⟨r, hr⟩ := exists_reusable hvalid hnone
        obtain ⟨_, _, _, hsome, -⟩ := reusable_eq_some hr
        exact absurd (hprovided.symm.trans hsome) (by simp)
      · rw [hpath, hpath', Option.getD_some, Option.getD_some]
        exact hsite.described.map fun m m' hm => congrArg some hm

theorem referenceMeta (h : Relocated w w' c c') :
    Agree (fun m m' => m'.map (·.withoutPath) = m.map (·.withoutPath)) (referenceMeta w c)
      (referenceMeta w' c') := by
  have hresult : c'.referenceResult = c.referenceResult := by
    obtain ⟨_, _, rfl⟩ := h.config
    rfl
  unfold Survey.referenceMeta
  rw [hresult]
  cases c.referenceResult with
  | some provided => exact (Agree.of_eq rfl).bind fun r r' _ _ hsame => .ok (by rw [hsame])
  | none =>
      rcases h.reference.cases with ⟨hnone, hnone'⟩ | ⟨path, path', hpath, hpath', hsite⟩
      · rw [hnone, hnone']
        exact .ok rfl
      · rw [hpath, hpath', hsite.given, hsite.given']
        exact hsite.described.map fun m m' hm => congrArg some hm

theorem named (h : Relocated w w' c c') :
    Agree (SamePrepared w w') (named w a c) (named w' a c') := by
  refine h.unwound.bind fun u u' _ _ hu => ?_
  rw [hu.validate]
  cases hvalid : Survey.validate a u with
  | error f => exact .error (.same f)
  | ok _ =>
      refine (hu.targetMeta hvalid).bind fun target target' _ _ htarget => ?_
      refine hu.referenceMeta.bind fun reference reference' _ _ hreference => ?_
      have hmoved : Identity.Subject.Moved ⟨target, reference, u⟩ ⟨target', reference', u'⟩ :=
        ⟨htarget, hreference, hu.config⟩
      have hidentifier := (Identity.Subject.identifier_of_moved hmoved).symm
      refine (Agree.of_eq hidentifier).bind fun identifier identifier' _ _ hsame => ?_
      exact .ok ⟨hu, hsame.symm, htarget, hreference⟩

theorem identify (h : Relocated w w' c c') :
    Agree (SamePrepared w w') (identify w a c) (identify w' a c') := by
  refine h.named.bind fun p p' _ _ hsame => ?_
  rw [Identity.checkWritable, Identity.checkWritable, hsame.seed]
  exact (Agree.of_eq rfl).bind fun _ _ _ _ _ => .ok hsame

theorem refusal (h : Relocated w w' c c') :
    Agree Eq (refusal w c).outcome (refusal w' c').outcome := by
  have hskip : c'.skipCheck = c.skipCheck := by
    obtain ⟨_, _, rfl⟩ := h.config
    rfl
  have hunchecked {w : Surroundings Tree} {c : Config} (hpair : pairToCheck c = none) :
      (Survey.refusal w c).outcome = .ok none := refusal_eq_none (by simp [hpair])
  rcases h.reference.cases with ⟨hnone, hnone'⟩ | ⟨reference, reference', hpath, hpath', hsite⟩
  · rw [hunchecked (by simp [pairToCheck, hnone]), hunchecked (by simp [pairToCheck, hnone'])]
    exact .ok rfl
  · have hreference : Config.given c.referencePath = some reference := by rw [hpath, hsite.given]
    have hreference' : Config.given c'.referencePath = some reference' := by
      rw [hpath', hsite.given']
    rcases h.target.cases with ⟨hnone, hnone'⟩ | ⟨target, target', hpath, hpath', hsite⟩
    · rw [hunchecked (by simp [pairToCheck, hnone]), hunchecked (by simp [pairToCheck, hnone'])]
      exact .ok rfl
    · have htarget : Config.given c.targetPath = some target := by rw [hpath, hsite.given]
      have htarget' : Config.given c'.targetPath = some target' := by rw [hpath', hsite.given']
      cases hskipped : c.skipCheck with
      | true =>
          rw [hunchecked (by simp [pairToCheck, hreference, htarget, hskipped]),
            hunchecked (by simp [pairToCheck, hreference', htarget', hskip, hskipped])]
          exact .ok rfl
      | false =>
          rw [outcome_refusal hreference htarget hskipped,
            outcome_refusal hreference' htarget' (hskip.trans hskipped)]
          exact (h.admits _ _ _ _ hreference htarget hreference' htarget').map
            fun verdict verdict' hsame => by rw [hsame]

theorem referenceFiles (h : Relocated w w' c c') :
    Agree (fun _ _ => True) (referenceFiles w c) (referenceFiles w' c') := by
  have hscope : referenceScope c' = referenceScope c := by
    obtain ⟨_, _, rfl⟩ := h.config
    rfl
  unfold Survey.referenceFiles
  rw [hscope]
  rcases h.reference.cases with ⟨hnone, hnone'⟩ | ⟨path, path', hpath, hpath', hsite⟩
  · rw [hnone, hnone']
    exact .ok trivial
  · rw [hpath, hpath', hsite.given, hsite.given']
    exact (hsite.gathered _).map fun _ _ _ => trivial

end Relocated

namespace SamePrepared

theorem key (h : SamePrepared w w' p p') : key a p' = key a p := by
  rw [Survey.key, Survey.key, h.identifier]

theorem reportOf (h : SamePrepared w w' p p') (output : Json) :
    reportOf w' a p' output = reportOf w a p output := by
  simp only [Survey.reportOf, Portable.report, Portable.configuration_eq, h.config.settings,
    h.config.separator, label, h.identifier, h.target, h.reference]

theorem made (h : SamePrepared w w' p p') (ha : a.Respects)
    (hvalid : validate a p.config = .ok ()) :
    Agree Eq (made w a p) (made w' a p') := by
  have hreusable := h.config.reusable (a := a)
  have hreference := ProjectMeta.sameName_of_withoutPath h.reference
  have hreport (output : Json) :
      Agree Eq (Survey.reportOf w a p output) (Survey.reportOf w' a p' output) :=
    .of_eq (h.reportOf output).symm
  cases hsource : Survey.reusable a p.config with
  | error f =>
      rw [Survey.made, Survey.made, outcome_collect, outcome_collect, hreusable, hsource]
      exact .error (.same f)
  | ok source =>
      cases source with
      | some r =>
          obtain ⟨_, rule, _, -, hrule, -⟩ := reusable_eq_some hsource
          rw [made_of_report hsource hrule, made_of_report (hreusable.trans hsource) hrule,
            ha.sameReport rule hrule r p.reference p'.reference hreference]
          refine h.config.referenceFiles.bind fun _ _ _ _ _ => ?_
          refine (Agree.of_eq rfl).bind fun output output' _ _ hsame => ?_
          subst hsame
          exact hreport output
      | none =>
          rcases h.config.target.cases with ⟨hnone, -⟩ | ⟨path, path', hpath, hpath', hsite⟩
          · obtain ⟨r, hr⟩ := exists_reusable hvalid hnone
            exact absurd (hsource.symm.trans hr) (by simp)
          · have hscope : scopeFor p'.config = scopeFor p.config := by
              obtain ⟨_, _, hconfig⟩ := h.config.config
              rw [hconfig]
              rfl
            have hoptions : p.config.options.Alike p'.config.options := by
              obtain ⟨_, _, hconfig⟩ := h.config.config
              rw [hconfig]
              exact fun _ => rfl
            rw [made_of_gathered hsource (by rw [hpath, hsite.given]),
              made_of_gathered (hreusable.trans hsource) (by rw [hpath', hsite.given']), hscope]
            refine (hsite.gathered _).bind fun input input' _ _ hinput => ?_
            refine h.config.referenceFiles.bind fun _ _ _ _ _ => ?_
            refine (fromFiles_below ha h.config.readers hreference hoptions hinput).bind
              fun output output' _ _ hsame => ?_
            subst hsame
            exact hreport output

theorem fresh (h : SamePrepared w w' p p') (ha : a.Respects)
    (hvalid : validate a p.config = .ok ()) :
    Agree Eq (fresh w a p) (fresh w' a p') := by
  refine (h.made ha hvalid).bind fun r r' _ _ hsame => ?_
  subst hsame
  exact .of_eq rfl

end SamePrepared

theorem Relocated.run (h : Relocated w w' c c') (ha : a.Respects) (store : Store) :
    Agree Eq (run w a store c).outcome (run w' a store c').outcome
    ∧ (run w' a store c').store = (run w a store c).store := by
  rcases (h.identify (a := a)).cases with ⟨p, p', hp, hp', hsame⟩ | ⟨f, g, hf, hg, hkind⟩
  · have hidentified := identify_eq_ok_iff.1 hp
    rcases hsame.config.refusal.cases with ⟨reason, reason', hreason, hreason', rfl⟩
      | ⟨f, g, hf, hg, hkind⟩
    · cases reason with
      | some reason =>
          obtain ⟨r, hr⟩ := report_of_named hidentified.toNamed (.str ("[" ++ reason ++ "]"))
          have hr' := (hsame.reportOf (.str ("[" ++ reason ++ "]"))).trans hr
          rw [(run_of_refused hp hreason hr).1, (run_of_refused hp' hreason' hr').1,
            (run_of_refused hp hreason hr).2.1, (run_of_refused hp' hreason' hr').2.1]
          exact ⟨.ok rfl, rfl⟩
      | none =>
          have hkey := hsame.key (a := a)
          cases hcached : cached store (Survey.key a p) with
          | error f =>
              obtain ⟨houtcome, hstore⟩ := run_of_cached_error hp hreason hcached
              obtain ⟨houtcome', hstore'⟩ :=
                run_of_cached_error hp' hreason' (by rw [hkey, hcached])
              rw [houtcome, houtcome', hstore, hstore']
              exact ⟨.error (.same f), rfl⟩
          | ok found =>
              cases found with
              | some r =>
                  obtain ⟨houtcome, hstore, -⟩ := run_of_cached hp hreason hcached
                  obtain ⟨houtcome', hstore', -⟩ :=
                    run_of_cached hp' hreason' (by rw [hkey, hcached])
                  rw [houtcome, houtcome', hstore, hstore']
                  exact ⟨.ok rfl, rfl⟩
              | none =>
                  obtain ⟨houtcome, hstore⟩ := run_of_fresh hp hreason hcached
                  obtain ⟨houtcome', hstore'⟩ := run_of_fresh hp' hreason' (by rw [hkey, hcached])
                  have hfresh := hsame.fresh ha hidentified.validated
                  rw [houtcome, houtcome', hstore, hstore', hkey]
                  refine ⟨hfresh, ?_⟩
                  rcases hfresh.cases with ⟨r, r', hr, hr', rfl⟩ | ⟨f, g, hf, hg, -⟩
                  · rw [hr, hr']
                  · rw [hf, hg]
    · rw [(run_of_refusal_error hp hf).1, (run_of_refusal_error hp' hg).1,
        (run_of_refusal_error hp hf).2, (run_of_refusal_error hp' hg).2]
      exact ⟨.error hkind, rfl⟩
  · rw [(run_of_identify_error hf).1, (run_of_identify_error hg).1, (run_of_identify_error hf).2,
      (run_of_identify_error hg).2]
    exact ⟨.error hkind, rfl⟩

end Survey

namespace Disk

variable {d d' : Disk} {path path' : String}

structure SameProject (d d' : Disk) (path path' : String) : Prop where
  given : Config.given (some path) = some path
  given' : Config.given (some path') = some path'
  moved : ProjectFiles.Moved d.tree d'.tree (d.place path) (d'.place path')

inductive SameProjects (d d' : Disk) : Option String → Option String → Prop where
  | absent {path path' : Option String} (h : Config.given path = none)
      (h' : Config.given path' = none) :
      SameProjects d d' path path'
  | same {path path' : String} (h : SameProject d d' path path') :
      SameProjects d d' (some path) (some path')

theorem SameProject.site (h : SameProject d d' path path') (ht : d.tree.Sound) (ht' : d'.tree.Sound)
    (separator : String) :
    Survey.SameSite (d.surroundings separator) (d'.surroundings separator) path path' where
  given := h.given
  given' := h.given'
  described := h.moved.metaAt true
  gathered :=
    h.moved.gatherOne d.folderPath d'.folderPath ht ht' (Path.areNames_located _ _)
      (Path.areNames_located _ _)

theorem SameProjects.sites {paths paths' : Option String} (h : SameProjects d d' paths paths')
    (ht : d.tree.Sound) (ht' : d'.tree.Sound) (separator : String) :
    Survey.SameSites (d.surroundings separator) (d'.surroundings separator) paths paths' := by
  cases h with
  | absent h h' => exact .absent h h'
  | same h => exact .same (h.site ht ht' separator)

theorem SameProjects.moved {paths paths' : Option String} (h : SameProjects d d' paths paths')
    (hpath : Config.given paths = some path) (hpath' : Config.given paths' = some path') :
    ProjectFiles.Moved d.tree d'.tree (d.place path) (d'.place path') := by
  cases h with
  | absent h _ => exact absurd (h.symm.trans hpath) (by simp)
  | same h =>
      obtain rfl := Option.some.inj (h.given.symm.trans hpath)
      obtain rfl := Option.some.inj (h.given'.symm.trans hpath')
      exact h.moved

theorem relocated (ht : d.tree.Sound) (ht' : d'.tree.Sound) (separator : String) {c : Config}
    {targetPath referencePath : Option String} (htarget : SameProjects d d' c.targetPath targetPath)
    (hreference : SameProjects d d' c.referencePath referencePath) :
    Survey.Relocated (d.surroundings separator) (d'.surroundings separator) c
      { c with targetPath, referencePath } where
  config := ⟨targetPath, referencePath, rfl⟩
  target := htarget.sites ht ht' separator
  reference := hreference.sites ht ht' separator
  admits reference target reference' target' hpath hpath' hother hother' := by
    have hmoved := hreference.moved hpath hother
    have hmoved' := htarget.moved hpath' hother'
    refine (Manifest.read_below hmoved.copied hmoved.reaches hmoved.reaches').bind
      fun manifest other _ _ hsame => ?_
    refine (Manifest.read_below hmoved'.copied hmoved'.reaches hmoved'.reaches').bind
      fun manifest' other' _ _ hsame' => ?_
    exact .of_eq (by rw [hsame, hsame'])
  readers := rfl
  separator := rfl

end Disk

namespace Session

open Survey

structure Call.Elsewhere (call other : Call) : Prop where
  analyzer : other.analyzer = call.analyzer
  separator : other.separator = call.separator
  sound : call.disk.tree.Sound
  sound' : other.disk.tree.Sound
  config : ∃ c targetPath referencePath, call.config = .ok c
    ∧ other.config = .ok { c with targetPath, referencePath }
    ∧ Disk.SameProjects call.disk other.disk c.targetPath targetPath
    ∧ Disk.SameProjects call.disk other.disk c.referencePath referencePath

namespace Call.Elsewhere

variable {call other : Call}

theorem relocated (h : call.Elsewhere other) : ∃ c c', call.config = .ok c ∧ other.config = .ok c'
    ∧ Relocated call.surroundings other.surroundings c c' := by
  obtain ⟨c, targetPath, referencePath, hc, hc', htarget, hreference⟩ := h.config
  have hrelocated := Disk.relocated h.sound h.sound' call.separator htarget hreference
  rw [← h.separator] at hrelocated
  refine ⟨c, _, hc, hc', ?_⟩
  rw [Call.surroundings, ← h.separator]
  exact hrelocated

theorem run (h : call.Elsewhere other) (store : Store) :
    Agree Eq (call.run store).outcome (other.run store).outcome
      ∧ (other.run store).store = (call.run store).store := by
  obtain ⟨c, c', hc, hc', hrelocated⟩ := h.relocated
  rw [Call.outcome_run hc, Call.outcome_run hc', Call.store_run hc, Call.store_run hc', h.analyzer]
  exact hrelocated.run (Catalogue.respects call.registered) store

theorem admitted (h : call.Elsewhere other) {c : Config} {p : Prepared} (hc : call.config = .ok c)
    (hp : Identified call.surroundings call.analyzer c p)
    (hpasses : Passes call.surroundings p.config) :
    ∃ c' p', other.config = .ok c' ∧ identify other.surroundings other.analyzer c' = .ok p'
      ∧ (refusal other.surroundings p'.config).outcome = .ok none
      ∧ key other.analyzer p' = key call.analyzer p := by
  obtain ⟨c₀, c', hc₀, hc', hrelocated⟩ := h.relocated
  obtain rfl := Except.ok.inj (hc.symm.trans hc₀)
  have hidentify := hrelocated.identify (a := call.analyzer)
  rw [identify_eq_ok_iff.2 hp] at hidentify
  rcases hidentify.cases with ⟨q, p', hq, hp', hsame⟩ | ⟨_, _, hf, -⟩
  · obtain rfl := Except.ok.inj hq
    have hrefusal := hsame.config.refusal
    rw [refusal_of_passes hpasses] at hrefusal
    rcases hrefusal.cases with ⟨reason, reason', hreason, hreason', rfl⟩ | ⟨_, _, hf, -⟩
    · obtain rfl := Except.ok.inj hreason
      rw [h.analyzer]
      exact ⟨c', p', hc', hp', hreason', hsame.key⟩
    · exact absurd hf (by simp)
  · exact absurd hf (by simp)

theorem seed_eq (h : call.Elsewhere other) {seed seed' : Json} (hseed : call.Seeds seed)
    (hseed' : other.Seeds seed') :
    seed' = seed := by
  obtain ⟨c, p, hc, hp, hseed⟩ := hseed
  obtain ⟨c', p', hc', hp', hseed'⟩ := hseed'
  obtain ⟨c₀, c₀', hc₀, hc₀', hrelocated⟩ := h.relocated
  obtain rfl := Except.ok.inj (hc.symm.trans hc₀)
  obtain rfl := Except.ok.inj (hc'.symm.trans hc₀')
  have hidentify := hrelocated.identify (a := call.analyzer)
  rw [h.analyzer] at hp'
  rw [identify_eq_ok_iff.2 hp, identify_eq_ok_iff.2 hp'] at hidentify
  rw [hidentify.rel.seed] at hseed'
  exact Except.ok.inj (hseed'.symm.trans hseed)

theorem served (h : call.Elsewhere other) {store now : Store} {key : StoreKey} {r : Report}
    (hkey : call.Derives key) (hr : (call.run store).outcome = .ok r)
    (hnew : r.about.fromCache = false) (hfound : r.isSkipped = false)
    (hkept : cached now key = .ok (some (r.settled.mark true))) :
    (other.run now).outcome = .ok (r.settled.mark true) ∧ QuietEvents (other.run now).events
      ∧ (other.run now).store = now := by
  obtain ⟨c, p, hc, hp, hpasses, -⟩ := fresh_of_new hr hnew hfound
  obtain rfl := Call.key_unique hkey hc hp
  obtain ⟨c', p', hc', hp', hrefusal, hsame⟩ := h.admitted hc hp hpasses
  rw [← hsame] at hkept
  obtain ⟨houtcome, hstore, hquiet⟩ := run_of_cached hp' hrefusal hkept
  rw [Call.outcome_run hc', Call.store_run hc']
  exact ⟨houtcome, Call.quiet_run hc' hquiet, hstore⟩

end Call.Elsewhere

theorem same_answer_elsewhere (call other : Call) (h : call.Elsewhere other) :
    (∀ store, Agree Eq (call.run store).outcome (other.run store).outcome
      ∧ (other.run store).store = (call.run store).store)
    ∧ ∀ store key r between, call.Derives key → (call.run store).outcome = .ok r →
      r.about.fromCache = false →
      r.isSkipped = false → .erase key ∉ between →
      (∃ r', (other.run (after (call.run store).store between)).outcome = .ok r'
        ∧ r'.toWrapped = (r.mark true).toWrapped)
      ∧ QuietEvents (other.run (after (call.run store).store between)).events
      ∧ (other.run (after (call.run store).store between)).store
      = after (call.run store).store between := by
  refine ⟨h.run, ?_⟩
  intro store key r between hkey hr hnew hfound hkept
  obtain ⟨hkeepable, hholds⟩ := kept_of_new hkey hr hnew hfound
  have hrow := holds_after hkeepable hholds hkept
  obtain ⟨houtcome, hquiet, hstore⟩ := h.served hkey hr hnew hfound (cached_of_holds hkeepable hrow)
  refine ⟨⟨_, houtcome, ?_⟩, hquiet, hstore⟩
  rw [Report.mark_settled, Report.toWrapped_settled]

section Example

def movedProject : Disk :=
  { tree := { entries := [(["home"], .folder), (["home", "app"], .folder),
      (["home", "app", "package.json"], .file [0x7b, 0x7d]),
      (["home", "app", "index.js"], .file (Text.Utf8.encode "import a from 'lib';"))] } }

theorem sound_movedProject : movedProject.tree.Sound := by
  have hhome : Path.IsName "home" := ⟨by decide, by decide, by decide, by decide +kernel⟩
  have happ : Path.IsName "app" := ⟨by decide, by decide, by decide, by decide +kernel⟩
  have hmanifest : Path.IsName "package.json" :=
    ⟨by decide, by decide, by decide, by decide +kernel⟩
  have hindex : Path.IsName "index.js" := ⟨by decide, by decide, by decide, by decide +kernel⟩
  constructor
  · simp [movedProject]
  · intro entry hentry
    simp only [movedProject, List.mem_cons, List.not_mem_nil, or_false] at hentry
    rcases hentry with rfl | rfl | rfl | rfl
    · simpa [Path.AreNames] using hhome
    · simpa [Path.AreNames] using ⟨hhome, happ⟩
    · simpa [Path.AreNames] using ⟨hhome, happ, hmanifest⟩
    · simpa [Path.AreNames] using ⟨hhome, happ, hindex⟩

def movedAppImports : Call :=
  { disk := movedProject
    separator := "/"
    analyzer := Catalogue.findImports
    config := .ok { findInApp with targetPath := some "/home/app" }
    registered := findImports_mem
    proper := fun _ h =>
      Except.ok.inj h ▸ ⟨proper_findInApp.gather, proper_findInApp.gatherReference,
        proper_findInApp.targetResult, proper_findInApp.referenceResult, proper_findInApp.options⟩ }

theorem moved_smallProject :
    ProjectFiles.Moved smallProject.tree movedProject.tree ["app"] ["home", "app"] where
  copied way := by
    simp [FileTree.entryAt, smallProject, movedProject, List.lookup_cons]
  reaches := by decide
  reaches' := by decide
  commit := by rfl
  named := .inr rfl

theorem elsewhere_appImports : appImports.Elsewhere movedAppImports where
  analyzer := rfl
  separator := rfl
  sound := sound_smallProject
  sound' := sound_movedProject
  config :=
    ⟨findInApp, some "/home/app", none, rfl, rfl, .same ⟨rfl, rfl, moved_smallProject⟩,
      .absent rfl rfl⟩

theorem same_answer_elsewhere_in_app : ∃ r r', (appImports.run (.values [])).outcome = .ok r
    ∧ (movedAppImports.run (.values [])).outcome = .ok r
    ∧ (movedAppImports.run (appImports.run (.values [])).store).outcome = .ok r'
    ∧ r'.toWrapped = (r.mark true).toWrapped := by
  obtain ⟨r, hr, hnew, hfound⟩ := appImports_new
  obtain ⟨key, hkey, -⟩ := again_of_new hr hnew hfound
  obtain ⟨hsame, hserved⟩ := same_answer_elsewhere appImports movedAppImports elsewhere_appImports
  have hagree := (hsame (.values [])).1
  rw [hr] at hagree
  obtain ⟨⟨r', hr', hanswer⟩, -⟩ :=
    hserved (.values []) key r [] hkey hr hnew hfound List.not_mem_nil
  exact ⟨r, r', hr, hagree.eq_ok, hr', hanswer⟩

end Example

end Session

end CodeSurvey
