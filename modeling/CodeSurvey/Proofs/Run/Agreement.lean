import CodeSurvey.Proofs.Run.Matching

namespace CodeSurvey

namespace Survey

theorem cached_of_no_identifiers {Tree : Type} {a : Analyzer Tree} {store : Store}
    (h : store.identifiers a.name = []) (p : Prepared) : cached store (key a p) = .ok none := by
  have hkey : key a p ∉ store.keys := by
    intro hmem
    have hfilter : key a p ∈ store.keys.filter (·.analyzer == a.name) :=
      List.mem_filter.2 ⟨hmem, by simp [key]⟩
    have hidentifier : p.identifier ∈ store.identifiers a.name := List.mem_map_of_mem hfilter
    rw [h] at hidentifier
    exact absurd hidentifier List.not_mem_nil
  rw [cached, Store.get_of_not_mem hkey]
  rfl

section Imports

variable {w : Surroundings SourceTree} {c find : Config} {p : Prepared} {r : Report}

structure SameFiles (find c : Config) : Prop where
  targetPath : find.targetPath = c.targetPath
  gather : find.gather = c.gather
  noResult : find.targetResult = none

structure ListsImports (w : Surroundings SourceTree) (c : Config) (r : Report) : Prop where
  analyzer : r.about.analyzer = .str Catalogue.findImports.name
  imports : ∃ path input reader parsed m external, Config.given c.targetPath = some path
    ∧ w.describe path = .ok m ∧ w.gather path (scopeFor c) = .ok input
    ∧ w.readerFor Catalogue.scriptDialect = .ok reader ∧ readFiles reader input.entries = .ok parsed
    ∧ AllNamed parsed.entries
    ∧ r.output = Matches.importsOutput external
      (Matches.shown w.separator (importsOf w (rootOf c input.project) parsed.entries))

theorem given_of_named {a : Analyzer SourceTree} (hp : Named w a c p)
    (hresult : c.targetResult = none) :
    p.config.targetResult = none ∧ p.config.targetPath = c.targetPath ∧ p.config.gather = c.gather
      ∧ ∃ path m, Config.given c.targetPath = some path ∧ w.describe path = .ok m := by
  obtain ⟨target, reference, htarget, -, hconfig⟩ := Config.unwound_eq hp.unwound
  rw [hresult] at htarget
  obtain rfl := Except.ok.inj htarget
  have hnone : p.config.targetResult = none := by rw [hconfig]; rfl
  have hpath : p.config.targetPath = c.targetPath := by rw [hconfig]
  have hgather : p.config.gather = c.gather := by rw [hconfig]
  refine ⟨hnone, hpath, hgather, ?_⟩
  have hmeta := hp.target
  unfold targetMeta at hmeta
  rw [hnone] at hmeta
  obtain ⟨m, hm, -⟩ := Outcome.map_eq_ok.1 hmeta
  rw [hpath] at hm
  cases hgiven : Config.given c.targetPath with
  | none =>
      obtain ⟨reused, hreusable⟩ := exists_reusable hp.validated (by rw [hpath, hgiven])
      obtain ⟨provided, _, _, hprovided, -⟩ := reusable_eq_some hreusable
      exact absurd (hnone.symm.trans hprovided) (by simp)
  | some path =>
      refine ⟨path, m, rfl, ?_⟩
      obtain ⟨hsome, -⟩ := Option.filter_eq_some_iff.1 hgiven
      rw [hsome] at hm
      exact hm

theorem listsImports_of_made (hsame : SameFiles find c) (hp : Named w Catalogue.findImports find p)
    (h : made w Catalogue.findImports p = .ok r) : ListsImports w c r := by
  obtain ⟨hnone, hpath, hgather, path, m, hgiven, hm⟩ := given_of_named hp hsame.noResult
  have hscope : scopeFor p.config = scopeFor c := by
    simp only [scopeFor, hgather, hsame.gather]
  have hroot (project : ProjectMeta) : rootOf p.config project = rootOf c project := by
    simp only [rootOf, hpath, hsame.targetPath]
  rw [made_of_files hnone (by rw [hpath]; exact hgiven)] at h
  obtain ⟨input, hinput, h⟩ := Outcome.bind_eq_ok.1 h
  obtain ⟨_, -, h⟩ := Outcome.bind_eq_ok.1 h
  obtain ⟨output, houtput, hreport⟩ := Outcome.bind_eq_ok.1 h
  obtain ⟨reader, parsed, hreader, hparsed, hnamed, rfl⟩ := findImports_fromFiles_eq_ok houtput
  rw [hsame.targetPath] at hgiven
  rw [hscope] at hinput
  refine ⟨?_, path, input, reader, parsed, m, onlyExternal p.config.options, hgiven, hm, hinput,
    hreader, hparsed, hnamed, ?_⟩
  · obtain ⟨_, -, rfl⟩ := Portable.report_eq_ok hreport
    rfl
  · rw [Portable.output_report hreport, Matches.findings_importsOutput, hroot]

theorem outcome_of_files (hlists : ListsImports w c r) (hresult : c.targetResult = none) :
    ∃ files,
    (∃ external, r.output = Matches.importsOutput external (Matches.shown w.separator files))
      ∧ Report.output <$> drafted w Catalogue.matchImports c
        = matchingOutcome w c fun m =>
          Matches.matchesOutput m (Matches.shown w.separator files) := by
  obtain ⟨path, input, reader, parsed, m, external, hgiven, hm, hinput, hreader, hparsed, hnamed,
    houtput⟩ := hlists.imports
  refine ⟨importsOf w (rootOf c input.project) parsed.entries, ⟨external, houtput⟩, ?_⟩
  have hunwound {u : Config} (hu : c.unwound = .ok u) : u.targetPath = c.targetPath
      ∧ u.targetResult = none := by
    obtain ⟨target, reference, htarget, -, rfl⟩ := Config.unwound_eq hu
    rw [hresult] at htarget
    obtain rfl := Except.ok.inj htarget
    exact ⟨rfl, rfl⟩
  have htarget : c.targetResult.mapM Provided.unwind = .ok none := by
    rw [hresult]
    rfl
  have hmatching := outcome_matching (w := w) htarget
    (fun u hu => .inl ⟨path, by rw [(hunwound hu).1]; exact hgiven⟩) (fun u hu => ?_)
    (fun m => Matches.matchesOutput m (importsOf w (rootOf c input.project) parsed.entries))
      fun p hp => ?_
  · simp only [Matches.findings_matchesOutput] at hmatching
    exact hmatching
  · obtain ⟨hsome, -⟩ := Option.filter_eq_some_iff.1 hgiven
    refine ⟨some m, ?_⟩
    unfold targetMeta
    rw [(hunwound hu).1, (hunwound hu).2, hsome]
    simp only [Option.getD_some, hm, Outcome.map_ok]
  · obtain ⟨hnone, hpath, hgather, -⟩ := given_of_named hp hresult
    have hscope : scopeFor p.config = scopeFor c := by
      simp only [scopeFor, hgather]
    have hroot : rootOf p.config input.project = rootOf c input.project := by
      simp only [rootOf, hpath]
    rw [made_of_files hnone (by rw [hpath]; exact hgiven), hscope, hinput, Outcome.ok_bind,
      matchImports_fromFiles hreader hparsed hnamed, hroot]
    rfl

theorem outcome_of_report {provided : Provided} (hresult : c.targetResult = some provided)
    (hprovided : provided.unwind = .ok r)
    (hanalyzer : r.about.analyzer = .str Catalogue.findImports.name) {external : Bool}
    {files : List (String × List Imports.Entry)}
    (houtput : r.output = Matches.importsOutput external (Matches.shown w.separator files))
    (hname : ∀ m, referenceMeta w c = .ok (some m) → Imports.isRelative m.name = false) :
    Report.output <$> drafted w Catalogue.matchImports c
      = matchingOutcome w c fun m => Matches.matchesOutput m (Matches.shown w.separator files) := by
  have htarget : c.targetResult.mapM Provided.unwind = .ok (some r) := by
    rw [hresult]
    show some <$> provided.unwind = _
    rw [hprovided]
    rfl
  have hunwound {u : Config} (hu : c.unwound = .ok u) :
      u.targetResult = some (.report r) ∧ referenceMeta w u = referenceMeta w c := by
    obtain ⟨target, reference, htarget', hreference, rfl⟩ := Config.unwound_eq hu
    rw [htarget] at htarget'
    obtain rfl := Except.ok.inj htarget'
    exact ⟨rfl, referenceMeta_unwound hreference⟩
  have hreusable {u : Config} (hu : c.unwound = .ok u) :
      reusable Catalogue.matchImports u = .ok (some r) := by
    have hfits : (r.about.analyzer == .ofOption (Catalogue.matchImports.consumes.map .str))
        = true := by
      rw [hanalyzer]
      rfl
    exact reusable_of_arr (hunwound hu).1 (rfl : Catalogue.matchImports.fromReport
      = some Matches.fromReport) rfl
      houtput hfits
  have hmatching := outcome_matching (w := w) htarget
    (fun u hu => .inr ⟨.report r, r, (hunwound hu).1, hreusable hu⟩) (fun u hu => ?_)
    (fun m => Matches.matchesOutput m (Matches.shown w.separator files)) fun p hp => ?_
  · simp only [Matches.findings_matchesOutput, Matches.shown_shown] at hmatching
    exact hmatching
  · refine ⟨r.about.target, ?_⟩
    unfold targetMeta
    rw [(hunwound hu).1]
    rfl
  · have hreference : referenceMeta w c = .ok p.reference := by
      rw [← (hunwound hp.unwound).2, hp.reference]
    have hmatched : Matches.fromReport r p.reference
        = .ok (Matches.matchesOutput p.reference (Matches.shown w.separator files)) := by
      refine Matches.fromReport_importsOutput (fun m hm => hname m ?_) houtput
      rw [hreference, hm]
    rw [made_of_report (hreusable hp.unwound)
      (rfl : Catalogue.matchImports.fromReport = some Matches.fromReport), hmatched]
    rfl

end Imports

variable {Tree : Type} {w : Surroundings Tree} {a : Analyzer Tree} {store : Store} {c : Config}

theorem fresh_of_run (hadmitted : ¬∃ reason, LeavesOut w a (.ok c) reason)
    (hstore : store.identifiers a.name = []) {r : Report} (h : (run w a store c).outcome = .ok r) :
    identify w a c >>= fresh w a = .ok r := by
  cases hp : identify w a c with
  | error f => exact absurd (h.symm.trans (run_of_identify_error hp).1) (by simp)
  | ok p =>
      cases hrefusal : (refusal w p.config).outcome with
      | error f => exact absurd (h.symm.trans (run_of_refusal_error hp hrefusal).1) (by simp)
      | ok reason =>
          cases reason with
          | some reason =>
              exact absurd ⟨reason, c, p, rfl, identify_eq_ok_iff.1 hp,
                refuses_of_refusal hrefusal⟩ hadmitted
          | none =>
              rw [Outcome.ok_bind, ← h]
              exact (run_of_fresh hp hrefusal (cached_of_no_identifiers hstore p)).1.symm

theorem outcome_of_passes (hpasses : Passes w c) (hstore : store.identifiers a.name = []) :
    (run w a store c).outcome = identify w a c >>= fresh w a := by
  refine outcome_run_of_unkept (fun p hp => ?_) fun p _ => cached_of_no_identifiers hstore p
  exact refusal_of_passes ((passes_of_unwound (identify_eq_ok_iff.1 hp).unwound).2 hpasses)

theorem passes_of_no_reference (h : Config.given c.referencePath = none) : Passes w c := by
  intro reference target hreference
  exact absurd (h.symm.trans hreference) (by simp)

theorem passes_of_no_target (h : Config.given c.targetPath = none) : Passes w c := by
  intro reference target _ htarget
  exact absurd (h.symm.trans htarget) (by simp)

end Survey

theorem Disk.gather_unsaid {d : Disk} {separator path : String} {scope : Scope}
    {input : ProjectInput} (h : (d.surroundings separator).gather path scope = .ok input) :
    ∃ other, (d.surroundings separator).gather path {} = .ok other := by
  obtain ⟨m, hm, -⟩ := Outcome.bind_eq_ok.1 h
  have hpaths : ∃ paths, ProjectFiles.discover d.tree (d.place path) {} = .ok paths := by
    simp only [ProjectFiles.discover, List.mapM_cons, List.mapM_nil, Json.asText, Outcome.map_ok,
      Outcome.ok_bind, Outcome.pure_eq]
    split
    · exact ⟨_, rfl⟩
    · exact ⟨_, rfl⟩
  obtain ⟨paths, hpaths⟩ := hpaths
  refine ⟨⟨m, paths.filterMap (ProjectFiles.readEntry d.tree (d.place path))⟩, ?_⟩
  show ProjectFiles.gatherOne d.tree {} (d.place path) = _
  rw [ProjectFiles.gatherOne, hm, Outcome.ok_bind, hpaths]
  rfl

theorem Disk.named_of_gather {d : Disk} {separator path : String} {scope : Scope}
    {input : ProjectInput} (h : (d.surroundings separator).gather path scope = .ok input) :
    ∀ f ∈ input.entries, f.file.isEmpty = false := by
  obtain ⟨m, -, h⟩ := Outcome.bind_eq_ok.1 h
  obtain ⟨paths, -, h⟩ := Outcome.bind_eq_ok.1 h
  obtain rfl := Except.ok.inj h
  intro f hf
  obtain ⟨path, -, hread⟩ := List.mem_filterMap.1 hf
  unfold ProjectFiles.readEntry at hread
  dsimp only at hread
  split at hread
  · obtain rfl := Option.some.inj hread
    simp
  · exact absurd hread nofun

namespace Session

open Survey

inductive Handed (r : Report) : Provided → Prop where
  | asReport : Handed r (.report r)
  | asPlain : Handed r (.raw r.toPlain)
  | asWrapped : Handed r (.raw r.toWrapped)

inductive Gives (call : Call) : Report → Prop where
  | new {store : Store} {r : Report} (hr : (call.run store).outcome = .ok r)
      (hnew : r.about.fromCache = false)
      (hfound : r.isSkipped = false) : Gives call r
  | kept {store : Store} {between : List Step} {key : StoreKey} {r r' : Report}
      (hr : (call.run store).outcome = .ok r) (hnew : r.about.fromCache = false)
        (hfound : r.isSkipped = false)
      (hkey : call.Derives key) (hkept : .erase key ∉ between)
      (hr' : (call.run (after (call.run store).store between)).outcome = .ok r')
        (hfound' : r'.isSkipped = false) :
      Gives call r'

theorem report_of_gives {call : Call} {r : Report} (h : Gives call r) :
    ∃ c p s, call.config = .ok c ∧ Identified call.surroundings call.analyzer c p
      ∧ fresh call.surroundings call.analyzer p = .ok s ∧ (r = s ∨ r = s.settled.mark true) := by
  cases h with
  | new hr hnew hfound =>
      obtain ⟨c, p, hc, hp, -, hfresh, -⟩ := fresh_of_new hr hnew hfound
      exact ⟨c, p, r, hc, hp, hfresh, .inl rfl⟩
  | @kept store between key s _ hr hnew hfound hkey hkept hr' hfound' =>
      obtain ⟨c, p, hc, hp, -, hfresh, -⟩ := fresh_of_new hr hnew hfound
      obtain ⟨hkeepable, hholds⟩ := kept_of_new hkey hr hnew hfound
      have hrow := holds_after hkeepable hholds hkept
      obtain ⟨hanswer, -⟩ := answered_of_holds hkeepable hrow hkey hr'
      rcases hanswer with ⟨reason, -, houtput⟩ | hserved
      · exact absurd hfound' (by simp [Report.isSkipped, Report.skipReason, houtput])
      · exact ⟨c, p, s, hc, hp, hfresh, .inr hserved⟩

structure TwoWays (w : Surroundings SourceTree) (find c c' : Config) (provided : Provided) :
    Prop where
  sameFiles : SameFiles find c
  onFiles : c.targetResult = none
  onReport : c'.targetResult = some provided
  noPath : Config.given c'.targetPath = none
  referencePath : c'.referencePath = c.referencePath
  referenceResult : c'.referenceResult = c.referenceResult
  externalName : ∀ m, referenceMeta w c = .ok (some m) → Imports.isRelative m.name = false

theorem unwind_of_handed {r : Report} {provided : Provided} (hdefinite : r.about.Definite)
    (h : Handed r provided) : provided.unwind = .ok r ∨ provided.unwind = .ok r.settled := by
  cases h with
  | asReport => exact .inl rfl
  | asPlain => exact .inr (Report.ofJson_toPlain hdefinite)
  | asWrapped => exact .inr (Report.ofJson_toWrapped hdefinite)

theorem listsImports_of_handed {imports : Call} {find c c' : Config} {r : Report}
    {provided : Provided} (hanalyzer : imports.analyzer = Catalogue.findImports)
    (hconfig : imports.config = .ok find) (hgives : Gives imports r) (hhanded : Handed r provided)
    (h : TwoWays imports.surroundings find c c' provided) :
    ∃ s, provided.unwind = .ok s ∧ ListsImports imports.surroundings c s := by
  obtain ⟨config, p, s, hc, hp, hfresh, hr⟩ := report_of_gives hgives
  obtain rfl := Except.ok.inj (hconfig.symm.trans hc)
  rw [hanalyzer] at hp hfresh
  have hlists := listsImports_of_made h.sameFiles hp.toNamed (fresh_eq_ok_iff.1 hfresh).1
  have hpathless := pathless_fresh hfresh
  rcases hr with rfl | rfl
  · rcases unwind_of_handed hpathless.definite hhanded with hunwind | hunwind
    · exact ⟨r, hunwind, hlists⟩
    · exact ⟨_, hunwind, hlists.analyzer, hlists.imports⟩
  · have hserved : (s.settled.mark true).about.Pathless :=
      ⟨hpathless.settled.target, hpathless.settled.reference⟩
    rcases unwind_of_handed hserved.definite hhanded with hunwind | hunwind
    · exact ⟨_, hunwind, hlists.analyzer, hlists.imports⟩
    · exact ⟨_, hunwind, hlists.analyzer, hlists.imports⟩

inductive ScopesKept (c c' : Config) : Prop where
  | same (gather : c'.gather = c.gather) (gatherReference : c'.gatherReference = c.gatherReference)
  | unsaid (gather : c'.gather = .scope {}) (gatherReference : c'.gatherReference = .unset)

theorem referenceFiles_congr {w : Surroundings SourceTree} {c c' : Config}
    (hpath : c'.referencePath = c.referencePath) (hgather : c'.gather = c.gather)
    (hreference : c'.gatherReference = c.gatherReference) :
    referenceFiles w c' = referenceFiles w c := by
  simp only [referenceFiles, referenceScope, scopeFor, hpath, hgather, hreference]

theorem gathers_of_scopesKept {d : Disk} {separator : String} {c c' : Config} (h : ScopesKept c c')
    (hpath : c'.referencePath = c.referencePath) (hc : Gathers (d.surroundings separator) c) :
    Gathers (d.surroundings separator) c' := by
  cases h with
  | same hgather hreference =>
      refine ⟨?_, ?_, ?_⟩
      · rw [hgather]
        exact hc.scope
      · rw [hreference]
        exact hc.referenceScope
      · rw [referenceFiles_congr hpath hgather hreference]
        exact hc.files
  | unsaid hgather hreference =>
      refine ⟨⟨_, by rw [hgather]; rfl⟩, ⟨_, by rw [hreference]; rfl⟩, ?_⟩
      obtain ⟨files, hfiles⟩ := hc.files
      have hscope : referenceScope c' = {} := by
        simp only [referenceScope, scopeFor, hgather, hreference]
        rfl
      unfold referenceFiles at hfiles ⊢
      rw [hpath, hscope]
      cases hgiven : Config.given c.referencePath with
      | none => exact ⟨none, rfl⟩
      | some path =>
          rw [hgiven] at hfiles
          obtain ⟨input, hinput, -⟩ := Outcome.map_eq_ok.1 hfiles
          obtain ⟨other, hother⟩ := Disk.gather_unsaid hinput
          exact ⟨some other, Outcome.map_eq_ok.2 ⟨other, hother, rfl⟩⟩

theorem not_leavesOut_of_passes {Tree : Type} {w : Surroundings Tree} {a : Analyzer Tree}
    {c : Config} (h : Passes w c) :
    ¬∃ reason, LeavesOut w a (.ok c) reason := by
  rintro ⟨reason, config, p, hc, hp, hrefuses⟩
  obtain rfl := Except.ok.inj hc
  have hrefusal := refusal_of_passes ((passes_of_unwound hp.unwound).2 h)
  exact absurd (hrefusal.symm.trans (refusal_of_refuses hrefuses)) (by simp)

theorem matches_of_report_eq_of_files (imports : Call) (find c c' : Config) (r : Report)
    (provided : Provided) (store store' : Store)
    (hanalyzer : imports.analyzer = Catalogue.findImports) (hconfig : imports.config = .ok find)
    (hgives : Gives imports r) (hhanded : Handed r provided)
    (h : TwoWays imports.surroundings find c c' provided)
    (hadmitted : ¬∃ reason, LeavesOut imports.surroundings Catalogue.matchImports (.ok c) reason)
    (hstore : store.identifiers Catalogue.matchImports.name = [])
    (hstore' : store'.identifiers Catalogue.matchImports.name = []) :
    (∀ s, (execute imports.surroundings Catalogue.matchImports store (.ok c)).outcome = .ok s →
      (∀ s', (execute imports.surroundings Catalogue.matchImports store' (.ok c')).outcome
        = .ok s' →
        s'.output = s.output)
      ∧ (ScopesKept c c' →
        ((∃ s',
          (execute imports.surroundings Catalogue.matchImports store' (.ok c')).outcome = .ok s')
          ↔ Writes imports.surroundings Catalogue.matchImports c')))
    ∧ (c'.gather = c.gather → c'.gatherReference = c.gatherReference →
      Passes imports.surroundings c →
      Writes imports.surroundings Catalogue.matchImports c →
        Writes imports.surroundings Catalogue.matchImports c' →
      Report.output
        <$> (execute imports.surroundings Catalogue.matchImports store' (.ok c')).outcome
        = Report.output
          <$> (execute imports.surroundings Catalogue.matchImports store (.ok c)).outcome) := by
  -- Both outputs come out as one formula, over the files that the report of imports was made from.
  obtain ⟨t, hunwind, hlists⟩ := listsImports_of_handed hanalyzer hconfig hgives hhanded h
  obtain ⟨files, ⟨external, houtput⟩, hfiles⟩ := outcome_of_files hlists h.onFiles
  have hmeta : referenceMeta imports.surroundings c' = referenceMeta imports.surroundings c := by
    simp only [referenceMeta, h.referencePath, h.referenceResult]
  have hreport := outcome_of_report h.onReport hunwind hlists.analyzer houtput fun m hm =>
    h.externalName m (hmeta ▸ hm)
  have hrun' : (run imports.surroundings Catalogue.matchImports store' c').outcome
      = identify imports.surroundings Catalogue.matchImports c'
        >>= fresh imports.surroundings Catalogue.matchImports :=
    outcome_of_passes (passes_of_no_target h.noPath) hstore'
  simp only [outcome_execute, hrun']
  refine ⟨fun s hs => ?_, fun hgather hgatherReference hpasses hwrites hwrites' => ?_⟩
  · obtain ⟨hdrafted, -⟩ := drafted_of_fresh (fresh_of_run hadmitted hstore hs)
    rw [hdrafted] at hfiles
    obtain ⟨reference, m, hreference, hneeds, hm, hgathers, hs⟩ :=
      matchingOutcome_eq_ok_iff.1 hfiles.symm
    constructor
    · intro s' hs'
      obtain ⟨hdrafted', -⟩ := drafted_of_fresh hs'
      rw [hdrafted'] at hreport
      obtain ⟨_, m', -, -, hm', -, hs'⟩ := matchingOutcome_eq_ok_iff.1 hreport.symm
      rw [hmeta, hm] at hm'
      obtain rfl := Except.ok.inj hm'
      rw [← hs, ← hs']
    · intro hscopes
      have hgathers' := gathers_of_scopesKept hscopes h.referencePath hgathers
      rw [← h.referenceResult] at hreference
      rw [← h.referencePath] at hneeds
      rw [← hmeta] at hm
      rw [matchingOutcome_eq_ok_iff.2 ⟨reference, m, hreference, hneeds, hm, hgathers',
        rfl⟩] at hreport
      obtain ⟨s', hs', -⟩ := Outcome.map_eq_ok.1 hreport
      constructor
      · rintro ⟨r', hr'⟩
        exact (drafted_of_fresh hr').2
      · intro hwrites'
        exact ⟨s', (fresh_of_writes hwrites').trans hs'⟩
  · rw [outcome_of_passes hpasses hstore, fresh_of_writes hwrites, fresh_of_writes hwrites',
      hreport, hfiles]
    simp only [matchingOutcome, h.referencePath, h.referenceResult, hmeta, hgather,
      hgatherReference, referenceFiles_congr h.referencePath hgather hgatherReference]

section Example

theorem exists_made_findImports {d : Disk} {separator path : String} {find : Config} {p : Prepared}
    {input : ProjectInput} {files : Option ProjectInput}
    (hp : Named (d.surroundings separator) Catalogue.findImports find p)
    (hpath : Config.given p.config.targetPath = some path)
    (hinput : (d.surroundings separator).gather path (scopeFor p.config) = .ok input)
    (hfiles : referenceFiles (d.surroundings separator) p.config = .ok files) :
    ∃ r, made (d.surroundings separator) Catalogue.findImports p = .ok r ∧ r.output.Fits 6 := by
  have hreusable : reusable Catalogue.findImports p.config = .ok none := by
    cases hresult : p.config.targetResult <;> simp [reusable, hresult, Catalogue.findImports]
  have hparsed : readFiles Dialect.readScript input.entries
      = .ok (parsedProject Dialect.readScript input.entries) :=
    readFiles_eq_ok_iff.2 ⟨fun f _ => Dialect.readScript_total f.text, rfl⟩
  obtain ⟨r, hr⟩ := report_of_named hp _
  refine ⟨r, ?_, ?_⟩
  · rw [made_of_gathered hreusable hpath, hinput, Outcome.ok_bind, hfiles, Outcome.ok_bind,
      findImports_fromFiles rfl hparsed
        (allNamed_of_readFiles (Disk.named_of_gather hinput) hparsed)]
    exact hr
  · rw [Portable.output_report hr, Matches.findings_importsOutput]
    exact Matches.fits_importsOutput _ _

def noImports : Report :=
  { output := .arr []
    about := {
      analyzer := .str "find-imports"
      dialect := .str "javascript"
      identifier := .str "app_1.0.0"
      configuration := []
      target := some { name := "app", version := "1.0.0" } } }

theorem proper_noImports : noImports.Proper := by
  refine ⟨.arr fun _ h => absurd h List.not_mem_nil, .str _, .str _, .str _,
    Fields.proper_nil, ?_, ?_⟩
  · intro p hp
    obtain rfl := Option.some.inj hp
    exact ⟨fun _ h => absurd h (by simp), fun _ h => absurd h (by simp)⟩
  · exact fun _ h => absurd h (by simp [noImports])

def smallProject : Disk :=
  { tree := { entries := [(["app"], .folder), (["app", "package.json"], .file [0x7b, 0x7d]),
      (["app", "index.js"], .file (Text.Utf8.encode "import a from 'lib';"))] } }

def findInApp : Config := { targetPath := some "/app" }

theorem proper_findInApp : findInApp.Proper where
  gather s hs := by
    obtain rfl := ScopeSetting.scope.inj hs
    exact ⟨fun v hv => List.mem_singleton.1 hv ▸ .str _, fun _ h => absurd h List.not_mem_nil⟩
  gatherReference s hs := absurd hs (by simp [findInApp])
  targetResult p hp := absurd hp (by simp [findInApp])
  referenceResult p hp := absurd hp (by simp [findInApp])
  options := Fields.proper_nil

theorem findImports_mem : Catalogue.findImports ∈ Catalogue.all := List.mem_cons_self

theorem matchImports_mem : Catalogue.matchImports ∈ Catalogue.all := by simp [Catalogue.all]

def appImports : Call :=
  { disk := smallProject
    separator := "/"
    analyzer := Catalogue.findImports
    config := .ok findInApp
    registered := findImports_mem
    proper := fun _ h => Except.ok.inj h ▸ proper_findInApp }

def appMeta : ProjectMeta := { name := "app", version := "0.0.0", path := some (.str "/app") }

structure InApp (p : Prepared) : Prop where
  config : p.config = findInApp
  target : p.target = some appMeta
  reference : p.reference = none
  fits : p.Fits 900

theorem identified_in_app {w : Surroundings SourceTree} {a : Analyzer SourceTree}
    (hvalid : validate a findInApp = .ok ()) (hdescribe : w.describe "/app" = .ok appMeta) :
    ∃ p, Identified w a findInApp p ∧ InApp p := by
  obtain ⟨p, hp, hconfig, htarget, hreference, hfits⟩ :=
    exists_identified (d := 899) (c := findInApp) rfl hvalid
      (Outcome.map_eq_ok.2 ⟨_, hdescribe, rfl⟩) rfl rfl rfl rfl rfl (by decide)
  exact ⟨p, hp, hconfig, htarget, hreference, hfits⟩

theorem identified_appImports :
    ∃ p, Identified appImports.surroundings Catalogue.findImports findInApp p ∧ InApp p :=
  identified_in_app rfl (by rfl)

theorem findImports_new (call : Call) {c : Config} {p : Prepared} (path : String)
    (hanalyzer : call.analyzer = Catalogue.findImports) (hc : call.config = .ok c)
    (hp : Identified call.surroundings Catalogue.findImports c p) (hfits : p.Fits 900)
    (hpath : Config.given p.config.targetPath = some path)
    (hpasses : Passes call.surroundings p.config)
    (hgather : (call.surroundings.gather path (scopeFor p.config)).isOk = true)
    (hfiles : (referenceFiles call.surroundings p.config).isOk = true) :
    ∃ r, (call.run (.values [])).outcome = .ok r ∧ r.about.fromCache = false
      ∧ r.isSkipped = false := by
  obtain ⟨input, hinput⟩ := Outcome.isOk_iff.1 hgather
  obtain ⟨files, hfiles⟩ := Outcome.isOk_iff.1 hfiles
  obtain ⟨r, hmade, houtput⟩ := exists_made_findImports hp.toNamed hpath hinput hfiles
  have hwritable := (fits_made hfits hmade (houtput.mono (by decide))).writable (by decide)
  have hfresh := fresh_eq_ok_iff.2 ⟨hmade, hwritable⟩
  have hnone : cached (.values []) (Survey.key Catalogue.findImports p) = .ok none := rfl
  obtain ⟨houtcome, -⟩ := run_of_fresh (identify_eq_ok_iff.2 hp) (refusal_of_passes hpasses) hnone
  obtain ⟨items, hitems⟩ :=
    isList_fresh (Catalogue.listsFindings (hanalyzer ▸ call.registered)) hfresh
  refine ⟨r, ?_, fromCache_fresh hfresh, by simp [Report.isSkipped, Report.skipReason, hitems]⟩
  rw [Call.outcome_run hc, hanalyzer, ← hfresh]
  exact houtcome

theorem appImports_new :
    ∃ r, (appImports.run (.values [])).outcome = .ok r ∧ r.about.fromCache = false
      ∧ r.isSkipped = false := by
  obtain ⟨p, hp, happ⟩ := identified_appImports
  apply findImports_new appImports "/app" rfl rfl hp happ.fits
  · rw [happ.config]
    rfl
  · rw [happ.config]
    exact passes_of_no_reference rfl
  · rw [happ.config]
    decide +kernel
  · rw [happ.config]
    rfl

def matchInApp :
    Config := { targetPath := some "/app", referenceResult := some (.report noImports) }

def matchBetween (r s : Report) : Config :=
  { targetResult := some (.report r), referenceResult := some (.report s) }

theorem twoWays_in_app (r : Report) :
    TwoWays appImports.surroundings findInApp matchInApp (matchBetween r noImports)
      (.report r) where
  sameFiles := ⟨rfl, rfl, rfl⟩
  onFiles := rfl
  onReport := rfl
  noPath := rfl
  referencePath := rfl
  referenceResult := rfl
  externalName m hm := by
    obtain rfl := Option.some.inj (Except.ok.inj hm)
    show Imports.isRelative "app" = false
    decide +kernel

theorem of_appImports {r : Report} (hr : (appImports.run (.values [])).outcome = .ok r)
    (hnew : r.about.fromCache = false) (hfound : r.isSkipped = false) :
    r.Fits 901 ∧ r.about.target = some appMeta.withoutPath := by
  obtain ⟨c, p, hc, hp, -, hfresh, -⟩ := fresh_of_new hr hnew hfound
  obtain rfl := Except.ok.inj hc
  obtain ⟨q, hq, happ⟩ := identified_appImports
  obtain rfl := Except.ok.inj ((identify_eq_ok_iff.2 hp).symm.trans (identify_eq_ok_iff.2 hq))
  obtain ⟨hmade, -⟩ := fresh_eq_ok_iff.1 hfresh
  obtain ⟨p', output, hcollect, -, hreport⟩ := made_eq_ok hmade
  obtain ⟨files, rfl⟩ := collect_files hcollect
  obtain ⟨_, _, _, _, _, _, -, -, -, -, -, -, houtput⟩ :=
    (listsImports_of_made (c := findInApp) ⟨rfl, rfl, rfl⟩ hp.toNamed hmade).imports
  constructor
  · refine fits_made happ.fits hmade ?_
    rw [houtput]
    exact (Matches.fits_importsOutput _ _).mono (by decide)
  · obtain ⟨fields, -, rfl⟩ := Portable.report_eq_ok hreport
    show p.target.map (·.withoutPath) = _
    rw [happ.target]
    rfl

theorem fits_of_matchingOutcome {w : Surroundings SourceTree} {c : Config} {r : Report}
    {files : List (String × List Imports.Entry)} (hr : drafted w Catalogue.matchImports c = .ok r)
    (h : Report.output <$> drafted w Catalogue.matchImports c
      = matchingOutcome w c fun m => Matches.matchesOutput m files) : r.output.Fits 6 := by
  rw [hr] at h
  obtain ⟨_, m, -, -, -, -, houtput⟩ := matchingOutcome_eq_ok_iff.1 h.symm
  rw [← houtput]
  exact Matches.fits_matchesOutput m files

theorem writes_matchInApp {r : Report} (hgives : Gives appImports r) :
    Writes appImports.surroundings Catalogue.matchImports matchInApp := by
  obtain ⟨t, -, hlists⟩ := listsImports_of_handed rfl rfl hgives .asReport (twoWays_in_app r)
  obtain ⟨files, -, hfiles⟩ := outcome_of_files hlists rfl
  refine writes_of_fits (d := 900) (by decide) (fun p hp => ?_) fun s hs => ?_
  · have hconfig : p.config = matchInApp := (Except.ok.inj hp.unwound).symm
    have htarget := hp.target
    have hreference := hp.reference
    rw [hconfig] at htarget hreference
    refine ⟨⟨_, by rw [hconfig]; rfl, ?_⟩, ?_, ?_⟩
    · rfl
    · rw [← Except.ok.inj htarget]
      rfl
    · rw [← Except.ok.inj hreference]
      rfl
  · exact (fits_of_matchingOutcome hs hfiles).mono (by decide)

structure Small (r : Report) : Prop where
  fits : r.Fits 901
  new : r.about.fromCache = false
  target : (Identity.projectSeed r.about.target).Fits 900

theorem small_noImports : Small noImports := ⟨⟨rfl, rfl⟩, rfl, rfl⟩

theorem small_of_appImports {r : Report} (hr : (appImports.run (.values [])).outcome = .ok r)
    (hnew : r.about.fromCache = false) (hfound : r.isSkipped = false) : Small r := by
  obtain ⟨hfits, htarget⟩ := of_appImports hr hnew hfound
  refine ⟨hfits, hnew, ?_⟩
  rw [htarget]
  rfl

theorem fits_matchBetween {w : Surroundings SourceTree} {r s : Report} (hr : Small r) (hs : Small s)
    {p : Prepared} (hp : Named w Catalogue.matchImports (matchBetween r s) p) : p.Fits 904 := by
  have hconfig : p.config = matchBetween r s := (Except.ok.inj hp.unwound).symm
  have htarget := hp.target
  have hreference := hp.reference
  rw [hconfig] at htarget hreference
  refine ⟨⟨_, by rw [hconfig]; rfl, ?_⟩, ?_, ?_⟩
  · refine Json.fits_obj.2 ?_
    exact List.forall_mem_cons.2
      ⟨rfl, List.forall_mem_cons.2 ⟨(hr.fits.portable hr.new).mono (by decide),
        List.forall_mem_cons.2 ⟨(hs.fits.portable hs.new).mono (by decide), fun _ h =>
          absurd h List.not_mem_nil⟩⟩⟩
  · rw [← Except.ok.inj htarget]
    exact hr.target.mono (by decide)
  · rw [← Except.ok.inj hreference]
    exact hs.target.mono (by decide)

theorem writes_matchBetween {w : Surroundings SourceTree} {r s : Report} (hr : Small r)
    (hs : Small s) {files : List (String × List Imports.Entry)}
    (h : Report.output <$> drafted w Catalogue.matchImports (matchBetween r s)
      = matchingOutcome w (matchBetween r s) fun m => Matches.matchesOutput m files) :
    Writes w Catalogue.matchImports (matchBetween r s) :=
  writes_of_fits (d := 903) (by decide) (fun _ hp => fits_matchBetween hr hs hp) fun _ hdrafted =>
    (fits_of_matchingOutcome hdrafted h).mono (by decide)

theorem writes_matchReported {r : Report} (hr : (appImports.run (.values [])).outcome = .ok r)
    (hnew : r.about.fromCache = false) (hfound : r.isSkipped = false) :
    Writes appImports.surroundings Catalogue.matchImports (matchBetween r noImports) := by
  obtain ⟨t, hunwind, hlists⟩ :=
    listsImports_of_handed rfl rfl (.new hr hnew hfound) .asReport (twoWays_in_app r)
  obtain ⟨files, ⟨external, houtput⟩, -⟩ := outcome_of_files hlists rfl
  exact writes_matchBetween (small_of_appImports hr hnew hfound) small_noImports
    (outcome_of_report (c := matchBetween r noImports) rfl hunwind hlists.analyzer houtput
      (twoWays_in_app r).externalName)

theorem matchInApp_ok {r : Report} (hgives : Gives appImports r) :
    ∃ s, (execute appImports.surroundings Catalogue.matchImports (.values [])
      (.ok matchInApp)).outcome = .ok s := by
  obtain ⟨t, -, hlists⟩ := listsImports_of_handed rfl rfl hgives .asReport (twoWays_in_app r)
  obtain ⟨files, -, hfiles⟩ := outcome_of_files hlists rfl
  have hpasses : Passes appImports.surroundings matchInApp := passes_of_no_reference rfl
  have hgathers : Gathers appImports.surroundings matchInApp := ⟨⟨_, rfl⟩, ⟨_, rfl⟩, ⟨none, rfl⟩⟩
  rw [matchingOutcome_eq_ok_iff.2 ⟨some noImports, _, rfl, rfl, rfl, hgathers, rfl⟩] at hfiles
  obtain ⟨s, hs, -⟩ := Outcome.map_eq_ok.1 hfiles
  refine ⟨s, ?_⟩
  rw [outcome_execute, outcome_of_passes hpasses rfl,
    fresh_of_writes (writes_matchInApp hgives), hs]

theorem matches_of_report_eq_of_files_in_app : ∃ r s s', Gives appImports r
    ∧ (execute appImports.surroundings Catalogue.matchImports (.values []) (.ok matchInApp)).outcome
    = .ok s
    ∧ (execute appImports.surroundings Catalogue.matchImports (.values [])
      (.ok (matchBetween r noImports))).outcome = .ok s'
    ∧ s'.output = s.output := by
  obtain ⟨r, hr, hnew, hfound⟩ := appImports_new
  have hgives : Gives appImports r := .new hr hnew hfound
  obtain ⟨s, hs⟩ := matchInApp_ok hgives
  have h :=
    matches_of_report_eq_of_files appImports findInApp matchInApp (matchBetween r noImports) r
        (.report r) (.values [])
      (.values []) rfl rfl hgives .asReport (twoWays_in_app r)
      (not_leavesOut_of_passes (passes_of_no_reference rfl)) rfl rfl
  obtain ⟨s', hs'⟩ := ((h.1 s hs).2 (.same rfl rfl)).2 (writes_matchReported hr hnew hfound)
  exact ⟨r, s, s', hgives, hs, hs', (h.1 s hs).1 s' hs'⟩

end Example

end Session

end CodeSurvey
