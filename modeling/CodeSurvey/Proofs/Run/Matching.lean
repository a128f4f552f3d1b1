import CodeSurvey.Proofs.Analysis.Reading
import CodeSurvey.Proofs.Analysis.Upstream
import CodeSurvey.Proofs.Run.Fields
import CodeSurvey.Proofs.Run.Session
import CodeSurvey.Proofs.Run.Writable

namespace CodeSurvey

namespace Survey

variable {Tree : Type} {w : Surroundings Tree} {a : Analyzer Tree} {store : Store} {c : Config}
  {p : Prepared}

theorem outcome_run_of_unkept
    (hpasses : ∀ p, identify w a c = .ok p → (refusal w p.config).outcome = .ok none)
    (hcached : ∀ p, identify w a c = .ok p → cached store (key a p) = .ok none) :
    (run w a store c).outcome = identify w a c >>= fresh w a := by
  cases hp : identify w a c with
  | error f => exact (run_of_identify_error hp).1
  | ok p => exact (run_of_fresh hp (hpasses p hp) (hcached p hp)).1

theorem passes_of_unwound {u : Config} (h : c.unwound = .ok u) : Passes w u ↔ Passes w c := by
  obtain ⟨_, _, -, -, rfl⟩ := Config.unwound_eq h
  exact Iff.rfl

theorem reusable_of_none (h : c.targetResult = none) : reusable a c = .ok none := by
  unfold reusable
  rw [h]

theorem made_of_gathered (hreusable : reusable a p.config = .ok none) {path : String}
    (hpath : Config.given p.config.targetPath = some path) : made w a p = (do
      let input ← w.gather path (scopeFor p.config)
      let _ ← referenceFiles w p.config
      let output ← (fromFiles w a p input).outcome
      reportOf w a p output) := by
  have hfiles : filesFor w p.config none = some <$> w.gather path (scopeFor p.config) := by
    unfold filesFor
    rw [hpath]
  rw [made, outcome_collect, hreusable, Outcome.ok_bind, hfiles]
  cases w.gather path (scopeFor p.config) with
  | error f => rfl
  | ok input =>
      rw [Outcome.map_ok, Outcome.ok_bind, Outcome.ok_bind]
      cases referenceFiles w p.config with
      | error f => rfl
      | ok files =>
          have htraverse : (traverse w a { p with files := some input }).outcome
              = (fromFiles w a p input).outcome := by
            rw [traverse_of_files (p := { p with files := some input }) hreusable rfl,
              fromFiles_with_files]
          rw [Outcome.ok_bind, Outcome.ok_bind, Outcome.pure_eq, Outcome.ok_bind,
            outcome_produce, htraverse]
          rfl

theorem made_of_files (hresult : p.config.targetResult = none) {path : String}
    (hpath : Config.given p.config.targetPath = some path) : made w a p = (do
      let input ← w.gather path (scopeFor p.config)
      let _ ← referenceFiles w p.config
      let output ← (fromFiles w a p input).outcome
      reportOf w a p output) :=
  made_of_gathered (reusable_of_none hresult) hpath

theorem made_of_report {r : Report} (hreusable : reusable a p.config = .ok (some r))
    {rule : Report → Option ProjectMeta → Except Fault Json} (hrule : a.fromReport = some rule) :
    made w a p = (do
      let _ ← referenceFiles w p.config
      let output ← rule r p.reference
      reportOf w a p output) := by
  have hfiles : filesFor w p.config (some r) = .ok none := by
    unfold filesFor
    split
    · rename_i heq
      exact absurd heq (by simp)
    · rfl
  rw [made, outcome_collect, hreusable, Outcome.ok_bind, hfiles, Outcome.ok_bind]
  cases referenceFiles w p.config with
  | error f => rfl
  | ok files =>
      have htraverse : (traverse w a { p with files := none }).outcome = rule r p.reference :=
        traverse_of_report (p := { p with files := none }) hreusable hrule
      rw [Outcome.ok_bind, Outcome.ok_bind, Outcome.pure_eq, Outcome.ok_bind,
        outcome_produce, htraverse]
      rfl

def importsOf (w : Surroundings SourceTree) (root : String) (files : List (ParsedFile SourceTree)) :
    List (String × List Imports.Entry) :=
  files.map fun f =>
    (Path.fromRoot w.folder f.file root,
      Imports.collect f.tree.root (Path.fromRoot w.folder f.file root))

def onlyExternal (options : Fields) : Bool :=
  !((options.get? "onlyExternalSources").getD .null).isEmpty

def AllNamed (files : List (ParsedFile Tree)) : Prop := ∀ f ∈ files, f.file.isEmpty = false

theorem allNamed_of_mapM {files : List (ParsedFile Tree)} {project : ProjectMeta} {root : String}
    {found : List (String × Findings)}
    (h : files.mapM (findingsIn w a p project root) = .ok found) :
    AllNamed files := by
  rw [Outcome.mapM_eq_ok_iff] at h
  induction h with
  | nil => exact fun _ hf => absurd hf List.not_mem_nil
  | cons hfirst _ ih =>
      refine List.forall_mem_cons.2 ⟨?_, ih⟩
      obtain ⟨hname, -⟩ := findingsIn_eq_ok_iff.1 hfirst
      exact (Path.nameFromRoot_eq_ok_iff.1 hname).1

theorem allNamed_of_readFiles {reader : SourceReader Tree} {entries : List SourceFile}
    {parsed : ParsedProject Tree} (hentries : ∀ f ∈ entries, f.file.isEmpty = false)
    (h : readFiles reader entries = .ok parsed) :
    AllNamed parsed.entries := by
  obtain ⟨-, rfl⟩ := readFiles_eq_ok_iff.1 h
  intro e he
  obtain ⟨f, hf, hparsed⟩ := List.mem_filterMap.1 he
  obtain ⟨hfile, -⟩ := parsedFile_eq_some hparsed
  rw [hfile]
  exact hentries f hf

theorem mapM_findImports {w : Surroundings SourceTree} {files : List (ParsedFile SourceTree)}
    (hnamed : AllNamed files) (p : Prepared) (project : ProjectMeta) (root : String) :
    files.mapM (findingsIn w Catalogue.findImports p project root)
      = .ok ((importsOf w root files).map fun file =>
        (file.1, Matches.imported (onlyExternal p.config.options) file.2)) := by
  rw [importsOf, List.map_map]
  refine Outcome.mapM_ok fun f hf => ?_
  rw [findingsIn, Path.nameFromRoot_eq_ok_iff.2 ⟨hnamed f hf, rfl⟩]
  rfl

theorem mapM_matchImports {w : Surroundings SourceTree} {files : List (ParsedFile SourceTree)}
    (hnamed : AllNamed files) (p : Prepared) (project : ProjectMeta) (root : String) :
    files.mapM (findingsIn w Catalogue.matchImports p project root)
      = .ok ((importsOf w root files).map fun file =>
        (file.1, Matches.matchedIfAny p.reference file.2)) := by
  rw [importsOf, List.map_map]
  refine Outcome.mapM_ok fun f hf => ?_
  rw [findingsIn, Path.nameFromRoot_eq_ok_iff.2 ⟨hnamed f hf, rfl⟩]
  simp only [Catalogue.matchImports, Matches.inFile]
  cases p.reference <;> rfl

section FromFiles

variable {w : Surroundings SourceTree} {input : ProjectInput} {reader : SourceReader SourceTree}
  {parsed : ParsedProject SourceTree}

theorem findImports_fromFiles (hreader : w.readerFor Catalogue.scriptDialect = .ok reader)
    (hparsed : readFiles reader input.entries = .ok parsed) (hnamed : AllNamed parsed.entries) :
    (fromFiles w Catalogue.findImports p input).outcome
      = .ok (Matches.importsOutput (onlyExternal p.config.options)
        (importsOf w (rootOf p.config input.project) parsed.entries)) := by
  have hreader' : w.readerFor Catalogue.findImports.dialect = .ok reader := hreader
  simp only [outcome_fromFiles, hreader', Outcome.ok_bind, hparsed, mapM_findImports hnamed]
  rfl

theorem findImports_fromFiles_eq_ok {output : Json}
    (h : (fromFiles w Catalogue.findImports p input).outcome = .ok output) :
    ∃ reader parsed, w.readerFor Catalogue.scriptDialect = .ok reader
      ∧ readFiles reader input.entries = .ok parsed
      ∧ AllNamed parsed.entries ∧ output = Matches.importsOutput (onlyExternal p.config.options)
        (importsOf w (rootOf p.config input.project) parsed.entries) := by
  rw [outcome_fromFiles] at h
  obtain ⟨reader, hreader, h⟩ := Outcome.bind_eq_ok.1 h
  obtain ⟨parsed, hparsed, h⟩ := Outcome.bind_eq_ok.1 h
  obtain ⟨found, hfound, h⟩ := Outcome.bind_eq_ok.1 h
  have hnamed := allNamed_of_mapM hfound
  rw [mapM_findImports hnamed] at hfound
  obtain rfl := Except.ok.inj hfound
  exact ⟨reader, parsed, hreader, hparsed, hnamed, (Except.ok.inj h).symm⟩

theorem matchImports_fromFiles (hreader : w.readerFor Catalogue.scriptDialect = .ok reader)
    (hparsed : readFiles reader input.entries = .ok parsed) (hnamed : AllNamed parsed.entries) :
    (fromFiles w Catalogue.matchImports p input).outcome
      = .ok (Matches.matchesOutput p.reference
        (importsOf w (rootOf p.config input.project) parsed.entries)) := by
  have houtput (files : List (String × List Imports.Entry)) :
      outputOf (files.map fun file => (file.1, Matches.matchedIfAny p.reference file.2))
        = Matches.matchesOutput p.reference files := by
    cases p.reference with
    | none =>
        rw [Matches.outputOf_map (Matches.matchedIfAny none)]
        simp [Matches.matchesOutput, Matches.matchedIfAny]
    | some reference => rfl
  have hreader' : w.readerFor Catalogue.matchImports.dialect = .ok reader := hreader
  simp only [outcome_fromFiles, hreader', Outcome.ok_bind, hparsed,
    mapM_matchImports hnamed, houtput]
  rfl

end FromFiles

section Drafts

def drafted (w : Surroundings Tree) (a : Analyzer Tree) (c : Config) : Except Fault Report :=
  named w a c >>= made w a

structure Writes (w : Surroundings Tree) (a : Analyzer Tree) (c : Config) : Prop where
  seed : ∀ p, Named w a c p → Identity.checkWritable p.target p.reference p.config = .ok ()
  report : ∀ r, drafted w a c = .ok r → r.toWrapped.checkWritable = .ok ()

theorem drafted_of_fresh {r : Report} (h : identify w a c >>= fresh w a = .ok r) :
    drafted w a c = .ok r ∧ Writes w a c := by
  obtain ⟨p, hp, hfresh⟩ := Outcome.bind_eq_ok.1 h
  obtain ⟨hmade, hwritable⟩ := fresh_eq_ok_iff.1 hfresh
  have hidentified := identify_eq_ok_iff.1 hp
  have hdrafted : drafted w a c = .ok r :=
    Outcome.bind_eq_ok.2 ⟨p, named_eq_ok_iff.2 hidentified.toNamed, hmade⟩
  refine ⟨hdrafted, fun q hq => ?_, fun s hs => ?_⟩
  · obtain rfl :=
      Except.ok.inj ((named_eq_ok_iff.2 hq).symm.trans (named_eq_ok_iff.2 hidentified.toNamed))
    exact hidentified.writable
  · obtain rfl := Except.ok.inj (hs.symm.trans hdrafted)
    exact hwritable

theorem fresh_of_writes (h : Writes w a c) : identify w a c >>= fresh w a = drafted w a c := by
  unfold drafted
  cases hp : named w a c with
  | error f =>
      rw [identify, hp]
      rfl
  | ok p =>
      have hnamed := named_eq_ok_iff.1 hp
      rw [identify_eq_ok_iff.2 ⟨hnamed, h.seed p hnamed⟩, Outcome.ok_bind, Outcome.ok_bind]
      cases hr : made w a p with
      | error f =>
          rw [fresh, hr]
          rfl
      | ok r => exact fresh_eq_ok_iff.2 ⟨hr, h.report r (by rw [drafted, hp]; exact hr)⟩

theorem writes_of_fits {d : Nat} (hd : d + 4 ≤ Json.assumedDepth)
    (hfits : ∀ p, Named w a c p → p.Fits (d + 1))
    (houtput : ∀ r, drafted w a c = .ok r → r.output.Fits (d + 1)) : Writes w a c := by
  refine ⟨fun p hp => checkWritable_of_fits (hfits p hp) (by omega), fun r hr => ?_⟩
  obtain ⟨p, hp, hmade⟩ := Outcome.bind_eq_ok.1 hr
  exact (fits_made (hfits p (named_eq_ok_iff.1 hp)) hmade (houtput r hr)).writable hd

end Drafts

section Formula

def HasTarget (a : Analyzer Tree) (c : Config) : Prop :=
  (∃ path, Config.given c.targetPath = some path)
  ∨ ∃ provided r, c.targetResult = some provided ∧ reusable a c = .ok (some r)

theorem validate_of_hasTarget (h : HasTarget a c) : validate a c =
    if a.requiresReference && (Config.given c.referencePath).isNone && c.referenceResult.isNone
    then .error (.setup (.noReference a.name)) else .ok () := by
  unfold validate
  rcases h with ⟨path, hpath⟩ | ⟨provided, r, hprovided, hreusable⟩
  · rw [hpath]
    rfl
  · rw [hprovided, hreusable]
    cases Config.given c.targetPath <;> rfl

def matchingOutcome (w : Surroundings SourceTree) (c : Config)
    (output : Option ProjectMeta → Json) :
    Except Fault Json := do
  let reference ← c.referenceResult.mapM Provided.unwind
  if (Config.given c.referencePath).isNone && reference.isNone then
    .error (.setup (.noReference Catalogue.matchImports.name))
  else do
    let m ← referenceMeta w c
    let _ ← c.gather.toJson?
    let _ ← c.gatherReference.toJson?
    let _ ← referenceFiles w c
    return output m

structure Gathers (w : Surroundings SourceTree) (c : Config) : Prop where
  scope : ∃ value, c.gather.toJson? = .ok value
  referenceScope : ∃ value, c.gatherReference.toJson? = .ok value
  files : ∃ files, referenceFiles w c = .ok files

theorem matchingOutcome_eq_ok_iff {w : Surroundings SourceTree} {c : Config}
    {output : Option ProjectMeta → Json} {v : Json} : matchingOutcome w c output = .ok v
      ↔ ∃ reference m, c.referenceResult.mapM Provided.unwind = .ok reference
      ∧ ((Config.given c.referencePath).isNone && reference.isNone) = false
      ∧ referenceMeta w c = .ok m ∧ Gathers w c ∧ output m = v := by
  unfold matchingOutcome
  constructor
  · intro h
    obtain ⟨reference, hreference, h⟩ := Outcome.bind_eq_ok.1 h
    split at h
    · exact absurd h (by simp)
    · rename_i hneeds
      obtain ⟨m, hm, h⟩ := Outcome.bind_eq_ok.1 h
      obtain ⟨gather, hgather, h⟩ := Outcome.bind_eq_ok.1 h
      obtain ⟨gatherReference, hgatherReference, h⟩ := Outcome.bind_eq_ok.1 h
      obtain ⟨files, hfiles, h⟩ := Outcome.bind_eq_ok.1 h
      exact ⟨reference, m, hreference, Bool.eq_false_iff.2 hneeds, hm,
        ⟨⟨_, hgather⟩, ⟨_, hgatherReference⟩, ⟨_, hfiles⟩⟩, Except.ok.inj h⟩
  · rintro ⟨reference, m, hreference, hneeds, hm,
      ⟨⟨_, hgather⟩, ⟨_, hgatherReference⟩, ⟨_, hfiles⟩⟩, rfl⟩
    simp only [hreference, Outcome.ok_bind, hneeds, hm, hgather, hgatherReference, hfiles,
      Bool.false_eq_true, if_false]
    rfl

theorem referenceMeta_unwound {reference : Option Report} {targets : Option Provided}
    (h : c.referenceResult.mapM Provided.unwind = .ok reference) :
    referenceMeta w { c with targetResult := targets, referenceResult := reference.map .report }
      = referenceMeta w c := by
  unfold referenceMeta
  cases hresult : c.referenceResult with
  | none =>
      rw [hresult] at h
      obtain rfl := Except.ok.inj h
      rfl
  | some provided =>
      rw [hresult] at h
      obtain ⟨r, hr, rfl⟩ := Outcome.map_eq_ok.1 h
      simp only [Option.map_some, hr, Outcome.ok_bind]
      rfl

theorem derive_of_toFields {fields : Fields} (h : c.toFields = .ok fields)
    (target reference : Option ProjectMeta) :
    Identity.derive target reference c
      = .ok (Identity.ofSeed target reference (Identity.seedOf target reference fields)) := by
  simp only [Identity.derive, Identity.seed, h, Outcome.ok_bind]
  rfl

theorem exists_identified {u : Config} {t r : Option ProjectMeta} {fields : Fields} {d : Nat}
    (hunwound : c.unwound = .ok u) (hvalid : validate a u = .ok ())
    (htarget : targetMeta w u = .ok t) (hreference : referenceMeta w u = .ok r)
    (hfields : u.toFields = .ok fields)
    (hfits : (Json.obj (Config.withoutPaths fields)).Fits (d + 1))
    (hfits₁ : (Identity.projectSeed t).Fits (d + 1))
    (hfits₂ : (Identity.projectSeed r).Fits (d + 1)) (hd : d + 2 ≤ Json.assumedDepth) :
    ∃ p, Identified w a c p ∧ p.config = u ∧ p.target = t ∧ p.reference = r ∧ p.Fits (d + 1) := by
  have hsettings : u.settings = .ok (Config.withoutPaths fields) := by
    rw [Config.settings, hfields]
    rfl
  have hp :
      (Prepared.mk u (Identity.ofSeed t r (Identity.seedOf t r fields)) t r none).Fits (d + 1) :=
    ⟨⟨_, hsettings, hfits⟩, hfits₁, hfits₂⟩
  exact ⟨_, ⟨⟨hunwound, hvalid, htarget, hreference, derive_of_toFields hfields t r, rfl⟩,
    checkWritable_of_fits hp hd⟩, rfl, rfl, rfl, hp⟩

theorem output_of_validated {c u : Config} {target reference : Option Report}
    (hunwound : c.unwound = .ok u)
    (hu : u =
      { c with targetResult := target.map .report, referenceResult := reference.map .report })
    (hvalid : validate a u = .ok ()) {tm : Option ProjectMeta} (htm : targetMeta w u = .ok tm)
    (output : Option ProjectMeta → Json) (hmade : ∀ p, Named w a c p → made w a p = (do
      let _ ← referenceFiles w p.config
      reportOf w a p (output p.reference))) :
    Report.output <$> drafted w a c = (do
      let m ← referenceMeta w u
      let _ ← c.gather.toJson?
      let _ ← c.gatherReference.toJson?
      let _ ← referenceFiles w c
      return Portable.findings w.separator (output m)) := by
  have hfields : u.toFields = (do
      let gather ← c.gather.toJson?
      let gatherReference ← c.gatherReference.toJson?
      return u.build gather gatherReference (target.map Report.portable)
          (reference.map Report.portable)) := by
    rw [hu]
    exact Config.toFields_of_reports rfl rfl
  have hfiles : referenceFiles w u = referenceFiles w c := by
    rw [hu]
    rfl
  rw [drafted]
  cases hm : referenceMeta w u with
  | error f =>
      simp only [named, hunwound, Outcome.ok_bind, hvalid, htm, hm, Outcome.error_bind,
        Outcome.map_error]
  | ok m =>
      cases hgather : c.gather.toJson? with
      | error f =>
          rw [hgather, Outcome.error_bind] at hfields
          simp only [named, hunwound, Outcome.ok_bind, hvalid, htm, hm, Identity.derive,
            Identity.seed, hfields, Outcome.error_bind, Outcome.map_error]
      | ok gather =>
          cases hgatherReference : c.gatherReference.toJson? with
          | error f =>
              rw [hgather, hgatherReference, Outcome.ok_bind, Outcome.error_bind] at hfields
              simp only [named, hunwound, Outcome.ok_bind, hvalid, htm, hm, Identity.derive,
                Identity.seed, hfields, Outcome.error_bind, Outcome.map_error]
          | ok gatherReference =>
              rw [hgather, hgatherReference, Outcome.ok_bind, Outcome.ok_bind] at hfields
              have hp : Named w a c (Prepared.mk u _ tm m none) :=
                ⟨hunwound, hvalid, htm, hm, derive_of_toFields hfields tm m, rfl⟩
              rw [named_eq_ok_iff.2 hp, Outcome.ok_bind, hmade _ hp, hfiles]
              cases referenceFiles w c with
              | error f => rfl
              | ok files =>
                  obtain ⟨r, hr⟩ := report_of_named hp (output m)
                  simp only [Outcome.ok_bind, hr, Outcome.map_ok, Portable.output_report hr]
                  rfl

theorem outcome_matching {w : Surroundings SourceTree} {c : Config} {target : Option Report}
    (htarget : c.targetResult.mapM Provided.unwind = .ok target)
    (hhas : ∀ u, c.unwound = .ok u → HasTarget Catalogue.matchImports u)
    (hmeta : ∀ u, c.unwound = .ok u → ∃ m, targetMeta w u = .ok m)
    (output : Option ProjectMeta → Json)
    (hmade : ∀ p, Named w Catalogue.matchImports c p → made w Catalogue.matchImports p = (do
      let _ ← referenceFiles w p.config
      reportOf w Catalogue.matchImports p (output p.reference))) :
    Report.output <$> drafted w Catalogue.matchImports c
      = matchingOutcome w c fun m => Portable.findings w.separator (output m) := by
  -- The provided reports are read before anything else, even before the reference is missed.
  cases hreference : c.referenceResult.mapM Provided.unwind with
  | error f =>
      have hunwound : c.unwound = .error f := by
        rw [Config.unwound, htarget, hreference]
        rfl
      rw [drafted, named, hunwound, matchingOutcome, hreference]
      rfl
  | ok reference =>
      have hunwound : c.unwound = .ok { c with
          targetResult := target.map .report
          referenceResult := reference.map .report } := by
        rw [Config.unwound, htarget, hreference]
        rfl
      have hvalid := validate_of_hasTarget (hhas _ hunwound)
      obtain ⟨tm, htm⟩ := hmeta _ hunwound
      have hneeds :
          (Catalogue.matchImports.requiresReference && (Config.given c.referencePath).isNone
          && (reference.map Provided.report).isNone)
            = ((Config.given c.referencePath).isNone && reference.isNone) := by
        cases reference <;> rfl
      simp only [hneeds] at hvalid
      rw [matchingOutcome, hreference, Outcome.ok_bind]
      split
      · rename_i hmissing
        rw [if_pos hmissing] at hvalid
        rw [drafted, named, hunwound, Outcome.ok_bind, hvalid]
        rfl
      · rename_i hgiven
        rw [if_neg hgiven] at hvalid
        rw [output_of_validated hunwound rfl hvalid htm output hmade,
          referenceMeta_unwound hreference]

end Formula

end Survey

end CodeSurvey
