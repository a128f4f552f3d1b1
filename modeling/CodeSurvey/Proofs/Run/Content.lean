import CodeSurvey.Proofs.Analysis.Alike
import CodeSurvey.Proofs.Report.Content
import CodeSurvey.Proofs.Run.Agreement
import CodeSurvey.Proofs.Run.Relocation

namespace CodeSurvey

namespace Config

def content (c : Config) : Config :=
  { c with
    targetResult := c.targetResult.map Provided.content
    referenceResult := c.referenceResult.map Provided.content }

theorem content_content (c : Config) : c.content.content = c.content := by
  simp only [content, Option.map_map, Function.comp_def, Provided.content_content]

theorem mapM_portable_content (p : Option Provided) :
    (p.map Provided.content).mapM Provided.portable = p.mapM Provided.portable := by
  cases p with
  | none => rfl
  | some p => exact congrArg (some <$> ·) p.portable_content

theorem toFields_content (c : Config) : c.content.toFields = c.toFields := by
  rw [toFields_eq, toFields_eq, content, mapM_portable_content, mapM_portable_content]
  rfl

theorem settings_content (c : Config) : c.content.settings = c.settings := by
  rw [settings, settings, toFields_content]

end Config

namespace ProjectMeta

theorem sameName_map_settled {p : Option ProjectMeta} : SameName (p.map settled) p := by
  rw [SameName, Option.map_map]
  rfl

end ProjectMeta

namespace Identity

theorem projectSeed_settled (p : Option ProjectMeta) :
    projectSeed (p.map ProjectMeta.settled) = projectSeed p := by
  cases p with
  | none => rfl
  | some m => exact m.withoutPath.toJson_settled

theorem label_settled (target reference : Option ProjectMeta) :
    label (target.map ProjectMeta.settled) (reference.map ProjectMeta.settled)
      = label target reference := by
  cases target <;> cases reference <;> rfl

theorem seed_content (target reference : Option ProjectMeta) (c : Config) :
    seed (target.map ProjectMeta.settled) (reference.map ProjectMeta.settled) c.content
      = seed target reference c := by
  simp only [seed, seedOf, Config.toFields_content, projectSeed_settled]

theorem derive_content (target reference : Option ProjectMeta) (c : Config) :
    derive (target.map ProjectMeta.settled) (reference.map ProjectMeta.settled) c.content
      = derive target reference c := by
  simp only [derive, seed_content, ofSeed, label_settled]

theorem checkWritable_content (target reference : Option ProjectMeta) (c : Config) :
    checkWritable (target.map ProjectMeta.settled) (reference.map ProjectMeta.settled) c.content
      = checkWritable target reference c := by
  rw [checkWritable, checkWritable, seed_content]

end Identity

def FileContext.settled (x : FileContext) : FileContext :=
  { x with project := x.project.settled, reference := x.reference.map ProjectMeta.settled }

namespace Analyzer

variable {Tree : Type} {a : Analyzer Tree}

structure TakesContent (a : Analyzer Tree) : Prop where
  inFile : ∀ tree (x : FileContext), a.inFile tree x.settled = a.inFile tree x
  fromReport : ∀ rule, a.fromReport = some rule → ∀ (r : Report) (reference : Option ProjectMeta),
    rule r.content (reference.map ProjectMeta.settled) = rule r reference

theorem TakesContent.inFile_eq (ha : a.TakesContent) (tree : Tree) {x y : FileContext}
    (h : x.settled = y.settled) :
    a.inFile tree x = a.inFile tree y := by
  rw [← ha.inFile tree x, h, ha.inFile tree y]

theorem TakesContent.rule_eq (ha : a.TakesContent)
    {rule : Report → Option ProjectMeta → Except Fault Json} (hrule : a.fromReport = some rule)
    {r s : Report} (h : r.content = s.content) {reference other : Option ProjectMeta}
    (hreference : reference.map ProjectMeta.settled = other.map ProjectMeta.settled) :
    rule r reference = rule s other := by
  rw [← ha.fromReport rule hrule r, h, hreference, ha.fromReport rule hrule s]

end Analyzer

theorem Catalogue.takesContent {a : Analyzer SourceTree} (ha : a ∈ all) : a.TakesContent where
  inFile tree x := (respects ha).inFile tree _ x rfl ProjectMeta.sameName_map_settled fun _ => rfl
  fromReport rule hrule r reference := by
    rw [(respects ha).sameReport rule hrule r.content _ reference ProjectMeta.sameName_map_settled]
    obtain rfl := eq_fromReport ha hrule
    rfl

namespace Survey

variable {Tree : Type} {w : Surroundings Tree} {a : Analyzer Tree} {c c' : Config} {p p' : Prepared}
  {store : Store}

def usable (a : Analyzer Tree) (r : Report) : Option Report :=
  match r.output with
  | .arr _ => if r.about.analyzer == .ofOption (a.consumes.map .str) then some r else none
  | _ => none

theorem reusable_of_provided {provided : Provided}
    {rule : Report → Option ProjectMeta → Except Fault Json}
    (hresult : c.targetResult = some provided) (hrule : a.fromReport = some rule) :
    reusable a c = usable a <$> provided.unwind := by
  unfold reusable
  rw [hresult, hrule]
  simp only
  cases provided.unwind with
  | error f => rfl
  | ok r =>
      rw [Outcome.ok_bind, Outcome.map_ok]
      unfold usable
      cases r.output <;> rfl

theorem reusable_of_no_rule (hrule : a.fromReport = none) (c : Config) :
    reusable a c = .ok none := by
  unfold reusable
  rw [hrule]
  cases c.targetResult <;> rfl

theorem usable_content (a : Analyzer Tree) (r : Report) :
    usable a r.content = (usable a r).map Report.content := by
  have houtput : r.content.output = r.output := rfl
  have hanalyzer : r.content.about.analyzer = r.about.analyzer := rfl
  unfold usable
  rw [houtput, hanalyzer]
  cases r.output with
  | arr items =>
      simp only []
      split
      · rfl
      · rfl
  | _ => rfl

theorem reusable_content (a : Analyzer Tree) (c : Config) :
    Option.map Report.content <$> reusable a c.content
      = Option.map Report.content <$> reusable a c := by
  have hfactor (p : Provided) :
      Option.map Report.content <$> (usable a <$> p.unwind)
        = usable a <$> (Report.content <$> p.unwind) := by
    simp only [Functor.map_map, usable_content]
  have hcontent : c.content.targetResult = c.targetResult.map Provided.content := rfl
  cases hrule : a.fromReport with
  | none => rw [reusable_of_no_rule hrule, reusable_of_no_rule hrule]
  | some rule =>
      cases hresult : c.targetResult with
      | none =>
          rw [reusable_of_none hresult,
            reusable_of_none (by rw [hcontent, hresult, Option.map_none])]
      | some provided =>
          rw [hresult, Option.map_some] at hcontent
          rw [reusable_of_provided hresult hrule, reusable_of_provided hcontent hrule,
            hfactor, hfactor, provided.unwind_content]

theorem validate_content (a : Analyzer Tree) (c : Config) :
    validate a c.content = validate a c := by
  have hreference : c.content.referenceResult.isNone = c.referenceResult.isNone := Option.isNone_map
  have htarget : c.content.targetResult = c.targetResult.map Provided.content := rfl
  have htargetPath : c.content.targetPath = c.targetPath := rfl
  have hreferencePath : c.content.referencePath = c.referencePath := rfl
  unfold validate
  rw [hreference, htarget, htargetPath, hreferencePath]
  cases c.targetResult with
  | none => rfl
  | some provided =>
      simp only [Option.map_some]
      split
      · refine Outcome.bind_congr_of_map (reusable_content a c) fun reused reused' _ _ hreused => ?_
        have hnone : reused.isNone = reused'.isNone := by
          rw [← Option.isNone_map (f := Report.content), hreused, Option.isNone_map]
        rw [hnone]
        split
        · refine Outcome.bind_congr_of_map provided.unwind_content fun r r' _ _ hr => ?_
          have hanalyzer : r.content.about.analyzer = r'.content.about.analyzer := by rw [hr]
          have hanalyzer : r.about.analyzer = r'.about.analyzer := hanalyzer
          rw [hanalyzer]
        · rfl
      · rfl

theorem target_of_unwind (p : Provided) :
    Option.map ProjectMeta.settled <$> ((fun r : Report => r.about.target) <$> p.content.unwind)
      = Option.map ProjectMeta.settled <$> ((fun r : Report => r.about.target) <$> p.unwind) := by
  have hfactor (x : Except Fault Report) :
      Option.map ProjectMeta.settled <$> ((fun r : Report => r.about.target) <$> x)
        = (fun r : Report => r.about.target) <$> (Report.content <$> x) := by
    rw [Functor.map_map, Functor.map_map]
    rfl
  rw [hfactor, hfactor, p.unwind_content]

theorem targetMeta_content (w : Surroundings Tree) (c : Config) :
    Option.map ProjectMeta.settled <$> targetMeta w c.content
      = Option.map ProjectMeta.settled <$> targetMeta w c := by
  unfold targetMeta Config.content
  cases c.targetResult with
  | none => rfl
  | some provided => exact target_of_unwind provided

theorem referenceMeta_content (w : Surroundings Tree) (c : Config) :
    Option.map ProjectMeta.settled <$> referenceMeta w c.content
      = Option.map ProjectMeta.settled <$> referenceMeta w c := by
  unfold referenceMeta Config.content
  cases c.referenceResult with
  | none => rfl
  | some provided => exact target_of_unwind provided

def Prepared.content (p : Prepared) : Prepared :=
  { p with
    config := p.config.content
    target := p.target.map ProjectMeta.settled
    reference := p.reference.map ProjectMeta.settled }

theorem Prepared.reference_content (p : Prepared) :
    p.content.reference.map ProjectMeta.settled = p.reference.map ProjectMeta.settled := by
  simp only [content, Option.map_map, Function.comp_def, ProjectMeta.settled_settled]

def resolve (w : Surroundings Tree) (a : Analyzer Tree) (config : Config) :
    Except Fault Prepared := do
  validate a config
  let target ← targetMeta w config
  let reference ← referenceMeta w config
  let identifier ← Identity.derive target reference config
  return { config, identifier, target, reference }

theorem named_eq (w : Surroundings Tree) (a : Analyzer Tree) (c : Config) :
    named w a c = c.unwound >>= resolve w a := rfl

theorem resolve_content (w : Surroundings Tree) (a : Analyzer Tree) (c : Config) :
    Prepared.content <$> resolve w a c.content = Prepared.content <$> resolve w a c := by
  unfold resolve
  rw [validate_content]
  simp only [map_bind]
  congr
  funext _
  refine Outcome.bind_congr_of_map (targetMeta_content w c) fun target target' _ _ htarget => ?_
  refine Outcome.bind_congr_of_map (referenceMeta_content w c)
    fun reference reference' _ _ hreference => ?_
  rw [← Identity.derive_content target reference, ← Identity.derive_content target' reference',
    htarget, hreference, Config.content_content]
  simp only [Prepared.content, Outcome.pure_eq, Outcome.map_ok, htarget, hreference,
    Config.content_content]

theorem named_of_content (a : Analyzer Tree)
    (h : Config.content <$> c.unwound = Config.content <$> c'.unwound) :
    Prepared.content <$> named w a c = Prepared.content <$> named w a c' := by
  rw [named_eq, named_eq, map_bind, map_bind]
  refine Outcome.bind_congr_of_map h fun u u' _ _ hu => ?_
  rw [← resolve_content w a u, hu, resolve_content w a u']

theorem checkWritable_of_content (h : p.content = p'.content) :
    Identity.checkWritable p.target p.reference p.config
      = Identity.checkWritable p'.target p'.reference p'.config := by
  have hkept (q : Prepared) :
      Identity.checkWritable q.content.target q.content.reference q.content.config
      = Identity.checkWritable q.target q.reference q.config := Identity.checkWritable_content _ _ _
  rw [← hkept p, h, hkept p']

theorem identify_of_content (a : Analyzer Tree)
    (h : Config.content <$> c.unwound = Config.content <$> c'.unwound) :
    Prepared.content <$> identify w a c = Prepared.content <$> identify w a c' := by
  rw [identify, identify, map_bind, map_bind]
  refine Outcome.bind_congr_of_map (named_of_content a h) fun p p' _ _ hp => ?_
  rw [checkWritable_of_content hp, map_bind, map_bind]
  exact congrArg _ (funext fun _ => congrArg Except.ok hp)

theorem reportOf_content (w : Surroundings Tree) (a : Analyzer Tree) (p : Prepared)
    (output : Json) :
    reportOf w a p.content output = Report.settled <$> reportOf w a p output := by
  have hconfiguration : Portable.configuration p.content.config
      = Portable.configuration p.config := by
    rw [Portable.configuration_eq, Portable.configuration_eq]
    exact congrArg _ p.config.settings_content
  unfold reportOf Portable.report
  rw [hconfiguration]
  cases Portable.configuration p.config with
  | error f => rfl
  | ok fields =>
      simp only [Outcome.ok_bind, Outcome.pure_eq, Outcome.map_ok, Prepared.content, Report.settled,
        ReportMeta.settled, Option.map_map]
      rfl

theorem written_of_content (w : Surroundings Tree) (a : Analyzer Tree) (p : Prepared)
    (output : Json) :
    Report.toWrapped <$> reportOf w a p.content output
      = Report.toWrapped <$> reportOf w a p output := by
  rw [reportOf_content, Functor.map_map]
  simp only [Report.toWrapped_settled]

theorem findingsIn_content (ha : a.TakesContent) (p : Prepared) (input : ProjectMeta)
    (root : String) (f : ParsedFile Tree) :
    findingsIn w a p.content (p.content.target.getD input) root f
      = findingsIn w a p (p.target.getD input) root f := by
  have hproject : (p.content.target.getD input).settled = (p.target.getD input).settled := by
    unfold Prepared.content
    cases p.target with
    | none => rfl
    | some m => exact m.settled_settled
  have hreference := p.reference_content
  have hsame (path : String) : a.inFile f.tree
        { text := f.text, path, project := p.content.target.getD input,
          reference := p.content.reference, options := p.content.config.options }
      = a.inFile f.tree
        { text := f.text, path, project := p.target.getD input, reference := p.reference,
          options := p.config.options } :=
    ha.inFile_eq f.tree (by simp only [FileContext.settled, hproject, hreference]; rfl)
  unfold findingsIn
  simp only [hsame]

theorem fromFiles_content (ha : a.TakesContent) (p : Prepared) (input : ProjectInput) :
    (fromFiles w a p.content input).outcome = (fromFiles w a p input).outcome := by
  have hfindings : findingsIn w a p.content (p.content.target.getD input.project)
      (rootOf p.content.config input.project)
      = findingsIn w a p (p.target.getD input.project) (rootOf p.config input.project) :=
    funext fun f => findingsIn_content ha p input.project _ f
  rw [outcome_fromFiles, outcome_fromFiles, hfindings]

theorem made_content (ha : a.TakesContent) (hvalid : validate a p.config = .ok ()) :
    Report.toWrapped <$> made w a p.content = Report.toWrapped <$> made w a p := by
  have hreferenceFiles : referenceFiles w p.content.config = referenceFiles w p.config := rfl
  have hreusable := reusable_content a p.config
  cases hsource : reusable a p.config with
  | error f =>
      rw [hsource] at hreusable
      have hsource' : reusable a p.content.config = .error f := Outcome.map_eq_error.1 hreusable
      rw [made, made, outcome_collect, outcome_collect, hsource, hsource']
      rfl
  | ok source =>
      rw [hsource] at hreusable
      obtain ⟨source', hsource', hsame⟩ := Outcome.map_eq_ok.1 hreusable
      cases source with
      | some r =>
          obtain ⟨s, rfl, hs⟩ := Option.map_eq_some_iff.1 hsame
          obtain ⟨_, rule, _, -, hrule, -⟩ := reusable_eq_some hsource
          have houtput : rule s p.content.reference = rule r p.reference :=
            ha.rule_eq hrule hs p.reference_content
          rw [made_of_report hsource hrule, made_of_report (p := p.content) hsource' hrule, houtput,
            hreferenceFiles]
          simp only [map_bind, written_of_content]
      | none =>
          obtain rfl := Option.map_eq_none_iff.1 hsame
          cases hpath : Config.given p.config.targetPath with
          | none =>
              obtain ⟨r, hr⟩ := exists_reusable hvalid hpath
              exact absurd (hsource.symm.trans hr) (by simp)
          | some path =>
              have hscope : scopeFor p.content.config = scopeFor p.config := rfl
              rw [made_of_gathered hsource hpath, made_of_gathered (p := p.content) hsource' hpath,
                hreferenceFiles, hscope]
              simp only [map_bind, written_of_content, fromFiles_content ha]

theorem fresh_content (ha : a.TakesContent) (hvalid : validate a p.config = .ok ()) :
    Report.toWrapped <$> fresh w a p.content = Report.toWrapped <$> fresh w a p := by
  rw [fresh, fresh, map_bind, map_bind]
  refine Outcome.bind_congr_of_map (made_content ha hvalid) fun r s _ _ hrs => ?_
  rw [hrs, map_bind, map_bind]
  exact congrArg _ (funext fun _ => congrArg Except.ok hrs)

def written (answer : Report × Store) : Json × Store := (answer.1.toWrapped, answer.2)

theorem answer_content (ha : a.TakesContent) (hvalid : validate a p.config = .ok ())
    (store : Store) :
    written <$> answer w a store p.content = written <$> answer w a store p := by
  have hpair (kept : Store) {x y : Except Fault Report}
      (h : Report.toWrapped <$> x = Report.toWrapped <$> y) :
      written <$> (x >>= fun r => pure (r, kept))
        = written <$> (y >>= fun r => pure (r, kept)) := by
    rw [map_bind, map_bind]
    exact Outcome.bind_congr_of_map h fun r s _ _ hrs => congrArg (fun v => Except.ok (v, kept)) hrs
  have hrefusal : refusal w p.content.config = refusal w p.config := rfl
  have hkey : key a p.content = key a p := rfl
  unfold answer
  rw [hrefusal, hkey]
  cases (refusal w p.config).outcome with
  | error f => rfl
  | ok refused =>
      cases refused with
      | some reason => exact hpair store (written_of_content w a p _)
      | none =>
          simp only [Outcome.ok_bind]
          cases cached store (key a p) with
          | error f => rfl
          | ok kept =>
              cases kept with
              | some r => rfl
              | none =>
                  simp only [Outcome.ok_bind, map_bind]
                  refine Outcome.bind_congr_of_map (fresh_content ha hvalid) fun r s _ _ hrs => ?_
                  simp only [Outcome.pure_eq, Outcome.map_ok, written, Store.put, hrs]

theorem run_of_content (ha : a.TakesContent)
    (h : Config.content <$> c.unwound = Config.content <$> c'.unwound) (store : Store) :
    Report.toWrapped <$> (run w a store c).outcome = Report.toWrapped <$> (run w a store c').outcome
      ∧ (run w a store c).store = (run w a store c').store := by
  have hanswer : written <$> (identify w a c >>= answer w a store)
      = written <$> (identify w a c' >>= answer w a store) := by
    rw [map_bind, map_bind]
    refine Outcome.bind_congr_of_map (identify_of_content a h) fun p p' hp hp' hsame => ?_
    rw [← answer_content ha (identify_eq_ok_iff.1 hp).validated, hsame,
      answer_content ha (identify_eq_ok_iff.1 hp').validated]
  have houtcome (x : Except Fault (Report × Store)) :
      Report.toWrapped <$> (Prod.fst <$> x) = Prod.fst <$> (written <$> x) := by
    simp only [Functor.map_map, written]
  have hstore (x : Except Fault (Report × Store)) :
      Prod.snd <$> x = Prod.snd <$> (written <$> x) := by
    simp only [Functor.map_map, written]
  rw [(run_eq w a store c).1, (run_eq w a store c).2, (run_eq w a store c').1,
    (run_eq w a store c').2, houtcome, houtcome, hstore, hstore (identify w a c' >>= _), hanswer]
  exact ⟨rfl, rfl⟩

open Session (Handed)

inductive Restated : Option Provided → Option Provided → Prop where
  | same (p : Option Provided) : Restated p p
  | forms {r : Report} {fromCache fromCache' : Bool} {p p' : Provided} (hr : r.about.Definite)
      (hp : Handed (r.mark fromCache) p) (hp' : Handed (r.mark fromCache') p') :
        Restated (some p) (some p')

structure RestatedIn (c c' : Config) : Prop where
  config : ∃ targetResult referenceResult, c' = { c with targetResult, referenceResult }
  target : Restated c.targetResult c'.targetResult
  reference : Restated c.referenceResult c'.referenceResult

theorem content_of_handed {r : Report} {fromCache : Bool} {p : Provided} (hr : r.about.Definite)
    (hp : Handed (r.mark fromCache) p) : Report.content <$> p.unwind = .ok r.content := by
  rcases Session.unwind_of_handed (Report.definite_mark hr fromCache) hp with hunwind | hunwind
  · rw [hunwind, Outcome.map_ok, Report.content_mark]
  · rw [hunwind, Outcome.map_ok, Report.content_settled, Report.content_mark]

theorem Restated.unwind {p p' : Option Provided} (h : Restated p p') :
    Option.map Report.content <$> p.mapM Provided.unwind
      = Option.map Report.content <$> p'.mapM Provided.unwind := by
  cases h with
  | same => rfl
  | @forms r _ _ p p' hr hp hp' =>
      have hsome (q : Provided) : Option.map Report.content <$> (some q).mapM Provided.unwind
          = some <$> (Report.content <$> q.unwind) := by
        rw [Functor.map_map]
        exact Functor.map_map some (Option.map Report.content) q.unwind
      rw [hsome, hsome, content_of_handed hr hp, content_of_handed hr hp']

theorem Restated.portable {p p' : Option Provided} (h : Restated p p') :
    p.mapM Provided.portable = p'.mapM Provided.portable := by
  cases h with
  | same => rfl
  | forms hr hp hp' =>
      exact congrArg (some <$> ·)
        (Provided.portable_congr ((content_of_handed hr hp).trans (content_of_handed hr hp').symm))

theorem RestatedIn.unwound (h : RestatedIn c c') :
    Config.content <$> c.unwound = Config.content <$> c'.unwound := by
  have htarget := h.target
  have hreference := h.reference
  obtain ⟨targetResult, referenceResult, rfl⟩ := h.config
  unfold Config.unwound
  simp only [map_bind]
  refine Outcome.bind_congr_of_map htarget.unwind fun target target' _ _ hsame => ?_
  refine Outcome.bind_congr_of_map hreference.unwind fun reference reference' _ _ hsame' => ?_
  simp only [Outcome.pure_eq, Outcome.map_ok, Config.content, Provided.map_content_report,
    hsame, hsame']

theorem RestatedIn.toFields (h : RestatedIn c c') : c.toFields = c'.toFields := by
  have htarget := h.target
  have hreference := h.reference
  obtain ⟨targetResult, referenceResult, rfl⟩ := h.config
  rw [Config.toFields_eq, Config.toFields_eq, htarget.portable, hreference.portable]
  rfl

theorem result_counts_by_content (w : Surroundings SourceTree) {a : Analyzer SourceTree}
    (ha : a ∈ Catalogue.all) :
    (∀ (store : Store) (c c' : Config), RestatedIn c c' →
      Prepared.identifier <$> identify w a c = Prepared.identifier <$> identify w a c'
      ∧ (∀ target reference, Identity.derive target reference c
        = Identity.derive target reference c')
      ∧ Portable.configuration c = Portable.configuration c'
      ∧ Report.toWrapped <$> (execute w a store (.ok c)).outcome
        = Report.toWrapped <$> (execute w a store (.ok c')).outcome
      ∧ (fun r : Report => r.about.fromCache) <$> (execute w a store (.ok c)).outcome
        = (fun r : Report => r.about.fromCache) <$> (execute w a store (.ok c')).outcome
      ∧ (execute w a store (.ok c)).store = (execute w a store (.ok c')).store)
    ∧ ∀ (v : Json) (r : Report), Report.ofJson v = .ok r →
      (Provided.raw v).portable = .ok r.portable
      ∧ (Provided.raw r.portable).portable = .ok r.portable
      ∧ (Provided.raw r.toWrapped).portable = .ok r.portable
      ∧ (Provided.raw r.toPlain).portable = .ok r.portable := by
  refine ⟨fun store c c' h => ?_, fun v r => Provided.portable_of_ofJson⟩
  obtain ⟨houtcome, hstore⟩ := run_of_content (w := w) (Catalogue.takesContent ha) h.unwound store
  rw [outcome_execute, outcome_execute, store_execute, store_execute]
  refine ⟨?_, fun target reference => ?_, ?_, houtcome, ?_, hstore⟩
  · exact Outcome.map_congr_of_map (identify_of_content a h.unwound) fun p p' hp =>
      show p.content.identifier = p'.content.identifier by rw [hp]
  · simp only [Identity.derive, Identity.seed, h.toFields]
  · rw [Portable.configuration, Portable.configuration, h.toFields]
  · exact Outcome.map_congr_of_map houtcome fun r s => Report.fromCache_of_toWrapped

section Example

open Session

theorem definite_noImports : noImports.about.Definite := by
  refine ⟨fun p hp => ?_, fun p hp => absurd hp nofun⟩
  obtain rfl := Option.some.inj hp
  exact ProjectMeta.definite_of_pathless rfl

def matchServedInApp :
    Config := { matchInApp with referenceResult := some (.raw (noImports.mark true).toWrapped) }

theorem restated_matchInApp : RestatedIn matchInApp matchServedInApp where
  config := ⟨_, _, rfl⟩
  target := .same none
  reference := @Restated.forms noImports false true _ _ definite_noImports .asReport .asWrapped

theorem result_counts_by_content_in_app : ∃ r s,
    (execute appImports.surroundings Catalogue.matchImports (.values [])
      (.ok matchInApp)).outcome = .ok r
    ∧ (execute appImports.surroundings Catalogue.matchImports (.values [])
      (.ok matchServedInApp)).outcome = .ok s
    ∧ s.toWrapped = r.toWrapped
    ∧ (Provided.raw noImports.toWrapped).portable = .ok noImports.portable := by
  obtain ⟨imports, hr, hnew, hfound⟩ := appImports_new
  obtain ⟨r, hr⟩ := matchInApp_ok (.new hr hnew hfound)
  have h := result_counts_by_content appImports.surroundings matchImports_mem
  obtain ⟨-, -, -, hsame, -⟩ := h.1 (.values []) matchInApp matchServedInApp restated_matchInApp
  rw [hr] at hsame
  obtain ⟨s, hs, hwritten⟩ := Outcome.map_eq_ok.1 hsame.symm
  refine ⟨r, s, hr, hs, hwritten, ?_⟩
  exact (h.2 noImports.toWrapped noImports.settled (Report.ofJson_toWrapped definite_noImports)).1

end Example

end Survey

end CodeSurvey
