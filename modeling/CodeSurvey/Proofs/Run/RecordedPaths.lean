import CodeSurvey.Proofs.Report.RecordedPaths
import CodeSurvey.Proofs.Run.Naming
import CodeSurvey.Proofs.Run.Retained
import CodeSurvey.Proofs.Run.Serialized
import CodeSurvey.Proofs.Run.Stages

namespace CodeSurvey

namespace Json

theorem rel_at? {v w : Json} (h : SameValue v w) (name : String) :
    Option.Rel SameValue (v.at? name) (w.at? name) := by
  cases h with
  | obj names values => exact sameValue_obj_iff.1 (.obj names values) name
  | _ => exact .none

theorem rel_bind_at? {x y : Option Json} (h : Option.Rel SameValue x y) (name : String) :
    Option.Rel SameValue (x.bind fun v => v.at? name) (y.bind fun v => v.at? name) := by
  cases h with
  | none => exact .none
  | some h => exact rel_at? h name

theorem eq_of_rel_texts {x y : Option Json} (h : Option.Rel SameValue x y)
    (hx : ∀ v ∈ x, ∃ s, v = .str s) : x = y := by
  cases h with
  | none => rfl
  | some h =>
      obtain ⟨s, rfl⟩ := hx _ rfl
      cases h
      rfl

end Json

namespace Report

def writtenPaths (v : Json) : Option Json × Option Json :=
  ((said v "targetProject").bind fun project => project.at? "path",
    (said v "referenceProject").bind fun project => project.at? "path")

theorem writtenPaths_portable (r : Report) : writtenPaths r.portable = r.paths := by
  have habout : aboutOf r.portable = .ok (r.mark false).about.toJson := rfl
  have hproject (p : Option ProjectMeta) :
      ((p.map ProjectMeta.toJson).bind fun project => project.at? "path") = p.bind (·.path) := by
    cases p with
    | none => rfl
    | some m => exact m.get?_path
  rw [writtenPaths, said_eq habout, said_eq habout, ReportMeta.get?_target,
    ReportMeta.get?_reference, hproject, hproject]
  rfl

structure AreTexts (paths : Option Json × Option Json) : Prop where
  target : ∀ v ∈ paths.1, ∃ s, v = .str s
  reference : ∀ v ∈ paths.2, ∃ s, v = .str s

theorem areTexts_placed (r : Report) (target reference : Option String) :
    AreTexts (r.placed target reference).paths := by
  have htext (p : Option ProjectMeta) (place : Option String) :
      ∀ v ∈ p.bind fun _ => place.map Json.str, ∃ s, v = .str s := by
    intro v hv
    obtain ⟨_, -, hv⟩ := Option.bind_eq_some_iff.1 hv
    obtain ⟨s, -, rfl⟩ := Option.map_eq_some_iff.1 hv
    exact ⟨s, rfl⟩
  rw [paths_placed]
  exact ⟨htext _ _, htext _ _⟩

theorem writtenPaths_withSlashes {v : Json} (h : AreTexts (writtenPaths v)) (key : Option String) :
    writtenPaths (Portable.withSlashes key v) = writtenPaths v := by
  have hkept {x : Option Json} (hx : ∀ v ∈ x, ∃ s, v = .str s) :
      x.map (Portable.withSlashes (some "path")) = x := by
    cases x with
    | none => rfl
    | some v =>
        obtain ⟨s, rfl⟩ := hx v rfl
        rfl
  rw [writtenPaths, part_withSlashes, part_withSlashes]
  exact Prod.ext (hkept h.target) (hkept h.reference)

theorem paths_of_sameValue {r r' : Report} (h : r.portable.SameValue r'.portable)
    (htexts : AreTexts r.paths) :
    r.paths = r'.paths := by
  have hwritten (name : String) :
      Option.Rel Json.SameValue ((said r.portable name).bind fun project => project.at? "path")
      ((said r'.portable name).bind fun project => project.at? "path") :=
    Json.rel_bind_at? (Json.rel_bind_at? (Json.rel_at? h "analyzerMeta") name) "path"
  rw [← writtenPaths_portable] at htexts ⊢
  rw [← writtenPaths_portable]
  exact Prod.ext (Json.eq_of_rel_texts (hwritten _) htexts.target)
    (Json.eq_of_rel_texts (hwritten _) htexts.reference)

end Report

namespace Provided

variable {p q : Provided} {v w : Json}

theorem SameButPaths.portable_eq (h : p.SameButPaths q) (hpaths : p.paths = q.paths) :
    p.portable = q.portable := by
  rw [portable, portable, h.unwind_eq hpaths]

theorem SameButPaths.placed (h : p.SameButPaths q) {r r' : Report} (hp : p.unwind = .ok r)
    (hq : q.unwind = .ok r') :
    ∃ (s : Report) (target reference target' reference' : Option String),
      r = s.placed target reference ∧ r' = s.placed target' reference' := by
  cases h with
  | read s _ _ _ _ hp' hq' =>
      exact ⟨s, _, _, _, _, Except.ok.inj (hp.symm.trans hp'), Except.ok.inj (hq.symm.trans hq')⟩
  | unread hp' _ => exact absurd (hp.symm.trans hp') (by simp)

theorem SameButPaths.report (h : p.SameButPaths q) {r r' : Report} (hp : p.unwind = .ok r)
    (hq : q.unwind = .ok r') :
    SameButPaths (.report r) (.report r') := by
  obtain ⟨s, _, _, _, _, rfl, rfl⟩ := h.placed hp hq
  exact .read s _ _ _ _ rfl rfl

theorem SameButPaths.target_eq (h : p.SameButPaths q) {r r' : Report} (hp : p.unwind = .ok r)
    (hq : q.unwind = .ok r') :
    r'.about.target.map (·.withoutPath) = r.about.target.map (·.withoutPath) := by
  obtain ⟨s, _, _, _, _, rfl, rfl⟩ := h.placed hp hq
  simp only [Report.placed, ReportMeta.placed, Option.map_map]
  rfl

theorem SameButPaths.written (h : p.SameButPaths q) (hv : p.portable = .ok v)
    (hw : q.portable = .ok w) :
    ∃ r r', v = Report.portable r ∧ w = Report.portable r' ∧ p.paths = .ok r.paths
      ∧ q.paths = .ok r'.paths ∧ Report.AreTexts r.paths ∧ Report.AreTexts r'.paths := by
  obtain ⟨r, hp, rfl⟩ := Outcome.map_eq_ok.1 hv
  obtain ⟨r', hq, rfl⟩ := Outcome.map_eq_ok.1 hw
  obtain ⟨s, _, _, _, _, rfl, rfl⟩ := h.placed hp hq
  exact ⟨_, _, rfl, rfl, by rw [paths, hp, Outcome.map_ok], by rw [paths, hq, Outcome.map_ok],
    s.areTexts_placed _ _, s.areTexts_placed _ _⟩

theorem SameButPaths.paths_of_sameValue (h : p.SameButPaths q) (hv : p.portable = .ok v)
    (hw : q.portable = .ok w) (hsame : v.SameValue w) : p.paths = q.paths := by
  obtain ⟨r, r', rfl, rfl, hp, hq, htexts, -⟩ := h.written hv hw
  rw [hp, hq, Report.paths_of_sameValue hsame htexts]

theorem SameButPaths.paths_of_slashes (h : p.SameButPaths q) (hv : p.portable = .ok v)
    (hw : q.portable = .ok w) {key : Option String}
    (hsame : Portable.withSlashes key v = Portable.withSlashes key w) : p.paths = q.paths := by
  obtain ⟨r, r', rfl, rfl, hp, hq, htexts, htexts'⟩ := h.written hv hw
  have hwritten := congrArg Report.writtenPaths hsame
  rw [Report.writtenPaths_withSlashes (by rwa [r.writtenPaths_portable]),
    Report.writtenPaths_withSlashes (by rwa [r'.writtenPaths_portable]), r.writtenPaths_portable,
    r'.writtenPaths_portable] at hwritten
  rw [hp, hq, hwritten]

theorem mapM_portable_eq {p q : Option Provided} (h : Option.Rel SameButPaths p q)
    (hpaths : p.map paths = q.map paths) :
    p.mapM portable = q.mapM portable := by
  cases h with
  | none => rfl
  | some h => exact congrArg (some <$> ·) (h.portable_eq (Option.some.inj hpaths))

theorem mapM_portable_ends {p q : Option Provided} (h : Option.Rel SameButPaths p q) :
    (fun _ => ()) <$> p.mapM portable = (fun _ => ()) <$> q.mapM portable := by
  cases h with
  | none => rfl
  | some h =>
      cases h with
      | read r _ _ _ _ hp hq =>
          simp only [Option.mapM_some, portable, hp, hq]
          rfl
      | unread hp hq => simp only [Option.mapM_some, portable, hp, hq]

end Provided

namespace Config

variable {c c' : Config}

structure SameButPaths (c c' : Config) : Prop where
  settings : ∃ targetResult referenceResult, c' = { c with targetResult, referenceResult }
  target : Option.Rel Provided.SameButPaths c.targetResult c'.targetResult
  reference : Option.Rel Provided.SameButPaths c.referenceResult c'.referenceResult

def keepsTarget (c : Config) :
    Bool := c.referenceResult.isSome || c.options.has "referenceProjectResult"

theorem SameButPaths.toFields_ends (h : c.SameButPaths c') :
    (fun _ => ()) <$> c.toFields = (fun _ => ()) <$> c'.toFields := by
  obtain ⟨targetResult, referenceResult, rfl⟩ := h.settings
  simp only [toFields_eq, map_bind]
  refine congrArg _ (funext fun gather => congrArg _ (funext fun gatherReference => ?_))
  refine Outcome.bind_congr_of_map (Provided.mapM_portable_ends h.target) fun _ _ _ _ _ => ?_
  exact Outcome.bind_congr_of_map (Provided.mapM_portable_ends h.reference) fun _ _ _ _ _ => rfl

theorem SameButPaths.keepsTarget_eq (h : c.SameButPaths c') : c'.keepsTarget = c.keepsTarget := by
  have hsome {p q : Option Provided} (h : Option.Rel Provided.SameButPaths p q) :
      p.isSome = q.isSome := by
    cases h <;> rfl
  obtain ⟨_, _, hsettings⟩ := h.settings
  have hoptions : c'.options = c.options := by rw [hsettings]
  rw [keepsTarget, keepsTarget, hoptions, hsome h.reference]

theorem SameButPaths.unwound (h : c.SameButPaths c') {u u' : Config} (hu : c.unwound = .ok u)
    (hu' : c'.unwound = .ok u') :
    u.SameButPaths u' := by
  have hread {p q : Option Provided} (hpq : Option.Rel Provided.SameButPaths p q)
      {r r' : Option Report}
      (hr : p.mapM Provided.unwind = .ok r) (hr' : q.mapM Provided.unwind = .ok r') :
      Option.Rel Provided.SameButPaths (r.map .report) (r'.map .report) := by
    cases hpq with
    | none =>
        obtain rfl := Except.ok.inj hr
        obtain rfl := Except.ok.inj hr'
        exact .none
    | some h =>
        obtain ⟨_, hp, rfl⟩ := Outcome.map_eq_ok.1 hr
        obtain ⟨_, hq, rfl⟩ := Outcome.map_eq_ok.1 hr'
        exact .some (h.report hp hq)
  obtain ⟨target, reference, htarget, hreference, rfl⟩ := unwound_eq hu
  obtain ⟨target', reference', htarget', hreference', rfl⟩ := unwound_eq hu'
  obtain ⟨_, _, rfl⟩ := h.settings
  exact ⟨⟨_, _, rfl⟩, hread h.target htarget htarget', hread h.reference hreference hreference'⟩

structure SamePaths (c c' : Config) : Prop where
  target : c.targetResult.map Provided.paths = c'.targetResult.map Provided.paths
  reference : c.referenceResult.map Provided.paths = c'.referenceResult.map Provided.paths

theorem SameButPaths.toFields_of_paths (h : c.SameButPaths c') (hpaths : c.SamePaths c') :
    c.toFields = c'.toFields := by
  have htarget := Provided.mapM_portable_eq h.target hpaths.target
  have hreference := Provided.mapM_portable_eq h.reference hpaths.reference
  obtain ⟨targetResult, referenceResult, rfl⟩ := h.settings
  rw [toFields_eq, toFields_eq, htarget, hreference]
  rfl

theorem paths_of_written {p q : Option Provided} {v w v' w' : Option Json}
    (h : Option.Rel Provided.SameButPaths p q) (hv : p.mapM Provided.portable = .ok v)
    (hw : q.mapM Provided.portable = .ok w) {R : Json → Json → Prop}
    (hsame : Option.Rel R (v.or v') (w.or w')) (hR : ∀ p q, Provided.SameButPaths p q →
      ∀ x y, p.portable = .ok x → q.portable = .ok y → R x y → p.paths = q.paths) :
    p.map Provided.paths = q.map Provided.paths := by
  cases h with
  | none => rfl
  | some h =>
      obtain ⟨x, hx, rfl⟩ := Outcome.map_eq_ok.1 hv
      obtain ⟨y, hy, rfl⟩ := Outcome.map_eq_ok.1 hw
      exact congrArg some (hR _ _ h x y hx hy (Option.rel_some_some.1 hsame))

theorem SameButPaths.paths_of_settings (h : c.SameButPaths c') {f f' : Fields}
    (hf : c.toFields = .ok f) (hf' : c'.toFields = .ok f')
    (hsame : Json.SameValue (.obj (withoutPaths f)) (.obj (withoutPaths f'))) :
    c.SamePaths c' := by
  have hpart (name : String) (hname : name ≠ targetPathKey) (hname' : name ≠ referencePathKey) :
      Option.Rel Json.SameValue (f.get? name) (f'.get? name) := by
    have hrel := Json.sameValue_obj_iff.1 hsame name
    rwa [get?_withoutPaths hname hname', get?_withoutPaths hname hname'] at hrel
  obtain ⟨v, hv, hget⟩ := get?_toFields hf "targetProjectResult"
  obtain ⟨w, hw, hget'⟩ := get?_toFields hf' "targetProjectResult"
  obtain ⟨v', hv', hgetRef⟩ := get?_toFields hf "referenceProjectResult"
  obtain ⟨w', hw', hgetRef'⟩ := get?_toFields hf' "referenceProjectResult"
  have htarget := hpart "targetProjectResult" (by decide) (by decide)
  have hreference := hpart "referenceProjectResult" (by decide) (by decide)
  rw [hget, hget'] at htarget
  rw [hgetRef, hgetRef'] at hreference
  exact ⟨paths_of_written h.target hv hw htarget fun p q h x y hx hy => h.paths_of_sameValue hx hy,
    paths_of_written h.reference hv' hw' hreference fun p q h x y hx hy =>
      h.paths_of_sameValue hx hy⟩

end Config

namespace Portable

open Config (putSome)

theorem erase_putSome (fields : Fields) (name : String) (value : Option Json) :
    (putSome fields name value).erase name = fields.erase name := by
  cases value with
  | none => rfl
  | some v =>
      have hput := Fields.filter_put (· != name) fields name v
      rwa [if_neg (by simp)] at hput

theorem dropResult_putSome (fields : Fields) (target reference : Option Json) :
    dropResult
      (putSome (putSome fields "targetProjectResult" target) "referenceProjectResult" reference)
      = if reference.isSome || fields.has "referenceProjectResult"
        then (putSome fields "targetProjectResult" target).erase "referenceProjectResult"
        else fields.erase "targetProjectResult" := by
  have hhas :
      (putSome (putSome fields "targetProjectResult" target) "referenceProjectResult" reference).has
      "referenceProjectResult" = (reference.isSome || fields.has "referenceProjectResult") := by
    rw [Fields.has, Config.get?_putSome, if_pos rfl, Option.isSome_or, Config.get?_putSome,
      if_neg (by decide), Fields.has]
  rw [dropResult, hhas]
  split
  · rw [erase_putSome]
  · rename_i hnone
    rw [Bool.or_eq_true, not_or, Bool.not_eq_true, Option.isSome_eq_false_iff,
      Option.isNone_iff_eq_none] at hnone
    rw [hnone.1, putSome, erase_putSome]

theorem rel_of_map_eq {g : Json → Json} {x y : Option Json} (h : x.map g = y.map g) :
    Option.Rel (fun v w => g v = g w) x y := by
  cases x with
  | none =>
      rw [Option.map_eq_none_iff.1 h.symm]
      exact .none
  | some v =>
      obtain ⟨w, rfl, hw⟩ := Option.map_eq_some_iff.1 h.symm
      exact .some hw.symm

variable {c c' : Config} {f f' : Fields}

def besideResults (c : Config) (gather gatherReference : Option Json) : Fields :=
  Config.build
    { c with targetPath := none, referencePath := none, options := Config.withoutPaths c.options }
    gather gatherReference none none

theorem has_besideResults (c : Config) (gather gatherReference : Option Json) :
    (besideResults c gather gatherReference).has "referenceProjectResult"
      = c.options.has "referenceProjectResult" := by
  have hkept : (Config.withoutPaths c.options).get? "referenceProjectResult"
      = c.options.get? "referenceProjectResult" :=
    Config.get?_withoutPaths (by decide) (by decide)
  rw [Fields.has, Fields.has, ← hkept]
  simp [besideResults, Config.build, Config.get?_putSome, Config.get?_skipped, Config.targetPathKey,
    Config.referencePathKey]

theorem configuration_cases (h : configuration c = .ok f) : ∃ gather gatherReference target,
    c.gather.toJson? = .ok gather ∧ c.gatherReference.toJson? = .ok gatherReference
      ∧ c.targetResult.mapM Provided.portable = .ok target
      ∧ f = if c.keepsTarget
        then (putSome (besideResults c gather gatherReference) "targetProjectResult" target).erase
          "referenceProjectResult"
        else (besideResults c gather gatherReference).erase "targetProjectResult" := by
  obtain ⟨fields, hfields, h⟩ := Outcome.bind_eq_ok.1 h
  rw [Config.toFields_eq] at hfields
  obtain ⟨gather, hgather, hfields⟩ := Outcome.bind_eq_ok.1 hfields
  obtain ⟨gatherReference, hgatherReference, hfields⟩ := Outcome.bind_eq_ok.1 hfields
  obtain ⟨target, htarget, hfields⟩ := Outcome.bind_eq_ok.1 hfields
  obtain ⟨reference, hreference, hfields⟩ := Outcome.bind_eq_ok.1 hfields
  obtain rfl := Except.ok.inj hfields
  refine ⟨gather, gatherReference, target, hgather, hgatherReference, htarget, ?_⟩
  have hkeeps :
      (reference.isSome || (besideResults c gather gatherReference).has "referenceProjectResult")
      = c.keepsTarget := by
    rw [has_besideResults, Provided.isSome_mapM hreference, Config.keepsTarget]
  rw [← hkeeps, ← dropResult_putSome, ← Except.ok.inj h, Config.withoutPaths_build]
  rfl

theorem configuration_eq_of_paths (h : c.SameButPaths c')
    (hpaths : c.keepsTarget = true → c.targetResult.map Provided.paths
      = c'.targetResult.map Provided.paths)
    (hf : configuration c = .ok f) (hf' : configuration c' = .ok f') : f = f' := by
  obtain ⟨gather, gatherReference, target, hgather, hgatherReference, htarget, rfl⟩ :=
    configuration_cases hf
  obtain ⟨gather', gatherReference', target', hgather', hgatherReference', htarget', rfl⟩ :=
    configuration_cases hf'
  rw [h.keepsTarget_eq]
  obtain ⟨targetResult, referenceResult, rfl⟩ := h.settings
  obtain rfl := Except.ok.inj (hgather.symm.trans hgather')
  obtain rfl := Except.ok.inj (hgatherReference.symm.trans hgatherReference')
  cases hkept : c.keepsTarget with
  | true =>
      have hportable := Provided.mapM_portable_eq h.target (hpaths hkept)
      obtain rfl := Except.ok.inj (htarget.symm.trans (hportable.trans htarget'))
      rfl
  | false => rfl

theorem paths_of_configuration (h : c.SameButPaths c') (hkeeps : c.keepsTarget = true)
    (hf : configuration c = .ok f) (hf' : configuration c' = .ok f')
    (hsame : fieldsWithSlashes f = fieldsWithSlashes f') :
    c.targetResult.map Provided.paths = c'.targetResult.map Provided.paths := by
  obtain ⟨gather, gatherReference, target, -, -, htarget, rfl⟩ := configuration_cases hf
  obtain ⟨gather', gatherReference', target', -, -, htarget', rfl⟩ := configuration_cases hf'
  have hget (fields : Fields) (value : Option Json) :
      ((putSome fields "targetProjectResult" value).erase "referenceProjectResult").get?
        "targetProjectResult"
        = value.or (fields.get? "targetProjectResult") := by
    rw [Fields.get?_erase, if_neg (by decide), Config.get?_putSome, if_pos rfl]
  have hslashes := congrArg (Fields.get? · "targetProjectResult") hsame
  simp only [h.keepsTarget_eq, hkeeps, if_true, get?_fieldsWithSlashes, hget] at hslashes
  apply Config.paths_of_written h.target htarget htarget' (rel_of_map_eq hslashes)
  exact fun p q h x y hx hy hxy => h.paths_of_slashes hx hy hxy

theorem report_error_iff (output : Json) (label : Label) (target reference : Option ProjectMeta)
    (separator : String) (fault : Fault) : report output c label target reference separator
      = .error fault ↔ c.toFields = .error fault := by
  rw [report, configuration]
  cases c.toFields with
  | error f => simp
  | ok fields => simp

end Portable

theorem Config.SameButPaths.toFields_error {c c' : Config} (h : c.SameButPaths c') (fault : Fault) :
    c.toFields = .error fault ↔ c'.toFields = .error fault := by
  rw [← Outcome.map_eq_error (f := fun _ => ()), h.toFields_ends, Outcome.map_eq_error]

namespace Identity.Subject

structure SameButPaths (s t : Subject) : Prop where
  target : t.target.map (·.withoutPath) = s.target.map (·.withoutPath)
  reference : t.reference.map (·.withoutPath) = s.reference.map (·.withoutPath)
  config : s.config.SameButPaths t.config

end Identity.Subject

namespace Survey

open Identity

variable {Tree : Type} {w : Surroundings Tree} {a : Analyzer Tree} {c c' : Config} {p p' : Prepared}

def namedOr (provided : Option Provided) (otherwise : Except Fault (Option ProjectMeta)) :
    Except Fault (Option ProjectMeta) :=
  provided.elim otherwise fun provided => (·.about.target) <$> provided.unwind

theorem targetMeta_eq (w : Surroundings Tree) (c : Config) :
    targetMeta w c = namedOr c.targetResult (some <$> w.describe (c.targetPath.getD "")) := by
  unfold targetMeta
  cases c.targetResult <;> rfl

theorem referenceMeta_eq (w : Surroundings Tree) (c : Config) :
    referenceMeta w c
      = namedOr c.referenceResult ((Config.given c.referencePath).mapM w.describe) := by
  unfold referenceMeta
  cases c.referenceResult <;> rfl

theorem namedOr_of_sameButPaths {p q : Option Provided} (h : Option.Rel Provided.SameButPaths p q)
    {otherwise : Except Fault (Option ProjectMeta)} {m m' : Option ProjectMeta}
    (hm : namedOr p otherwise = .ok m) (hm' : namedOr q otherwise = .ok m') :
    m'.map (·.withoutPath) = m.map (·.withoutPath) := by
  cases h with
  | none => rw [Except.ok.inj (hm.symm.trans hm')]
  | some h =>
      obtain ⟨r, hr, rfl⟩ := Outcome.map_eq_ok.1 hm
      obtain ⟨r', hr', rfl⟩ := Outcome.map_eq_ok.1 hm'
      exact h.target_eq hr hr'

theorem subject_sameButPaths (h : c.SameButPaths c')
    {target reference target' reference' : Option ProjectMeta}
    (htarget : targetMeta w c = .ok target) (hreference : referenceMeta w c = .ok reference)
    (htarget' : targetMeta w c' = .ok target') (hreference' : referenceMeta w c' = .ok reference') :
    Subject.SameButPaths ⟨target, reference, c⟩ ⟨target', reference', c'⟩ := by
  obtain ⟨_, _, rfl⟩ := h.settings
  rw [targetMeta_eq] at htarget htarget'
  rw [referenceMeta_eq] at hreference hreference'
  exact ⟨namedOr_of_sameButPaths h.target htarget htarget',
    namedOr_of_sameButPaths h.reference hreference hreference', h⟩

theorem Identified.sameButPaths (h : c.SameButPaths c') (hp : Identified w a c p)
    (hp' : Identified w a c' p') :
    p.subject.SameButPaths p'.subject :=
  subject_sameButPaths (h.unwound hp.unwound hp'.unwound) hp.target hp.reference hp'.target
    hp'.reference

end Survey

namespace Identity.Subject

variable {s t : Subject}

theorem identifier_error_iff (fault : Fault) : s.identifier = .error fault
      ↔ s.config.toFields = .error fault := by
  rw [Subject.identifier, derive, Identity.seed]
  cases s.config.toFields with
  | error f => simp
  | ok fields => simp

theorem identifier_of_paths (h : s.SameButPaths t) (hpaths : s.config.SamePaths t.config) :
    t.identifier = s.identifier := by
  have hfields := h.config.toFields_of_paths hpaths
  cases hs : s.config.toFields with
  | error f => rw [(identifier_error_iff f).2 hs, (identifier_error_iff f).2 (hfields ▸ hs)]
  | ok fields =>
      rw [identifier_eq_ok_iff.2 ⟨fields, hs, rfl⟩]
      refine identifier_eq_ok_iff.2 ⟨fields, hfields ▸ hs, ?_⟩
      rw [seedOf_congr h.target h.reference, ofSeed, ofSeed, label_congr h.target h.reference]

theorem paths_of_same (h : s.SameButPaths t) (hsame : s.Same t) : s.config.SamePaths t.config := by
  obtain ⟨fields, fields', hfields, hfields', hsettings⟩ := hsame.settings
  exact h.config.paths_of_settings hfields hfields' hsettings

theorem report_of_paths (h : s.SameButPaths t) {output : Json} {label : Portable.Label}
    {separator : String} {r r' : Report}
    (hr : Portable.report output s.config label s.target s.reference separator = .ok r)
    (hr' : Portable.report output t.config label t.target t.reference separator = .ok r') :
    r'.output = r.output ∧ r'.about.target = r.about.target ∧ r'.about.reference = r.about.reference
      ∧ (r'.about.configuration = r.about.configuration ↔ (s.config.keepsTarget = true →
        s.config.targetResult.map Provided.paths = t.config.targetResult.map Provided.paths)) := by
  obtain ⟨f, hf, rfl⟩ := Portable.report_eq_ok hr
  obtain ⟨f', hf', rfl⟩ := Portable.report_eq_ok hr'
  refine ⟨rfl, h.target, h.reference, fun hsame hkeeps => ?_, fun hpaths => ?_⟩
  · apply Portable.paths_of_configuration h.config hkeeps hf hf'
    dsimp only at hsame
    split at hsame
    · rw [hsame]
    · exact hsame.symm
  · rw [Portable.configuration_eq_of_paths h.config hpaths hf hf']

theorem recorded_paths_count_where_written (s t : Subject) (h : s.SameButPaths t) :
    (∀ fault, s.identifier = .error fault ↔ t.identifier = .error fault)
    ∧ (s.config.SamePaths t.config → t.identifier = s.identifier)
    ∧ (s.Proper → t.Proper → NoClash s t → ∀ identifier, s.identifier = .ok identifier →
      t.identifier = .ok identifier → s.config.SamePaths t.config)
    ∧ ∀ (output : Json) (label : Portable.Label) (separator : String),
      (∀ fault, Portable.report output s.config label s.target s.reference separator = .error fault
        ↔ Portable.report output t.config label t.target t.reference separator = .error fault)
      ∧ ∀ r r', Portable.report output s.config label s.target s.reference separator = .ok r →
        Portable.report output t.config label t.target t.reference separator = .ok r' →
        r'.output = r.output ∧ r'.about.target = r.about.target
          ∧ r'.about.reference = r.about.reference
          ∧ (r'.about.configuration = r.about.configuration ↔ (s.config.keepsTarget = true →
            s.config.targetResult.map Provided.paths
              = t.config.targetResult.map Provided.paths)) := by
  refine ⟨fun fault => ?_, identifier_of_paths h, ?_, ?_⟩
  · rw [identifier_error_iff, identifier_error_iff, h.config.toFields_error]
  · intro hs ht hclash identifier hi hi'
    exact paths_of_same h (same_of_identifier hs ht hclash hi hi')
  · intro output label separator
    refine ⟨fun fault => ?_, fun r r' => report_of_paths h⟩
    rw [Portable.report_error_iff, Portable.report_error_iff, h.config.toFields_error]

section Example

def project (name version : String) (place : Option String) : ProjectMeta :=
  { name, version, path := place.map .str }

def found (name version : String) (place : Option String) : Report :=
  { output := .arr []
    about := {
      analyzer := .str "find-imports"
      dialect := .str "javascript"
      identifier := .str ""
      configuration := []
      target := some (project name version place) } }

theorem proper_found (name version : String) (place : Option String) :
    (found name version place).Proper := by
  have hpath : ∀ v ∈ place.map Json.str, v.Proper := by
    intro v hv
    obtain ⟨s, -, rfl⟩ := Option.map_eq_some_iff.1 hv
    exact .str s
  have hproject : (project name version place).Proper :=
    ⟨hpath, fun _ h => absurd h (by simp [project])⟩
  exact ⟨.arr nofun, .str _, .str _, .str _, Fields.proper_nil, fun p hp =>
    Option.some.inj hp ▸ hproject, fun p hp => absurd hp (by simp [found])⟩

theorem telling_found (name version : String) :
    Report.Telling (found name version none).toWrapped := by
  intro about habout
  obtain rfl := Except.ok.inj habout
  constructor
  · intro u hu fields hfields _
    obtain rfl := Except.ok.inj hu
    obtain rfl := Json.obj.inj hfields
    exact List.cons_ne_nil _ _
  · intro u hu fields hfields
    obtain rfl := Except.ok.inj hu
    exact absurd hfields nofun

theorem writePlaces_found (name version : String) (place : Option String) :
    Report.writePlaces place none (found name version none).toWrapped
      = (found name version place).toWrapped := by
  cases place <;> rfl

def written (name version : String) (place : Option String) :
    Provided := .raw (found name version place).toWrapped

theorem written_sameButPaths (name version : String) (place place' : Option String) :
    (written name version place).SameButPaths (written name version place') := by
  rw [written, written, ← writePlaces_found, ← writePlaces_found _ _ place']
  exact Provided.sameButPaths_raw (telling_found name version) place none place' none

theorem written_sameButPaths_read (name version : String) (place : Option String) :
    (written name version place).SameButPaths (.report (found name version place)) := by
  refine .read (found name version none) place none place none ?_ rfl
  cases place <;> rfl

def imports (place : Option String) : Subject :=
  { target := some (project "app" "1.0.0" place)
    reference := some (project "lib" "2.0.0" none)
    config := {
      targetResult := some (written "app" "1.0.0" place)
      referenceResult := some (written "lib" "2.0.0" none) } }

theorem proper_imports (place : Option String) : (imports place).Proper where
  target m hm := Option.some.inj hm ▸ (proper_found "app" "1.0.0" place).about.target _ rfl
  reference m hm := Option.some.inj hm ▸ (proper_found "lib" "2.0.0" none).about.target _ rfl
  config := {
    gather := fun s hs => by
      obtain rfl := ScopeSetting.scope.inj hs
      exact ⟨fun v hv => List.mem_singleton.1 hv ▸ .str _, fun _ h => absurd h List.not_mem_nil⟩
    gatherReference := fun s hs => absurd hs (by simp [imports])
    targetResult := fun p hp => Option.some.inj hp ▸ (proper_found "app" "1.0.0" place).toWrapped
    referenceResult := fun p hp => Option.some.inj hp ▸ (proper_found "lib" "2.0.0" none).toWrapped
    options := Fields.proper_nil }

theorem imports_sameButPaths (place place' : Option String) :
    (imports place).SameButPaths (imports place') :=
  ⟨rfl, rfl, ⟨_, _, rfl⟩, .some (written_sameButPaths "app" "1.0.0" place place'),
    .some (written_sameButPaths "lib" "2.0.0" none none)⟩

theorem not_samePaths_imports (place : String) :
    ¬(imports none).config.SamePaths (imports (some place)).config := by
  intro h
  have hplace : none = some (Json.str place) :=
    congrArg Prod.fst (Except.ok.inj (Option.some.inj h.target))
  exact absurd hplace nofun

def matched (s : Subject) : Except Fault Report :=
  Portable.report (.arr []) s.config ⟨"match-imports", "javascript", ""⟩ s.target s.reference "/"

theorem recorded_path_stays : (imports none).SameButPaths (imports (some "/work/app"))
    ∧ (∃ v w, (imports none).seed = .ok v ∧ (imports (some "/work/app")).seed = .ok w
      ∧ v.canonical ≠ w.canonical)
    ∧ ∃ r r', matched (imports none) = .ok r ∧ matched (imports (some "/work/app")) = .ok r'
      ∧ r'.about.configuration ≠ r.about.configuration := by
  have hsame := imports_sameButPaths none (some "/work/app")
  have hpaths := not_samePaths_imports "/work/app"
  refine ⟨hsame, ⟨_, _, rfl, rfl, fun hcanonical => hpaths ?_⟩, _, _, rfl, rfl,
    fun hconfiguration => hpaths ?_⟩
  · exact paths_of_same hsame
      (same_of_canonical (proper_imports none) (proper_imports _) rfl rfl hcanonical)
  · exact ⟨(report_of_paths hsame rfl rfl).2.2.2.1 hconfiguration rfl, rfl⟩

open Survey

def nowhere : Surroundings SourceTree := Disk.surroundings { tree := { entries := [] } } "/"

def importsRead (place : Option String) : Subject :=
  { imports place with
    config := {
      targetResult := some (.report (found "app" "1.0.0" place))
      referenceResult := some (.report (found "lib" "2.0.0" none)) } }

theorem identified_importsRead {c : Config} (place : Option String)
    (h : c.unwound = .ok (importsRead place).config) :
    ∃ p, Identified nowhere Catalogue.matchImports c p ∧ p.subject = importsRead place := by
  obtain ⟨p, hp, hconfig, htarget, hreference, -⟩ := exists_identified (d := 899) (w := nowhere)
    (a := Catalogue.matchImports) h rfl rfl rfl rfl (by cases place <;> rfl)
    (by cases place <;> rfl) rfl (by decide)
  refine ⟨p, hp, ?_⟩
  rw [Prepared.subject, hconfig, htarget, hreference]
  rfl

theorem imports_sameButPaths_read (place : Option String) :
    (imports place).SameButPaths (importsRead place) :=
  ⟨rfl, rfl, ⟨_, _, rfl⟩, .some (written_sameButPaths_read "app" "1.0.0" place),
    .some (written_sameButPaths_read "lib" "2.0.0" none)⟩

theorem made_importsRead {p : Prepared} {place : Option String}
    (h : p.subject = importsRead place) : ∃ r s, made nowhere Catalogue.matchImports p = .ok r
      ∧ matched p.subject = .ok s
      ∧ r.about.target = s.about.target ∧ r.about.configuration = s.about.configuration := by
  obtain ⟨config, identifier, target, reference, files⟩ := p
  obtain ⟨rfl, rfl, rfl⟩ := Subject.mk.inj h
  cases place <;> exact ⟨_, _, rfl, rfl, rfl, rfl⟩

theorem noClash_of_eq {s t : Subject} (h : t = s) : NoClash s t := by
  intro v w hv hw _
  rw [h] at hw
  rw [Except.ok.inj (hv.symm.trans hw)]

theorem not_samePaths_importsRead {p p' : Prepared} {place : String}
    (h : p.subject = importsRead none) (h' : p'.subject = importsRead (some place)) :
    ¬p.config.SamePaths p'.config := by
  have hconfig : p.config = _ := congrArg Subject.config h
  have hconfig' : p'.config = _ := congrArg Subject.config h'
  rw [hconfig, hconfig']
  exact fun hpaths => not_samePaths_imports place ⟨hpaths.target, hpaths.reference⟩

theorem configuration_ne_importsRead {p p' : Prepared} {place : String} {r r' s s' : Report}
    (h : p.subject = importsRead none) (h' : p'.subject = importsRead (some place))
    (hr : r.about.configuration = s.about.configuration)
    (hr' : r'.about.configuration = s'.about.configuration)
    (hkept : s'.about.configuration = s.about.configuration ↔ (p.config.keepsTarget = true →
      p.config.targetResult.map Provided.paths = p'.config.targetResult.map Provided.paths)) :
    r'.about.configuration ≠ r.about.configuration := by
  intro hsettled
  rw [hr, hr'] at hsettled
  have hconfig : p.config = _ := congrArg Subject.config h
  have hconfig' : p'.config = _ := congrArg Subject.config h'
  have hkeeps : p.config.keepsTarget = true := by
    rw [hconfig]
    rfl
  have hreference : p.config.referenceResult.map Provided.paths
      = p'.config.referenceResult.map Provided.paths := by
    rw [hconfig, hconfig']
    rfl
  exact not_samePaths_importsRead h h' ⟨hkept.1 hsettled hkeeps, hreference⟩

theorem recorded_paths_count_where_written_of_app : ∃ p p' q,
    Identified nowhere Catalogue.matchImports (imports none).config p
    ∧ Identified nowhere Catalogue.matchImports (imports (some "/work/app")).config p'
    ∧ Identified nowhere Catalogue.matchImports (importsRead (some "/work/app")).config q
    ∧ q.identifier = p'.identifier ∧ p'.config.SamePaths q.config
    ∧ (NoClash p.subject p'.subject → p'.identifier ≠ p.identifier)
    ∧ ∃ r r', made nowhere Catalogue.matchImports p = .ok r
      ∧ made nowhere Catalogue.matchImports p' = .ok r'
      ∧ r'.about.target = r.about.target ∧ r'.about.configuration ≠ r.about.configuration := by
  obtain ⟨p, hp, hsubject⟩ := identified_importsRead (c := (imports none).config) none rfl
  obtain ⟨p', hp', hsubject'⟩ :=
    identified_importsRead (c := (imports (some "/work/app")).config) (some "/work/app") rfl
  obtain ⟨q, hq, hread⟩ :=
    identified_importsRead (c := (importsRead (some "/work/app")).config) (some "/work/app") rfl
  have hsame : q.subject = p'.subject := hread.trans hsubject'.symm
  have hproper := (hp.proper (Disk.describesProper _ _) (proper_imports none).config).subject
  have hproper' := (hp'.proper (Disk.describesProper _ _) (proper_imports _).config).subject
  have hproperRead : q.subject.Proper := by rwa [hsame]
  obtain ⟨-, halike, hpaths, -⟩ := recorded_paths_count_where_written p'.subject q.subject
    (Identified.sameButPaths (imports_sameButPaths_read _).config hp' hq)
  obtain ⟨-, -, hnamed, hreports⟩ := recorded_paths_count_where_written p.subject p'.subject
    (Identified.sameButPaths (imports_sameButPaths none _).config hp hp')
  have hidentifier : q.subject.identifier = .ok p'.identifier :=
    (halike (by rw [hsame]; exact ⟨rfl, rfl⟩)).trans hp'.identifier
  obtain ⟨r, s, hr, hs, htarget, hconfiguration⟩ := made_importsRead hsubject
  obtain ⟨r', s', hr', hs', htarget', hconfiguration'⟩ := made_importsRead hsubject'
  obtain ⟨-, hlike, -, hkept⟩ :=
    (hreports (.arr []) ⟨"match-imports", "javascript", ""⟩ "/").2 s s' hs hs'
  refine ⟨p, p', q, hp, hp', hq, Except.ok.inj (hq.identifier.symm.trans hidentifier), ?_, ?_,
    r, r', hr, hr', by rw [htarget, htarget', hlike], ?_⟩
  · exact hpaths hproper' hproperRead (noClash_of_eq hsame) _ hp'.identifier hidentifier
  · intro hclash hshared
    exact not_samePaths_importsRead hsubject hsubject'
      (hnamed hproper hproper' hclash _ hp.identifier (hshared ▸ hp'.identifier))
  · exact configuration_ne_importsRead hsubject hsubject' hconfiguration hconfiguration' hkept

end Example

end Identity.Subject

end CodeSurvey
