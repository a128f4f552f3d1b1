import CodeSurvey.Proofs.Report.Content
import CodeSurvey.Proofs.Report.FileTexts
import CodeSurvey.Proofs.Run.Alike
import Mathlib.Logic.Relation

namespace CodeSurvey

def Json.at? (v : Json) (name : String) : Option Json :=
  match v with
  | .obj fields => Fields.get? fields name
  | _ => none

namespace Portable

variable (key : Option String) (v : Json) (name : String)

theorem at?_withSlashes :
    (withSlashes key v).at? name = (v.at? name).map (withSlashes (some name)) := by
  cases v with
  | obj fields => exact get?_fieldsWithSlashes fields name
  | str s =>
      rw [withSlashes]
      split <;> rfl
  | _ => rfl

theorem aboutOf_withSlashes :
    Report.aboutOf (withSlashes key v) = withSlashes (some "analyzerMeta")
      <$> Report.aboutOf v := by
  rw [withSlashes_eq, Report.aboutOf_mapFiles, funext (withSlashes_eq (some "analyzerMeta"))]

end Portable

namespace Report

def said (v : Json) (name : String) : Option Json :=
  (aboutOf v).toOption.bind fun about => about.at? name

def setting (v : Json) (name : String) : Option Json :=
  (said v "configuration").bind fun settings => settings.at? name

def Retains (v w : Json) : Prop :=
  setting v "targetProjectResult" = some w ∨ setting v "referenceProjectResult" = some w

structure Stripped (v : Json) : Prop where
  configuration : ∃ fields, said v "configuration" = some (.obj fields)
  target : ((said v "targetProject").bind fun project => project.at? "path") = none
  reference : ((said v "referenceProject").bind fun project => project.at? "path") = none
  targetPath : setting v "targetProjectPath" = none
  referencePath : setting v "referenceProjectPath" = none
  noReferenceResult : setting v "referenceProjectResult" = none

def Clean (v : Json) : Prop :=
  ∀ w, Relation.ReflTransGen Retains v w → Stripped w ∧ said w "__fromCache" = none

theorem clean_iff {v : Json} :
    Clean v ↔ Stripped v ∧ said v "__fromCache" = none ∧ ∀ w, Retains v w → Clean w := by
  constructor
  · intro h
    obtain ⟨hstripped, hnew⟩ := h v .refl
    exact ⟨hstripped, hnew, fun w hw u hu => h u (.head hw hu)⟩
  · rintro ⟨hstripped, hnew, hretained⟩ w hw
    rcases hw.cases_head with rfl | ⟨u, hu, hw⟩
    · exact ⟨hstripped, hnew⟩
    · exact hretained u hu w hw

structure Shareable (v : Json) : Prop where
  stripped : Stripped v
  retained : ∀ w, Relation.TransGen Retains v w → Stripped w ∧ said w "__fromCache" = none

section Slashes

open Portable (withSlashes)

theorem said_withSlashes (key : Option String) (v : Json) (name : String) :
    said (withSlashes key v) name = (said v name).map (withSlashes (some name)) := by
  rw [said, said, Portable.aboutOf_withSlashes]
  cases aboutOf v with
  | error f => rfl
  | ok about => exact Portable.at?_withSlashes _ about name

theorem part_withSlashes (key : Option String) (v : Json) (name part : String) :
    ((said (withSlashes key v) name).bind fun u => u.at? part)
      = ((said v name).bind fun u => u.at? part).map (withSlashes (some part)) := by
  rw [said_withSlashes]
  cases said v name with
  | none => rfl
  | some u => exact Portable.at?_withSlashes _ u part

theorem setting_withSlashes (key : Option String) (v : Json) (name : String) :
    setting (withSlashes key v) name = (setting v name).map (withSlashes (some name)) :=
  part_withSlashes key v "configuration" name

theorem Stripped.withSlashes {v : Json} (h : Stripped v) (key : Option String) :
    Stripped (withSlashes key v) where
  configuration := by
    obtain ⟨fields, hfields⟩ := h.configuration
    exact ⟨_, by rw [said_withSlashes, hfields, Option.map_some, Portable.withSlashes]⟩
  target := by rw [part_withSlashes, h.target, Option.map_none]
  reference := by rw [part_withSlashes, h.reference, Option.map_none]
  targetPath := by rw [setting_withSlashes, h.targetPath, Option.map_none]
  referencePath := by rw [setting_withSlashes, h.referencePath, Option.map_none]
  noReferenceResult := by rw [setting_withSlashes, h.noReferenceResult, Option.map_none]

theorem retains_withSlashes {key : Option String} {v w : Json} (h : Retains (withSlashes key v) w) :
    ∃ other u, Retains v u ∧ w = withSlashes other u := by
  rcases h with h | h <;> rw [setting_withSlashes] at h <;> obtain ⟨u, hu, rfl⟩ :=
    Option.map_eq_some_iff.1 h
  · exact ⟨_, u, .inl hu, rfl⟩
  · exact ⟨_, u, .inr hu, rfl⟩

theorem reaches_withSlashes {key : Option String} {v w : Json}
    (h : Relation.ReflTransGen Retains (withSlashes key v) w) :
    ∃ other u, Relation.ReflTransGen Retains v u ∧ w = withSlashes other u := by
  induction h with
  | refl => exact ⟨key, v, .refl, rfl⟩
  | tail _ hlast ih =>
      obtain ⟨other, u, hu, rfl⟩ := ih
      obtain ⟨last, x, hx, rfl⟩ := retains_withSlashes hlast
      exact ⟨last, x, hu.tail hx, rfl⟩

theorem Clean.withSlashes {v : Json} (h : Clean v) (key : Option String) :
    Clean (withSlashes key v) := by
  intro w hw
  obtain ⟨other, u, hu, rfl⟩ := reaches_withSlashes hw
  obtain ⟨hstripped, hnew⟩ := h u hu
  exact ⟨hstripped.withSlashes other, by rw [said_withSlashes, hnew, Option.map_none]⟩

end Slashes

theorem said_eq {v : Json} {m : ReportMeta} (h : aboutOf v = .ok m.toJson) (name : String) :
    said v name = Fields.get? m.toFields name := by
  rw [said, h]
  rfl

theorem setting_eq {v : Json} {m : ReportMeta} (h : aboutOf v = .ok m.toJson) (name : String) :
    setting v name = m.configuration.get? name := by
  rw [setting, said_eq h, m.get?_configuration]
  rfl

end Report

namespace ReportMeta

open Report (Clean Retains Stripped said setting)

structure Released (m : ReportMeta) : Prop where
  pathless : m.Pathless
  targetPath : m.configuration.get? "targetProjectPath" = none
  referencePath : m.configuration.get? "referenceProjectPath" = none
  noReferenceResult : m.configuration.get? "referenceProjectResult" = none
  retained : ∀ w, m.configuration.get? "targetProjectResult" = some w → Clean w

namespace Released

variable {m : ReportMeta} {v w : Json}

theorem settled (h : m.Released) : m.settled.Released :=
  ⟨h.pathless.settled, h.targetPath, h.referencePath, h.noReferenceResult, h.retained⟩

theorem mark {r : Report} (h : r.about.Released) (fromCache : Bool) :
    (r.mark fromCache).about.Released :=
  ⟨⟨h.pathless.target, h.pathless.reference⟩, h.targetPath, h.referencePath,
    h.noReferenceResult, h.retained⟩

theorem stripped (h : m.Released) (hv : Report.aboutOf v = .ok m.toJson) : Stripped v where
  configuration := ⟨m.configuration, by rw [Report.said_eq hv, m.get?_configuration]⟩
  target := by
    rw [Report.said_eq hv, m.get?_target]
    cases hp : m.target with
    | none => rfl
    | some p => exact (p.get?_path).trans (h.pathless.target p hp)
  reference := by
    rw [Report.said_eq hv, m.get?_reference]
    cases hp : m.reference with
    | none => rfl
    | some p => exact (p.get?_path).trans (h.pathless.reference p hp)
  targetPath := (Report.setting_eq hv _).trans h.targetPath
  referencePath := (Report.setting_eq hv _).trans h.referencePath
  noReferenceResult := (Report.setting_eq hv _).trans h.noReferenceResult

theorem clean_of_retains (h : m.Released) (hv : Report.aboutOf v = .ok m.toJson)
    (hw : Retains v w) : Clean w := by
  rcases hw with hw | hw <;> rw [Report.setting_eq hv] at hw
  · exact h.retained w hw
  · exact absurd (h.noReferenceResult.symm.trans hw) nofun

theorem shareable (h : m.Released) (hv : Report.aboutOf v = .ok m.toJson) : Report.Shareable v where
  stripped := h.stripped hv
  retained w hw := by
    obtain ⟨u, hu, hw⟩ := Relation.TransGen.head'_iff.1 hw
    exact h.clean_of_retains hv hu w hw

theorem clean_portable {r : Report} (h : r.about.Released) : Clean r.portable := by
  have habout : Report.aboutOf r.portable = .ok (r.mark false).about.toJson := rfl
  have hmarked := h.mark false
  refine Report.clean_iff.2 ⟨hmarked.stripped habout, ?_, fun w hw =>
    hmarked.clean_of_retains habout hw⟩
  rw [Report.said_eq habout, ReportMeta.get?_fromCache]
  rfl

end Released

end ReportMeta

namespace Portable

theorem get?_dropResult_reference (fields : Fields) :
    (dropResult fields).get? "referenceProjectResult" = none := by
  unfold dropResult
  split
  · rw [Fields.get?_erase, if_pos rfl]
  · rename_i h
    rw [Fields.get?_erase, if_neg (by decide)]
    simpa [Fields.has] using h

theorem get?_dropResult_target (fields : Fields) : (dropResult fields).get? "targetProjectResult"
    = if fields.has "referenceProjectResult" then fields.get? "targetProjectResult" else none := by
  unfold dropResult
  split
  · rw [Fields.get?_erase, if_neg (by decide)]
  · rw [Fields.get?_erase, if_pos rfl]

theorem get?_dropResult_of_ne (fields : Fields) {name : String}
    (htarget : name ≠ "targetProjectResult") (hreference : name ≠ "referenceProjectResult") :
    (dropResult fields).get? name = fields.get? name := by
  unfold dropResult
  split
  · rw [Fields.get?_erase, if_neg hreference]
  · rw [Fields.get?_erase, if_neg htarget]

section Report

variable {c : Config} {target reference : Option Report} {fields : Fields}

theorem configuration_eq_ok (htarget : c.targetResult = target.map .report)
    (hreference : c.referenceResult = reference.map .report) (h : configuration c = .ok fields) :
    ∃ gather gatherReference, fields = dropResult (Config.withoutPaths
      (c.build gather gatherReference (target.map Report.portable)
        (reference.map Report.portable))) := by
  obtain ⟨all, hall, h⟩ := Outcome.bind_eq_ok.1 h
  rw [Config.toFields_of_reports htarget hreference] at hall
  obtain ⟨gather, -, hall⟩ := Outcome.bind_eq_ok.1 hall
  obtain ⟨gatherReference, -, hall⟩ := Outcome.bind_eq_ok.1 hall
  obtain rfl := Except.ok.inj hall
  exact ⟨gather, gatherReference, (Except.ok.inj h).symm⟩

theorem get?_configuration (hc : c.Unreserved) (htarget : c.targetResult = target.map .report)
    (hreference : c.referenceResult = reference.map .report) (h : configuration c = .ok fields) :
    fields.get? "targetProjectPath" = none ∧ fields.get? "referenceProjectPath" = none
      ∧ fields.get? "referenceProjectResult" = none
      ∧ fields.get? "targetProjectResult" = if reference.isSome then target.map Report.portable
        else none := by
  obtain ⟨gather, gatherReference, rfl⟩ := configuration_eq_ok htarget hreference h
  refine ⟨?_, ?_, get?_dropResult_reference _, ?_⟩
  · rw [get?_dropResult_of_ne _ (by decide) (by decide)]
    exact Config.get?_withoutPaths_of_path (.inl rfl)
  · rw [get?_dropResult_of_ne _ (by decide) (by decide)]
    exact Config.get?_withoutPaths_of_path (.inr rfl)
  · rw [get?_dropResult_target, Fields.has, Config.get?_withoutPaths (by decide) (by decide),
      Config.get?_withoutPaths (by decide) (by decide), Config.get?_build_target hc,
      Config.get?_build_reference hc, Option.isSome_map]

theorem get?_reported {separator name : String} {w : Json}
    (h : Fields.get? (if separator = "/" then fields else fieldsWithSlashes fields) name = some w) :
    ∃ v, fields.get? name = some v ∧ (w = v ∨ w = withSlashes (some name) v) := by
  split at h
  · exact ⟨w, h, .inl rfl⟩
  · rw [get?_fieldsWithSlashes] at h
    obtain ⟨v, hv, rfl⟩ := Option.map_eq_some_iff.1 h
    exact ⟨v, hv, .inr rfl⟩

theorem released_report (hc : c.Unreserved) (htarget : c.targetResult = target.map .report)
    (hreference : c.referenceResult = reference.map .report)
    (hreleased : ∀ r ∈ target, r.about.Released) {output : Json} {label : Label}
    {project other : Option ProjectMeta} {separator : String} {r : Report}
    (h : report output c label project other separator = .ok r) :
    r.about.Released ∧ ∀ w, r.about.configuration.get? "targetProjectResult" = some w →
      target.isSome = true ∧ reference.isSome = true := by
  have hpathless := pathless_report h
  obtain ⟨fields, hfields, rfl⟩ := report_eq_ok h
  obtain ⟨htargetPath, hreferencePath, hnone, hkept⟩ :=
    get?_configuration hc htarget hreference hfields
  have habsent {name : String} (hmissing : fields.get? name = none) :
      Fields.get? (if separator = "/" then fields else fieldsWithSlashes fields) name = none := by
    refine Option.eq_none_iff_forall_ne_some.2 fun w hw => ?_
    obtain ⟨v, hv, -⟩ := get?_reported hw
    exact absurd (hmissing.symm.trans hv) nofun
  have hretained {v : Json} (hv : fields.get? "targetProjectResult" = some v) :
      reference.isSome = true ∧ ∃ s, target = some s ∧ s.portable = v := by
    rw [hkept] at hv
    split at hv
    · exact ⟨‹_›, Option.map_eq_some_iff.1 hv⟩
    · exact absurd hv nofun
  refine ⟨⟨hpathless, habsent htargetPath, habsent hreferencePath, habsent hnone, fun w hw => ?_⟩,
    fun w hw => ?_⟩
  · obtain ⟨v, hv, hw⟩ := get?_reported hw
    obtain ⟨-, s, hs, rfl⟩ := hretained hv
    have hclean := (hreleased s hs).clean_portable
    rcases hw with rfl | rfl
    · exact hclean
    · exact hclean.withSlashes _
  · obtain ⟨v, hv, -⟩ := get?_reported hw
    obtain ⟨hboth, s, rfl, -⟩ := hretained hv
    exact ⟨rfl, hboth⟩

end Report

end Portable

end CodeSurvey
