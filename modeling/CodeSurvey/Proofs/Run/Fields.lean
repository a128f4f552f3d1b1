import CodeSurvey.Proofs.Json.Proper
import CodeSurvey.Proofs.Outcome
import CodeSurvey.Run.Identity
import CodeSurvey.Run.Portable

namespace CodeSurvey

namespace Config

def build (c : Config) (gather gatherReference target reference : Option Json) : Fields :=
  let fields := putSome c.options targetPathKey (c.targetPath.map .str)
  let fields := putSome fields referencePathKey (c.referencePath.map .str)
  let fields := putSome fields "gatherFilesConfig" gather
  let fields := putSome fields "gatherFilesConfigReference" gatherReference
  let fields :=
    if c.skipCheck then fields.put "skipCheckMatchCompatibility" (.bool true) else fields
  let fields := putSome fields "targetProjectResult" target
  putSome fields "referenceProjectResult" reference

theorem toFields_eq (c : Config) : c.toFields = (do
    let gather ← c.gather.toJson?
    let gatherReference ← c.gatherReference.toJson?
    let target ← c.targetResult.mapM Provided.portable
    let reference ← c.referenceResult.mapM Provided.portable
    return c.build gather gatherReference target reference) := rfl

theorem mapM_portable (r : Option Report) :
    (r.map Provided.report).mapM Provided.portable = .ok (r.map Report.portable) := by
  cases r <;> rfl

theorem toFields_of_reports {c : Config} {target reference : Option Report}
    (htarget : c.targetResult = target.map .report)
    (hreference : c.referenceResult = reference.map .report) :
    c.toFields = (do
      let gather ← c.gather.toJson?
      let gatherReference ← c.gatherReference.toJson?
      return c.build gather gatherReference (target.map Report.portable)
          (reference.map Report.portable)) := by
  rw [toFields_eq, htarget, hreference, mapM_portable, mapM_portable]
  rfl

theorem unwound_eq {c u : Config} (h : c.unwound = .ok u) :
    ∃ target reference, c.targetResult.mapM Provided.unwind = .ok target
      ∧ c.referenceResult.mapM Provided.unwind = .ok reference
      ∧ u = { c with
        targetResult := target.map .report
        referenceResult := reference.map .report } := by
  obtain ⟨target, htarget, h⟩ := Outcome.bind_eq_ok.1 h
  obtain ⟨reference, hreference, h⟩ := Outcome.bind_eq_ok.1 h
  exact ⟨target, reference, htarget, hreference, (Except.ok.inj h).symm⟩

def reservedNames : List String :=
  ["targetProjectPath", "referenceProjectPath", "gatherFilesConfig", "gatherFilesConfigReference",
    "skipCheckMatchCompatibility", "targetProjectResult", "referenceProjectResult"]

def Unreserved (c : Config) : Prop := ∀ name ∈ reservedNames, c.options.get? name = none

theorem get?_putSome (fields : Fields) (name other : String) (value : Option Json) :
    (putSome fields name value).get? other = if other = name then value.or
    (fields.get? name) else fields.get? other := by
  cases value with
  | none =>
      split
      · rename_i h
        rw [h]
        rfl
      · rfl
  | some v =>
      split
      · rename_i h
        rw [h, putSome, Fields.get?_put_self]
        rfl
      · rename_i h
        rw [putSome, Fields.get?_put_of_ne _ _ h]

theorem get?_skipped (skipped : Bool) (fields : Fields) {name : String}
    (h : name ≠ "skipCheckMatchCompatibility") :
    Fields.get? (if skipped then fields.put "skipCheckMatchCompatibility" (.bool true) else fields)
      name = fields.get? name := by
  cases skipped with
  | true => rw [if_pos rfl, Fields.get?_put_of_ne _ _ h]
  | false => rfl

section Build

variable {c : Config} (hc : c.Unreserved) (gather gatherReference target reference : Option Json)

include hc in
theorem get?_build_gather :
    (c.build gather gatherReference target reference).get? "gatherFilesConfig" = gather := by
  have hnone : c.options.get? "gatherFilesConfig" = none := hc _ (by simp [reservedNames])
  simp [build, get?_putSome, get?_skipped, targetPathKey, referencePathKey, hnone]

include hc in
theorem get?_build_target :
    (c.build gather gatherReference target reference).get? "targetProjectResult" = target := by
  have hnone : c.options.get? "targetProjectResult" = none := hc _ (by simp [reservedNames])
  simp [build, get?_putSome, get?_skipped, targetPathKey, referencePathKey, hnone]

include hc in
theorem get?_build_reference :
    (c.build gather gatherReference target reference).get? "referenceProjectResult"
      = reference := by
  have hnone : c.options.get? "referenceProjectResult" = none := hc _ (by simp [reservedNames])
  simp [build, get?_putSome, get?_skipped, targetPathKey, referencePathKey, hnone]

theorem get?_build_option {name : String} (hname : name ∉ reservedNames) :
    (c.build gather gatherReference target reference).get? name = c.options.get? name := by
  simp only [reservedNames, List.mem_cons, List.not_mem_nil, or_false, not_or] at hname
  obtain ⟨h1, h2, h3, h4, h5, h6, h7⟩ := hname
  simp only [build, get?_putSome, targetPathKey, referencePathKey, h1, h2, h3, h4, h6, h7, if_false,
    get?_skipped _ _ h5]

end Build

section WithoutPaths

def isSetting (name : String) : Bool := name != targetPathKey && name != referencePathKey

theorem withoutPaths_putSome (fields : Fields) (name : String) (value : Option Json) :
    withoutPaths (putSome fields name value)
      = if isSetting name then putSome (withoutPaths fields) name value
        else withoutPaths fields := by
  cases value with
  | none =>
      simp only [putSome]
      split <;> rfl
  | some v => exact Fields.filter_put isSetting fields name v

theorem withoutPaths_skipped (skipped : Bool) (fields : Fields) :
    withoutPaths (if skipped then fields.put "skipCheckMatchCompatibility" (.bool true) else fields)
      = if skipped then (withoutPaths fields).put "skipCheckMatchCompatibility" (.bool true)
        else withoutPaths fields := by
  cases skipped with
  | true => exact Fields.filter_put isSetting fields "skipCheckMatchCompatibility" (.bool true)
  | false => rfl

theorem withoutPaths_build (c : Config) (gather gatherReference target reference : Option Json) :
    withoutPaths (c.build gather gatherReference target reference)
      = Config.build
        { c with targetPath := none, referencePath := none, options := withoutPaths c.options }
        gather gatherReference target reference := by
  have hkept : ∀ name ∈ ["gatherFilesConfig", "gatherFilesConfigReference", "targetProjectResult",
      "referenceProjectResult"], isSetting name = true := by decide
  have hdropped : ∀ name ∈ [targetPathKey, referencePathKey], isSetting name = false := by decide
  simp only [List.forall_mem_cons] at hkept hdropped
  obtain ⟨hgather, hgatherReference, htarget, hreference, -⟩ := hkept
  obtain ⟨htargetPath, hreferencePath, -⟩ := hdropped
  simp only [build, withoutPaths_putSome, withoutPaths_skipped, hgather, hgatherReference,
    htarget, hreference, htargetPath, hreferencePath, Bool.false_eq_true, if_true, if_false,
    Option.map_none]
  rfl

def settings (c : Config) : Except Fault Fields := withoutPaths <$> c.toFields

theorem settings_eq (c : Config) : c.settings = (do
    let gather ← c.gather.toJson?
    let gatherReference ← c.gatherReference.toJson?
    let target ← c.targetResult.mapM Provided.portable
    let reference ← c.referenceResult.mapM Provided.portable
    return Config.build
      { c with targetPath := none, referencePath := none, options := withoutPaths c.options }
      gather gatherReference target reference) := by
  simp only [settings, toFields_eq, ← withoutPaths_build, map_bind, Outcome.pure_eq, Outcome.map_ok]

theorem settings_of_paths (c : Config) (targetPath referencePath : Option String) :
    ({ c with targetPath, referencePath } : Config).settings = c.settings := by
  rw [settings_eq, settings_eq]

end WithoutPaths

end Config

theorem Portable.configuration_eq (c : Config) : configuration c = dropResult <$> c.settings := by
  rw [configuration, Config.settings]
  cases c.toFields <;> rfl

theorem Identity.seed_eq (target reference : Option ProjectMeta) (c : Config) :
    seed target reference c = seedOf target reference <$> c.settings := by
  have hagain (fields : Fields) : Config.withoutPaths (Config.withoutPaths fields)
      = Config.withoutPaths fields := by
    simp only [Config.withoutPaths, List.filter_filter, Bool.and_self]
  rw [seed, Config.settings]
  cases c.toFields with
  | error f => rfl
  | ok fields => simp only [Outcome.ok_bind, Outcome.pure_eq, Outcome.map_ok, seedOf, hagain]

end CodeSurvey
