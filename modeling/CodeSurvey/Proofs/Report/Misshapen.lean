import CodeSurvey.Proofs.Outcome
import CodeSurvey.Report.Basic

namespace CodeSurvey

namespace Fault

def IsLack : Fault → Prop
  | missingKey _ => True
  | mistyped => True
  | _ => False

end Fault

namespace Json

theorem keyText_error {v : Json} {f : Fault} (h : v.keyText = .error f) : f = .mistyped := by
  cases v with
  | null => exact absurd h (by simp [keyText])
  | bool b => cases b <;> exact absurd h (by simp [keyText])
  | int n => exact absurd h (by simp [keyText])
  | real d => exact absurd h (by simp [keyText])
  | str s => exact absurd h (by simp [keyText])
  | arr items => exact (Except.error.inj h).symm
  | obj fields => exact (Except.error.inj h).symm

theorem elements_error {v : Json} {f : Fault} (h : v.elements = .error f) : f = .mistyped := by
  cases v with
  | null => exact (Except.error.inj h).symm
  | bool b => exact (Except.error.inj h).symm
  | int n => exact (Except.error.inj h).symm
  | real d => exact (Except.error.inj h).symm
  | str s => exact absurd h (by simp [elements])
  | arr items => exact absurd h (by simp [elements])
  | obj fields => exact absurd h (by simp [elements])

def NoPair (v : Json) : Prop := ∃ parts, v.elements = .ok parts ∧ parts.length ≠ 2

theorem asPair_error {v : Json} {f : Fault} (h : v.asPair = .error f) :
    (f = .mistyped ∧ ¬v.NoPair) ∨ (f = .invalid ∧ v.NoPair) := by
  cases hparts : v.elements with
  | error e =>
      left
      rw [asPair, hparts, Outcome.error_bind] at h
      obtain rfl := Except.error.inj h
      refine ⟨elements_error hparts, ?_⟩
      rintro ⟨parts, hok, -⟩
      exact absurd (hparts.symm.trans hok) (by simp)
  | ok parts =>
      rw [asPair, hparts, Outcome.ok_bind] at h
      split at h
      · rename_i key value
        left
        refine ⟨?_, ?_⟩
        · cases hkey : key.keyText with
          | error e =>
              rw [hkey, Outcome.error_bind] at h
              rw [← Except.error.inj h, keyText_error hkey]
          | ok name => exact absurd h (by simp [hkey])
        · rintro ⟨others, hok, hlength⟩
          obtain rfl := Except.ok.inj (hparts.symm.trans hok)
          exact hlength rfl
      · rename_i hpair
        right
        refine ⟨(Except.error.inj h).symm, parts, hparts, ?_⟩
        intro hlength
        obtain ⟨key, value, rfl⟩ := List.length_eq_two.1 hlength
        exact hpair key value rfl

inductive StopsPairing : List Json → Prop where
  | here {item : Json} {rest : List Json} (h : item.NoPair) : StopsPairing (item :: rest)
  | later {item : Json} {rest : List Json} {pair : String × Json} (hpair : item.asPair = .ok pair)
      (h : StopsPairing rest) : StopsPairing (item :: rest)

def NoPairs (v : Json) : Prop :=
  (∀ fields, v ≠ .obj fields) ∧ ∃ items, v.elements = .ok items ∧ StopsPairing items

theorem foldlM_of_stopsPairing {items : List Json} (h : StopsPairing items) (acc : Fields) :
    items.foldlM (fun (acc : Fields) item => do
      let (name, value) ← item.asPair
      pure (acc.put name value)) acc = Except.error Fault.invalid := by
  induction h generalizing acc with
  | @here item rest h =>
      rw [List.foldlM_cons]
      cases hpair : item.asPair with
      | error f =>
          rcases asPair_error hpair with ⟨-, hno⟩ | ⟨rfl, -⟩
          · exact absurd h hno
          · rfl
      | ok pair =>
          obtain ⟨parts, hparts, hlength⟩ := h
          rw [asPair, hparts, Outcome.ok_bind] at hpair
          split at hpair
          · exact absurd rfl hlength
          · exact absurd hpair (by simp)
  | later hpair _ ih =>
      rw [List.foldlM_cons, hpair]
      exact ih _

theorem mistyped_of_foldlM {items : List Json} (h : ¬StopsPairing items) {acc : Fields} {f : Fault}
    (hf : items.foldlM (fun (acc : Fields) item => do
      let (name, value) ← item.asPair
      pure (acc.put name value)) acc = Except.error f) : f = .mistyped := by
  induction items generalizing acc with
  | nil => exact absurd hf (by simp)
  | cons item rest ih =>
      rw [List.foldlM_cons] at hf
      cases hpair : item.asPair with
      | error e =>
          rw [hpair] at hf
          obtain rfl := Except.error.inj hf
          rcases asPair_error hpair with ⟨hmistyped, -⟩ | ⟨-, hno⟩
          · exact hmistyped
          · exact absurd (.here hno) h
      | ok pair =>
          rw [hpair] at hf
          exact ih (fun hrest => h (.later hpair hrest)) hf

theorem asFields_of_noPairs {v : Json} (h : v.NoPairs) : v.asFields = .error .invalid := by
  obtain ⟨hobject, items, hitems, hstops⟩ := h
  unfold asFields
  split
  · exact absurd rfl (hobject _)
  · rw [hitems]
    exact foldlM_of_stopsPairing hstops []

theorem mistyped_of_asFields {v : Json} (h : ¬v.NoPairs) {f : Fault} (hf : v.asFields = .error f) :
    f = .mistyped := by
  unfold asFields at hf
  split at hf
  · exact absurd hf (by simp)
  · rename_i hobject
    cases hitems : v.elements with
    | error e =>
        rw [hitems] at hf
        obtain rfl := Except.error.inj hf
        exact elements_error hitems
    | ok items =>
        rw [hitems] at hf
        exact mistyped_of_foldlM (fun hstops => h ⟨hobject, items, hitems, hstops⟩) hf

theorem lack_of_require {v : Json} {name : String} {f : Fault} (h : v.require name = .error f) :
    f.IsLack := by
  unfold require at h
  split at h
  · split at h
    · exact absurd h (by simp)
    · obtain rfl := Except.error.inj h
      trivial
  · obtain rfl := Except.error.inj h
    trivial

end Json

namespace ProjectMeta

def NoProject (v : Json) : Prop := v.isEmpty = false ∧ ∀ fields, v ≠ .obj fields

theorem ofJson?_of_noProject {v : Json} (h : NoProject v) : ofJson? v = .error .unsupported := by
  obtain ⟨hempty, hobject⟩ := h
  rw [ofJson?, if_neg (by simp [hempty])]
  cases v with
  | obj fields => exact absurd rfl (hobject fields)
  | _ => rfl

theorem exists_ofJson? {v : Json} (h : ¬NoProject v) : ∃ p, ofJson? v = .ok p := by
  rw [ofJson?]
  cases hempty : v.isEmpty with
  | true => exact ⟨none, rfl⟩
  | false =>
      cases v with
      | obj fields => exact ⟨_, rfl⟩
      | _ => exact absurd ⟨hempty, by simp⟩ h

theorem unsupported_of_ofJson? {v : Json} {f : Fault} (h : ofJson? v = .error f) :
    f = .unsupported := by
  by_cases hno : NoProject v
  · exact Except.error.inj (h.symm.trans (ofJson?_of_noProject hno))
  · obtain ⟨p, hp⟩ := exists_ofJson? hno
    exact absurd (h.symm.trans hp) (by simp)

end ProjectMeta

namespace ReportMeta

def configurationOf (fields : Fields) : Json := (fields.get? "configuration").getD (.obj [])

inductive Misshapen : Json → Prop where
  | noObject {v : Json} (h : ∀ fields, v ≠ .obj fields) : Misshapen v
  | noPairs {fields : Fields} (h : (configurationOf fields).NoPairs) : Misshapen (.obj fields)
  | noProject {fields configuration : Fields} {name : String} {v : Json}
      (hconfiguration : (configurationOf fields).asFields = .ok configuration)
      (hname : name = "targetProject" ∨ name = "referenceProject") (hv : fields.get? name = some v)
      (h : ProjectMeta.NoProject v) : Misshapen (.obj fields)

theorem ofJson_obj (fields : Fields) : ofJson (.obj fields) = (do
    let configuration ← (configurationOf fields).asFields
    let target ← ProjectMeta.ofJson? ((fields.get? "targetProject").getD .null)
    let reference ← ProjectMeta.ofJson? ((fields.get? "referenceProject").getD .null)
    return {
      analyzer := (fields.get? "name").getD (.str "")
      dialect := (fields.get? "requiredAstDialect").getD (.str "")
      identifier := (fields.get? "identifier").getD (.str "")
      configuration, target, reference
      fromCache := !((fields.get? "__fromCache").getD (.bool false)).isEmpty }) := rfl

theorem ofJson_of_misshapen {about : Json} (h : Misshapen about) :
    ∃ f, ofJson about = .error f ∧ ¬f.IsLack := by
  cases h with
  | noObject h =>
      cases about with
      | obj fields => exact absurd rfl (h fields)
      | _ => exact ⟨.unsupported, rfl, id⟩
  | noPairs h =>
      rw [ofJson_obj, Json.asFields_of_noPairs h]
      exact ⟨.invalid, rfl, id⟩
  | @noProject fields configuration name v hconfiguration hname hv h =>
      rw [ofJson_obj, hconfiguration]
      rcases hname with rfl | rfl
      · rw [hv, Option.getD_some, Outcome.ok_bind, ProjectMeta.ofJson?_of_noProject h]
        exact ⟨.unsupported, rfl, id⟩
      · rw [hv, Option.getD_some, Outcome.ok_bind, ProjectMeta.ofJson?_of_noProject h]
        cases htarget : ProjectMeta.ofJson? ((fields.get? "targetProject").getD .null) with
        | error f =>
            rw [ProjectMeta.unsupported_of_ofJson? htarget]
            exact ⟨.unsupported, rfl, id⟩
        | ok target => exact ⟨.unsupported, rfl, id⟩

theorem lack_of_ofJson {about : Json} (h : ¬Misshapen about) {f : Fault}
    (hf : ofJson about = .error f) : f.IsLack := by
  cases about with
  | obj fields =>
      rw [ofJson_obj] at hf
      cases hconfiguration : (configurationOf fields).asFields with
      | error e =>
          rw [hconfiguration] at hf
          obtain rfl := Except.error.inj hf
          rw [Json.mistyped_of_asFields (fun hno => h (.noPairs hno)) hconfiguration]
          trivial
      | ok configuration =>
          have hproject {name : String} (hname : name = "targetProject"
              ∨ name = "referenceProject") :
              ∃ p, ProjectMeta.ofJson? ((Fields.get? fields name).getD .null) = .ok p := by
            apply ProjectMeta.exists_ofJson?
            rintro ⟨hempty, hobject⟩
            cases hv : Fields.get? fields name with
            | none => exact absurd hempty (by simp [hv, Json.isEmpty])
            | some v =>
                rw [hv] at hempty hobject
                exact h (.noProject hconfiguration hname hv ⟨hempty, hobject⟩)
          obtain ⟨target, htarget⟩ := hproject (.inl rfl)
          obtain ⟨reference, hreference⟩ := hproject (.inr rfl)
          rw [hconfiguration, htarget, hreference] at hf
          exact absurd hf (by simp)
  | _ => exact absurd (.noObject (by simp)) h

end ReportMeta

namespace Report

theorem lack_of_aboutOf {v : Json} {f : Fault} (h : aboutOf v = .error f) : f.IsLack := by
  unfold aboutOf at h
  split at h
  · split at h
    · exact absurd h (by simp)
    · rename_i fields _ hnone
      cases hinner : (Json.obj fields).require "meta" with
      | error e =>
          rw [hinner] at h
          obtain rfl := Except.error.inj h
          exact Json.lack_of_require hinner
      | ok inner =>
          rw [hinner] at h
          exact Json.lack_of_require h
  · obtain rfl := Except.error.inj h
    trivial

structure Misshapen (v : Json) : Prop where
  output : ∃ output, v.require "queryOutput" = .ok output
  about : ∃ about, aboutOf v = .ok about ∧ ReportMeta.Misshapen about

theorem ofJson_of_misshapen {v : Json} (h : Misshapen v) :
    ∃ f, ofJson v = .error f ∧ ¬f.IsLack := by
  obtain ⟨output, houtput⟩ := h.output
  obtain ⟨about, habout, hmisshapen⟩ := h.about
  obtain ⟨f, hf, hlack⟩ := ReportMeta.ofJson_of_misshapen hmisshapen
  refine ⟨f, ?_, hlack⟩
  rw [ofJson, habout, Outcome.ok_bind, houtput, Outcome.ok_bind, hf]
  rfl

theorem lack_of_ofJson {v : Json} (h : ¬Misshapen v) {f : Fault} (hf : ofJson v = .error f) :
    f.IsLack := by
  unfold ofJson at hf
  cases habout : aboutOf v with
  | error e =>
      rw [habout] at hf
      obtain rfl := Except.error.inj hf
      exact lack_of_aboutOf habout
  | ok about =>
      cases houtput : v.require "queryOutput" with
      | error e =>
          rw [habout, Outcome.ok_bind, houtput] at hf
          obtain rfl := Except.error.inj hf
          exact Json.lack_of_require houtput
      | ok output =>
          cases hm : ReportMeta.ofJson about with
          | error e =>
              rw [habout, Outcome.ok_bind, houtput, Outcome.ok_bind, hm] at hf
              obtain rfl := Except.error.inj hf
              exact ReportMeta.lack_of_ofJson (fun hno =>
                h ⟨⟨output, houtput⟩, about, habout, hno⟩) hm
          | ok m => exact absurd hf (by simp [habout, houtput, hm])

end Report

end CodeSurvey
