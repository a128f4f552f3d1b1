import CodeSurvey.Proofs.Json.Proper
import CodeSurvey.Proofs.Outcome

namespace CodeSurvey

namespace Json

theorem Proper.present {v u : Json} (h : v.Proper) (hu : v.present = some u) : u.Proper := by
  cases v with
  | null => exact absurd hu (by simp [Json.present])
  | bool _ => exact Option.some.inj hu ▸ h
  | int _ => exact Option.some.inj hu ▸ h
  | real _ => exact Option.some.inj hu ▸ h
  | str _ => exact Option.some.inj hu ▸ h
  | arr _ => exact Option.some.inj hu ▸ h
  | obj _ => exact Option.some.inj hu ▸ h

theorem Proper.getOr {v u default : Json} {name : String} (h : v.Proper) (hd : default.Proper)
    (hu : v.getOr name default = .ok u) : u.Proper := by
  cases v with
  | obj fields =>
      obtain rfl := Except.ok.inj hu
      cases hget : Fields.get? fields name with
      | none => exact hd
      | some value => exact Fields.Proper.get h hget
  | _ => exact absurd hu (by simp [Json.getOr])

theorem Proper.get {v u : Json} {name : String} (h : v.Proper) (hu : v.get name = .ok u) :
    u.Proper := by
  cases v with
  | obj fields => exact h.getOr .null hu
  | _ => exact absurd hu (by simp [Json.get])

theorem Proper.require {v u : Json} {name : String} (h : v.Proper) (hu : v.require name = .ok u) :
    u.Proper := by
  cases v with
  | obj fields =>
      simp only [Json.require] at hu
      split at hu
      · rename_i value hget
        exact Except.ok.inj hu ▸ Fields.Proper.get h hget
      · exact absurd hu (by simp)
  | _ => exact absurd hu (by simp [Json.require])

theorem Proper.elements {v : Json} {items : List Json} (h : v.Proper)
    (hi : v.elements = .ok items) :
    ∀ u ∈ items, u.Proper := by
  intro u hu
  cases v with
  | arr parts => exact h.items u (Except.ok.inj hi ▸ hu)
  | str s =>
      obtain ⟨c, -, rfl⟩ := List.mem_map.1 (Except.ok.inj hi ▸ hu)
      exact .str _
  | obj fields =>
      obtain ⟨n, -, rfl⟩ := List.mem_map.1 (Except.ok.inj hi ▸ hu)
      exact .str _
  | _ => exact absurd hi (by simp [Json.elements])

theorem Proper.asPair {v value : Json} {name : String} (h : v.Proper)
    (hp : v.asPair = .ok (name, value)) :
    value.Proper := by
  obtain ⟨items, hitems, hp⟩ := Outcome.bind_eq_ok.1 hp
  have hparts := h.elements hitems
  split at hp
  · obtain ⟨text, -, hp⟩ := Outcome.bind_eq_ok.1 hp
    obtain ⟨-, rfl⟩ := Prod.mk.inj (Except.ok.inj hp)
    exact hparts _ (by simp)
  · exact absurd hp (by simp)

theorem proper_foldlM_put {items : List Json} (h : ∀ v ∈ items, v.Proper) {acc fields : Fields}
    (hacc : acc.Proper) (hf : items.foldlM (fun (acc : Fields) item => do
      let (name, value) ← item.asPair
      pure (acc.put name value)) acc = Except.ok (ε := Fault) fields) : fields.Proper := by
  refine Outcome.foldlM_preserves Fields.Proper (fun acc item hitem acc' hacc hput => ?_) hacc hf
  obtain ⟨⟨name, value⟩, hpair, hput⟩ := Outcome.bind_eq_ok.1 hput
  obtain rfl := Except.ok.inj hput
  exact hacc.put name ((h item hitem).asPair hpair)

theorem Proper.asFields {v : Json} {fields : Fields} (h : v.Proper) (hf : v.asFields = .ok fields) :
    fields.Proper := by
  unfold Json.asFields at hf
  split at hf
  · exact Except.ok.inj hf ▸ h
  · obtain ⟨items, hitems, hf⟩ := Outcome.bind_eq_ok.1 hf
    exact proper_foldlM_put (h.elements hitems) Fields.proper_nil hf

end Json

end CodeSurvey
