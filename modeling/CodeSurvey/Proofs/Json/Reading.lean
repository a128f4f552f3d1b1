import CodeSurvey.Json.Reader
import CodeSurvey.Proofs.Json.Proper
import CodeSurvey.Proofs.Outcome

namespace CodeSurvey.Fields

theorem proper_putAll {fields more : Fields} (hfields : fields.Proper)
    (hmore : ∀ field ∈ more, field.2.Proper) :
    (fields.putAll more).Proper := by
  induction more generalizing fields with
  | nil => exact hfields
  | cons field rest ih =>
      have hput := hfields.put field.1 (hmore field List.mem_cons_self)
      exact ih hput fun other hother => hmore other (List.mem_cons_of_mem _ hother)

end CodeSurvey.Fields

namespace CodeSurvey.Json

variable {maxDigits depth fuel : Nat} {c next : Cursor} {v : Json}

theorem mem_readParts {α : Type} {part : PartReader α} {closing : Char} {acc items : List α}
    (h : readParts part closing fuel acc c = .ok (items, next)) :
    ∀ x ∈ items, x ∈ acc ∨ ∃ start finish, part start = .ok (x, finish) := by
  induction fuel generalizing acc c with
  | zero => exact absurd h nofun
  | succ fuel ih =>
      rw [readParts] at h
      obtain ⟨⟨item, after⟩, hitem, h⟩ := Outcome.bind_eq_ok.1 h
      have hfirst : ∀ x ∈ item :: acc, x ∈ acc ∨ ∃ start finish, part start = .ok (x, finish) := by
        intro x hx
        rcases List.mem_cons.1 hx with rfl | hx
        · exact .inr ⟨c, after, hitem⟩
        · exact .inl hx
      dsimp only at h
      split at h
      · intro x hx
        rcases ih h x hx with hx | hx
        · exact hfirst x hx
        · exact .inr hx
      · split at h
        · obtain ⟨rfl, -⟩ := Prod.mk.inj (Except.ok.inj h)
          exact fun x hx => hfirst x (List.mem_reverse.1 hx)
        · exact absurd h nofun
      · exact absurd h nofun

theorem proper_readNumber (h : readNumber maxDigits c = .ok (v, next)) : v.Proper := by
  unfold readNumber at h
  dsimp only at h
  split at h
  · exact absurd h nofun
  · obtain ⟨u, hu, h⟩ := Outcome.bind_eq_ok.1 h
    obtain ⟨rfl, -⟩ := Prod.mk.inj (Except.ok.inj h)
    unfold Numeral.value at hu
    split at hu
    · split at hu
      · exact absurd hu nofun
      · exact Except.ok.inj hu ▸ .int _
    · exact Except.ok.inj hu ▸ .real _

theorem proper_keywords : ∀ k ∈ keywords, k.2.Proper := by
  simp only [keywords, List.forall_mem_cons]
  exact ⟨.null, .bool true, .bool false, .real _, .real _, .real _, fun _ h =>
    absurd h List.not_mem_nil⟩

theorem proper_readValue (h : readValue maxDigits depth c = .ok (v, next)) : v.Proper := by
  induction depth generalizing c v next with
  | zero => exact absurd h nofun
  | succ depth ih =>
      rw [readValue] at h
      split at h
      · obtain ⟨⟨s, after⟩, -, h⟩ := Outcome.bind_eq_ok.1 h
        obtain ⟨rfl, -⟩ := Prod.mk.inj (Except.ok.inj h)
        exact .str s
      · dsimp only at h
        split at h
        · obtain ⟨rfl, -⟩ := Prod.mk.inj (Except.ok.inj h)
          exact .arr fun _ hu => absurd hu List.not_mem_nil
        · obtain ⟨⟨items, after⟩, hitems, h⟩ := Outcome.bind_eq_ok.1 h
          obtain ⟨rfl, -⟩ := Prod.mk.inj (Except.ok.inj h)
          refine .arr fun u hu => ?_
          obtain ⟨start, finish, hu⟩ := (mem_readParts hitems u hu).resolve_left List.not_mem_nil
          exact ih hu
      · dsimp only at h
        split at h
        · obtain ⟨rfl, -⟩ := Prod.mk.inj (Except.ok.inj h)
          exact Fields.proper_nil
        · obtain ⟨⟨fields, after⟩, hfields, h⟩ := Outcome.bind_eq_ok.1 h
          obtain ⟨rfl, -⟩ := Prod.mk.inj (Except.ok.inj h)
          refine Fields.proper_putAll Fields.proper_nil fun field hfield => ?_
          obtain ⟨start, finish, hfield⟩ :=
            (mem_readParts hfields field hfield).resolve_left List.not_mem_nil
          obtain ⟨⟨name, middle⟩, -, hfield⟩ := Outcome.bind_eq_ok.1 hfield
          obtain ⟨⟨u, last⟩, hu, hfield⟩ := Outcome.bind_eq_ok.1 hfield
          obtain ⟨rfl, -⟩ := Prod.mk.inj (Except.ok.inj hfield)
          exact ih hu
      · split at h
        · rename_i word u hfind
          obtain ⟨rfl, -⟩ := Prod.mk.inj (Except.ok.inj h)
          exact proper_keywords _ (List.mem_of_find?_eq_some hfind)
        · exact proper_readNumber h

theorem proper_readChars {cs : List Char} (h : readChars cs = .ok v) : v.Proper := by
  unfold readChars at h
  split at h
  · exact absurd h nofun
  · obtain ⟨⟨u, after⟩, hu, h⟩ := Outcome.bind_eq_ok.1 h
    dsimp only at h
    split at h
    · obtain rfl := Except.ok.inj h
      exact proper_readValue hu
    · exact absurd h nofun

end CodeSurvey.Json
