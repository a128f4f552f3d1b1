import CodeSurvey.Proofs.Json.Nested

namespace CodeSurvey.Json

section Limits

theorem forM_eq_ok {α : Type} {items : List α} {f : α → Except ReadFault Unit} :
    forM items f = .ok () ↔ ∀ v ∈ items, f v = .ok () := by
  induction items with
  | nil =>
      rw [List.forM_nil]
      exact ⟨fun _ _ h => absurd h List.not_mem_nil, fun _ => rfl⟩
  | cons v items ih =>
      rw [List.forM_cons, List.forall_mem_cons, ← ih]
      cases hv : f v with
      | error e => exact ⟨fun h => by simp [bind, Except.bind] at h, fun h => by simp at h⟩
      | ok _ => exact ⟨fun h => ⟨rfl, h⟩, fun h => h.2⟩

theorem checkWritable_eq_ok_iff {v : Json} :
    v.checkWritable = .ok () ↔ limits maxIntegerDigits assumedDepth v = .ok () := by
  unfold checkWritable
  cases limits maxIntegerDigits assumedDepth v with
  | error e => simp [Except.mapError]
  | ok _ => simp [Except.mapError]

theorem limits_mono {m m' d d' : Nat} {v : Json} (hm : m ≤ m') (hd : d ≤ d')
    (h : limits m d v = .ok ()) :
    limits m' d' v = .ok () := by
  induction d generalizing v d' with
  | zero => exact absurd h (by simp [limits])
  | succ d ih =>
      obtain ⟨d', rfl⟩ : ∃ n, d' = n + 1 := ⟨d' - 1, by omega⟩
      have hd : d ≤ d' := by omega
      cases v with
      | int n =>
          rw [limits] at h ⊢
          split at h
          · exact absurd h (by simp)
          · exact if_neg (by omega)
      | arr items =>
          rw [limits, forM_eq_ok] at h ⊢
          exact fun v hv => ih hd (h v hv)
      | obj fields =>
          rw [limits, forM_eq_ok] at h ⊢
          exact fun field hf => ih hd (h field hf)
      | null => rfl
      | bool b => rfl
      | real d => rfl
      | str t => rfl

theorem exists_limits_list {α : Type} {items : List α} {part : α → Json}
    (h : ∀ v ∈ items, ∃ m d, limits m d (part v) = .ok ()) :
    ∃ m d, ∀ v ∈ items, limits m d (part v) = .ok () := by
  induction items with
  | nil => exact ⟨0, 0, fun _ h => absurd h List.not_mem_nil⟩
  | cons v items ih =>
      obtain ⟨m, d, hv⟩ := h v List.mem_cons_self
      obtain ⟨m', d', hitems⟩ := ih fun w hw => h w (List.mem_cons_of_mem _ hw)
      refine ⟨max m m', max d d', fun w hw => ?_⟩
      rcases List.mem_cons.1 hw with rfl | hw
      · exact limits_mono (Nat.le_max_left _ _) (Nat.le_max_left _ _) hv
      · exact limits_mono (Nat.le_max_right _ _) (Nat.le_max_right _ _) (hitems w hw)

theorem exists_limits (v : Json) : ∃ m d, limits m d v = .ok () := by
  induction v using Json.induct with
  | null => exact ⟨0, 1, rfl⟩
  | bool b => exact ⟨0, 1, rfl⟩
  | int n => exact ⟨digitCount n, 1, if_neg (Nat.lt_irrefl _)⟩
  | real d => exact ⟨0, 1, rfl⟩
  | str s => exact ⟨0, 1, rfl⟩
  | arr items ih =>
      obtain ⟨m, d, h⟩ := exists_limits_list ih
      exact ⟨m, d + 1, by rw [limits, forM_eq_ok]; exact h⟩
  | obj fields ih =>
      obtain ⟨m, d, h⟩ := exists_limits_list ih
      exact ⟨m, d + 1, by rw [limits, forM_eq_ok]; exact h⟩

theorem exists_limits_both (v w : Json) : ∃ m d, limits m d v = .ok () ∧ limits m d w = .ok () := by
  obtain ⟨m, d, h⟩ := exists_limits (.arr [v, w])
  obtain ⟨d, rfl⟩ : ∃ n, d = n + 1 := by
    cases d with
    | zero => exact absurd h (by simp [limits])
    | succ d => exact ⟨d, rfl⟩
  rw [limits, forM_eq_ok] at h
  exact ⟨m, d, h v (by simp), h w (by simp)⟩

def nested : Nat → Json
  | 0 => .null
  | n + 1 => .arr [nested n]

theorem proper_nested (n : Nat) : (nested n).Proper := by
  induction n with
  | zero => exact .null
  | succ n ih => exact .arr fun v hv => List.mem_singleton.1 hv ▸ ih

theorem limits_nested (m d n : Nat) :
    limits m d (nested n) = if n < d then .ok () else .error .nestedTooDeep := by
  induction d generalizing n with
  | zero => rfl
  | succ d ih =>
      cases n with
      | zero => rfl
      | succ n =>
          rw [nested, limits, List.forM_cons, ih, List.forM_nil]
          by_cases h : n < d <;> simp [h]

end Limits

theorem textWith_injective {s : Separators} (hs : s.Plain) {v w : Json} (hv : v.Proper)
    (hw : w.Proper) (h : textWith s v = textWith s w) : v = w := by
  obtain ⟨m, d, hlv, hlw⟩ := exists_limits_both v w
  have hreadv := takes_textWith m d hs hv ⟨(textWith s v).toList, 0⟩ [] endsNumber_nil (by simp)
  have hreadw := takes_textWith m d hs hw ⟨(textWith s v).toList, 0⟩ [] endsNumber_nil (by simp [h])
  rw [hlv] at hreadv
  rw [hlw] at hreadw
  exact (Prod.mk.inj (Except.ok.inj (hreadv.symm.trans hreadw))).1

theorem read_text {v : Json} (hv : v.Proper) :
    read v.text = (limits maxIntegerDigits assumedDepth v).map fun _ => v := by
  obtain ⟨d, cs, hcs, hd⟩ := startsWith_textWith .spaced v
  have hread := takes_textWith maxIntegerDigits assumedDepth Separators.plain_spaced hv
    ⟨v.text.toList, 0⟩ [] endsNumber_nil (by simp [text])
  have hskip : (Cursor.mk v.text.toList 0).skipBlanks = ⟨v.text.toList, 0⟩ := by
    refine Cursor.skipBlanks_eq fun e he => ?_
    rw [text, hcs] at he
    obtain rfl := Option.some.inj he
    exact hd.not_blank
  have hmark : d ≠ '\uFEFF' := by
    simp only [Opens, Bool.or_eq_false_iff, beq_eq_false_iff_ne] at hd
    exact hd.2
  have hend : (Cursor.advance ⟨v.text.toList, 0⟩ (textWith .spaced v).toList.length).rest = [] :=
    Cursor.advance_rest _ (by simp [text])
  unfold read readChars
  split
  · rename_i heq
    rw [text, hcs] at heq
    exact absurd (List.cons.inj heq).1 hmark
  · rw [hskip, hread]
    cases limits maxIntegerDigits assumedDepth v with
    | error e => rfl
    | ok _ =>
        have hblank :=
          Cursor.skipBlanks_eq (c :=
              Cursor.advance ⟨v.text.toList, 0⟩ (textWith .spaced v).toList.length)
            (by rw [hend]; simp)
        simp only [Except.map, bind, Except.bind, hblank, hend]
        rfl

end CodeSurvey.Json
