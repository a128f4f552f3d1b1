import CodeSurvey.Proofs.Json.SameValue

namespace CodeSurvey.Json

def Delimited : Json → Prop
  | str _ | arr _ | obj _ => True
  | null | bool _ | int _ | real _ => False

variable {s : Separators} {v w : Json}

theorem Delimited.sorted (h : v.Delimited) : v.sorted.Delimited := by
  cases v with
  | str t => exact h
  | arr items => exact sorted_arr items ▸ h
  | obj fields => exact sorted_obj fields ▸ h
  | null => exact h.elim
  | bool b => exact h.elim
  | int n => exact h.elim
  | real d => exact h.elim

theorem takesClosed_textWith (maxDigits depth : Nat) (hs : s.Plain) (hv : v.Proper)
    (hd : v.Delimited) :
    TakesClosed (readValue maxDigits depth) (textWith s v).toList
      ((limits maxDigits depth v).map fun _ => v) := by
  cases depth with
  | zero =>
      intro c rest _
      rfl
  | succ depth =>
      cases hv with
      | str t =>
          rw [textWith]
          exact takesClosed_quote maxDigits depth t
      | arr parts => exact takesClosed_arr hs fun v hmem =>
          takes_textWith maxDigits depth hs (parts v hmem)
      | obj names parts =>
          exact takesClosed_obj hs names fun field hmem =>
            takes_textWith maxDigits depth hs (parts field hmem)
      | null => exact hd.elim
      | bool b => exact hd.elim
      | int n => exact hd.elim
      | real d => exact hd.elim

theorem eq_of_isPrefix_textWith (hs : s.Plain) (hv : v.Proper) (hw : w.Proper) (hd : v.Delimited)
    (h : (textWith s v).toList <+: (textWith s w).toList) : v = w := by
  obtain ⟨rest, hrest⟩ := h
  obtain ⟨m, d, hlv, hlw⟩ := exists_limits_both v w
  have hfront := takesClosed_textWith m d hs hv hd ⟨(textWith s w).toList, 0⟩ rest hrest.symm
  have hwhole := takes_textWith m d hs hw ⟨(textWith s w).toList, 0⟩ [] endsNumber_nil (by simp)
  rw [hlv] at hfront
  rw [hlw] at hwhole
  exact (Prod.mk.inj (Except.ok.inj (hfront.symm.trans hwhole))).1

theorem canonical_eq_of_isPrefix (hv : v.Proper) (hw : w.Proper) (hd : v.Delimited)
    (h : v.canonical.toList <+: w.canonical.toList) : v.canonical = w.canonical :=
  congrArg (textWith .tight) (eq_of_isPrefix_textWith Separators.plain_tight hv.sorted hw.sorted
    hd.sorted h)

theorem canonical_settles_value (hv : v.Proper) (hw : w.Proper) :
    (v.canonical = w.canonical ↔ SameValue v w)
      ∧ (v.Delimited → v.canonical.toList <+: w.canonical.toList → v.canonical = w.canonical) :=
  ⟨canonical_eq_iff hv hw, canonical_eq_of_isPrefix hv hw⟩

def inQuotes : Json := .arr [.str "a\"]", .obj [("b", .int 1), ("a\n", .null)]]

def inQuotesReordered : Json := .arr [.str "a\"]", .obj [("a\n", .null), ("b", .int 1)]]

theorem canonical_settles_value_inQuotes :
    inQuotes.Proper ∧ inQuotesReordered.Proper ∧ inQuotes ≠ inQuotesReordered
      ∧ SameValue inQuotes inQuotesReordered ∧ inQuotes.Delimited
      ∧ inQuotes.canonical.toList <+: inQuotesReordered.canonical.toList
      ∧ inQuotes.canonical = inQuotesReordered.canonical := by
  have hitems {fields : Fields} (h : fields.Proper) : Proper (.arr [.str "a\"]", .obj fields]) :=
    .arr (List.forall_mem_cons.2 ⟨.str _, List.forall_mem_singleton.2 h⟩)
  have hv : inQuotes.Proper :=
    hitems (Fields.proper_cons (by decide) (.int 1)
      (Fields.proper_cons (by decide) .null Fields.proper_nil))
  have hw : inQuotesReordered.Proper :=
    hitems
      (Fields.proper_cons (by decide) .null
        (Fields.proper_cons (by decide) (.int 1) Fields.proper_nil))
  have hsame : SameValue inQuotes inQuotesReordered :=
    sameValue_arr_iff.2 (.cons (.refl _) (.cons (sameValue_of_perm (by decide) (.swap _ _ _)) .nil))
  have htext := (canonical_settles_value hv hw).1.2 hsame
  have hstart : inQuotes.canonical.toList <+: inQuotesReordered.canonical.toList := by rw [htext]
  exact ⟨hv, hw, by simp [inQuotes, inQuotesReordered], hsame, trivial, hstart,
    (canonical_settles_value hv hw).2 trivial hstart⟩

end CodeSurvey.Json
