import CodeSurvey.Text.Pieces
import Mathlib.Data.List.Infix

namespace CodeSurvey.Text

variable {sep : Char} {cs ds : List Char}

theorem pieces_of_not_mem (h : sep ∉ cs) : pieces sep cs = [cs] := by
  have hpieces : pieces sep (glue sep [cs]) = [cs] :=
    pieces_glue (List.cons_ne_nil _ _) (by simpa using h)
  simpa [glue] using hpieces

theorem pieces_append (sep : Char) (cs ds : List Char) :
    pieces sep (cs ++ sep :: ds) = pieces sep cs ++ pieces sep ds := by
  induction cs with
  | nil => simp [pieces]
  | cons c rest ih =>
      simp only [List.cons_append, pieces, ih]
      by_cases hc : c = sep
      · simp [hc]
      · cases hp : pieces sep rest with
        | nil => exact absurd hp (pieces_ne_nil sep rest)
        | cons p ps => simp [hc]

theorem glue_append {ps qs : List (List Char)} (hp : ps ≠ []) (hq : qs ≠ []) :
    glue sep (ps ++ qs) = glue sep ps ++ sep :: glue sep qs := by
  induction ps with
  | nil => exact absurd rfl hp
  | cons p rest ih =>
      cases rest with
      | nil =>
          obtain ⟨q, qs, rfl⟩ := List.exists_cons_of_ne_nil hq
          rfl
      | cons r rest => simpa [glue] using ih (by simp)

theorem mem_of_mem_pieces {c : Char} {p : List Char} (hp : p ∈ pieces sep cs) (h : c ∈ p) :
    c ∈ cs := by
  induction cs generalizing p with
  | nil =>
      rw [List.mem_singleton.1 hp] at h
      exact absurd h List.not_mem_nil
  | cons d rest ih =>
      obtain ⟨q, ps, hq⟩ := List.exists_cons_of_ne_nil (pieces_ne_nil sep rest)
      simp only [pieces, hq] at hp
      rw [hq] at ih
      split at hp
      · rcases List.mem_cons.1 hp with rfl | hp
        · exact absurd h List.not_mem_nil
        · exact List.mem_cons_of_mem _ (ih hp h)
      · rcases List.mem_cons.1 hp with rfl | hp
        · rcases List.mem_cons.1 h with rfl | h
          · exact List.mem_cons_self
          · exact List.mem_cons_of_mem _ (ih List.mem_cons_self h)
        · exact List.mem_cons_of_mem _ (ih (List.mem_cons_of_mem _ hp) h)

theorem mem_glue {ps : List (List Char)} {c : Char} (h : c ∈ glue sep ps) :
    c = sep ∨ ∃ p ∈ ps, c ∈ p := by
  induction ps with
  | nil => exact absurd h List.not_mem_nil
  | cons p rest ih =>
      cases rest with
      | nil => exact .inr ⟨p, List.mem_cons_self, h⟩
      | cons q rest =>
          rcases List.mem_append.1 h with h | h
          · exact .inr ⟨p, List.mem_cons_self, h⟩
          · rcases List.mem_cons.1 h with rfl | h
            · exact .inl rfl
            · refine (ih h).imp_right ?_
              rintro ⟨r, hr, hc⟩
              exact ⟨r, List.mem_cons_of_mem _ hr, hc⟩

theorem infix_iff_pieces (h : sep ∉ ds) : (sep :: ds ++ [sep]) <:+: cs ↔
    ∃ above below, pieces sep cs = above ++ ds :: below ∧ above ≠ [] ∧ below ≠ [] := by
  constructor
  · rintro ⟨front, back, rfl⟩
    refine ⟨pieces sep front, pieces sep back, ?_, pieces_ne_nil _ _, pieces_ne_nil _ _⟩
    have htext : front ++ (sep :: ds ++ [sep]) ++ back = front ++ sep :: (ds ++ sep :: back) := by
      simp
    rw [htext, pieces_append, pieces_append, pieces_of_not_mem h]
    rfl
  · rintro ⟨above, below, hpieces, habove, hbelow⟩
    have hname : glue sep ([ds] ++ below) = glue sep [ds] ++ sep :: glue sep below :=
      glue_append (List.cons_ne_nil _ _) hbelow
    refine ⟨glue sep above, glue sep below, ?_⟩
    rw [List.singleton_append] at hname
    rw [← glue_pieces sep cs, hpieces, glue_append habove (by simp), hname]
    simp [glue]

theorem prefix_pieces_iff : cs = ds ∨ (ds ++ [sep]) <+: cs ↔ pieces sep ds <+: pieces sep cs := by
  constructor
  · rintro (rfl | ⟨back, rfl⟩)
    · exact List.prefix_rfl
    · rw [List.append_assoc, List.singleton_append, pieces_append]
      exact List.prefix_append _ _
  · rintro ⟨more, hpieces⟩
    rw [← glue_pieces sep cs, ← hpieces]
    by_cases hmore : more = []
    · rw [hmore, List.append_nil, glue_pieces]
      exact .inl rfl
    · rw [glue_append (pieces_ne_nil sep ds) hmore, glue_pieces, ← List.singleton_append,
        ← List.append_assoc]
      exact .inr (List.prefix_append _ _)

theorem prefix_iff_pieces (h : sep ∉ ds) : cs = ds ∨ (ds ++ [sep]) <+: cs
      ↔ ∃ below, pieces sep cs = ds :: below := by
  rw [prefix_pieces_iff, pieces_of_not_mem h]
  exact exists_congr fun below => eq_comm

end CodeSurvey.Text
