namespace CodeSurvey.Text

def pieces (sep : Char) : List Char → List (List Char)
  | [] => [[]]
  | c :: rest =>
      if c = sep then [] :: pieces sep rest
      else match pieces sep rest with
        | [] => [[c]]
        | p :: ps => (c :: p) :: ps

def glue (sep : Char) : List (List Char) → List Char
  | [] => []
  | [p] => p
  | p :: q :: ps => p ++ sep :: glue sep (q :: ps)

theorem pieces_ne_nil (sep : Char) (cs : List Char) : pieces sep cs ≠ [] := by
  cases cs with
  | nil => simp [pieces]
  | cons c rest =>
      simp only [pieces]
      split
      · simp
      · split <;> simp

theorem glue_pieces (sep : Char) (cs : List Char) : glue sep (pieces sep cs) = cs := by
  induction cs with
  | nil => simp [pieces, glue]
  | cons c rest ih =>
      simp only [pieces]
      cases hp : pieces sep rest with
      | nil => exact absurd hp (pieces_ne_nil sep rest)
      | cons p ps =>
          rw [hp] at ih
          split
          · rename_i h
            subst h
            simp [glue, ih]
          · cases ps with
            | nil => simpa [glue] using ih
            | cons q ps => simpa [glue] using ih

theorem not_mem_of_mem_pieces {sep : Char} {cs p : List Char} (h : p ∈ pieces sep cs) :
    sep ∉ p := by
  induction cs generalizing p with
  | nil => simp [pieces] at h; simp [h]
  | cons c rest ih =>
      simp only [pieces] at h
      cases hp : pieces sep rest with
      | nil => exact absurd hp (pieces_ne_nil sep rest)
      | cons q ps =>
          rw [hp] at h ih
          split at h
          · rcases List.mem_cons.1 h with rfl | h
            · simp
            · exact ih h
          · rename_i hne
            rcases List.mem_cons.1 h with rfl | h
            · have := ih (List.mem_cons_self ..)
              simp [Ne.symm hne, this]
            · exact ih (List.mem_cons_of_mem _ h)

theorem pieces_glue {sep : Char} {ps : List (List Char)} (hne : ps ≠ []) (h : ∀ p ∈ ps, sep ∉ p) :
    pieces sep (glue sep ps) = ps := by
  have single : ∀ p : List Char, sep ∉ p → pieces sep p = [p] := by
    intro p
    induction p with
    | nil => intro _; rfl
    | cons c p ih =>
        intro hp
        simp only [List.mem_cons, not_or] at hp
        simp [pieces, Ne.symm hp.1, ih hp.2]
  have step : ∀ (p rest : List Char), sep ∉ p → pieces sep (p ++ sep :: rest)
      = p :: pieces sep rest := by
    intro p rest
    induction p with
    | nil => intro _; simp [pieces]
    | cons c p ih =>
        intro hp
        simp only [List.mem_cons, not_or] at hp
        simp [pieces, Ne.symm hp.1, ih hp.2]
  induction ps with
  | nil => exact absurd rfl hne
  | cons p ps ih =>
      cases ps with
      | nil => exact single p (h p (List.mem_cons_self ..))
      | cons q ps =>
          simp only [glue]
          rw [step p _ (h p (List.mem_cons_self ..)),
            ih (by simp) fun r hr => h r (List.mem_cons_of_mem _ hr)]

end CodeSurvey.Text
