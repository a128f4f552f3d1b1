import CodeSurvey.Pattern.Braces
import CodeSurvey.Proofs.Text.Pieces
import Mathlib.Data.List.Basic
import Mathlib.Data.List.TakeWhile

namespace CodeSurvey

theorem Text.mem_of_mem_trim {cs : List Char} {c : Char} (h : c ∈ trim cs) : c ∈ cs := by
  have hfront : c ∈ (trimLeft cs).reverse := (List.dropWhile_suffix _).subset (List.mem_reverse.1 h)
  exact (List.dropWhile_suffix _).subset (List.mem_reverse.1 hfront)

namespace Pattern

variable {cs passed : List Char} {g : Group}

def Group.text (g : Group) : List Char :=
  g.before ++ '\x7b' :: g.inside ++ '\x7d' :: g.after

theorem firstGroupFrom_eq_some (h : firstGroupFrom passed cs = some g) :
    g.text = passed.reverse ++ cs ∧ ∀ c ∈ g.inside, isBrace c = false := by
  fun_induction firstGroupFrom passed cs with
  | case1 => exact absurd h (by simp)
  | case2 passed rest inside after hafter hempty ih => simpa using ih h
  | case3 passed rest inside after hafter hempty =>
      obtain rfl := Option.some.inj h
      have hrest := List.takeWhile_append_dropWhile (p := fun c => !isBrace c) (l := rest)
      rw [hafter] at hrest
      refine ⟨?_, fun c hc => by simpa using List.mem_takeWhile_imp hc⟩
      rw [Group.text, ← hrest]
      simp [inside]
  | case4 passed rest hafter ih => simpa using ih h
  | case5 passed c rest hc ih => simpa using ih h

theorem text_of_firstGroup (h : firstGroup cs = some g) : g.text = cs :=
  (firstGroupFrom_eq_some h).1

theorem no_brace_of_mem_options (h : firstGroup cs = some g) {option : List Char}
    (ho : option ∈ g.options) :
    ∀ c ∈ option, isBrace c = false := by
  intro c hc
  obtain ⟨ho, -⟩ := List.mem_filter.1 ho
  obtain ⟨p, hp, rfl⟩ := List.mem_map.1 ho
  exact (firstGroupFrom_eq_some h).2 c (Text.mem_of_mem_pieces hp (Text.mem_of_mem_trim hc))

theorem count_eq_zero_of_no_brace {option : List Char} (h : ∀ c ∈ option, isBrace c = false) :
    option.count '\x7b' = 0 :=
  List.count_eq_zero.2 fun hmem => absurd (h _ hmem) (by decide)

theorem count_replace (h : firstGroup cs = some g) {option : List Char} (ho : option ∈ g.options) :
    (g.replace option).count '\x7b' + 1 = cs.count '\x7b' := by
  have hoption := count_eq_zero_of_no_brace (no_brace_of_mem_options h ho)
  have hinside := count_eq_zero_of_no_brace (firstGroupFrom_eq_some h).2
  rw [← text_of_firstGroup h, Group.replace, Group.text]
  simp only [List.count_append, List.count_cons, hoption, hinside]
  simp
  omega

theorem firstGroup_of_count_eq_zero (h : cs.count '\x7b' = 0) : firstGroup cs = none := by
  refine Option.eq_none_iff_forall_ne_some.2 fun g hg => ?_
  rw [← text_of_firstGroup hg, Group.text] at h
  simp [List.count_append] at h

theorem expandWithin_congr {n m : Nat} (hn : cs.count '\x7b' ≤ n) (hm : cs.count '\x7b' ≤ m) :
    expandWithin n cs = expandWithin m cs := by
  have hwhole {cs : List Char} (h : cs.count '\x7b' = 0) (k : Nat) : expandWithin k cs = [cs] := by
    cases k with
    | zero => rfl
    | succ k => rw [expandWithin, firstGroup_of_count_eq_zero h]
  induction n generalizing m cs with
  | zero => rw [hwhole (Nat.le_zero.1 hn), hwhole (Nat.le_zero.1 hn)]
  | succ n ih =>
      cases m with
      | zero => rw [hwhole (Nat.le_zero.1 hm), hwhole (Nat.le_zero.1 hm)]
      | succ m =>
          simp only [expandWithin]
          split
          · rfl
          · rename_i g hg
            split
            · rfl
            · refine List.flatMap_congr fun option ho => ih ?_ ?_
              · have := count_replace hg ho
                omega
              · have := count_replace hg ho
                omega

theorem expand_of_no_options (h : ∀ g, firstGroup cs = some g → g.options = []) :
    expand cs = [cs] := by
  rw [expand]
  cases cs.count '\x7b' with
  | zero => rfl
  | succ n =>
      rw [expandWithin]
      split
      · rfl
      · rename_i g hg
        rw [h g hg]

theorem expand_of_options (h : firstGroup cs = some g) (hoptions : g.options ≠ []) :
    expand cs = g.options.flatMap fun option => expand (g.replace option) := by
  obtain ⟨first, rest, hfirst⟩ := List.exists_cons_of_ne_nil hoptions
  have hcount := count_replace h (hfirst ▸ List.mem_cons_self : first ∈ g.options)
  rw [expand, ← hcount, expandWithin, h]
  simp only [hfirst]
  refine List.flatMap_congr fun option ho => expandWithin_congr ?_ Nat.le.refl
  have := count_replace h (hfirst ▸ ho : option ∈ g.options)
  omega

inductive Expands : List Char → List (List Char) → Prop where
  | whole {cs : List Char} (h : ∀ g, firstGroup cs = some g → g.options = []) : Expands cs [cs]
  | parts {cs : List Char} {g : Group} {found : List Char → List (List Char)}
      (h : firstGroup cs = some g)
      (hoptions : g.options ≠ []) (each : ∀ option ∈ g.options,
        Expands (g.replace option) (found option)) :
      Expands cs (g.options.flatMap found)

theorem expands_expand (cs : List Char) : Expands cs (expand cs) := by
  induction hn : cs.count '\x7b' using Nat.strongRecOn generalizing cs with
  | ind n ih =>
      by_cases h : ∃ g, firstGroup cs = some g ∧ g.options ≠ []
      · obtain ⟨g, hg, hoptions⟩ := h
        rw [expand_of_options hg hoptions]
        refine .parts hg hoptions fun option ho => ?_
        have hcount := count_replace hg ho
        exact ih _ (by omega) _ rfl
      · have hnone : ∀ g, firstGroup cs = some g → g.options = [] :=
          fun g hg => not_not.1 fun hoptions => h ⟨g, hg, hoptions⟩
        rw [expand_of_no_options hnone]
        exact .whole hnone

theorem eq_expand_of_expands {found : List (List Char)} (h : Expands cs found) :
    found = expand cs := by
  induction h with
  | whole h => rw [expand_of_no_options h]
  | parts h hoptions _ ih =>
      rw [expand_of_options h hoptions]
      exact List.flatMap_congr ih

theorem expands_iff {found : List (List Char)} : Expands cs found ↔ found = expand cs :=
  ⟨eq_expand_of_expands, fun h => h ▸ expands_expand cs⟩

theorem Expands.ne_nil {found : List (List Char)} (h : Expands cs found) : found ≠ [] := by
  induction h with
  | whole h => exact List.cons_ne_nil _ _
  | parts h hoptions _ ih =>
      obtain ⟨option, ho⟩ := List.exists_mem_of_ne_nil _ hoptions
      intro hempty
      exact ih option ho (List.flatMap_eq_nil_iff.1 hempty option ho)

theorem Expands.final {found : List (List Char)} (h : Expands cs found) {result : List Char}
    (hresult : result ∈ found) :
    Expands result [result] := by
  induction h with
  | whole h =>
      rw [List.mem_singleton.1 hresult]
      exact .whole h
  | parts h hoptions _ ih =>
      obtain ⟨option, ho, hresult⟩ := List.mem_flatMap.1 hresult
      exact ih option ho hresult

theorem expand_of_mem {result : List Char} (h : result ∈ expand cs) : expand result = [result] :=
  (expands_iff.1 ((expands_expand cs).final h)).symm

end Pattern

end CodeSurvey
