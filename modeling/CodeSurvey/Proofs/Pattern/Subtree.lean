import CodeSurvey.Pattern.Allowlist
import CodeSurvey.Proofs.Text.Pieces

namespace CodeSurvey.Pattern

variable {name path : List Char} {pieces : List Piece}

theorem mem_tails_iff {cs rest : List Char} : rest ∈ tails cs ↔ rest <:+ cs := by
  induction cs with
  | nil => simp [tails]
  | cons c cs ih => rw [tails, List.mem_cons, List.suffix_cons_iff, ih]

theorem covers_run (pieces : List Piece) (cs : List Char) :
    covers (.run :: pieces) cs = true ↔ ∃ rest, rest <:+ cs ∧ covers pieces rest = true := by
  cases pieces with
  | nil =>
      simp only [covers, List.isEmpty_iff, true_iff]
      exact ⟨[], List.nil_suffix, rfl⟩
  | cons piece pieces => simp [covers, mem_tails_iff]

theorem covers_only (text cs : List Char) :
    covers (text.map .only ++ pieces) cs = true ↔ ∃ rest, cs = text ++ rest
      ∧ covers pieces rest = true := by
  induction text generalizing cs with
  | nil => simp
  | cons c text ih =>
      cases cs with
      | nil => simp [covers]
      | cons d cs =>
          simp only [List.map_cons, List.cons_append, covers, Piece.holds, Bool.and_eq_true,
            beq_iff_eq, ih, List.cons.injEq]
          constructor
          · rintro ⟨rfl, rest, rfl, hrest⟩
            exact ⟨rest, ⟨rfl, rfl⟩, hrest⟩
          · rintro ⟨rest, ⟨rfl, rfl⟩, hrest⟩
            exact ⟨rfl, rest, rfl, hrest⟩

def IsPlain (text : List Char) : Prop := ∀ c ∈ text, isWild c = false

instance (text : List Char) : Decidable (IsPlain text) :=
  List.decidableBAll (fun c => isWild c = false) text

theorem compileWithin_plain {text : List Char} (h : IsPlain text) (fuel : ℕ) (rest : List Char) :
    compileWithin (text.length + fuel) (text ++ rest)
      = text.map .only ++ compileWithin fuel rest := by
  induction text with
  | nil => simp
  | cons c text ih =>
      have hc := h c List.mem_cons_self
      simp only [isWild, Bool.or_eq_false_iff, beq_eq_false_iff_ne] at hc
      obtain ⟨⟨⟨hstar, hany⟩, hset⟩, -⟩ := hc
      have hfuel : (c :: text).length + fuel = text.length + fuel + 1 := by
        rw [List.length_cons]
        omega
      rw [hfuel, List.cons_append, compileWithin, if_neg hstar, if_neg hany, if_neg hset,
        ih fun d hd => h d (List.mem_cons_of_mem _ hd), List.map_cons, List.cons_append]

def subtree (name : List Char) : List Char :=
  '*' :: '*' :: '/' :: name ++ ['/', '*', '*']

theorem compile_subtree (h : IsPlain name) :
    compile (subtree name) = .run :: (('/' :: name ++ ['/']).map .only ++ [.run]) := by
  have hplain : IsPlain ('/' :: name ++ ['/']) := by
    intro c hc
    simp only [List.cons_append, List.mem_cons, List.mem_append, List.not_mem_nil, or_false] at hc
    rcases hc with rfl | hc | rfl
    · rfl
    · exact h c hc
    · rfl
  have hfuel : (subtree name).length = (('/' :: name ++ ['/']).length + 3) + 1 := by
    simp only [subtree, List.cons_append, List.length_cons, List.length_append, List.length_nil]
  have hrest : ('*' :: '/' :: name ++ ['/', '*', '*']).dropWhile (· == '*')
      = ('/' :: name ++ ['/']) ++ ['*', '*'] := by
    simp
  have hstep : compileWithin ((('/' :: name ++ ['/']).length + 3) + 1) (subtree name)
      = .run :: compileWithin (('/' :: name ++ ['/']).length + 3)
        (('/' :: name ++ ['/']) ++ ['*', '*']) := by
    rw [← hrest]
    rfl
  rw [compile, hfuel, hstep, compileWithin_plain hplain]
  rfl

theorem globMatches_subtree (h : IsPlain name) :
    globMatches (subtree name) path = true ↔ ('/' :: name ++ ['/']) <:+: path := by
  rw [globMatches, compile_subtree h, covers_run]
  simp only [covers_only, covers_run]
  constructor
  · rintro ⟨_, ⟨front, rfl⟩, back, rfl, -⟩
    exact ⟨front, back, by simp⟩
  · rintro ⟨front, back, rfl⟩
    exact ⟨('/' :: name ++ ['/']) ++ back, ⟨front, by simp⟩, back, rfl, [], List.nil_suffix, rfl⟩

theorem matchesOne_of_plain (h : IsPlain name) :
    matchesOne name path = isAtOrBelow (bare name) path := by
  refine if_neg ?_
  rw [List.any_eq_true]
  rintro ⟨c, hc, hwild⟩
  rw [h c hc] at hwild
  exact Bool.false_ne_true hwild

theorem matchesOne_of_wild (h : ¬IsPlain name) : matchesOne name path = globMatches name path :=
  if_pos (by simpa [IsPlain] using h)

theorem isAtOrBelow_iff {folder : List Char} :
    isAtOrBelow folder path = true ↔ Text.pieces '/' folder <+: Text.pieces '/' path := by
  rw [isAtOrBelow, Bool.or_eq_true, beq_iff_eq, List.isPrefixOf_iff_prefix, Text.prefix_pieces_iff]

theorem matchesOne_subtree (h : IsPlain name) (hslash : '/' ∉ name) :
    matchesOne (subtree name) path = true ↔
      ∃ above below, Text.pieces '/' path = above ++ name :: below ∧ above ≠ [] ∧ below ≠ [] := by
  have hwild : ¬IsPlain (subtree name) := by
    simp [IsPlain, subtree, isWild]
  rw [matchesOne_of_wild hwild, globMatches_subtree h, Text.infix_iff_pieces hslash]

theorem bare_of_no_slash (h : '/' ∉ name) : bare name = name := by
  have hkept {cs : List Char} (hcs : '/' ∉ cs) : cs.dropWhile (· == '/') = cs := by
    cases cs with
    | nil => rfl
    | cons c rest =>
        have hc : (c == '/') = false := by
          rw [beq_eq_false_iff_ne]
          rintro rfl
          exact hcs List.mem_cons_self
        rw [List.dropWhile_cons, hc, if_neg Bool.false_ne_true]
  rw [bare, Text.stripWhere, hkept h, hkept (by simpa using h), List.reverse_reverse]

theorem matchesOne_bare (h : IsPlain name) (hslash : '/' ∉ name) :
    matchesOne name path = true ↔ ∃ below, Text.pieces '/' path = name :: below := by
  rw [matchesOne_of_plain h, bare_of_no_slash hslash, isAtOrBelow_iff,
    Text.pieces_of_not_mem hslash]
  exact exists_congr fun below => eq_comm

theorem expand_of_no_brace {pattern : List Char} (h : '\x7b' ∉ pattern) :
    expand pattern = [pattern] := by
  rw [expand, List.count_eq_zero_of_not_mem h, expandWithin]

theorem matchesAny_of_no_braces {patterns : List (List Char)}
    (h : ∀ pattern ∈ patterns, '\x7b' ∉ pattern) :
    matchesAny patterns path = patterns.any (matchesOne · path) := by
  have hexpand : patterns.flatMap expand = patterns := by
    rw [List.flatMap_congr fun pattern hpattern => expand_of_no_brace (h pattern hpattern),
      List.flatMap_singleton']
  rw [matchesAny, hexpand]

end CodeSurvey.Pattern
