import CodeSurvey.Proofs.Pattern.Expansion
import Mathlib.Computability.Language

namespace CodeSurvey.Pattern

mutual

inductive Braced where
  | nil
  | char (c : Char) (rest : Braced)
  | group (choices : Choices) (rest : Braced)

inductive Choices where
  | last (p : Braced)
  | more (p : Braced) (others : Choices)

end

theorem Braced.induct {P : Braced → Prop} {Q : Choices → Prop} (nil : P .nil)
    (char : ∀ c rest, P rest → P (.char c rest))
    (group : ∀ choices rest, Q choices → P rest → P (.group choices rest))
    (last : ∀ p, P p → Q (.last p)) (more : ∀ p others, P p → Q others → Q (.more p others)) :
    (∀ p, P p) ∧ ∀ choices, Q choices :=
  ⟨fun p => Braced.rec nil char group last more p, fun choices =>
    Choices.rec nil char group last more choices⟩

section Meaning

mutual

def Braced.text : Braced → List Char
  | .nil => []
  | .char c rest => c :: rest.text
  | .group choices rest => '\x7b' :: choices.text ++ '\x7d' :: rest.text

def Choices.text : Choices → List Char
  | .last p => p.text
  | .more p others => p.text ++ ',' :: others.text

end

mutual

def Braced.language : Braced → Language Char
  | .nil => 1
  | .char c rest => {[c]} * rest.language
  | .group choices rest => choices.language * rest.language

def Choices.language : Choices → Language Char
  | .last p => p.language
  | .more p others => p.language + others.language

end

structure Trimmed (cs : List Char) : Prop where
  nonempty : cs ≠ []
  first : ∀ c ∈ cs.head?, Text.isBlank c = false
  last : ∀ c ∈ cs.getLast?, Text.isBlank c = false

mutual

def Braced.WellFormed (nested : Bool) : Braced → Prop
  | .nil => True
  | .char c rest => isBrace c = false ∧ (nested = true → c ≠ ',') ∧ rest.WellFormed nested
  | .group choices rest => choices.WellFormed ∧ rest.WellFormed nested

def Choices.WellFormed : Choices → Prop
  | .last p => p.WellFormed true ∧ ∀ s ∈ p.language, Trimmed s
  | .more p others => (p.WellFormed true ∧ ∀ s ∈ p.language, Trimmed s) ∧ others.WellFormed

end

end Meaning

section Language

variable {s : List Char} {c : Char} {p rest : Braced} {choices others : Choices}

@[simp]
theorem mem_language_nil : s ∈ Braced.nil.language ↔ s = [] :=
  Language.mem_one s

@[simp]
theorem mem_language_char : s ∈ (Braced.char c rest).language
      ↔ ∃ t ∈ rest.language, c :: t = s := by
  rw [Braced.language, Language.mem_mul]
  constructor
  · rintro ⟨_, rfl, t, ht, rfl⟩
    exact ⟨t, ht, rfl⟩
  · rintro ⟨t, ht, rfl⟩
    exact ⟨[c], rfl, t, ht, rfl⟩

@[simp]
theorem mem_language_group :
    s ∈ (Braced.group choices rest).language
      ↔ ∃ a ∈ choices.language, ∃ t ∈ rest.language, a ++ t = s :=
  Language.mem_mul

@[simp]
theorem mem_language_last : s ∈ (Choices.last p).language ↔ s ∈ p.language := Iff.rfl

@[simp]
theorem mem_language_more : s ∈ (Choices.more p others).language
      ↔ s ∈ p.language ∨ s ∈ others.language := Iff.rfl

end Language

section Step

def Braced.after (cs : List Char) (rest : Braced) : Braced :=
  cs.foldr .char rest

def Choices.texts : Choices → List (List Char)
  | .last p => [p.text]
  | .more p others => p.text :: others.texts

mutual

def Braced.chosen : Braced → List Braced
  | .nil => []
  | .char c rest => rest.chosen.map (.char c)
  | .group choices rest =>
      if choices.chosen = [] then choices.texts.map (Braced.after · rest)
      else choices.chosen.map (.group · rest)

def Choices.chosen : Choices → List Choices
  | .last p => p.chosen.map .last
  | .more p others =>
      if p.chosen = [] then others.chosen.map (.more p) else p.chosen.map (.more · others)

end

variable {nested : Bool} {s cs : List Char} {p q rest : Braced} {choices choices' : Choices}

theorem texts_ne_nil (choices : Choices) : choices.texts ≠ [] := by
  cases choices <;> exact List.cons_ne_nil _ _

theorem mem_language_after : s ∈ (Braced.after cs rest).language
      ↔ ∃ t ∈ rest.language, cs ++ t = s := by
  induction cs generalizing s with
  | nil => simp [Braced.after]
  | cons c cs ih =>
      have hafter : Braced.after (c :: cs) rest = .char c (.after cs rest) := rfl
      simp only [hafter, mem_language_char, ih, List.cons_append]
      constructor
      · rintro ⟨_, ⟨t, ht, rfl⟩, rfl⟩
        exact ⟨t, ht, rfl⟩
      · rintro ⟨t, ht, rfl⟩
        exact ⟨cs ++ t, ⟨t, ht, rfl⟩, rfl⟩

theorem text_after (cs : List Char) (rest : Braced) :
    (Braced.after cs rest).text = cs ++ rest.text := by
  induction cs with
  | nil => rfl
  | cons c cs ih => exact congrArg (c :: ·) ih

theorem chosen_group_ne_nil (choices : Choices) (rest : Braced) :
    (Braced.group choices rest).chosen ≠ [] := by
  rw [Braced.chosen]
  split
  · simpa using texts_ne_nil choices
  · simpa using ‹_›

theorem language_of_flat : (∀ p : Braced, p.chosen = [] → ∀ s, s ∈ p.language ↔ s = p.text)
    ∧ ∀ choices : Choices, choices.chosen = [] → ∀ s, s ∈ choices.language ↔ s ∈ choices.texts := by
  apply Braced.induct
  case nil => exact fun _ s => mem_language_nil
  case char =>
    intro c rest ih hflat s
    rw [Braced.chosen, List.map_eq_nil_iff] at hflat
    simp [ih hflat, Braced.text, eq_comm]
  case group =>
    intro choices rest _ _ hflat
    exact absurd hflat (chosen_group_ne_nil choices rest)
  case last =>
    intro p ih hflat s
    rw [Choices.chosen, List.map_eq_nil_iff] at hflat
    simp [ih hflat, Choices.texts]
  case more =>
    intro p others ih ih' hflat s
    rw [Choices.chosen] at hflat
    split at hflat
    · rename_i hp
      rw [List.map_eq_nil_iff] at hflat
      simp [ih hp, ih' hflat, Choices.texts]
    · rename_i hp
      exact absurd (List.map_eq_nil_iff.1 hflat) hp

theorem language_of_chosen :
    (∀ p : Braced, p.chosen ≠ [] → ∀ s, s ∈ p.language ↔ ∃ q ∈ p.chosen, s ∈ q.language)
    ∧ ∀ choices : Choices, choices.chosen ≠ [] →
      ∀ s, s ∈ choices.language ↔ ∃ choices' ∈ choices.chosen, s ∈ choices'.language := by
  apply Braced.induct
  case nil => exact fun h => absurd rfl h
  case char =>
    intro c rest ih h s
    rw [Braced.chosen, ne_eq, List.map_eq_nil_iff] at h
    simp only [Braced.chosen, mem_language_char, ih h, List.mem_map, exists_exists_and_eq_and]
    constructor
    · rintro ⟨t, ⟨q, hq, ht⟩, rfl⟩
      exact ⟨q, hq, t, ht, rfl⟩
    · rintro ⟨q, hq, t, ht, rfl⟩
      exact ⟨t, ⟨q, hq, ht⟩, rfl⟩
  case group =>
    intro choices rest ih _ _ s
    rw [Braced.chosen]
    split
    · rename_i hflat
      simp only [mem_language_group, language_of_flat.2 choices hflat, List.mem_map,
        exists_exists_and_eq_and, mem_language_after]
    · rename_i hchosen
      simp only [mem_language_group, ih hchosen, List.mem_map, exists_exists_and_eq_and]
      constructor
      · rintro ⟨a, ⟨choices', hmem, ha⟩, t, ht, rfl⟩
        exact ⟨choices', hmem, a, ha, t, ht, rfl⟩
      · rintro ⟨choices', hmem, a, ha, t, ht, rfl⟩
        exact ⟨a, ⟨choices', hmem, ha⟩, t, ht, rfl⟩
  case last =>
    intro p ih h s
    rw [Choices.chosen, ne_eq, List.map_eq_nil_iff] at h
    simp only [Choices.chosen, mem_language_last, ih h, List.mem_map, exists_exists_and_eq_and]
  case more =>
    intro p others ih ih' h s
    rw [Choices.chosen] at h ⊢
    split
    · rename_i hp
      rw [if_pos hp, ne_eq, List.map_eq_nil_iff] at h
      obtain ⟨first, hfirst⟩ := List.exists_mem_of_ne_nil _ h
      simp only [mem_language_more, ih' h, List.mem_map, exists_exists_and_eq_and]
      constructor
      · rintro (hs | ⟨q, hq, hs⟩)
        · exact ⟨first, hfirst, .inl hs⟩
        · exact ⟨q, hq, .inr hs⟩
      · rintro ⟨q, hq, hs | hs⟩
        · exact .inl hs
        · exact .inr ⟨q, hq, hs⟩
    · rename_i hp
      obtain ⟨first, hfirst⟩ := List.exists_mem_of_ne_nil _ hp
      simp only [mem_language_more, ih hp, List.mem_map, exists_exists_and_eq_and]
      constructor
      · rintro (⟨q, hq, hs⟩ | hs)
        · exact ⟨q, hq, .inl hs⟩
        · exact ⟨first, hfirst, .inr hs⟩
      · rintro ⟨q, hq, hs | hs⟩
        · exact .inl ⟨q, hq, hs⟩
        · exact .inr hs

def Literal (nested : Bool) (cs : List Char) : Prop :=
  ∀ c ∈ cs, isBrace c = false ∧ (nested = true → c ≠ ',')

theorem Literal.no_brace (h : Literal nested cs) : ∀ c ∈ cs, isBrace c = false :=
  fun c hc => (h c hc).1

theorem Literal.no_comma (h : Literal true cs) : ',' ∉ cs :=
  fun hc => (h _ hc).2 rfl rfl

theorem wellFormed_after (hcs : Literal nested cs) (hrest : rest.WellFormed nested) :
    (Braced.after cs rest).WellFormed nested := by
  induction cs with
  | nil => exact hrest
  | cons c cs ih =>
      obtain ⟨hbrace, hcomma⟩ := hcs c List.mem_cons_self
      exact ⟨hbrace, hcomma, ih fun d hd => hcs d (List.mem_cons_of_mem _ hd)⟩

theorem literal_of_flat :
    (∀ p : Braced, p.chosen = [] → ∀ nested, p.WellFormed nested → Literal nested p.text)
    ∧ ∀ choices : Choices, choices.chosen = [] → choices.WellFormed →
      ∀ cs ∈ choices.texts, Trimmed cs ∧ Literal true cs := by
  apply Braced.induct
  case nil => exact fun _ _ _ c hc => absurd hc List.not_mem_nil
  case char =>
    intro c rest ih hflat nested h
    rw [Braced.chosen, List.map_eq_nil_iff] at hflat
    obtain ⟨hbrace, hcomma, hrest⟩ := h
    intro d hd
    rcases List.mem_cons.1 hd with rfl | hd
    · exact ⟨hbrace, hcomma⟩
    · exact ih hflat nested hrest d hd
  case group =>
    intro choices rest _ _ hflat
    exact absurd hflat (chosen_group_ne_nil choices rest)
  case last =>
    intro p ih hflat h cs hcs
    rw [Choices.chosen, List.map_eq_nil_iff] at hflat
    obtain ⟨hp, htrimmed⟩ := h
    rw [List.mem_singleton.1 hcs]
    exact ⟨htrimmed _ ((language_of_flat.1 p hflat _).2 rfl), ih hflat true hp⟩
  case more =>
    intro p others ih ih' hflat h cs hcs
    rw [Choices.chosen] at hflat
    obtain ⟨⟨hp, htrimmed⟩, hothers⟩ := h
    split at hflat
    · rename_i hpflat
      rw [List.map_eq_nil_iff] at hflat
      rcases List.mem_cons.1 hcs with rfl | hcs
      · exact ⟨htrimmed _ ((language_of_flat.1 p hpflat _).2 rfl), ih hpflat true hp⟩
      · exact ih' hflat hothers cs hcs
    · rename_i hpflat
      exact absurd (List.map_eq_nil_iff.1 hflat) hpflat

theorem wellFormed_of_mem_chosen :
    (∀ p : Braced, ∀ nested, p.WellFormed nested → ∀ q ∈ p.chosen, q.WellFormed nested)
    ∧ ∀ choices : Choices, choices.WellFormed → ∀ choices' ∈ choices.chosen,
    choices'.WellFormed := by
  apply Braced.induct
  case nil => exact fun _ _ q hq => absurd hq List.not_mem_nil
  case char =>
    intro c rest ih nested h q hq
    obtain ⟨hbrace, hcomma, hrest⟩ := h
    obtain ⟨q, hmem, rfl⟩ := List.mem_map.1 hq
    exact ⟨hbrace, hcomma, ih nested hrest q hmem⟩
  case group =>
    intro choices rest ih _ nested h q hq
    obtain ⟨hchoices, hrest⟩ := h
    rw [Braced.chosen] at hq
    split at hq
    · rename_i hflat
      obtain ⟨cs, hcs, rfl⟩ := List.mem_map.1 hq
      obtain ⟨-, hliteral⟩ := literal_of_flat.2 choices hflat hchoices cs hcs
      exact wellFormed_after (fun c hc => (hliteral c hc).imp_right fun h _ => h rfl) hrest
    · obtain ⟨choices', hmem, rfl⟩ := List.mem_map.1 hq
      exact ⟨ih hchoices choices' hmem, hrest⟩
  case last =>
    intro p ih h choices' hmem
    obtain ⟨hp, htrimmed⟩ := h
    obtain ⟨q, hq, rfl⟩ := List.mem_map.1 hmem
    refine ⟨ih true hp q hq, fun s hs => htrimmed s ?_⟩
    exact (language_of_chosen.1 p (List.ne_nil_of_mem hq) s).2 ⟨q, hq, hs⟩
  case more =>
    intro p others ih ih' h choices' hmem
    obtain ⟨⟨hp, htrimmed⟩, hothers⟩ := h
    rw [Choices.chosen] at hmem
    split at hmem
    · obtain ⟨q, hq, rfl⟩ := List.mem_map.1 hmem
      exact ⟨⟨hp, htrimmed⟩, ih' hothers q hq⟩
    · obtain ⟨q, hq, rfl⟩ := List.mem_map.1 hmem
      refine ⟨⟨ih true hp q hq, fun s hs => htrimmed s ?_⟩, hothers⟩
      exact (language_of_chosen.1 p (List.ne_nil_of_mem hq) s).2 ⟨q, hq, hs⟩

end Step

section Scan

variable {nested : Bool} {passed tail cs inside : List Char} {p : Braced} {choices : Choices}

theorem no_opening (h : ∀ c ∈ cs, isBrace c = false) : '\x7b' ∉ cs :=
  fun hc => absurd (h _ hc) (by decide)

theorem firstGroupFrom_pass (h : '\x7b' ∉ cs) (passed tail : List Char) :
    firstGroupFrom passed (cs ++ tail) = firstGroupFrom (cs.reverse ++ passed) tail := by
  induction cs generalizing passed with
  | nil => rfl
  | cons c cs ih =>
      simp only [List.mem_cons, not_or] at h
      obtain ⟨hc, hcs⟩ := h
      rw [List.cons_append, firstGroupFrom, if_neg (Ne.symm hc), ih hcs, List.reverse_cons,
        List.append_assoc]
      rfl

theorem dropWhile_plain (h : ∀ c ∈ cs, isBrace c = false) (tail : List Char) :
    (cs ++ tail).dropWhile (!isBrace ·) = tail.dropWhile (!isBrace ·) :=
  List.dropWhile_append_of_pos fun c hc => by simp [h c hc]

theorem firstGroupFrom_opens {more : List Char} (h : cs.dropWhile (!isBrace ·) = '\x7b' :: more)
    (passed : List Char) :
    firstGroupFrom passed ('\x7b' :: cs) = firstGroupFrom ('\x7b' :: passed) cs := by
  rw [firstGroupFrom, if_pos rfl, h]
  rfl

theorem firstGroupFrom_closes (hinside : ∀ c ∈ inside, isBrace c = false) (hne : inside ≠ [])
    (passed tail : List Char) :
    firstGroupFrom passed ('\x7b' :: (inside ++ '\x7d' :: tail))
      = some ⟨passed.reverse, inside, tail⟩ := by
  have htake : (inside ++ '\x7d' :: tail).takeWhile (!isBrace ·) = inside := by
    rw [List.takeWhile_append_of_pos fun c hc => by simp [hinside c hc]]
    simp [isBrace]
  have hdrop : (inside ++ '\x7d' :: tail).dropWhile (!isBrace ·) = '\x7d' :: tail := by
    rw [dropWhile_plain hinside]
    rfl
  rw [firstGroupFrom, if_pos rfl, hdrop, htake]
  simp [hne]

theorem text_eq_glue : ∀ choices : Choices, choices.text = Text.glue ',' choices.texts
  | .last p => rfl
  | .more p others => by
      obtain ⟨cs, rest, hcs⟩ := List.exists_cons_of_ne_nil (texts_ne_nil others)
      rw [Choices.text, text_eq_glue others, Choices.texts, hcs]
      rfl

theorem trim_of_trimmed (h : Trimmed cs) : Text.trim cs = cs := by
  have hleft {ds : List Char} (hds : ∀ c ∈ ds.head?, Text.isBlank c = false) :
      Text.trimLeft ds = ds := by
    cases ds with
    | nil => rfl
    | cons c ds => rw [Text.trimLeft, List.dropWhile_cons, hds c rfl, if_neg Bool.false_ne_true]
  rw [Text.trim, hleft h.first, hleft (by simpa using h.last), List.reverse_reverse]

theorem options_of_texts {texts : List (List Char)} (hne : texts ≠ [])
    (h : ∀ cs ∈ texts, Trimmed cs ∧ ',' ∉ cs) (before after : List Char) :
    Group.options ⟨before, Text.glue ',' texts, after⟩ = texts := by
  have htrim : texts.map Text.trim = texts :=
    (List.map_congr_left fun cs hcs => trim_of_trimmed (h cs hcs).1).trans (List.map_id' _)
  rw [Group.options, Text.pieces_glue hne fun cs hcs => (h cs hcs).2, htrim, List.filter_eq_self]
  intro cs hcs
  simpa using (h cs hcs).1.nonempty

theorem plain_of_flat (h : choices.WellFormed) (hflat : choices.chosen = []) :
    (∀ c ∈ choices.text, isBrace c = false) ∧ choices.text ≠ [] := by
  have htexts := literal_of_flat.2 choices hflat h
  constructor
  · intro c hc
    rw [text_eq_glue] at hc
    rcases Text.mem_glue hc with rfl | ⟨cs, hcs, hc⟩
    · decide
    · exact (htexts cs hcs).2.no_brace c hc
  · cases choices with
    | last p => exact (htexts _ List.mem_cons_self).1.nonempty
    | more p others => exact List.append_ne_nil_of_right_ne_nil _ (List.cons_ne_nil _ _)

theorem opens_of_chosen :
    (∀ p : Braced, ∀ nested, p.WellFormed nested → p.chosen ≠ [] →
      ∀ tail, ∃ more, (p.text ++ tail).dropWhile (!isBrace ·) = '\x7b' :: more)
    ∧ ∀ choices : Choices, choices.WellFormed → choices.chosen ≠ [] →
      ∀ tail, ∃ more, (choices.text ++ tail).dropWhile (!isBrace ·) = '\x7b' :: more := by
  apply Braced.induct
  case nil => exact fun _ _ h => absurd rfl h
  case char =>
    intro c rest ih nested h hchosen tail
    obtain ⟨hbrace, -, hrest⟩ := h
    rw [Braced.chosen, ne_eq, List.map_eq_nil_iff] at hchosen
    obtain ⟨more, hmore⟩ := ih nested hrest hchosen tail
    exact ⟨more, by rw [Braced.text, List.cons_append, List.dropWhile_cons, hbrace,
      if_pos (by decide), hmore]⟩
  case group => exact fun choices rest _ _ _ _ _ tail => ⟨_, rfl⟩
  case last =>
    intro p ih h hchosen tail
    rw [Choices.chosen, ne_eq, List.map_eq_nil_iff] at hchosen
    exact ih true h.1 hchosen tail
  case more =>
    intro p others ih ih' h hchosen tail
    obtain ⟨⟨hp, -⟩, hothers⟩ := h
    rw [Choices.chosen] at hchosen
    rw [Choices.text, List.append_assoc]
    split at hchosen
    · rename_i hflat
      rw [ne_eq, List.map_eq_nil_iff] at hchosen
      obtain ⟨more, hmore⟩ := ih' hothers hchosen tail
      refine ⟨more, ?_⟩
      rw [dropWhile_plain (literal_of_flat.1 p hflat true hp).no_brace]
      exact hmore
    · rename_i hopen
      exact ih true hp hopen _

theorem group_of_chosen :
    (∀ p : Braced, ∀ nested, p.WellFormed nested → p.chosen ≠ [] → ∀ passed tail,
      ∃ g, firstGroupFrom passed (p.text ++ tail) = some g
        ∧ g.options.map g.replace = p.chosen.map fun q => passed.reverse ++ q.text ++ tail)
    ∧ ∀ choices : Choices, choices.WellFormed → choices.chosen ≠ [] → ∀ passed tail,
      ∃ g, firstGroupFrom passed (choices.text ++ tail) = some g
        ∧ g.options.map g.replace = choices.chosen.map fun choices' =>
          passed.reverse ++ choices'.text ++ tail := by
  apply Braced.induct
  case nil => exact fun _ _ h => absurd rfl h
  case char =>
    intro c rest ih nested h hchosen passed tail
    obtain ⟨hbrace, -, hrest⟩ := h
    rw [Braced.chosen, ne_eq, List.map_eq_nil_iff] at hchosen
    obtain ⟨g, hg, hoptions⟩ := ih nested hrest hchosen (c :: passed) tail
    have hopen : '\x7b' ∉ [c] := no_opening (by simpa using hbrace)
    refine ⟨g, (firstGroupFrom_pass hopen passed (rest.text ++ tail)).trans hg, ?_⟩
    simp [hoptions, Braced.chosen, Braced.text, Function.comp_def]
  case group =>
    intro choices rest ih _ nested h _ passed tail
    obtain ⟨hchoices, hrest⟩ := h
    have htext : (Braced.group choices rest).text ++ tail
        = '\x7b' :: (choices.text ++ '\x7d' :: (rest.text ++ tail)) := by
      simp [Braced.text]
    rw [htext, Braced.chosen]
    split
    · rename_i hflat
      obtain ⟨hplain, hne⟩ := plain_of_flat hchoices hflat
      have hoptions := options_of_texts (texts_ne_nil choices) (fun cs hcs =>
        (literal_of_flat.2 choices hflat hchoices cs hcs).imp_right Literal.no_comma) passed.reverse
          (rest.text ++ tail)
      refine ⟨_, firstGroupFrom_closes hplain hne passed (rest.text ++ tail), ?_⟩
      rw [text_eq_glue, hoptions]
      simp [Group.replace, text_after, Function.comp_def]
    · rename_i hopen
      obtain ⟨more, hmore⟩ :=
        opens_of_chosen.2 choices hchoices hopen ('\x7d' :: (rest.text ++ tail))
      obtain ⟨g, hg, hoptions⟩ :=
        ih hchoices hopen ('\x7b' :: passed) ('\x7d' :: (rest.text ++ tail))
      refine ⟨g, (firstGroupFrom_opens hmore passed).trans hg, ?_⟩
      simp [hoptions, Braced.text, Function.comp_def]
  case last =>
    intro p ih h hchosen passed tail
    rw [Choices.chosen, ne_eq, List.map_eq_nil_iff] at hchosen
    obtain ⟨g, hg, hoptions⟩ := ih true h.1 hchosen passed tail
    refine ⟨g, hg, ?_⟩
    simp [hoptions, Choices.chosen, Choices.text, Function.comp_def]
  case more =>
    intro p others ih ih' h hchosen passed tail
    obtain ⟨⟨hp, -⟩, hothers⟩ := h
    have htext : (Choices.more p others).text ++ tail
        = p.text ++ (',' :: (others.text ++ tail)) := by
      simp [Choices.text]
    rw [Choices.chosen] at hchosen
    rw [htext, Choices.chosen]
    split
    · rename_i hflat
      rw [if_pos hflat, ne_eq, List.map_eq_nil_iff] at hchosen
      obtain ⟨g, hg, hoptions⟩ := ih' hothers hchosen ((p.text ++ [',']).reverse ++ passed) tail
      have hplain : ∀ c ∈ p.text ++ [','], isBrace c = false := by
        intro c hc
        rcases List.mem_append.1 hc with hc | hc
        · exact (literal_of_flat.1 p hflat true hp).no_brace c hc
        · exact List.mem_singleton.1 hc ▸ by decide
      refine ⟨g, ?_, ?_⟩
      · rw [← hg, ← firstGroupFrom_pass (no_opening hplain)]
        simp
      · simp [hoptions, Choices.text, Function.comp_def]
    · rename_i hopen
      obtain ⟨g, hg, hoptions⟩ := ih true hp hopen passed (',' :: (others.text ++ tail))
      refine ⟨g, hg, ?_⟩
      simp [hoptions, Choices.text, Function.comp_def]

end Scan

theorem expand_of_flat {p : Braced} (h : p.WellFormed false) (hflat : p.chosen = []) :
    expand p.text = [p.text] := by
  refine expand_of_no_options fun g hg => ?_
  have hnone := firstGroupFrom_pass (no_opening (literal_of_flat.1 p hflat false h).no_brace) [] []
  rw [List.append_nil] at hnone
  exact absurd (hg.symm.trans hnone) (by simp [firstGroupFrom])

theorem exists_group_of_chosen {p : Braced} (h : p.WellFormed false) (hchosen : p.chosen ≠ []) :
    ∃ g, firstGroup p.text = some g ∧ g.options.map g.replace = p.chosen.map Braced.text := by
  obtain ⟨g, hg, hoptions⟩ := group_of_chosen.1 p false h hchosen [] []
  exact ⟨g, by simpa [firstGroup] using hg, by simpa using hoptions⟩

theorem mem_expand_iff {p : Braced} (h : p.WellFormed false) (s : List Char) :
    s ∈ expand p.text ↔ s ∈ p.language := by
  induction hn : p.text.count '\x7b' using Nat.strongRecOn generalizing p with
  | ind n ih =>
      by_cases hchosen : p.chosen = []
      · rw [expand_of_flat h hchosen, List.mem_singleton, language_of_flat.1 p hchosen]
      · obtain ⟨g, hg, hreplaced⟩ := exists_group_of_chosen h hchosen
        have hoptions : g.options ≠ [] := by
          intro hempty
          rw [hempty, List.map_nil] at hreplaced
          exact hchosen (List.map_eq_nil_iff.1 hreplaced.symm)
        have hstep : expand p.text = p.chosen.flatMap fun q => expand q.text := by
          rw [expand_of_options hg hoptions, ← List.flatMap_map, hreplaced, List.flatMap_map]
        rw [hstep, List.mem_flatMap, language_of_chosen.1 p hchosen]
        refine exists_congr fun q => and_congr_right fun hq => ?_
        have hqtext : q.text ∈ g.options.map g.replace := hreplaced ▸ List.mem_map_of_mem hq
        obtain ⟨option, ho, hqoption⟩ := List.mem_map.1 hqtext
        have hcount := count_replace hg ho
        rw [hqoption] at hcount
        exact ih _ (by omega) (wellFormed_of_mem_chosen.1 p false h q hq) rfl

theorem expansion_ends_with_denoted_texts :
    (∀ cs found, Expands cs found ↔ found = expand cs)
    ∧ (∀ p : Braced, p.WellFormed false → ∀ s, s ∈ expand p.text ↔ s ∈ p.language)
    ∧ ∀ cs, expand cs ≠ [] ∧ ∀ s ∈ expand cs, expand s = [s] := by
  refine ⟨fun cs found => expands_iff, fun p h => mem_expand_iff h, fun cs =>
    ⟨(expands_expand cs).ne_nil, ?_⟩⟩
  intro s hs
  exact (expands_iff.1 ((expands_expand cs).final hs)).symm

section Example

def nestedChoice : Braced :=
  .char 'a' (.char ',' (.group (.more (.char 'b' .nil) (.last (.char 'c' (.group
    (.more (.char 'd' .nil) (.last (.char 'e' (.char 'f' .nil)))) .nil)))) .nil))

theorem mem_language_nestedChoice (s : List Char) :
    s ∈ nestedChoice.language ↔ s = "a,b".toList ∨ s = "a,cd".toList ∨ s = "a,cef".toList := by
  simp [nestedChoice, eq_comm]

theorem trimmed_of_no_blank {cs : List Char} (hne : cs ≠ []) (h : cs.all (!Text.isBlank ·) = true) :
    Trimmed cs := by
  have hchars : ∀ c ∈ cs, Text.isBlank c = false := by simpa using h
  exact ⟨hne, fun c hc => hchars c (List.mem_of_mem_head? hc), fun c hc =>
    hchars c (List.mem_of_getLast? hc)⟩

theorem wellFormed_nestedChoice : nestedChoice.WellFormed false := by
  have htrimmed : Trimmed ['b'] ∧ Trimmed ['d'] ∧ Trimmed ['e', 'f'] ∧ Trimmed ['c', 'd']
      ∧ Trimmed ['c', 'e', 'f'] := by
    refine ⟨?_, ?_, ?_, ?_, ?_⟩ <;> exact trimmed_of_no_blank (List.cons_ne_nil _ _) (by decide)
  simp [nestedChoice, Braced.WellFormed, Choices.WellFormed, isBrace, or_imp, forall_and, htrimmed]

theorem expansion_ends_with_denoted_texts_of_nestedChoice :
    nestedChoice.WellFormed false ∧ "a,cef".toList ∈ expand nestedChoice.text
      ∧ "a,ce".toList ∉ expand nestedChoice.text := by
  obtain ⟨-, hdenoted, -⟩ := expansion_ends_with_denoted_texts
  have h := hdenoted nestedChoice wellFormed_nestedChoice
  refine ⟨wellFormed_nestedChoice, ?_, ?_⟩
  · exact (h _).2 ((mem_language_nestedChoice _).2 (.inr (.inr rfl)))
  · rw [h, mem_language_nestedChoice]
    decide

end Example

end CodeSurvey.Pattern
