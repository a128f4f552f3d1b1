import CodeSurvey.Proofs.Json.Number
import CodeSurvey.Proofs.Json.Quoted

namespace CodeSurvey.Json

namespace Cursor

theorem skipBlanks_append (blanks : List Char) {rest : List Char}
    (hb : ∀ b ∈ blanks, isBlank b = true) (hr : ∀ d ∈ rest.head?, isBlank d = false) {c : Cursor}
    (hc : c.rest = blanks ++ rest) :
    c.skipBlanks = c.advance blanks.length := by
  have htake : rest.takeWhile isBlank = [] := by
    cases rest with
    | nil => rfl
    | cons d rest => simp [hr d rfl]
  rw [skipBlanks, hc, List.takeWhile_append_of_pos hb, htake, List.append_nil]

theorem skipBlanks_eq {c : Cursor} (h : ∀ d ∈ c.rest.head?, isBlank d = false) : c.skipBlanks = c :=
  skipBlanks_append [] (fun _ h => absurd h List.not_mem_nil) h rfl

end Cursor

structure Separators.Plain (s : Separators) : Prop where
  item : ∃ blanks, s.item.toList = ',' :: blanks ∧ ∀ b ∈ blanks, Cursor.isBlank b = true
  name : ∃ blanks, s.name.toList = ':' :: blanks ∧ ∀ b ∈ blanks, Cursor.isBlank b = true

theorem Separators.plain_tight : Separators.tight.Plain :=
  ⟨⟨[], rfl, by simp⟩, ⟨[], rfl, by simp⟩⟩

theorem Separators.plain_spaced : Separators.spaced.Plain :=
  ⟨⟨[' '], rfl, by simp [Cursor.isBlank]⟩, ⟨[' '], rfl, by simp [Cursor.isBlank]⟩⟩

section Heads

def Opens (d : Char) :
    Prop := (Cursor.isBlank d || d == ']' || d == '\x7d' || d == '\uFEFF') = false

def StartsWith (p : Char → Prop) (cs : List Char) : Prop := ∃ d rest, cs = d :: rest ∧ p d

theorem Opens.not_blank {d : Char} (h : Opens d) : Cursor.isBlank d = false := by
  simp only [Opens, Bool.or_eq_false_iff] at h
  exact h.1.1.1

theorem Opens.ne {d closing : Char} (h : Opens d) (hc : closing = ']' ∨ closing = '\x7d') :
    d ≠ closing := by
  simp only [Opens, Bool.or_eq_false_iff, beq_eq_false_iff_ne] at h
  rcases hc with rfl | rfl
  · exact h.1.1.2
  · exact h.1.2

theorem opens_digit {d : Char} (h : d.isDigit = true) : Opens d := by
  simp only [Opens, Cursor.isBlank, Bool.or_eq_false_iff, beq_eq_false_iff_ne]
  refine ⟨⟨⟨⟨⟨⟨?_, ?_⟩, ?_⟩, ?_⟩, ?_⟩, ?_⟩, ?_⟩ <;> rintro rfl <;> exact absurd h (by decide)

theorem startsWith_digits {cs : List Char} (rest : List Char) (h : IsDigits cs) (hne : cs ≠ []) :
    StartsWith (fun d => d.isDigit = true) (cs ++ rest) := by
  obtain ⟨d, cs, rfl⟩ := List.exists_cons_of_ne_nil hne
  exact ⟨d, cs ++ rest, rfl, h d (by simp)⟩

theorem startsWith_minus {cs : List Char} (negative : Bool) (h : StartsWith Opens cs) :
    StartsWith Opens (minus negative ++ cs) := by
  cases negative with
  | false => exact h
  | true => exact ⟨'-', cs, rfl, rfl⟩

theorem StartsWith.imp {p q : Char → Prop} {cs : List Char} (h : StartsWith p cs)
    (hpq : ∀ d, p d → q d) :
    StartsWith q cs := by
  obtain ⟨d, rest, hcs, hd⟩ := h
  exact ⟨d, rest, hcs, hpq d hd⟩

theorem startsWith_absText {d : Double} (hi : d.magnitude < Double.infinityBits) :
    StartsWith (fun d => d.isDigit = true) d.absText := by
  obtain ⟨w, hw, hreadable, -⟩ := absText_written hi
  rw [hw, Double.Written.text, List.append_assoc]
  exact startsWith_digits _ hreadable.whole_digits hreadable.whole_ne

theorem toList_realText (d : Double) : (realText d).toList =
    if d.isNaN then "NaN".toList
    else minus d.negative ++ if d.isInfinite then "Infinity".toList else d.absText := by
  unfold realText Double.textWith
  split
  · rfl
  · rw [String.toList_append]
    congr 1
    · cases d.negative <;> rfl
    · split
      · rfl
      · exact String.toList_ofList

theorem startsWith_realText (d : Double) : StartsWith Opens (realText d).toList := by
  rw [toList_realText]
  split
  · exact ⟨'N', _, rfl, rfl⟩
  · rename_i hnan
    refine startsWith_minus _ ?_
    split
    · exact ⟨'I', _, rfl, rfl⟩
    · rename_i hinf
      have hi : d.magnitude < Double.infinityBits := by
        simp only [Double.isNaN, Double.isInfinite, decide_eq_true_eq, beq_iff_eq] at hnan hinf
        omega
      exact (startsWith_absText hi).imp fun _ => opens_digit

theorem startsWith_textWith (s : Separators) (v : Json) :
    StartsWith Opens (textWith s v).toList := by
  cases v with
  | null =>
      rw [textWith]
      exact ⟨'n', _, rfl, rfl⟩
  | bool b =>
      cases b with
      | false =>
          rw [textWith]
          exact ⟨'f', _, rfl, rfl⟩
      | true =>
          rw [textWith]
          exact ⟨'t', _, rfl, rfl⟩
  | int n =>
      rw [textWith, toList_toString]
      refine startsWith_minus _ (StartsWith.imp ?_ fun _ => opens_digit)
      simpa using startsWith_digits [] (isDigits_toDigits n.natAbs) Nat.toDigits_ne_nil
  | real d => exact startsWith_realText d
  | str t =>
      rw [textWith, toList_quote]
      exact ⟨'"', _, rfl, rfl⟩
  | arr items =>
      rw [textWith, String.toList_append, String.toList_append]
      exact ⟨'[', _, rfl, rfl⟩
  | obj fields =>
      rw [textWith, String.toList_append, String.toList_append]
      exact ⟨'\x7b', _, rfl, rfl⟩

end Heads

def Takes {α : Type} (read : PartReader α) (text : List Char) (result : Except ReadFault α) :
    Prop :=
  ∀ c rest, EndsNumber rest → c.rest = text ++ rest → read c = result.map fun v =>
    (v, c.advance text.length)

def TakesClosed {α : Type} (read : PartReader α) (text : List Char) (result : Except ReadFault α) :
    Prop :=
  ∀ c rest, c.rest = text ++ rest → read c = result.map fun v => (v, c.advance text.length)

theorem TakesClosed.takes {α : Type} {read : PartReader α} {text : List Char}
    {result : Except ReadFault α} (h : TakesClosed read text result) : Takes read text result :=
  fun c rest _ hc => h c rest hc

section Scalars

theorem startsWith_eq_false {word : String} {w : Char} {ws : List Char} (hw : word.toList = w :: ws)
    {c : Cursor} {d : Char} {rest : List Char} (hc : c.rest = d :: rest) (h : w ≠ d) :
    startsWith word c = false := by
  rw [startsWith, hw, hc]
  simp [List.isPrefixOf, h]

theorem keyword_number {c : Cursor} {negative : Bool} {cs : List Char}
    (hc : c.rest = minus negative ++ cs) (h : StartsWith (fun d => d.isDigit = true) cs) :
    keywords.find? (fun k => startsWith k.1 c) = none := by
  obtain ⟨d, rest, rfl, hd⟩ := h
  have hne {w : Char} (hw : w.isDigit = false) : w ≠ d := by
    rintro rfl
    exact absurd (hw.symm.trans hd) (by decide)
  cases negative with
  | false =>
      simp only [keywords, List.find?_cons, List.find?_nil]
      rw [startsWith_eq_false (w := 'n') rfl hc (hne rfl),
        startsWith_eq_false (w := 't') rfl hc (hne rfl), startsWith_eq_false (w :=
          'f') rfl hc (hne rfl), startsWith_eq_false (w := 'N') rfl hc (hne rfl),
        startsWith_eq_false (w := 'I') rfl hc (hne rfl),
        startsWith_eq_false (w := '-') rfl hc (hne rfl)]
  | true =>
      have hinf : startsWith "-Infinity" c = false := by
        rw [startsWith, hc]
        simp [minus, List.isPrefixOf, hne (w := 'I') rfl]
      simp only [keywords, List.find?_cons, List.find?_nil]
      rw [startsWith_eq_false (w := 'n') rfl hc (by decide),
        startsWith_eq_false (w := 't') rfl hc (by decide), startsWith_eq_false (w :=
          'f') rfl hc (by decide), startsWith_eq_false (w := 'N') rfl hc (by decide),
        startsWith_eq_false (w := 'I') rfl hc (by decide), hinf]

variable (maxDigits depth : Nat)

theorem readValue_number {c : Cursor} {negative : Bool} {cs : List Char}
    (hc : c.rest = minus negative ++ cs) (h : StartsWith (fun d => d.isDigit = true) cs) :
    readValue maxDigits (depth + 1) c = readNumber maxDigits c := by
  have hkey := keyword_number hc h
  obtain ⟨d, rest, rfl, hd⟩ := h
  unfold readValue
  split
  · rename_i heq
    rw [hc] at heq
    cases negative <;> simp [minus] at heq
    simp [heq.1] at hd
  · rename_i heq
    rw [hc] at heq
    cases negative <;> simp [minus] at heq
    simp [heq.1] at hd
  · rename_i heq
    rw [hc] at heq
    cases negative <;> simp [minus] at heq
    simp [heq.1] at hd
  · rw [hkey]

theorem takes_word {word : String} {v : Json} (h : ∀ c rest, c.rest = word.toList ++ rest →
    keywords.find? (fun k => startsWith k.1 c) = some (word, v))
    (hw : StartsWith (fun d => d ≠ '"' ∧ d ≠ '[' ∧ d ≠ '\x7b') word.toList) :
    Takes (readValue maxDigits (depth + 1)) word.toList (.ok v) := by
  intro c rest _ hc
  have hkey := h c rest hc
  obtain ⟨d, cs, hcs, h1, h2, h3⟩ := hw
  rw [hcs, List.cons_append] at hc
  unfold readValue
  split
  · rename_i heq
    rw [hc] at heq
    exact absurd (List.cons.inj heq).1 h1
  · rename_i heq
    rw [hc] at heq
    exact absurd (List.cons.inj heq).1 h2
  · rename_i heq
    rw [hc] at heq
    exact absurd (List.cons.inj heq).1 h3
  · rw [hkey]
    rfl

theorem takes_null : Takes (readValue maxDigits (depth + 1)) "null".toList (.ok null) :=
  takes_word maxDigits depth (fun c rest hc => by simp [keywords, startsWith, hc])
    ⟨'n', _, rfl, by decide⟩

theorem takes_true : Takes (readValue maxDigits (depth + 1)) "true".toList (.ok (bool true)) :=
  takes_word maxDigits depth (fun c rest hc => by simp [keywords, startsWith, hc])
    ⟨'t', _, rfl, by decide⟩

theorem takes_false : Takes (readValue maxDigits (depth + 1)) "false".toList (.ok (bool false)) :=
  takes_word maxDigits depth (fun c rest hc => by simp [keywords, startsWith, hc])
    ⟨'f', _, rfl, by decide⟩

theorem takes_nan : Takes (readValue maxDigits (depth + 1)) "NaN".toList (.ok (real Double.nan)) :=
  takes_word maxDigits depth (fun c rest hc => by simp [keywords, startsWith, hc])
    ⟨'N', _, rfl, by decide⟩

theorem takes_infinity :
    Takes (readValue maxDigits (depth + 1)) "Infinity".toList
      (.ok (real (Double.infinity false))) :=
  takes_word maxDigits depth (fun c rest hc => by simp [keywords, startsWith, hc])
    ⟨'I', _, rfl, by decide⟩

theorem takes_minus_infinity :
    Takes (readValue maxDigits (depth + 1)) "-Infinity".toList
      (.ok (real (Double.infinity true))) :=
  takes_word maxDigits depth (fun c rest hc => by simp [keywords, startsWith, hc])
    ⟨'-', _, rfl, by decide⟩

theorem takes_realText (d : Double) :
    Takes (readValue maxDigits (depth + 1)) (realText d).toList (.ok (real d)) := by
  rw [toList_realText]
  obtain ⟨negative, magnitude, canonical⟩ := d
  split
  · rename_i hnan
    rcases canonical with h | ⟨rfl, rfl⟩
    · simp only [Double.isNaN, decide_eq_true_eq] at hnan
      omega
    · exact takes_nan maxDigits depth
  · rename_i hnan
    split
    · rename_i hinf
      simp only [Double.isInfinite, beq_iff_eq] at hinf
      subst hinf
      cases negative with
      | false => exact takes_infinity maxDigits depth
      | true => exact takes_minus_infinity maxDigits depth
    · rename_i hinf
      have hi : magnitude < Double.infinityBits := by
        simp only [Double.isNaN, Double.isInfinite, decide_eq_true_eq, beq_iff_eq] at hnan hinf
        omega
      intro c rest hr hc
      rw [List.append_assoc] at hc
      have hhead := startsWith_absText (d := ⟨negative, magnitude, canonical⟩) hi
      rw [readValue_number maxDigits depth hc (by
        obtain ⟨d, cs, hcs, hd⟩ := hhead
        exact ⟨d, cs ++ rest, by rw [hcs, List.cons_append], hd⟩)]
      exact readNumber_real (d := ⟨negative, magnitude, canonical⟩) hi hr maxDigits hc

theorem takes_int (n : Int) : Takes (readValue maxDigits (depth + 1)) (toString n).toList
    (if maxDigits < digitCount n then .error .numberTooLong else .ok (int n)) := by
  intro c rest hr hc
  have hnumber := readNumber_int n hr maxDigits hc
  rw [toList_toString, List.append_assoc] at hc
  rw [readValue_number maxDigits depth hc
    (startsWith_digits _ (isDigits_toDigits _) Nat.toDigits_ne_nil), hnumber]
  split <;> rfl

theorem takesClosed_quote (t : String) :
    TakesClosed (readValue maxDigits (depth + 1)) (quote t).toList (.ok (str t)) := by
  intro c rest hc
  have hstring := readString_quote t hc
  rw [toList_quote] at hc
  unfold readValue
  split
  · rw [hstring]
    rfl
  · rename_i heq
    rw [hc] at heq
    exact absurd (List.cons.inj heq).1 (by decide)
  · rename_i heq
    rw [hc] at heq
    exact absurd (List.cons.inj heq).1 (by decide)
  · rename_i hquote _ _
    exact absurd hc (hquote _)

end Scalars

end CodeSurvey.Json
