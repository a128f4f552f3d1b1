import CodeSurvey.Json.Reader

namespace CodeSurvey.Json

theorem Cursor.advance_advance (c : Cursor) (m n : Nat) :
    (c.advance m).advance n = c.advance (m + n) := by
  simp [Cursor.advance, List.drop_drop, Nat.add_assoc]

theorem Cursor.advance_rest {c : Cursor} (cs : List Char) {rest : List Char}
    (h : c.rest = cs ++ rest) :
    (c.advance cs.length).rest = rest := by
  rw [Cursor.advance, h, List.drop_left]

theorem hexNumber?_unit : ∀ n < 32, hexNumber? ['0', '0', hexDigit (n / 16), hexDigit (n % 16)]
      = some n := by
  decide

theorem approximateChar_toNat {c : Char} (h : c.toNat < 32) : approximateChar c.toNat = c := by
  have hh : isHighSurrogate c.toNat = false := by simp [isHighSurrogate]; omega
  have hl : isLowSurrogate c.toNat = false := by simp [isLowSurrogate]; omega
  simp [approximateChar, hh, hl, Char.ofNat_toNat]

theorem unicodeEscape_unit {char : Char} (h : char.toNat < 32) {tail : List Char} (ht : tail ≠ [])
    {c : Cursor}
    (hc : c.rest = ['0', '0', hexDigit (char.toNat / 16), hexDigit (char.toNat % 16)] ++ tail) :
    unicodeEscape c = .ok (char, c.advance 4) := by
  have hlength : ¬ c.rest.length ≤ 4 := by
    have := List.length_pos_iff.2 ht
    simp only [hc, List.length_append, List.length_cons, List.length_nil]
    omega
  have htake :
      c.rest.take 4 = ['0', '0', hexDigit (char.toNat / 16), hexDigit (char.toNat % 16)] := by
    rw [hc]
    rfl
  have hunit : unicodeUnit c = .ok char.toNat := by
    unfold unicodeUnit
    rw [if_neg hlength, htake, hexNumber?_unit _ h]
  have hhigh : isHighSurrogate char.toNat = false := by simp [isHighSurrogate]; omega
  unfold unicodeEscape
  rw [hunit]
  show (if isHighSurrogate char.toNat = true then _ else pure (approximateChar char.toNat,
    c.advance 4)) = _
  rw [hhigh, approximateChar_toNat h]
  rfl

theorem escapeChar_cases (c : Char) :
    (∃ e, e ≠ 'u' ∧ plainEscape? e = some c ∧ escapeChar c = ['\\', e])
    ∨ (c.toNat < 32
      ∧ escapeChar c = ['\\', 'u', '0', '0', hexDigit (c.toNat / 16), hexDigit (c.toNat % 16)])
    ∨ (c ≠ '"' ∧ c ≠ '\\' ∧ 32 ≤ c.toNat ∧ escapeChar c = [c]) := by
  unfold escapeChar
  split
  · rename_i h
    exact .inl ⟨'"', by decide, by rw [h]; rfl, rfl⟩
  split
  · rename_i h
    exact .inl ⟨'\\', by decide, by rw [h]; rfl, rfl⟩
  split
  · rename_i h
    exact .inl ⟨'n', by decide, by rw [h]; rfl, rfl⟩
  split
  · rename_i h
    exact .inl ⟨'r', by decide, by rw [h]; rfl, rfl⟩
  split
  · rename_i h
    exact .inl ⟨'t', by decide, by rw [h]; rfl, rfl⟩
  split
  · rename_i h
    exact .inl ⟨'b', by decide, by rw [← Char.ofNat_toNat c, h]; rfl, rfl⟩
  split
  · rename_i h
    exact .inl ⟨'f', by decide, by rw [← Char.ofNat_toNat c, h]; rfl, rfl⟩
  split
  · rename_i h
    exact .inr (.inl ⟨h, rfl⟩)
  · rename_i hquote hback _ _ _ _ _ h
    exact .inr (.inr ⟨hquote, hback, Nat.not_lt.1 h, rfl⟩)

theorem readQuoted_escapeChar (start fuel : Nat) (acc : List Char) (char : Char) {tail : List Char}
    (ht : tail ≠ []) {c : Cursor} (hc : c.rest = escapeChar char ++ tail) :
    readQuoted start (fuel + 1) acc c
      = readQuoted start fuel (char :: acc) (c.advance (escapeChar char).length) := by
  rcases escapeChar_cases char with ⟨e, hu, he, h⟩ | ⟨hlt, h⟩ | ⟨hquote, hback, hge, h⟩
  · rw [h] at hc ⊢
    simp [readQuoted, hc, he]
  · rw [h] at hc ⊢
    have hunit := unicodeEscape_unit hlt ht (c := c.advance 2) (by rw [Cursor.advance, hc]; rfl)
    have hnext : c.advance 6 = (c.advance 2).advance 4 := by rw [Cursor.advance_advance]
    simp only [readQuoted, hc, List.cons_append, hunit, List.length_cons, List.length_nil]
    exact congrArg _ hnext.symm
  · rw [h] at hc ⊢
    rw [readQuoted, hc, List.singleton_append]
    split
    · rename_i heq
      simp at heq
    · rename_i heq
      exact absurd (List.cons.inj heq).1 hquote
    · rename_i heq
      exact absurd (List.cons.inj heq).1 hback
    · rename_i heq
      exact absurd (List.cons.inj heq).1 hback
    · rename_i heq
      exact absurd (List.cons.inj heq).1 hback
    · rename_i heq
      obtain ⟨rfl, -⟩ := List.cons.inj heq
      rw [if_neg (Nat.not_lt.2 hge)]
      rfl

theorem readQuoted_escaped (start : Nat) (cs : List Char) (rest : List Char) (fuel : Nat)
    (hf : cs.length < fuel) (acc : List Char) (c : Cursor)
    (hc : c.rest = cs.flatMap escapeChar ++ '"' :: rest) :
    readQuoted start fuel acc c
      = .ok (String.ofList (acc.reverse ++ cs),
        c.advance ((cs.flatMap escapeChar).length + 1)) := by
  induction cs generalizing fuel acc c with
  | nil =>
      cases fuel with
      | zero => simp at hf
      | succ fuel => simp at hc; simp [readQuoted, hc]
  | cons char cs ih =>
      cases fuel with
      | zero => simp at hf
      | succ fuel =>
          rw [List.flatMap_cons, List.append_assoc] at hc
          rw [readQuoted_escapeChar start fuel acc char (by simp) hc,
            ih fuel (by simpa using hf) (char :: acc) _ (Cursor.advance_rest _ hc),
            Cursor.advance_advance]
          simp [Nat.add_assoc]

theorem length_le_flatMap_escapeChar (cs : List Char) :
    cs.length ≤ (cs.flatMap escapeChar).length := by
  induction cs with
  | nil => simp
  | cons c cs ih =>
      have hpos : 0 < (escapeChar c).length := by
        rcases escapeChar_cases c with ⟨e, -, -, h⟩ | ⟨-, h⟩ | ⟨-, -, -, h⟩ <;> simp [h]
      simp only [List.flatMap_cons, List.length_append, List.length_cons]
      omega

theorem toList_quote (s : String) :
    (quote s).toList = '"' :: (s.toList.flatMap escapeChar ++ ['"']) := by
  simp [quote]

theorem readString_quote (s : String) {rest : List Char} {c : Cursor}
    (hc : c.rest = (quote s).toList ++ rest) :
    readString c = .ok (s, c.advance (quote s).toList.length) := by
  rw [toList_quote] at hc ⊢
  have hnext : (c.advance 1).rest = s.toList.flatMap escapeChar ++ '"' :: rest := by
    rw [Cursor.advance, hc]
    simp
  have hfuel : s.toList.length < c.rest.length + 1 := by
    have := length_le_flatMap_escapeChar s.toList
    simp only [hc, List.length_append, List.length_cons]
    omega
  rw [readString, readQuoted_escaped _ _ rest _ hfuel [] _ hnext, Cursor.advance_advance]
  simp [Nat.add_comm]

end CodeSurvey.Json
