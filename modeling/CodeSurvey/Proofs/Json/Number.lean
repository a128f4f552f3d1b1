import CodeSurvey.Json.Reader
import CodeSurvey.Proofs.Double.Shortest
import Mathlib.Tactic.IntervalCases

namespace CodeSurvey.Json

def IsDigits (cs : List Char) : Prop := ∀ c ∈ cs, c.isDigit = true

def EndsNumber (rest : List Char) : Prop :=
  ∀ c ∈ rest.head?, c.isDigit = false ∧ c ≠ '.' ∧ c ≠ 'e' ∧ c ≠ 'E'

def NoDigit (rest : List Char) : Prop := ∀ c ∈ rest.head?, c.isDigit = false

theorem digitsOf_append {ds rest : List Char} (h : IsDigits ds) (hr : NoDigit rest) :
    digitsOf (ds ++ rest) = ds := by
  unfold digitsOf
  rw [List.takeWhile_append_of_pos h]
  cases rest with
  | nil => simp
  | cons c rest => simp [hr c rfl]

theorem natOfDigits_eq (ds : List Char) : natOfDigits ds = Nat.ofDigitChars 10 ds 0 := by
  unfold natOfDigits Nat.ofDigitChars
  congr 1
  funext acc c
  ring

theorem isDigits_toDigits (n : Nat) : IsDigits (Nat.toDigits 10 n) :=
  fun _ h => Nat.isDigit_of_mem_toDigits (by decide) (by decide) h

theorem toDigits_head_ne_zero {n : Nat} (hn : 0 < n) (rest : List Char) :
    Nat.toDigits 10 n ≠ '0' :: rest := by
  induction n using Nat.strong_induction_on generalizing rest with
  | h n ih =>
      rw [Nat.toDigits_eq_if (by decide)]
      split
      · rename_i h
        interval_cases n <;> simp [Nat.digitChar]
      · intro h
        have hne : Nat.toDigits 10 (n / 10) ≠ [] := Nat.toDigits_ne_nil
        obtain ⟨c, cs, hcs⟩ := List.exists_cons_of_ne_nil hne
        rw [hcs, List.cons_append, List.cons.injEq] at h
        exact ih (n / 10) (by omega) (by omega) cs (by rw [hcs, h.1])

theorem fractionLength_eq (fraction : List Char) :
    fractionLength fraction = (Double.pointed fraction).length := by
  unfold fractionLength Double.pointed
  split <;> simp

theorem wholeOf_append {whole rest : List Char} (hw : IsDigits whole) (hne : whole ≠ [])
    (hz : whole = ['0'] ∨ whole.head? ≠ some '0') (hr : NoDigit rest) :
    wholeOf (whole ++ rest) = whole := by
  rcases hz with rfl | hz
  · rfl
  · have hd := digitsOf_append hw hr
    obtain ⟨c, cs, rfl⟩ := List.exists_cons_of_ne_nil hne
    have hc : c ≠ '0' := by simpa using hz
    rw [List.cons_append] at hd ⊢
    unfold wholeOf
    split
    · rename_i h
      exact absurd (List.cons.inj h).1 hc
    · exact hd

theorem noDigit_pointed {fraction rest : List Char} (hr : NoDigit rest) :
    NoDigit (Double.pointed fraction ++ rest) := by
  unfold Double.pointed
  split
  · exact hr
  · intro c hc
    simp only [List.cons_append, List.head?_cons, Option.mem_some_iff] at hc
    subst hc
    rfl

theorem fractionOf_append {fraction rest : List Char} (hf : IsDigits fraction) (hr : NoDigit rest)
    (hdot : rest.head? ≠ some '.') : fractionOf (Double.pointed fraction ++ rest) = fraction := by
  unfold Double.pointed
  split
  · rename_i h
    rw [List.isEmpty_iff.1 h, List.nil_append]
    unfold fractionOf
    split
    · simp at hdot
    · rfl
  · exact digitsOf_append hf hr

theorem exponentOf_of_ends {rest : List Char} (h : EndsNumber rest) : exponentOf rest = (0, 0) := by
  cases rest with
  | nil => rfl
  | cons c rest =>
      obtain ⟨-, -, h1, h2⟩ := h c rfl
      simp [exponentOf, h1, h2]

theorem exponentOf_exponentText (e : Int) {rest : List Char} (hr : NoDigit rest) :
    exponentOf (Double.exponentText e ++ rest) = ((Double.exponentText e).length, e) := by
  unfold Double.exponentText
  simp only []
  generalize hds : (if (Nat.toDigits 10 e.natAbs).length < 2 then '0' :: Nat.toDigits 10 e.natAbs
    else Nat.toDigits 10 e.natAbs) = ds
  have hdigits : IsDigits ds := by
    subst hds
    split
    · intro c hc
      rcases List.mem_cons.1 hc with rfl | hc
      · rfl
      · exact isDigits_toDigits _ c hc
    · exact isDigits_toDigits _
  have hvalue : natOfDigits ds = e.natAbs := by
    subst hds
    split
    · rw [natOfDigits_eq, Nat.ofDigitChars_cons]
      exact Nat.ofDigitChars_ten_toDigits
    · rw [natOfDigits_eq]
      exact Nat.ofDigitChars_ten_toDigits
  have hne : ds ≠ [] := by
    subst hds
    split
    · simp
    · exact Nat.toDigits_ne_nil
  by_cases he : e < 0
  · simp [he, exponentOf, signOf, digitsOf_append hdigits hr, hne, hvalue, abs_of_neg he]
    omega
  · simp [he, exponentOf, signOf, digitsOf_append hdigits hr, hne, hvalue,
      abs_of_nonneg (not_lt.1 he)]
    omega

theorem Numeral.ofHead_append {whole fraction tail : List Char} {length : Nat} {e : Int}
    (hw : IsDigits whole) (hne : whole ≠ []) (hz : whole = ['0'] ∨ whole.head? ≠ some '0')
    (hf : IsDigits fraction) (hr : NoDigit tail) (hdot : tail.head? ≠ some '.')
    (he : exponentOf tail = (length, e)) :
    Numeral.ofHead (whole ++ (Double.pointed fraction ++ tail)) = ⟨whole, fraction, length, e⟩ := by
  unfold Numeral.ofHead
  simp only []
  rw [wholeOf_append hw hne hz (noDigit_pointed hr), List.drop_left, fractionOf_append hf hr hdot,
    ← List.drop_drop, List.drop_left, fractionLength_eq, List.drop_left, he]

structure Readable (w : Double.Written) : Prop where
  whole_digits : IsDigits w.whole
  whole_ne : w.whole ≠ []
  whole_head : w.whole = ['0'] ∨ w.whole.head? ≠ some '0'
  fraction_digits : IsDigits w.fraction
  real : w.fraction ≠ [] ∨ w.exponent.isSome

theorem EndsNumber.noDigit {rest : List Char} (h : EndsNumber rest) :
    NoDigit rest := fun c hc => (h c hc).1

theorem minusOf_digit {whole rest : List Char} (hw : IsDigits whole) (hne : whole ≠ []) :
    minusOf (whole ++ rest) = [] := by
  obtain ⟨c, cs, rfl⟩ := List.exists_cons_of_ne_nil hne
  have hc := hw c (by simp)
  rw [List.cons_append]
  unfold minusOf
  split
  · rename_i h
    rw [(List.cons.inj h).1] at hc
    simp at hc
  · rfl

def minus (negative : Bool) : List Char := if negative then ['-'] else []

theorem minusOf_minus {whole rest : List Char} (hw : IsDigits whole) (hne : whole ≠ [])
    (negative : Bool) :
    minusOf (minus negative ++ (whole ++ rest)) = minus negative := by
  cases negative
  · rw [minus, if_neg (by decide), List.nil_append]
    exact minusOf_digit hw hne
  · rfl

theorem ofHead_text {w : Double.Written} (hw : Readable w) {rest : List Char}
    (hr : EndsNumber rest) :
    Numeral.ofHead (w.text ++ rest)
      = ⟨w.whole, w.fraction, ((w.exponent.map Double.exponentText).getD []).length,
        w.exponent.getD 0⟩ := by
  obtain ⟨whole, fraction, exponent⟩ := w
  unfold Double.Written.text
  rw [List.append_assoc, List.append_assoc]
  cases exponent with
  | none =>
      have hdot : rest.head? ≠ some '.' := fun h => (hr '.' h).2.1 rfl
      exact Numeral.ofHead_append hw.whole_digits hw.whole_ne hw.whole_head hw.fraction_digits
        hr.noDigit hdot
        (exponentOf_of_ends hr)
  | some e =>
      refine Numeral.ofHead_append hw.whole_digits hw.whole_ne hw.whole_head
        hw.fraction_digits ?_ ?_
        (exponentOf_exponentText e hr.noDigit)
      · intro c hc
        simp only [Double.exponentText, Option.map_some, Option.getD_some, List.cons_append,
          List.head?_cons, Option.mem_some_iff] at hc
        subst hc
        rfl
      · simp [Double.exponentText]

theorem readNumber_text {w : Double.Written} (hw : Readable w) (negative : Bool) {rest : List Char}
    (hr : EndsNumber rest) (maxDigits : Nat) {c : Cursor}
    (hc : c.rest = minus negative ++ (w.text ++ rest)) :
    readNumber maxDigits c
      = .ok (real (Double.ofDecimal negative (natOfDigits (w.whole ++ w.fraction))
      (w.exponent.getD 0 - w.fraction.length)), c.advance (minus negative ++ w.text).length) := by
  have hminus : minusOf c.rest = minus negative := by
    rw [hc, Double.Written.text, List.append_assoc, List.append_assoc]
    exact minusOf_minus hw.whole_digits hw.whole_ne negative
  have hhead : Numeral.ofHead (c.rest.drop (minus negative).length)
      = ⟨w.whole, w.fraction, ((w.exponent.map Double.exponentText).getD []).length,
        w.exponent.getD 0⟩ := by
    rw [hc, List.drop_left]
    exact ofHead_text hw hr
  have hreal :
      Numeral.isWhole ⟨w.whole, w.fraction, ((w.exponent.map Double.exponentText).getD []).length,
        w.exponent.getD 0⟩ = false := by
    rcases hw.real with h | h
    · simp [Numeral.isWhole, h]
    · obtain ⟨e, he⟩ := Option.isSome_iff_exists.1 h
      simp [Numeral.isWhole, he, Double.exponentText]
  have hnegative : (!(minus negative).isEmpty) = negative := by cases negative <;> rfl
  unfold readNumber
  simp only [hminus, hhead, hnegative, List.isEmpty_iff, hw.whole_ne, if_false]
  simp only [Numeral.value, hreal, Bool.false_eq_true, if_false]
  simp only [Numeral.length, fractionLength_eq, Double.Written.text, List.length_append]
  rfl

theorem natOfDigits_append (a b : List Char) :
    natOfDigits (a ++ b) = Nat.ofDigitChars 10 b (natOfDigits a) := by
  rw [natOfDigits_eq, natOfDigits_eq, Nat.ofDigitChars_append]

theorem natOfDigits_toDigits (n : Nat) : natOfDigits (Nat.toDigits 10 n) = n := by
  rw [natOfDigits_eq]
  exact Nat.ofDigitChars_ten_toDigits

theorem isDigits_zeros (n : Nat) : IsDigits (Double.zeros n) := by
  intro c hc
  rw [List.eq_of_mem_replicate hc]
  rfl

theorem IsDigits.append {a b : List Char} (ha : IsDigits a) (hb : IsDigits b) :
    IsDigits (a ++ b) := by
  intro c hc
  rcases List.mem_append.1 hc with h | h
  · exact ha c h
  · exact hb c h

theorem isDigits_zero : IsDigits ['0'] := by
  intro c hc
  rw [List.mem_singleton.1 hc]
  rfl

theorem toDigits_head {n : Nat} (hn : 0 < n) : (Nat.toDigits 10 n).head? ≠ some '0' := by
  intro h
  obtain ⟨cs, hcs⟩ := List.head?_eq_some_iff.1 h
  exact toDigits_head_ne_zero hn cs hcs

theorem readable_layout {d : Nat} (hd : 0 < d) (t : Int) : Readable (Double.layout d t) := by
  have hne : Nat.toDigits 10 d ≠ [] := Nat.toDigits_ne_nil
  have hlen : 0 < (Nat.toDigits 10 d).length := Nat.length_toDigits_pos
  have hdigits := isDigits_toDigits d
  have hhead := toDigits_head hd
  unfold Double.layout
  simp only []
  split
  · split
    · exact ⟨isDigits_zero, by simp, .inl rfl, (isDigits_zeros _).append hdigits,
        .inl (by simp [hne])⟩
    · split
      · refine ⟨hdigits.append (isDigits_zeros _), by simp [hne], .inr ?_, isDigits_zero,
          .inl (by simp)⟩
        rw [List.head?_append_of_ne_nil _ hne]
        exact hhead
      · rename_i h1 h2
        refine ⟨fun c hc => hdigits c (List.mem_of_mem_take hc), ?_, .inr ?_,
          fun c hc => hdigits c (List.mem_of_mem_drop hc), .inl ?_⟩
        · simp only [ne_eq, List.take_eq_nil_iff, hne, or_false]
          omega
        · rw [List.head?_take, if_neg (by omega)]
          exact hhead
        · simp only [ne_eq, List.drop_eq_nil_iff]
          omega
  · refine ⟨fun c hc => hdigits c (List.mem_of_mem_take hc), ?_, .inr ?_,
      fun c hc => hdigits c (List.mem_of_mem_drop hc), .inr rfl⟩
    · simp [hne]
    · rw [List.head?_take, if_neg (by omega)]
      exact hhead

theorem layout_value {d : Nat} (hd : 0 < d) (hle : d ≤ 10 ^ 17) (t : Int) :
    ∃ n : Nat, natOfDigits ((Double.layout d t).whole ++ (Double.layout d t).fraction) = n
      ∧ 0 < n ∧ n < 2 ^ 60
      ∧ (n : ℚ) * 10 ^ ((Double.layout d t).exponent.getD
        0 - ((Double.layout d t).fraction.length : Int))
        = d * 10 ^ t := by
  have hvalue := natOfDigits_toDigits d
  have hlen : 0 < (Nat.toDigits 10 d).length := Nat.length_toDigits_pos
  unfold Double.layout
  simp only []
  split
  · rename_i hpoint
    simp only [Bool.and_eq_true, decide_eq_true_eq] at hpoint
    split
    · refine ⟨d, ?_, hd, by omega, ?_⟩
      · rw [natOfDigits_append, Nat.ofDigitChars_append, Double.zeros,
          Nat.ofDigitChars_replicate_zero]
        rw [natOfDigits_eq] at hvalue
        have hzero : natOfDigits ['0'] = 0 := rfl
        rw [hzero, Nat.mul_zero, hvalue]
      · congr 2
        simp only [Option.getD_none, List.length_append, Double.zeros, List.length_replicate]
        omega
    · split
      · rename_i h1 h2
        generalize hk : ((Nat.toDigits 10 d).length + t).toNat - (Nat.toDigits 10 d).length = k
        refine ⟨d * 10 ^ k * 10, ?_, by positivity, ?_, ?_⟩
        · rw [natOfDigits_append, natOfDigits_append, hvalue, Double.zeros,
            Nat.ofDigitChars_replicate_zero]
          simp [Nat.ofDigitChars]
          ring
        · have hdlt : d < 10 ^ (Nat.toDigits 10 d).length :=
            (Nat.length_toDigits_le_iff (by decide) hlen).1 (Nat.le_refl _)
          have h16 : 10 ^ ((Nat.toDigits 10 d).length + k) ≤ 10 ^ 16 :=
            Nat.pow_le_pow_right (by decide) (by omega)
          rw [Nat.pow_add] at h16
          have : d * 10 ^ k < 10 ^ (Nat.toDigits 10 d).length * 10 ^ k := by gcongr
          omega
        · have ht : t = k := by omega
          rw [ht]
          simp only [Option.getD_none, List.length_singleton]
          push_cast
          rw [zpow_natCast]
          norm_num
          ring
      · rename_i h1 h2
        refine ⟨d, by rw [List.take_append_drop, hvalue], hd, by omega, ?_⟩
        congr 2
        simp only [Option.getD_none, List.length_drop]
        omega
  · refine ⟨d, by rw [List.take_append_drop, hvalue], hd, by omega, ?_⟩
    congr 2
    simp only [Option.getD_some, List.length_drop]
    omega

theorem absText_written {d : Double} (hi : d.magnitude < Double.infinityBits) :
    ∃ w : Double.Written, d.absText = w.text ∧ Readable w
      ∧ Double.ofDecimal d.negative (natOfDigits (w.whole ++ w.fraction))
        (w.exponent.getD 0 - w.fraction.length)
        = d := by
  unfold Double.absText
  split
  · rename_i hz
    have hmag : d.magnitude = 0 := by simpa [Double.isZero] using hz
    have hd : Double.ofMagnitude d.negative 0 = d := by
      rw [← hmag]
      exact Double.ofMagnitude_self hi.le
    exact ⟨⟨['0'], ['0'], none⟩, rfl,
      ⟨isDigits_zero, by simp, .inl rfl, isDigits_zero, .inl (by simp)⟩, hd⟩
  · rename_i hz
    have hz : d.isZero = false := by simpa using hz
    obtain ⟨hf, hmag⟩ := Double.parts_finite hz hi
    generalize d.parts = p at hf hmag
    obtain ⟨m, q⟩ := p
    simp only [] at hf hmag ⊢
    obtain ⟨hnear, hle⟩ := Double.shortest_near hf
    generalize Double.shortest m q = s at hnear hle
    obtain ⟨digits, scale⟩ := s
    simp only [] at hnear hle ⊢
    obtain ⟨hvalue, hstrip⟩ := Double.stripZeros_spec 20 digits scale
    generalize Double.stripZeros 20 digits scale = s at hvalue hstrip
    obtain ⟨digits', scale'⟩ := s
    simp only [] at hvalue hstrip ⊢
    rw [← hvalue] at hnear
    have hpos : 0 < digits' := by
      rcases Nat.eq_zero_or_pos digits' with h | h
      · have := (Double.near_pos hf.pos hnear).1
        rw [h] at this
        norm_num at this
      · exact h
    obtain ⟨n, hn, hn0, hn60, hval⟩ := layout_value hpos (hstrip.trans hle) scale'
    refine ⟨Double.layout digits' scale', rfl, readable_layout hpos scale', ?_⟩
    rw [hn, Double.ofDecimal_of_near hf hn0 hn60 (by rw [hval]; exact hnear), hmag,
      Double.ofMagnitude_self hi.le]

theorem readNumber_real {d : Double} (hi : d.magnitude < Double.infinityBits) {rest : List Char}
    (hr : EndsNumber rest) (maxDigits : Nat) {c : Cursor}
    (hc : c.rest = minus d.negative ++ (d.absText ++ rest)) :
    readNumber maxDigits c = .ok (real d, c.advance (minus d.negative ++ d.absText).length) := by
  obtain ⟨w, hw, hreadable, hvalue⟩ := absText_written hi
  rw [hw] at hc ⊢
  rw [readNumber_text hreadable d.negative hr maxDigits hc, hvalue]

theorem toList_toString (n : Int) :
    (toString n).toList = minus (decide (n < 0)) ++ Nat.toDigits 10 n.natAbs := by
  cases n with
  | ofNat k =>
      show (Nat.repr k).toList = _
      rw [Nat.toList_repr]
      rfl
  | negSucc k =>
      show ("-" ++ Nat.repr (k + 1)).toList = _
      rw [String.toList_append, Nat.toList_repr, decide_eq_true (Int.negSucc_lt_zero k)]
      rfl

theorem readable_toDigits (n : Nat) :
    Nat.toDigits 10 n = ['0'] ∨ (Nat.toDigits 10 n).head? ≠ some '0' := by
  rcases Nat.eq_zero_or_pos n with rfl | hn
  · left
    rfl
  · right
    exact toDigits_head hn

theorem readNumber_int (n : Int) {rest : List Char} (hr : EndsNumber rest) (maxDigits : Nat)
    {c : Cursor} (hc : c.rest = (toString n).toList ++ rest) :
    readNumber maxDigits c = if maxDigits < digitCount n then .error .numberTooLong
      else .ok (int n, c.advance (toString n).toList.length) := by
  have hne : Nat.toDigits 10 n.natAbs ≠ [] := Nat.toDigits_ne_nil
  have hdigits := isDigits_toDigits n.natAbs
  rw [toList_toString, List.append_assoc] at hc
  have hminus : minusOf c.rest = minus (decide (n < 0)) := by
    rw [hc]
    exact minusOf_minus hdigits hne _
  have hhead : Numeral.ofHead (c.rest.drop (minus (decide (n < 0))).length)
      = ⟨Nat.toDigits 10 n.natAbs, [], 0, 0⟩ := by
    have hdot : rest.head? ≠ some '.' := fun h => (hr '.' h).2.1 rfl
    rw [hc, List.drop_left]
    exact Numeral.ofHead_append hdigits hne (readable_toDigits _) (fun c hc =>
      absurd hc List.not_mem_nil)
      hr.noDigit hdot (exponentOf_of_ends hr)
  have hnegative : (!(minus (decide (n < 0))).isEmpty) = decide (n < 0) := by
    cases decide (n < 0) <;> rfl
  unfold readNumber
  simp only [hminus, hhead, hnegative, List.isEmpty_iff, hne, if_false]
  simp only [Numeral.value, Numeral.isWhole, Numeral.length, fractionLength, List.isEmpty_nil,
    Bool.true_and, beq_self_eq_true, if_true, natOfDigits_toDigits, toList_toString,
    List.length_append, Nat.add_zero, digitCount]
  split
  · rfl
  · have hn : (if n < 0 then -(n.natAbs : Int) else n.natAbs) = n := by split <;> omega
    simp only [decide_eq_true_eq, hn]
    rfl

end CodeSurvey.Json
