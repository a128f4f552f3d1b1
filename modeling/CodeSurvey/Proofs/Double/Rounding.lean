import CodeSurvey.Json.Double
import Mathlib.Algebra.Order.Field.Power
import Mathlib.Data.Rat.Cast.Order
import Mathlib.Tactic.FieldSimp
import Mathlib.Tactic.Linarith
import Mathlib.Tactic.NormNum
import Mathlib.Tactic.Positivity
import Mathlib.Tactic.Ring

namespace CodeSurvey.Double

theorem zpow_mul_pow_neg {b : ℚ} (hb : b ≠ 0) (q : Int) : b ^ q * b ^ (-q).toNat = b ^ q.toNat := by
  rw [← zpow_natCast b (-q).toNat, ← zpow_natCast b q.toNat, ← zpow_add₀ hb]
  congr 1
  omega

theorem roundRatio_eq {a b m : Nat} (low : 2 * m * b ≤ 2 * a + b) (high : 2 * a ≤ 2 * m * b + b)
    (odd : m % 2 = 1 → 2 * m * b < 2 * a + b ∧ 2 * a < 2 * m * b + b) (hb : 0 < b) :
    roundRatio a b = m := by
  unfold roundRatio
  have hdiv : b * (a / b) + a % b = a := Nat.div_add_mod a b
  have hmod : a % b < b := Nat.mod_lt a hb
  generalize a / b = w, a % b = r at hdiv hmod
  subst hdiv
  have hle : m ≤ w + 1 := by
    by_contra h
    have : b * (w + 2) ≤ b * m := Nat.mul_le_mul_left b (by omega)
    nlinarith
  have hge : w ≤ m := by
    by_contra h
    have : b * (m + 1) ≤ b * w := Nat.mul_le_mul_left b (by omega)
    nlinarith
  simp only []
  rcases Nat.lt_or_ge w m with h | h
  · obtain rfl : m = w + 1 := by omega
    have hr : b ≤ 2 * r := by nlinarith
    rw [if_neg (by omega)]
    split
    · rfl
    · have ht : 2 * r = b := by omega
      have ho : ¬ (w + 1) % 2 = 1 := fun ho => by have := (odd ho).1; nlinarith
      rw [if_neg (by omega)]
  · obtain rfl : m = w := by omega
    have hr : 2 * r ≤ b := by nlinarith
    split
    · rfl
    · have ht : 2 * r = b := by omega
      have ho : ¬ m % 2 = 1 := fun ho => by have := (odd ho).2; nlinarith
      rw [if_neg (by omega), if_pos (by omega)]

section Ratio

variable {num den : Nat}

theorem scaled_pos (hd : 0 < den) (q : Int) : 0 < (scaled num den q).2 := by
  simp only [scaled, Nat.pow_eq]
  split <;> positivity

theorem scaled_eq (hd : 0 < den) (q : Int) :
    ((scaled num den q).1 : ℚ) = num / den / 2 ^ q * (scaled num den q).2 := by
  simp only [scaled, Nat.pow_eq]
  split
  · rename_i h
    lift q to Nat using h
    have : (den : ℚ) ≠ 0 := by positivity
    push_cast
    field_simp
    simp
  · have : (den : ℚ) ≠ 0 := by positivity
    have h2 := zpow_mul_pow_neg (b := 2) (by norm_num) q
    rw [show q.toNat = 0 by omega, pow_zero] at h2
    push_cast
    field_simp
    rw [mul_assoc, mul_comm _ ((2 : ℚ) ^ q), h2, mul_one]

theorem log2_bounds {n : Nat} (hn : 0 < n) :
    (2 : ℚ) ^ (Nat.log2 n : Int) ≤ n ∧ (n : ℚ) < 2 ^ ((Nat.log2 n : Int) + 1) := by
  constructor
  · rw [zpow_natCast]
    exact_mod_cast Nat.log2_self_le hn.ne'
  · rw [show ((Nat.log2 n : Int) + 1) = ((Nat.log2 n + 1 : Nat) : Int) by omega, zpow_natCast]
    exact_mod_cast Nat.lt_log2_self

theorem ratio_bounds (hn : 0 < num) (hd : 0 < den) :
    (2 : ℚ) ^ ((Nat.log2 num : Int) - Nat.log2 den - 1) < num / den
      ∧ (num : ℚ) / den < 2 ^ ((Nat.log2 num : Int) - Nat.log2 den + 1) := by
  obtain ⟨hn1, hn2⟩ := log2_bounds hn
  obtain ⟨hd1, hd2⟩ := log2_bounds hd
  have hd0 : (0 : ℚ) < den := by positivity
  constructor
  · rw [lt_div_iff₀ hd0]
    calc (2 : ℚ) ^ ((Nat.log2 num : Int) - Nat.log2 den - 1) * den
        < 2 ^ ((Nat.log2 num : Int) - Nat.log2 den - 1) * 2 ^ ((Nat.log2 den : Int) + 1) := by
          gcongr
      _ = 2 ^ (Nat.log2 num : Int) := by rw [← zpow_add₀ (by norm_num)]; congr 1; omega
      _ ≤ num := hn1
  · rw [div_lt_iff₀ hd0]
    calc (num : ℚ) < 2 ^ ((Nat.log2 num : Int) + 1) := hn2
      _ = 2 ^ ((Nat.log2 num : Int) - Nat.log2 den + 1) * 2 ^ (Nat.log2 den : Int) := by
          rw [← zpow_add₀ (by norm_num)]; congr 1; omega
      _ ≤ 2 ^ ((Nat.log2 num : Int) - Nat.log2 den + 1) * den := by gcongr

theorem le_scaled_div_iff (hd : 0 < den) (q : Int) :
    2 ^ 53 ≤ (scaled num den q).1 / (scaled num den q).2 ↔ (2 : ℚ) ^ (q + 53) ≤ num / den := by
  have hb : 0 < (scaled num den q).2 := scaled_pos hd q
  rw [Nat.le_div_iff_mul_le hb, ← Nat.cast_le (α := ℚ), scaled_eq hd q]
  push_cast
  rw [mul_le_mul_iff_left₀ (by exact_mod_cast hb), le_div_iff₀ (by positivity),
    zpow_add₀ (by norm_num)]
  norm_num [mul_comm]

theorem zpow_lt_of {a b : Int} {x : ℚ} (h1 : (2 : ℚ) ^ a ≤ x) (h2 : x < 2 ^ b) : a < b :=
  (zpow_lt_zpow_iff_right₀ (by norm_num)).1 (lt_of_le_of_lt h1 h2)

theorem magnitudeOfRatio_eq (hn : 0 < num) (hd : 0 < den) {q : Int} (hq : -1074 ≤ q)
    (high : (num : ℚ) / den < 2 ^ (q + 53)) (low : q = -1074 ∨ (2 : ℚ) ^ (q + 52) ≤ num / den) :
    magnitudeOfRatio num den
      = min ((q + 1074).toNat * 2 ^ 52 + roundRatio (scaled num den q).1 (scaled num den q).2)
        infinityBits := by
  obtain ⟨h1, h2⟩ := ratio_bounds hn hd
  simp only [magnitudeOfRatio, Nat.pow_eq]
  generalize hg : max ((Nat.log2 num : Int) - Nat.log2 den - 53) (-1074) = guess
  have hle : guess ≤ q := by
    have := zpow_lt_of h1.le high
    omega
  have hge : q ≤ guess + 1 := by
    rcases low with rfl | low
    · omega
    · have := zpow_lt_of low h2
      omega
  have hchoice :
      (if 2 ^ 53 ≤ (scaled num den guess).1 / (scaled num den guess).2 then guess + 1 else guess)
        = q := by
    split
    · rename_i h
      have := zpow_lt_of ((le_scaled_div_iff hd guess).1 h) high
      omega
    · rename_i h
      rcases low with rfl | low
      · omega
      · have : q + 52 ≠ guess + 53 := fun heq => h ((le_scaled_div_iff hd guess).2 (heq ▸ low))
        omega
  rw [hchoice]

theorem roundRatio_scaled (hd : 0 < den) (q : Int) {m : Nat} {y : ℚ}
    (hy : (num : ℚ) / den / 2 ^ q = y) (low : (2 * m : ℚ) ≤ 2 * y + 1) (high : 2 * y ≤ 2 * m + 1)
    (odd : m % 2 = 1 → (2 * m : ℚ) < 2 * y + 1 ∧ 2 * y < 2 * m + 1) :
    roundRatio (scaled num den q).1 (scaled num den q).2 = m := by
  have hb : 0 < (scaled num den q).2 := scaled_pos hd q
  have ha : ((scaled num den q).1 : ℚ) = num / den / 2 ^ q * (scaled num den q).2 := scaled_eq hd q
  rw [hy] at ha
  generalize (scaled num den q).1 = a, (scaled num den q).2 = b at ha hb
  have hb0 : (0 : ℚ) < b := by exact_mod_cast hb
  have lift {k l : Nat} : (k : ℚ) < l → k < l := fun h => by exact_mod_cast h
  refine roundRatio_eq ?_ ?_ (fun ho => ⟨?_, ?_⟩) hb
  · have : (2 * m : ℚ) * b ≤ (2 * y + 1) * b := by gcongr
    have : ((2 * m * b : Nat) : ℚ) ≤ (2 * a + b : Nat) := by push_cast; linarith
    exact_mod_cast this
  · have : (2 * y : ℚ) * b ≤ (2 * m + 1) * b := by gcongr
    have : ((2 * a : Nat) : ℚ) ≤ (2 * m * b + b : Nat) := by push_cast; linarith
    exact_mod_cast this
  · have : (2 * m : ℚ) * b < (2 * y + 1) * b := mul_lt_mul_of_pos_right (odd ho).1 hb0
    exact lift (by push_cast; linarith)
  · have : (2 * y : ℚ) * b < (2 * m + 1) * b := mul_lt_mul_of_pos_right (odd ho).2 hb0
    exact lift (by push_cast; linarith)

end Ratio

structure IsFinite (m : Nat) (q : Int) : Prop where
  pos : 0 < m
  lt : m < 2 ^ 53
  ge : -1074 ≤ q
  le : q ≤ 971
  normal : q = -1074 ∨ 2 ^ 52 ≤ m

def below (m : Nat) (q : Int) : Nat := if m = 2 ^ 52 ∧ -1074 < q then 1 else 2

structure Near (m : Nat) (q : Int) (y : ℚ) : Prop where
  low : (4 * m : ℚ) ≤ 4 * y + below m q
  high : 4 * y ≤ 4 * m + 2
  odd : m % 2 = 1 → (4 * m : ℚ) < 4 * y + 2 ∧ 4 * y < 4 * m + 2

theorem magnitudeOfRatio_of_near {m : Nat} {q : Int} (hf : IsFinite m q) {num den : Nat}
    (hn : 0 < num) (hd : 0 < den) (h : Near m q (num / den / 2 ^ q)) :
    magnitudeOfRatio num den = (q + 1074).toNat * 2 ^ 52 + m := by
  obtain ⟨pos, lt, ge, le, normal⟩ := hf
  obtain ⟨low, high, odd⟩ := h
  generalize hy : (num : ℚ) / den / 2 ^ q = y at low high odd
  have hx : (num : ℚ) / den = y * 2 ^ q := by rw [← hy]; field_simp
  have h2q : (0 : ℚ) < 2 ^ q := by positivity
  have hbelow : below m q ≤ 2 := by unfold below; split <;> omega
  have hbound : (q + 1074).toNat * 2 ^ 52 + m ≤ infinityBits := by
    simp only [infinityBits, Nat.pow_eq]; omega
  -- A ratio just below a power of two is rounded up to it from the exponent below.
  by_cases hin : q = -1074 ∨ (2 : ℚ) ^ (q + 52) ≤ num / den
  · have hm : (m : ℚ) ≤ 2 ^ 53 - 1 := by
      have : (m : ℚ) + 1 ≤ (2 ^ 53 : Nat) := by exact_mod_cast lt
      norm_num at this ⊢
      linarith
    have hlt : (num : ℚ) / den < 2 ^ (q + 53) := by
      rw [hx, zpow_add₀ (by norm_num), mul_comm]
      exact mul_lt_mul_of_pos_left (by norm_num; linarith) h2q
    have hb : (below m q : ℚ) ≤ 2 := by exact_mod_cast hbelow
    rw [magnitudeOfRatio_eq hn hd ge hlt hin,
      roundRatio_scaled (m := m) hd q hy (by linarith) (by linarith)
        (fun ho => ⟨by linarith [(odd ho).1], by linarith [(odd ho).2]⟩)]
    exact Nat.min_eq_left hbound
  · push Not at hin
    obtain ⟨hq, hlt⟩ := hin
    rw [hx, zpow_add₀ (by norm_num), mul_comm, mul_lt_mul_iff_right₀ h2q] at hlt
    norm_num at hlt
    have hm : m = 2 ^ 52 := by
      have h52 : 2 ^ 52 ≤ m := by omega
      have hb : (below m q : ℚ) ≤ 2 := by exact_mod_cast hbelow
      have : (m : ℚ) < (2 ^ 52 + 1 : Nat) := by push_cast; linarith
      have : m < 2 ^ 52 + 1 := by exact_mod_cast this
      omega
    subst hm
    have hone : below (2 ^ 52) q = 1 := if_pos ⟨rfl, by omega⟩
    rw [hone] at low
    have hy' : (num : ℚ) / den / 2 ^ (q - 1) = 2 * y := by
      rw [hx, zpow_sub₀ (by norm_num)]
      field_simp
    have hlt' : (num : ℚ) / den < 2 ^ (q - 1 + 53) := by
      rw [hx, show q - 1 + 53 = 52 + q by ring, zpow_add₀ (by norm_num)]
      exact mul_lt_mul_of_pos_right (by norm_num; linarith) h2q
    have hge' : (2 : ℚ) ^ (q - 1 + 52) ≤ num / den := by
      rw [hx, show q - 1 + 52 = 51 + q by ring, zpow_add₀ (by norm_num)]
      exact mul_le_mul_of_nonneg_right (by norm_num at low ⊢; linarith) h2q.le
    have hround : roundRatio (scaled num den (q - 1)).1 (scaled num den (q - 1)).2 = 2 ^ 53 := by
      refine roundRatio_scaled hd (q - 1) hy' ?_ ?_ ?_
      · push_cast at low ⊢; linarith
      · push_cast; linarith
      · intro ho; norm_num at ho
    have hbits : (q - 1 + 1074).toNat * 2 ^ 52 + 2 ^ 53 = (q + 1074).toNat * 2 ^ 52 + 2 ^ 52 := by
      omega
    rw [magnitudeOfRatio_eq hn hd (by omega) hlt' (.inr hge'), hround, hbits]
    exact Nat.min_eq_left hbound

end CodeSurvey.Double
