import CodeSurvey.Proofs.Double.Rounding
import Mathlib.Algebra.Order.Floor.Semifield
import Mathlib.Data.Rat.Floor

namespace CodeSurvey.Double

section Compare

variable (a : Nat) (q : Int) (d : Nat) (t : Int)

theorem cast_left : ((a * 2 ^ q.toNat * 10 ^ (-t).toNat : Nat) : ℚ)
    = a * 2 ^ q * (2 ^ (-q).toNat * 10 ^ (-t).toNat) := by
  push_cast
  rw [← zpow_mul_pow_neg (by norm_num) q]
  ring

theorem cast_right : ((d * 10 ^ t.toNat * 2 ^ (-q).toNat : Nat) : ℚ)
    = d * 10 ^ t * (2 ^ (-q).toNat * 10 ^ (-t).toNat) := by
  push_cast
  rw [← zpow_mul_pow_neg (by norm_num) t]
  ring

theorem scale_pos : (0 : ℚ) < 2 ^ (-q).toNat * 10 ^ (-t).toNat := by positivity

theorem compareScales_eq_lt : compareScales a q d t = .lt ↔ (a : ℚ) * 2 ^ q < d * 10 ^ t := by
  simp only [compareScales, Nat.pow_eq]
  rw [compare_lt_iff_lt, ← Nat.cast_lt (α := ℚ), cast_left, cast_right,
    mul_lt_mul_iff_left₀ (scale_pos q t)]

theorem compareScales_eq_gt : compareScales a q d t = .gt ↔ (d : ℚ) * 10 ^ t < a * 2 ^ q := by
  simp only [compareScales, Nat.pow_eq]
  rw [compare_gt_iff_gt, ← Nat.cast_lt (α := ℚ), cast_left, cast_right,
    mul_lt_mul_iff_left₀ (scale_pos q t)]

theorem floorAt_eq (m : Nat) : floorAt m q t = ⌊(m : ℚ) * 2 ^ q / 10 ^ t⌋₊ := by
  have h : (m : ℚ) * 2 ^ q / 10 ^ t
      = ((m * 2 ^ q.toNat * 10 ^ (-t).toNat : Nat) : ℚ)
        / ((1 * 10 ^ t.toNat * 2 ^ (-q).toNat : Nat) : ℚ) := by
    rw [cast_left, cast_right, mul_div_mul_right _ _ (scale_pos q t).ne']
    simp
  rw [h, Nat.floor_div_eq_div, floorAt]
  simp

end Compare

theorem quarter (q : Int) : (2 : ℚ) ^ (q - 2) = 2 ^ q / 4 := by
  rw [zpow_sub₀ (by norm_num)]
  norm_num

theorem readsBack_iff {m : Nat} (hm : 0 < m) (q : Int) (d : Nat) (t : Int) :
    readsBack m q d t = true ↔ Near m q (d * 10 ^ t / 2 ^ q) := by
  have h2q : (0 : ℚ) < 2 ^ q := by positivity
  generalize hy : (d : ℚ) * 10 ^ t / 2 ^ q = y
  have hx : (d : ℚ) * 10 ^ t = y * 2 ^ q := by rw [← hy]; field_simp
  have hb : (if m = 2 ^ 52 && -1074 < q then 1 else 2) = below m q := by simp [below]
  have hsub : ((4 * m - below m q : Nat) : ℚ) = 4 * m - below m q := by
    have : below m q ≤ 4 * m := by unfold below; split <;> omega
    push_cast [this]
    ring
  have low : (compareScales (4 * m - below m q) (q - 2) d t = .lt ↔ (4 * m : ℚ) < 4 * y + below m q)
      ∧ (compareScales (4 * m - below m q) (q - 2) d t = .gt
        ↔ 4 * y + below m q < (4 * m : ℚ)) := by
    rw [compareScales_eq_lt, compareScales_eq_gt, hsub, hx, quarter]
    constructor <;> constructor <;> intro h <;> nlinarith
  have high : (compareScales (4 * m + 2) (q - 2) d t = .lt ↔ (4 * m : ℚ) + 2 < 4 * y)
      ∧ (compareScales (4 * m + 2) (q - 2) d t = .gt ↔ 4 * y < (4 * m : ℚ) + 2) := by
    rw [compareScales_eq_lt, compareScales_eq_gt, hx, quarter]
    push_cast
    constructor <;> constructor <;> intro h <;> nlinarith
  simp only [readsBack, Nat.pow_eq, hb]
  split
  · rename_i heven
    simp only [Bool.and_eq_true, bne_iff_ne, ne_eq, low.2, high.1, not_lt]
    exact ⟨fun h => ⟨h.1, h.2, by omega⟩, fun h => ⟨h.low, h.high⟩⟩
  · rename_i hodd
    have htwo : (below m q : ℚ) = 2 := by
      have : below m q = 2 := if_neg (by omega)
      exact_mod_cast this
    simp only [Bool.and_eq_true, beq_iff_eq, low.1, high.2]
    rw [htwo]
    exact ⟨fun h => ⟨by rw [htwo]; exact h.1.le, h.2.le, fun _ => h⟩, fun h => h.odd (by omega)⟩

theorem near_floor_or_succ {m : Nat} {q : Int} {u : ℚ} {d : Nat} (hu : u < 1)
    (hq : m = 2 ^ 52 → u < 1 / 2) (hd : d * u ≤ m) (hs : (m : ℚ) < (d + 1) * u) :
    Near m q (d * u) ∨ Near m q ((d + 1) * u) := by
  have hb : (1 : ℚ) ≤ below m q := by unfold below; split <;> norm_num
  by_cases h : 4 * ((d + 1) * u) < 4 * m + 2
  · right
    exact ⟨by linarith, by linarith, fun _ => ⟨by linarith, by linarith⟩⟩
  · left
    have hlow : (4 * m : ℚ) < 4 * (d * u) + below m q := by
      by_cases hm : m = 2 ^ 52
      · have := hq hm
        linarith
      · have : below m q = 2 := if_neg fun h => hm h.1
        rw [this]
        push_cast
        linarith
    have hb2 : (below m q : ℚ) ≤ 2 := by unfold below; split <;> norm_num
    exact ⟨by linarith, by linarith, fun _ => ⟨by linarith, by linarith⟩⟩

theorem guess_of_nonneg : ∀ n < 1024, 10 ^ (n * 30103 / 100000) ≤ 10 * 2 ^ n
    ∧ 2 ^ (n + 1) ≤ 100 * 10 ^ (n * 30103 / 100000) := by decide +kernel

theorem guess_of_neg : ∀ n < 1075, 2 ^ n ≤ 10 * 10 ^ ((n * 30103 + 99999) / 100000)
    ∧ 2 * 10 ^ ((n * 30103 + 99999) / 100000) ≤ 100 * 2 ^ n := by decide +kernel

theorem guess_bounds {l : Int} (hl : -1074 ≤ l) (hu : l < 1024) :
    (10 : ℚ) ^ (l * 30103 / 100000) ≤ 10 * 2 ^ l
      ∧ (2 : ℚ) * 2 ^ l ≤ 100 * 10 ^ (l * 30103 / 100000) := by
  rcases Int.eq_nat_or_neg l with ⟨n, rfl | rfl⟩
  · obtain ⟨h1, h2⟩ := guess_of_nonneg n (by omega)
    rw [show (n : Int) * 30103 / 100000 = ((n * 30103 / 100000 : Nat) : Int) by push_cast; rfl,
      zpow_natCast, zpow_natCast]
    rw [pow_succ'] at h2
    constructor
    · exact_mod_cast h1
    · exact_mod_cast h2
  · obtain ⟨h1, h2⟩ := guess_of_neg n (by omega)
    rw [show -(n : Int) * 30103 / 100000 = -(((n * 30103 + 99999) / 100000 : Nat) : Int) by omega,
      zpow_neg, zpow_neg, zpow_natCast, zpow_natCast]
    generalize (n * 30103 + 99999) / 100000 = h at h1 h2
    have h1' : (2 : ℚ) ^ n ≤ 10 * 10 ^ h := by exact_mod_cast h1
    have h2' : (2 : ℚ) * 10 ^ h ≤ 100 * 2 ^ n := by exact_mod_cast h2
    constructor
    · rw [← div_eq_mul_inv, inv_eq_one_div, div_le_div_iff₀ (by positivity) (by positivity)]
      linarith
    · rw [← div_eq_mul_inv, ← div_eq_mul_inv, div_le_div_iff₀ (by positivity) (by positivity)]
      linarith

theorem decimalTop_bounds {m : Nat} {q : Int} (hf : IsFinite m q) :
    (10 : ℚ) ^ (decimalTop m q - 1) ≤ m * 2 ^ q ∧ (m : ℚ) * 2 ^ q < 10 ^ decimalTop m q := by
  obtain ⟨hm1, hm2⟩ := log2_bounds hf.pos
  have hlog : Nat.log2 m < 53 := (Nat.log2_lt hf.pos.ne').2 hf.lt
  have hge := hf.ge
  have hle := hf.le
  obtain ⟨hg1, hg2⟩ := guess_bounds (l := (Nat.log2 m : Int) + q) (by omega) (by omega)
  have h2q : (0 : ℚ) < 2 ^ q := by positivity
  have hv1 : (2 : ℚ) ^ ((Nat.log2 m : Int) + q) ≤ m * 2 ^ q := by
    rw [zpow_add₀ (by norm_num)]
    gcongr
  have hv2 : (m : ℚ) * 2 ^ q < 2 * 2 ^ ((Nat.log2 m : Int) + q) := by
    rw [zpow_add₀ (by norm_num), ← mul_assoc]
    rw [zpow_add₀ (by norm_num), zpow_one, mul_comm] at hm2
    gcongr
  unfold decimalTop
  simp only []
  generalize ((Nat.log2 m : Int) + q) * 30103 / 100000 = g at hg1 hg2
  have hten (k : Int) : (10 : ℚ) ^ (k + 1) = 10 * 10 ^ k := by
    rw [zpow_add₀ (by norm_num), zpow_one, mul_comm]
  have htest (k : Int) : (compareScales m q 1 k != .lt) = true ↔ (10 : ℚ) ^ k ≤ m * 2 ^ q := by
    simp [compareScales_eq_lt]
  split
  · rename_i h
    rw [htest] at h
    refine ⟨by rwa [show g + 2 - 1 = g + 1 by ring], ?_⟩
    rw [show g + 2 = g + 1 + 1 by ring, hten, hten]
    linarith
  · rename_i h
    rw [htest, not_le] at h
    split
    · rename_i h2
      rw [htest] at h2
      exact ⟨by simpa using h2, h⟩
    · rename_i h2
      rw [htest, not_le] at h2
      refine ⟨?_, h2⟩
      have := hten (g - 1)
      rw [sub_add_cancel] at this
      linarith

theorem near_pos {m : Nat} {q : Int} (hm : 0 < m) {y : ℚ} (h : Near m q y) :
    1 / 2 ≤ y ∧ y ≤ m + 1 / 2 := by
  have hm1 : (1 : ℚ) ≤ m := by exact_mod_cast hm
  have hb2 : (below m q : ℚ) ≤ 2 := by unfold below; split <;> norm_num
  exact ⟨by linarith [h.low], by linarith [h.high]⟩

theorem shortestAt_near {m : Nat} (hm : 0 < m) {q t : Int} {d : Nat}
    (h : shortestAt m q t = some d) :
    Near m q (d * 10 ^ t / 2 ^ q) ∧ d ≤ floorAt m q t + 1 := by
  unfold shortestAt at h
  simp only [] at h
  split at h
  · rename_i h1 h2
    split at h
    · obtain rfl := Option.some.inj h
      exact ⟨(readsBack_iff hm q _ t).1 h1, by omega⟩
    · obtain rfl := Option.some.inj h
      exact ⟨(readsBack_iff hm q _ t).1 h2, by omega⟩
  · rename_i h1 _
    obtain rfl := Option.some.inj h
    exact ⟨(readsBack_iff hm q _ t).1 h1, by omega⟩
  · rename_i _ h2
    obtain rfl := Option.some.inj h
    exact ⟨(readsBack_iff hm q _ t).1 h2, by omega⟩
  · simp at h

theorem shortestAt_isSome {m : Nat} {q : Int} (hf : IsFinite m q) :
    (shortestAt m q (decimalTop m q - 17)).isSome = true := by
  generalize ht : decimalTop m q - 17 = t
  have h10 : (10 : ℚ) ^ t * 10 ^ 16 ≤ m * 2 ^ q := by
    have := (decimalTop_bounds hf).1
    rw [show decimalTop m q - 1 = t + (16 : Nat) by omega, zpow_add₀ (by norm_num),
      zpow_natCast] at this
    exact this
  have h2q : (0 : ℚ) < 2 ^ q := by positivity
  have h10t : (0 : ℚ) < 10 ^ t := by positivity
  generalize hu : (10 : ℚ) ^ t / 2 ^ q = u
  have hut : (10 : ℚ) ^ t = u * 2 ^ q := by rw [← hu]; field_simp
  have hunit (d : Nat) : (d : ℚ) * 10 ^ t / 2 ^ q = d * u := by rw [← hu]; ring
  have hupos : 0 < u := by rw [← hu]; positivity
  -- At seventeen digits a unit of the last one is shorter than the way to the next double.
  have hsmall : u * 10 ^ 16 ≤ m := by
    rw [hut] at h10
    have : u * 10 ^ 16 * 2 ^ q ≤ m * 2 ^ q := by linarith
    exact le_of_mul_le_mul_right this h2q
  have hm53 : (m : ℚ) < 2 ^ 53 := by exact_mod_cast hf.lt
  have hfloor : (floorAt m q t : ℚ) * u ≤ m ∧ (m : ℚ) < (floorAt m q t + 1) * u := by
    have hv : (m : ℚ) * 2 ^ q / 10 ^ t = m / u := by rw [hut]; field_simp
    rw [floorAt_eq, hv]
    have h1 := Nat.floor_le (show (0 : ℚ) ≤ m / u by positivity)
    have h2 := Nat.lt_floor_add_one ((m : ℚ) / u)
    rw [le_div_iff₀ hupos] at h1
    rw [div_lt_iff₀ hupos] at h2
    exact ⟨h1, h2⟩
  have hhalf : m = 2 ^ 52 → u < 1 / 2 := by
    intro h
    rw [h] at hsmall
    norm_num at hsmall
    linarith
  have hone : u < 1 := by linarith
  rcases near_floor_or_succ hone hhalf hfloor.1 hfloor.2 with h | h
  · have hread : readsBack m q (floorAt m q t) t = true := by
      rw [readsBack_iff hf.pos, hunit]
      exact h
    unfold shortestAt
    simp only [hread]
    split <;> simp_all
  · have hread : readsBack m q (floorAt m q t + 1) t = true := by
      rw [readsBack_iff hf.pos, hunit]
      exact_mod_cast h
    unfold shortestAt
    simp only [hread]
    split <;> simp_all

theorem shortest_near {m : Nat} {q : Int} (hf : IsFinite m q) :
    Near m q ((shortest m q).1 * 10 ^ (shortest m q).2 / 2 ^ q) ∧ (shortest m q).1 ≤ 10 ^ 17 := by
  unfold shortest
  simp only []
  generalize hfound : (((List.range 17).map fun k => decimalTop m q - 1 - Int.ofNat k).findSome?
    fun t => (shortestAt m q t).map (·, t)) = found
  cases found with
  | none =>
      rw [List.findSome?_eq_none_iff] at hfound
      have hlast := hfound (decimalTop m q - 17) (List.mem_map.2 ⟨16, by simp, by simp; ring⟩)
      have hsome := shortestAt_isSome hf
      simp only [Option.map_eq_none_iff] at hlast
      rw [hlast] at hsome
      simp at hsome
  | some p =>
      obtain ⟨t, hmem, hp⟩ := List.exists_of_findSome?_eq_some hfound
      obtain ⟨d, hd, rfl⟩ := Option.map_eq_some_iff.1 hp
      obtain ⟨hnear, hle⟩ := shortestAt_near hf.pos hd
      refine ⟨hnear, le_trans hle ?_⟩
      obtain ⟨k, hk, rfl⟩ := List.mem_map.1 hmem
      have hk17 : k < 17 := List.mem_range.1 hk
      have h10 : (0 : ℚ) < 10 ^ (decimalTop m q - 1 - Int.ofNat k) := by positivity
      have : floorAt m q (decimalTop m q - 1 - Int.ofNat k) < 10 ^ 17 := by
        rw [floorAt_eq, Nat.floor_lt (by positivity), div_lt_iff₀ h10]
        calc (m : ℚ) * 2 ^ q < 10 ^ decimalTop m q := (decimalTop_bounds hf).2
          _ = 10 ^ (k + 1) * 10 ^ (decimalTop m q - 1 - Int.ofNat k) := by
              rw [← zpow_natCast, ← zpow_add₀ (by norm_num)]
              congr 1
              push_cast
              simp only [Int.ofNat_eq_natCast]
              ring
          _ ≤ ((10 ^ 17 : Nat) : ℚ) * 10 ^ (decimalTop m q - 1 - Int.ofNat k) := by
              have : 10 ^ (k + 1) ≤ 10 ^ 17 := Nat.pow_le_pow_right (by norm_num) (by omega)
              have : (10 : ℚ) ^ (k + 1) ≤ (10 ^ 17 : Nat) := by exact_mod_cast this
              gcongr
      omega

theorem stripZeros_spec (fuel d : Nat) (t : Int) :
    ((stripZeros fuel d t).1 : ℚ) * 10 ^ (stripZeros fuel d t).2 = d * 10 ^ t
      ∧ (stripZeros fuel d t).1 ≤ d := by
  induction fuel generalizing d t with
  | zero => exact ⟨rfl, Nat.le_refl _⟩
  | succ fuel ih =>
      unfold stripZeros
      split
      · rename_i h
        simp only [Bool.and_eq_true, decide_eq_true_eq] at h
        obtain ⟨h1, h2⟩ := ih (d / 10) (t + 1)
        refine ⟨?_, by omega⟩
        have hd : (d : ℚ) = 10 * (d / 10 : Nat) := by
          have : d = 10 * (d / 10) := by omega
          exact_mod_cast this
        rw [h1, zpow_add₀ (by norm_num), zpow_one, hd]
        ring
      · exact ⟨rfl, Nat.le_refl _⟩

theorem log2_digits : ∀ l < 60, 10 ^ (l * 3 / 10) ≤ 2 ^ l
      ∧ 2 ^ (l + 1) ≤ 100 * 10 ^ (l * 3 / 10) := by
  decide

theorem log2_top {n : Nat} (hn : 0 < n) (hlt : n < 2 ^ 60) (e : Int) :
    (10 : ℚ) ^ ((Nat.log2 n : Int) * 3 / 10 + e) ≤ n * 10 ^ e
      ∧ (n : ℚ) * 10 ^ e < 10 ^ ((Nat.log2 n : Int) * 3 / 10 + e + 2) := by
  obtain ⟨h1, h2⟩ := log2_digits (Nat.log2 n) ((Nat.log2_lt hn.ne').2 hlt)
  have hlow : 10 ^ (Nat.log2 n * 3 / 10) ≤ n := le_trans h1 (Nat.log2_self_le hn.ne')
  have hhigh : n < 100 * 10 ^ (Nat.log2 n * 3 / 10) := lt_of_lt_of_le Nat.lt_log2_self h2
  have hlow' : (10 : ℚ) ^ (Nat.log2 n * 3 / 10) ≤ n := by exact_mod_cast hlow
  have hhigh' : (n : ℚ) < 100 * 10 ^ (Nat.log2 n * 3 / 10) := by exact_mod_cast hhigh
  have h10 : (0 : ℚ) < 10 ^ e := by positivity
  rw [show (Nat.log2 n : Int) * 3 / 10 = ((Nat.log2 n * 3 / 10 : Nat) : Int) by rfl,
    zpow_add₀ (by norm_num), zpow_add₀ (by norm_num), zpow_add₀ (by norm_num), zpow_natCast]
  constructor
  · gcongr
  · calc (n : ℚ) * 10 ^ e < 100 * 10 ^ (Nat.log2 n * 3 / 10) * 10 ^ e := by gcongr
      _ = _ := by norm_num; ring

theorem ofDecimal_of_near {m : Nat} {q : Int} (hf : IsFinite m q) {n : Nat} (hn : 0 < n)
    (hlt : n < 2 ^ 60) {e : Int} (h : Near m q (n * 10 ^ e / 2 ^ q)) (negative : Bool) :
    ofDecimal negative n e = ofMagnitude negative ((q + 1074).toNat * 2 ^ 52 + m) := by
  obtain ⟨htop1, htop2⟩ := log2_top hn hlt e
  obtain ⟨hy1, hy2⟩ := near_pos hf.pos h
  have h2q : (0 : ℚ) < 2 ^ q := by positivity
  have hten {a b : Int} {x : ℚ} (h1 : (10 : ℚ) ^ a ≤ x) (h2 : x < 10 ^ b) : a < b :=
    (zpow_lt_zpow_iff_right₀ (by norm_num)).1 (lt_of_le_of_lt h1 h2)
  have hmax : (n : ℚ) * 10 ^ e < 10 ^ (309 : Int) := by
    rw [div_le_iff₀ h2q] at hy2
    have hm : (m : ℚ) + 1 ≤ 2 ^ 53 := by exact_mod_cast hf.lt
    calc (n : ℚ) * 10 ^ e ≤ (m + 1 / 2) * 2 ^ q := hy2
      _ ≤ 2 ^ 53 * 2 ^ (971 : Int) := by
          gcongr
          · linarith
          · norm_num
          · exact hf.le
      _ < 10 ^ (309 : Int) := by
          have : 2 ^ 53 * 2 ^ 971 < 10 ^ 309 := by decide +kernel
          exact_mod_cast this
  have hmin : (10 : ℚ) ^ (-324 : Int) ≤ n * 10 ^ e := by
    rw [le_div_iff₀ h2q] at hy1
    calc (10 : ℚ) ^ (-324 : Int) ≤ 2 ^ (-1075 : Int) := by
          rw [zpow_neg, zpow_neg, inv_le_inv₀ (by positivity) (by positivity)]
          have : 2 ^ 1075 ≤ 10 ^ 324 := by decide +kernel
          exact_mod_cast this
      _ = 1 / 2 * 2 ^ (-1074 : Int) := by
          rw [show (-1075 : Int) = -1 + -1074 by norm_num, zpow_add₀ (by norm_num)]
          norm_num
      _ ≤ 1 / 2 * 2 ^ q := by gcongr; exacts [by norm_num, hf.ge]
      _ ≤ n * 10 ^ e := hy1
  have htop : (Nat.log2 n : Int) * 3 / 10 + e < 309 := hten htop1 hmax
  have hbot : -324 < (Nat.log2 n : Int) * 3 / 10 + e + 2 := hten hmin htop2
  simp only [ofDecimal, Nat.pow_eq]
  rw [if_neg hn.ne']
  rw [if_neg (by omega), if_neg (by omega)]
  split
  · rename_i he
    lift e to Nat using he
    rw [magnitudeOfRatio_of_near hf (by positivity) Nat.one_pos]
    simpa using h
  · rename_i he
    have hpow : ((10 ^ (-e).toNat : Nat) : ℚ) = (10 ^ e)⁻¹ := by
      rw [← zpow_neg]
      push_cast
      rw [← zpow_natCast]
      congr 1
      omega
    rw [magnitudeOfRatio_of_near hf hn (by positivity)]
    rw [hpow, div_inv_eq_mul]
    exact h

theorem parts_finite {d : Double} (h0 : d.isZero = false) (hi : d.magnitude < infinityBits) :
    IsFinite d.parts.1 d.parts.2 ∧ (d.parts.2 + 1074).toNat * 2 ^ 52 + d.parts.1 = d.magnitude := by
  have hpos : d.magnitude ≠ 0 := by simpa [isZero] using h0
  simp only [infinityBits, Nat.pow_eq] at hi
  simp only [parts, Nat.pow_eq]
  generalize d.magnitude = k at hpos hi
  split
  · refine ⟨⟨?_, ?_, ?_, ?_, .inl rfl⟩, ?_⟩ <;> simp only [] <;> omega
  · refine ⟨⟨?_, ?_, ?_, ?_, .inr ?_⟩, ?_⟩ <;> simp only [Int.ofNat_eq_natCast] <;> omega

theorem ofMagnitude_self {d : Double} (hi : d.magnitude ≤ infinityBits) :
    ofMagnitude d.negative d.magnitude = d := by
  unfold ofMagnitude
  rw [dif_pos hi]

end CodeSurvey.Double
