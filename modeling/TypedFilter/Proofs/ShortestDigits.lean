import Mathlib.Data.Nat.Cast.Order.Field
import Mathlib.Tactic.NormNum
import TypedFilter.Binary.Shortest
import TypedFilter.Proofs.Widening

/-!
The digits that the shortest text of a binary number has. Main statement: there is one that is not
zero, and the mantissa of a decimal has room for all of them.
-/

namespace TypedFilter.Binary

variable {f : Format} {tie : Tie} {i : Interval} {m n : Nat} {e j k : Int}

/-! ### Powers of two and of ten -/

theorem cast_pow10 (k : Nat) : (pow10 k : ℚ) = 10 ^ (k : Int) := by
  rw [zpow_natCast]
  exact Nat.cast_pow 10 k

theorem zpow_mul_pow10 (k : Int) : (10 : ℚ) ^ k * pow10 (-k).toNat = pow10 k.toNat := by
  rw [cast_pow10, cast_pow10, ← zpow_add₀ (by decide)]
  congr 1
  omega

/-- The logarithm of two lies between `3 / 10` and `28 / 93`. -/
theorem two_zpow_le_ten_zpow (hup : 28 * j ≤ 93 * k) (hdown : 3 * j ≤ 10 * k) :
    (2 : ℚ) ^ j ≤ 10 ^ k := by
  have hpowers (x : ℚ) (n : Nat) (j : Int) : (x ^ n) ^ j = x ^ (n * j) := by
    rw [← zpow_natCast, ← zpow_mul]
  have hswap (x : ℚ) (j : Int) (n : Nat) : (x ^ j) ^ n = x ^ (n * j) := by
    rw [← zpow_natCast, ← zpow_mul, mul_comm]
  have htwo : (0 : ℚ) ≤ 2 ^ j := (zpow_pos two_pos j).le
  have hten : (0 : ℚ) ≤ 10 ^ k := (zpow_pos (by decide) k).le
  rcases le_total 0 j with hj | hj
  · rw [← pow_le_pow_iff_left₀ htwo hten (n := 93) (by decide)]
    calc ((2 : ℚ) ^ j) ^ 93 = (2 ^ 93) ^ j := by rw [hpowers, hswap]
      _ ≤ (10 ^ 28) ^ j := zpow_le_zpow_left₀ hj (by norm_num) (by norm_num)
      _ = 10 ^ (28 * j) := hpowers 10 28 j
      _ ≤ 10 ^ (93 * k) := zpow_le_zpow_right₀ (by norm_num) hup
      _ = (10 ^ k) ^ 93 := (hswap 10 k 93).symm
  · rw [← pow_le_pow_iff_left₀ htwo hten (n := 10) (by decide)]
    calc ((2 : ℚ) ^ j) ^ 10 = (2 ^ 10) ^ j := by rw [hpowers, hswap]
      _ ≤ (10 ^ 3) ^ j := by
        rw [← inv_le_inv₀ (zpow_pos (by norm_num) j) (zpow_pos (by norm_num) j), ← zpow_neg,
          ← zpow_neg]
        exact zpow_le_zpow_left₀ (by omega) (by norm_num) (by norm_num)
      _ = 10 ^ (3 * j) := hpowers 10 3 j
      _ ≤ 10 ^ (10 * k) := zpow_le_zpow_right₀ (by norm_num) hdown
      _ = (10 ^ k) ^ 10 := (hswap 10 k 10).symm

theorem ten_zpow_le_two_zpow (hup : 93 * k ≤ 28 * j) (hdown : 10 * k ≤ 3 * j) :
    (10 : ℚ) ^ k ≤ 2 ^ j := by
  have h : (2 : ℚ) ^ (-j) ≤ 10 ^ (-k) := two_zpow_le_ten_zpow (by omega) (by omega)
  rw [zpow_neg, zpow_neg] at h
  exact (inv_le_inv₀ (zpow_pos two_pos j) (zpow_pos (by decide) k)).1 h

/-- The grids that are tried begin above a number, or not far below, and end below it. -/
theorem topExponent_bounds (hm : 0 < m) (hlow : -1074 ≤ m.log2 + e) (hhigh : m.log2 + e ≤ 1023) :
    (10 : ℚ) ^ (topExponent m e - 24) ≤ m * 2 ^ e ∧ (m * 2 ^ e : ℚ) ≤ 10 ^ (topExponent m e + 2) := by
  obtain ⟨hleast, hmost⟩ := log2_bounds hm
  have hpow : (0 : ℚ) < 2 ^ e := zpow_pos two_pos e
  constructor
  · calc (10 : ℚ) ^ (topExponent m e - 24) ≤ 2 ^ ((m.log2 : Int) + e) := by
          rw [topExponent]
          exact ten_zpow_le_two_zpow (by omega) (by omega)
      _ = 2 ^ (m.log2 : Int) * 2 ^ e := zpow_add₀ two_ne_zero _ _
      _ ≤ m * 2 ^ e := by gcongr
  · calc (m * 2 ^ e : ℚ) ≤ 2 ^ ((m.log2 : Int) + 1) * 2 ^ e := by gcongr
      _ = 2 ^ (m.log2 + e + 1 : Int) := by rw [← zpow_add₀ two_ne_zero, add_right_comm]
      _ ≤ 10 ^ (topExponent m e + 2) := by
        rw [topExponent]
        exact two_zpow_le_ten_zpow (by omega) (by omega)

/-! ### Grids -/

namespace Interval

theorem scale_pos (f : Format) (m : Nat) (e k : Int) :
    (0 : ℚ) < ((around f m e).refine k).scale :=
  Nat.cast_pos.2 (Nat.mul_pos (Nat.mul_pos (by decide) (pow2_pos _)) (pow10_pos _))

/-- The number in units of a grid. -/
theorem value_div_scale (f : Format) (m : Nat) (e k : Int) :
    ((((around f m e).refine k).value : ℚ) / ((around f m e).refine k).scale) =
      m * 2 ^ e * 10 ^ k := by
  rw [div_eq_iff (scale_pos f m e k).ne']
  simp only [refine, around]
  push_cast
  rw [← zpow_mul_pow2 e, ← zpow_mul_pow10 k]
  ring

theorem floor_le (h : (m * 2 ^ e : ℚ) ≤ 10 ^ j) (hk : j + k ≤ n) :
    ((around f m e).refine k).value / ((around f m e).refine k).scale ≤ pow10 n := by
  rw [← Nat.cast_le (α := ℚ), cast_pow10]
  calc ((((around f m e).refine k).value / ((around f m e).refine k).scale : Nat) : ℚ)
      ≤ m * 2 ^ e * 10 ^ k := Nat.cast_div_le.trans_eq (value_div_scale f m e k)
    _ ≤ 10 ^ j * 10 ^ k := by gcongr
    _ = 10 ^ (j + k) := (zpow_add₀ (by decide) j k).symm
    _ ≤ 10 ^ (n : Int) := zpow_le_zpow_right₀ (by norm_num) hk

theorem floor_pos (h : (10 : ℚ) ^ (-k) ≤ m * 2 ^ e) :
    0 < ((around f m e).refine k).value / ((around f m e).refine k).scale := by
  have hscale := scale_pos f m e k
  refine Nat.div_pos ?_ (Nat.cast_pos.1 hscale)
  rw [← Nat.cast_le (α := ℚ), ← one_le_div₀ hscale, value_div_scale]
  calc (1 : ℚ) = 10 ^ (-k) * 10 ^ k := by rw [← zpow_add₀ (by decide), neg_add_cancel, zpow_zero]
    _ ≤ m * 2 ^ e * 10 ^ k := by gcongr

theorem low_pos (hm : 0 < m) (e k : Int) : 0 < ((around f m e).refine k).low := by
  refine Nat.mul_pos (Nat.mul_pos ?_ (pow2_pos _)) (pow10_pos _)
  split <;> omega

/-- What a grid has for a number is not zero, and not more than one step above the number. -/
theorem hit_bounds (hlow : 0 < i.low) (h : i.hit tie = some n) :
    0 < n ∧ n ≤ i.value / i.scale + 1 := by
  have hzero : i.holds (0 * i.scale) = false := by
    rw [holds, Nat.zero_mul]
    split
    · simp [hlow.ne']
    · simp
  have hround := le_roundDiv tie i.value i.scale
  have hroundUp := roundDiv_le tie i.value i.scale
  have hfloor (hholds : i.holds (i.value / i.scale * i.scale) = true) : 0 < i.value / i.scale := by
    refine Nat.pos_of_ne_zero fun hdiv => ?_
    rw [hdiv, hzero] at hholds
    cases hholds
  simp only [hit] at h
  split at h
  · rename_i hboth
    have := hfloor (Bool.and_eq_true_iff.1 hboth).1
    cases h
    omega
  split at h
  · rename_i hbelow
    have := hfloor hbelow
    cases h
    omega
  split at h
  · cases h
    exact ⟨Nat.succ_pos _, Nat.le_refl _⟩
  · cases h

/-- The search ends on one of its grids, at the latest on the last one. -/
theorem search_cases (i : Interval) (tie : Tie) (steps : Nat) (e : Int) :
    e - steps ≤ (i.search tie steps e).exponent ∧
      ((i.refine (-(i.search tie steps e).exponent)).hit tie = some (i.search tie steps e).digits ∨
        (i.search tie steps e).exponent = e - steps ∧ (i.search tie steps e).digits =
          (i.refine (-(e - steps))).value / (i.refine (-(e - steps))).scale) := by
  induction steps generalizing e with
  | zero => exact ⟨by simp [search], .inr ⟨by simp [search], by simp [search]⟩⟩
  | succ steps ih =>
    rw [search]
    cases hhit : (i.refine (-e)).hit tie with
    | some digits => exact ⟨by dsimp only; omega, .inl hhit⟩
    | none =>
      obtain ⟨hle, hcases⟩ := ih (e - 1)
      have hlast : e - 1 - steps = e - (steps + 1 : Nat) := by omega
      rw [hlast] at hle hcases
      exact ⟨hle, hcases⟩

end Interval

/-! ### Digits -/

/-- The shortest text of a number that is not zero has a digit that is not zero, and the mantissa of
a decimal has room for its digits. -/
theorem shortest_digits (tie : Tie) (hmin : -1074 ≤ f.minExponent) (hmax : f.maxExponent + f.precision ≤ 1024)
    (h : f.Canonical m e) (hm : 0 < m) :
    0 < (shortest tie f m e).digits ∧ (shortest tie f m e).digits < pow2 96 := by
  obtain ⟨hlt, hleast, hmost, -⟩ := h
  have hlog := log2_lt_of_lt_pow2 hm hlt
  obtain ⟨hleastValue, hmostValue⟩ := topExponent_bounds (e := e) hm (by omega) (by omega)
  obtain ⟨hexponent, hdigits⟩ :=
    Interval.search_cases (Interval.around f m e) tie 24 (topExponent m e)
  rw [← shortest] at hexponent hdigits
  generalize shortest tie f m e = d at hexponent hdigits
  have hfloor := Interval.floor_le (f := f) (n := 26) (k := -d.exponent) hmostValue (by omega)
  have hroom : pow10 26 + 1 < pow2 96 := by decide
  rcases hdigits with hhit | ⟨hlast, hdigits⟩
  · obtain ⟨hpos, hle⟩ := Interval.hit_bounds (Interval.low_pos hm e _) hhit
    exact ⟨hpos, by omega⟩
  · rw [hdigits, ← hlast]
    refine ⟨Interval.floor_pos ?_, by omega⟩
    rwa [Int.neg_neg, hlast]

end TypedFilter.Binary
