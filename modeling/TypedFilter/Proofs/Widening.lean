import Mathlib.Algebra.Order.Field.Power
import Mathlib.Data.Rat.Cast.Order
import Mathlib.Tactic.Positivity
import Mathlib.Tactic.Ring
import TypedFilter.Binary.Arithmetic

/-!
Numbers that a binary format holds exactly. Main statement: a number of the 32-bit format comes back
unchanged from the 64-bit format.
-/

namespace TypedFilter.Binary

variable {f g : Format} {negative : Bool} {num den m : Nat} {e k : Int}

/-! ### Powers of two -/

theorem pow2_add (j k : Nat) : pow2 (j + k) = pow2 j * pow2 k :=
  Nat.pow_add 2 j k

theorem cast_pow2 (k : Nat) : (pow2 k : ℚ) = 2 ^ (k : Int) := by
  rw [zpow_natCast]
  exact Nat.cast_pow 2 k

theorem zpow_mul_pow2 (k : Int) : (2 : ℚ) ^ k * pow2 (-k).toNat = pow2 k.toNat := by
  rw [cast_pow2, cast_pow2, ← zpow_add₀ two_ne_zero]
  congr 1
  omega

theorem div_lt_zpow_iff (hden : 0 < den) :
    (num / den : ℚ) < 2 ^ k ↔ num * pow2 (-k).toNat < den * pow2 k.toNat := by
  have hden' : (0 : ℚ) < den := Nat.cast_pos.2 hden
  have hpow : (0 : ℚ) < pow2 (-k).toNat := Nat.cast_pos.2 (pow2_pos _)
  rw [div_lt_iff₀ hden', ← mul_lt_mul_iff_left₀ hpow, mul_right_comm, zpow_mul_pow2, ← Nat.cast_mul,
    ← Nat.cast_mul, Nat.cast_lt, Nat.mul_comm den]

theorem log2_bounds (h : 0 < num) :
    (2 : ℚ) ^ (num.log2 : Int) ≤ num ∧ (num : ℚ) < 2 ^ ((num.log2 : Int) + 1) := by
  constructor
  · rw [zpow_natCast]
    exact_mod_cast Nat.log2_self_le h.ne'
  · rw [← Nat.cast_succ, zpow_natCast]
    exact_mod_cast Nat.lt_log2_self

theorem lt_of_zpow_lt {q : ℚ} {j k : Int} (hj : (2 : ℚ) ^ j ≤ q) (hk : q < 2 ^ k) : j < k :=
  (zpow_lt_zpow_iff_right₀ one_lt_two).1 (hj.trans_lt hk)

/-- What the lengths of both numbers say is too great by one at most. -/
theorem floorLog2_eq (hnum : 0 < num) (hden : 0 < den) (hlow : (2 : ℚ) ^ k ≤ num / den)
    (hhigh : (num / den : ℚ) < 2 ^ (k + 1)) : floorLog2 num den = k := by
  have hden' : (0 : ℚ) < den := Nat.cast_pos.2 hden
  obtain ⟨hnumLow, hnumHigh⟩ := log2_bounds hnum
  obtain ⟨hdenLow, hdenHigh⟩ := log2_bounds hden
  have hleast : (2 : ℚ) ^ ((num.log2 : Int) - den.log2 - 1) ≤ num / den := by
    rw [le_div_iff₀ hden']
    calc (2 : ℚ) ^ ((num.log2 : Int) - den.log2 - 1) * den
        ≤ 2 ^ ((num.log2 : Int) - den.log2 - 1) * 2 ^ ((den.log2 : Int) + 1) := by gcongr
      _ = 2 ^ (num.log2 : Int) := by
        rw [← zpow_add₀ two_ne_zero]
        congr 1
        omega
      _ ≤ num := hnumLow
  have hmost : (num / den : ℚ) < 2 ^ ((num.log2 : Int) - den.log2 + 1) := by
    rw [div_lt_iff₀ hden']
    calc (num : ℚ) < 2 ^ ((num.log2 : Int) + 1) := hnumHigh
      _ = 2 ^ ((num.log2 : Int) - den.log2 + 1) * 2 ^ (den.log2 : Int) := by
        rw [← zpow_add₀ two_ne_zero]
        congr 1
        omega
      _ ≤ 2 ^ ((num.log2 : Int) - den.log2 + 1) * den := by gcongr
  have hfrom := lt_of_zpow_lt hleast hhigh
  have hto := lt_of_zpow_lt hlow hmost
  rw [floorLog2]
  split
  · rename_i hless
    have := lt_of_zpow_lt hlow ((div_lt_zpow_iff hden).2 hless)
    omega
  · rename_i hless
    have := lt_of_zpow_lt (not_lt.1 (mt (div_lt_zpow_iff hden).1 hless)) hhigh
    omega

/-! ### Exact results -/

theorem log2_lt_of_lt_pow2 {p : Nat} (hm : 0 < m) (h : m < pow2 p) : m.log2 < p :=
  (Nat.log2_lt hm.ne').2 h

/-- The exponent of a number that is not zero follows from its value. -/
theorem exponent_eq (h : f.Canonical m e) (hm : 0 < m) :
    max f.minExponent (m.log2 + e - (f.precision - 1)) = e := by
  obtain ⟨hlt, hmin, -, hfull⟩ := h
  have hlog := log2_lt_of_lt_pow2 hm hlt
  rcases hfull with hfull | hleast
  · have := (Nat.le_log2 hm.ne').2 hfull
    omega
  · omega

/-- A quotient that the format holds is not rounded. -/
theorem ofRatio_eq (h : f.Canonical m e) (hden : 0 < den) (hvalue : (num / den : ℚ) = m * 2 ^ e) :
    ofRatio f negative num den = .finite negative m e h := by
  have hden' : (0 : ℚ) < den := Nat.cast_pos.2 hden
  have hpow : (0 : ℚ) < 2 ^ e := zpow_pos two_pos e
  have hfinite : pack f negative m e = .finite negative m e h := dif_pos h
  rw [ofRatio]
  split
  · rename_i hzero
    have hm : m = 0 := by
      rw [hzero, Nat.cast_zero, zero_div, eq_comm, mul_eq_zero] at hvalue
      exact Nat.cast_eq_zero.1 (hvalue.resolve_right hpow.ne')
    have he : e = f.minExponent := by
      refine h.2.2.2.resolve_left fun hle => ?_
      have := pow2_pos (f.precision - 1)
      omega
    rw [zero, ← hfinite, hm, he]
  · rename_i hnum
    have hnum := Nat.pos_of_ne_zero hnum
    have hm : 0 < m := by
      rcases Nat.eq_zero_or_pos m with rfl | hm
      · rw [Nat.cast_zero, zero_mul, div_eq_zero_iff] at hvalue
        rcases hvalue with hvalue | hvalue
        · exact absurd (Nat.cast_eq_zero.1 hvalue) hnum.ne'
        · exact absurd hvalue hden'.ne'
      · exact hm
    obtain ⟨hlow, hhigh⟩ := log2_bounds hm
    have hlog : floorLog2 num den = m.log2 + e := by
      refine floorLog2_eq hnum hden ?_ ?_
      · rw [hvalue, zpow_add₀ two_ne_zero]
        gcongr
      · rw [hvalue, add_right_comm, zpow_add₀ two_ne_zero]
        gcongr
    have hexact : num * pow2 (-e).toNat = m * (den * pow2 e.toNat) := by
      rw [div_eq_iff hden'.ne'] at hvalue
      have : (num * pow2 (-e).toNat : ℚ) = m * (den * pow2 e.toNat) := by
        rw [hvalue, ← zpow_mul_pow2 e]
        ring
      exact_mod_cast this
    have hround := roundDiv_exact .even m (den * pow2 e.toNat) (Nat.mul_pos hden (pow2_pos _))
    dsimp only
    rw [hlog, exponent_eq h hm, hexact, hround, if_neg (Nat.ne_of_lt h.1), hfinite]

/-- A finite number goes into a format that holds its value. -/
theorem convert_finite_eq {m' : Nat} {e' : Int} (h : f.Canonical m e) (h' : g.Canonical m' e')
    (hmin : f.minExponent ≤ 0) (hvalue : (m * 2 ^ e : ℚ) = m' * 2 ^ e') :
    (finite negative m e h).convert g = .finite negative m' e' h' := by
  refine ofRatio_eq h' (pow2_pos _) ?_
  rw [← hvalue, div_eq_iff (Nat.cast_ne_zero.2 (pow2_pos _).ne'), magnitude, Format.unitsPerOne,
    Nat.cast_mul, cast_pow2, cast_pow2, mul_assoc, ← zpow_add₀ two_ne_zero]
  congr 2
  have := h.2.1
  omega

/-! ### From the 32-bit format and back -/

/-- The 64-bit format holds every number of the 32-bit format. -/
theorem exists_canonical_double (h : Format.single.Canonical m e) :
    ∃ m' e', Format.double.Canonical m' e' ∧ (m' * 2 ^ e' : ℚ) = m * 2 ^ e := by
  obtain ⟨hlt, hmin, hmax, -⟩ := h
  rcases Nat.eq_zero_or_pos m with rfl | hm
  · exact ⟨0, -1074, by decide, by simp⟩
  have hlog : m.log2 < 24 := log2_lt_of_lt_pow2 hm hlt
  -- The significand is moved up until it has its full length.
  obtain ⟨j, hj⟩ : ∃ j, m.log2 + j = 52 := ⟨52 - m.log2, by omega⟩
  refine ⟨m * pow2 j, e - j, ⟨?_, ?_, ?_, .inl ?_⟩, ?_⟩
  · calc m * pow2 j < pow2 (m.log2 + 1) * pow2 j :=
          Nat.mul_lt_mul_of_pos_right Nat.lt_log2_self (pow2_pos j)
      _ = pow2 53 := by rw [← pow2_add, Nat.add_right_comm, hj]
  · have hdouble : Format.double.minExponent = -1074 := rfl
    have hsingle : Format.single.minExponent = -149 := rfl
    omega
  · have hdouble : Format.double.maxExponent = 971 := rfl
    have hsingle : Format.single.maxExponent = 104 := rfl
    omega
  · calc pow2 52 = pow2 m.log2 * pow2 j := by rw [← pow2_add, hj]
      _ ≤ m * pow2 j := Nat.mul_le_mul_right _ (Nat.log2_self_le hm.ne')
  · rw [Nat.cast_mul, cast_pow2, mul_assoc, ← zpow_add₀ two_ne_zero]
    congr 2
    omega

theorem convert_convert_single (x : Single) : (x.convert .double).convert .single = x := by
  cases x with
  | nan => rfl
  | infinite negative => rfl
  | finite negative m e h =>
    obtain ⟨m', e', h', hvalue⟩ := exists_canonical_double h
    rw [convert_finite_eq h h' (by decide) hvalue.symm, convert_finite_eq h' h (by decide) hvalue]

end TypedFilter.Binary
