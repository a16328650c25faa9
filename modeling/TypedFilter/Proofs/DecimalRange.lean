import TypedFilter.Decimal.Binary
import TypedFilter.Proofs.Widening

/-!
Which binary numbers have a decimal. Main statements: a finite number has one if and only if it is
below `2 ^ 96`, so that all numbers that have none lie beyond those that have one; and a 32-bit
number has one if and only if it has one in the 64-bit format.
-/

namespace TypedFilter

namespace Decimal

/-! ### Powers of five -/

/-- Whether a number that is on its way to a decimal has its mantissa and its places in range. -/
structure Rebase.IsSmall (r : Rebase) : Prop where
  mantissa_lt : r.mantissa < pow2 96
  tens_le : r.tens ≤ 0

/-- Powers of two below one are taken into the places and the mantissa. -/
theorem exists_applyFives (r : Rebase) {fuel : Nat} (hm : r.mantissa < pow2 96)
    (hfives : 0 ≤ r.fives) (hfuel : r.fives ≤ fuel) (hsum : r.tens + r.fives ≤ 0) :
    ∃ r', r.applyFives fuel = some r' ∧ r'.IsSmall := by
  induction fuel generalizing r with
  | zero => exact ⟨r, rfl, hm, by omega⟩
  | succ fuel ih =>
    rw [Rebase.applyFives]
    by_cases hpos : 0 < r.fives
    · have hhalf : r.mantissa / 2 < pow2 96 := Nat.lt_of_le_of_lt (Nat.div_le_self _ _) hm
      rw [if_pos hpos, Rebase.halve]
      split
      · refine ih _ hhalf ?_ ?_ ?_ <;> dsimp only <;> omega
      split
      · rename_i hfits
        refine ih _ hfits ?_ ?_ ?_ <;> dsimp only <;> omega
      · refine ih _ hhalf ?_ ?_ ?_ <;> dsimp only <;> omega
    · rw [if_neg hpos, if_neg (Int.not_lt.2 hfives)]
      exact ⟨r, rfl, hm, by omega⟩

/-- Powers of two above one double the mantissa as long as the number stays below `2 ^ 96`. -/
theorem exists_applyFives_double {m k fuel : Nat} (hm : m * pow2 k < pow2 96) (hfuel : k ≤ fuel) :
    ∃ r', (Rebase.mk m k (-k)).applyFives fuel = some r' ∧ r'.IsSmall := by
  induction k generalizing m fuel with
  | zero =>
    rw [show pow2 0 = 1 from rfl, Nat.mul_one] at hm
    exact exists_applyFives _ hm (Int.le_refl 0) (Int.natCast_nonneg fuel) (Int.le_refl 0)
  | succ k ih =>
    cases fuel with
    | zero => exact absurd hfuel (Nat.not_succ_le_zero k)
    | succ fuel =>
      rw [pow2_succ, ← Nat.mul_assoc] at hm
      have hroom : m < pow2 95 := by
        have hle := Nat.le_mul_of_pos_right m (pow2_pos k)
        have hsplit : pow2 96 = pow2 95 * 2 := rfl
        omega
      have hnext : (Rebase.mk m (k + 1 : Nat) (-(k + 1 : Nat))).double? =
          some ⟨m * 2, k, -k⟩ := by
        rw [Rebase.double?, if_pos hroom]
        refine congrArg some ?_
        congr 1 <;> push_cast <;> omega
      rw [Rebase.applyFives, if_neg (by dsimp only; omega), if_pos (by dsimp only; omega), hnext]
      refine ih ?_ (Nat.le_of_succ_le_succ hfuel)
      rwa [Nat.mul_right_comm]

/-- Above, there is no number at all. -/
theorem applyFives_eq_none {m k fuel : Nat} (hlt : m < pow2 96) (hm : pow2 96 ≤ m * pow2 k)
    (hfuel : k ≤ fuel) : (Rebase.mk m k (-k)).applyFives fuel = none := by
  induction k generalizing m fuel with
  | zero =>
    rw [show pow2 0 = 1 from rfl, Nat.mul_one] at hm
    omega
  | succ k ih =>
    cases fuel with
    | zero => exact absurd hfuel (Nat.not_succ_le_zero k)
    | succ fuel =>
      rw [Rebase.applyFives, if_neg (by dsimp only; omega), if_pos (by dsimp only; omega),
        Rebase.double?]
      by_cases hroom : m < pow2 95
      · have hnext :
            (⟨m * 2, (k + 1 : Nat) - 1, -(k + 1 : Nat) + 1⟩ : Rebase) = ⟨m * 2, k, -k⟩ := by
          congr 1 <;> push_cast <;> omega
        have hsplit : pow2 96 = pow2 95 * 2 := rfl
        rw [if_pos hroom, hnext, Option.bind_some]
        refine ih (by omega) ?_ (Nat.le_of_succ_le_succ hfuel)
        rwa [Nat.mul_right_comm, Nat.mul_assoc, ← pow2_succ]
      · rw [if_neg hroom, if_pos (by dsimp only; omega)]
        rfl

/-! ### Powers of ten and places -/

/-- What is beyond 28 places is dropped. -/
theorem exists_applyTens {r : Rebase} {fuel : Nat} (h : r.IsSmall)
    (hfuel : -28 - r.tens ≤ fuel) :
    ∃ r', r.applyTens fuel = some r' ∧ r'.IsSmall ∧ -28 ≤ r'.tens := by
  induction fuel generalizing r with
  | zero => exact ⟨r, rfl, h, by omega⟩
  | succ fuel ih =>
    have htens := h.tens_le
    rw [Rebase.applyTens, if_neg (Int.not_lt.2 htens)]
    split
    · split
      · exact ⟨_, rfl, ⟨pow2_pos 96, Int.le_refl 0⟩, Int.neg_nonpos_of_nonneg (by decide)⟩
      · rename_i hzero
        have hround := roundDiv_le .up r.mantissa 10
        have hm := h.mantissa_lt
        exact ih ⟨by dsimp only; omega, by dsimp only; omega⟩ (by dsimp only; omega)
    · exact ⟨r, rfl, h, by omega⟩

theorem fewerBits_le (bits scale : Nat) {mantissa : Nat} (hm : mantissa < pow2 96) :
    (fewerBits bits mantissa scale).1 < pow2 96 ∧ (fewerBits bits mantissa scale).2 ≤ scale := by
  induction scale generalizing mantissa with
  | zero => exact ⟨hm, Nat.le_refl 0⟩
  | succ scale ih =>
    rw [fewerBits]
    split
    · exact ⟨hm, Nat.le_refl _⟩
    · have hround := roundDiv_le .up mantissa 10
      have hsmall : roundDiv .up mantissa 10 < pow2 96 := by
        have hmany : 10 ≤ pow2 96 := by decide
        omega
      obtain ⟨hlt, hle⟩ := ih hsmall
      exact ⟨hlt, Nat.le_succ_of_le hle⟩

/-! ### The range of decimals -/

/-- A number in range goes through the rest of the way. -/
theorem exists_ofParts? {r : Rebase} (h : r.IsSmall) (negative : Bool) (bits : Nat) :
    ((r.applyTens (r.tens.natAbs + 1)).bind fun r =>
      let (mantissa, scale) := fewerBits bits r.mantissa (-r.tens).toNat
      (ofParts? negative mantissa scale).map shorten).isSome = true := by
  have hfuel : -28 - r.tens ≤ (r.tens.natAbs + 1 : Nat) := by omega
  obtain ⟨r', hr', hsmall, hplaces⟩ := exists_applyTens h hfuel
  obtain ⟨hm, hscale⟩ := fewerBits_le bits (-r'.tens).toNat hsmall.mantissa_lt
  rw [hr', Option.bind_some]
  show (Option.map shorten (ofParts? negative (fewerBits bits _ _).1 _)).isSome = true
  rw [ofParts?, dif_pos ⟨hm, by omega⟩]
  rfl

/-- A finite number has a decimal if and only if it is below `2 ^ 96`. -/
theorem isSome_ofBinary?_iff {f : Binary.Format} (hf : f.precision ≤ 96) {m : Nat} {e : Int}
    (negative : Bool) (h : f.Canonical m e) :
    (ofBinary? (.finite negative m e h)).isSome = true ↔ (m * 2 ^ e : ℚ) < 2 ^ (96 : Int) := by
  have hm : m < pow2 96 := Nat.lt_of_lt_of_le h.1 (pow2_le_pow2 hf)
  rw [ofBinary?]
  rcases Int.le_total e 0 with hneg | hpos
  · have hfuel : -e ≤ (e.natAbs + 200 : Nat) := by omega
    obtain ⟨r, hr, hsmall⟩ :=
      exists_applyFives ⟨m, e, -e⟩ hm (Int.neg_nonneg_of_nonpos hneg) hfuel (by dsimp only; omega)
    dsimp only
    rw [hr, Option.bind_some]
    refine iff_of_true (exists_ofParts? hsmall negative _) ?_
    calc (m * 2 ^ e : ℚ) ≤ m * 1 := by
          gcongr
          exact zpow_le_one_of_nonpos₀ one_le_two hneg
      _ < 2 ^ (96 : Int) := by
        rw [mul_one]
        exact_mod_cast hm
  · obtain ⟨k, rfl⟩ := Int.eq_ofNat_of_zero_le hpos
    have hvalue : (m * 2 ^ (k : Int) : ℚ) < 2 ^ (96 : Int) ↔ m * pow2 k < pow2 96 := by
      rw [← Nat.cast_lt (α := ℚ), Nat.cast_mul, Binary.cast_pow2, Binary.cast_pow2]
      rfl
    rw [hvalue]
    dsimp only
    by_cases hroom : m * pow2 k < pow2 96
    · have hfuel : k ≤ (k : Int).natAbs + 200 := by omega
      obtain ⟨r, hr, hsmall⟩ := exists_applyFives_double hroom hfuel
      rw [hr, Option.bind_some]
      exact iff_of_true (exists_ofParts? hsmall negative _) hroom
    · rw [applyFives_eq_none hm (Nat.le_of_not_lt hroom) (by omega)]
      exact iff_of_false Bool.false_ne_true hroom

/-- A 32-bit number has a decimal if and only if it has one in the 64-bit format. -/
theorem isSome_ofBinary?_convert (x : Single) :
    (ofBinary? (x.convert .double)).isSome = (ofBinary? x).isSome := by
  cases x with
  | nan => rfl
  | infinite negative => rfl
  | finite negative m e h =>
    obtain ⟨m', e', h', hvalue⟩ := Binary.exists_canonical_double h
    rw [Binary.convert_finite_eq h h' (by decide) hvalue.symm, Bool.eq_iff_iff,
      isSome_ofBinary?_iff (by decide) negative h', hvalue,
      isSome_ofBinary?_iff (by decide) negative h]

end Decimal

namespace Binary

variable {f : Format} {x y : Binary f}

/-! ### Ranks -/

/-- More than the absolute value of every finite number. -/
def Format.bound (f : Format) : Nat :=
  pow2 f.precision * pow2 (f.maxExponent - f.minExponent).toNat

/-- Where a number stands among all that are not undefined: a finite one at its multiple of the
least number. -/
def rank : Binary f → Int
  | .nan => 0
  | .infinite negative => if negative then -(f.bound : Int) else f.bound
  | .finite negative m e h => units (.finite negative m e h)

theorem magnitude_lt_bound (x : Binary f) : x.magnitude < f.bound := by
  cases x with
  | nan | infinite => exact Nat.mul_pos (pow2_pos _) (pow2_pos _)
  | finite negative m e h =>
    obtain ⟨hm, -, hmax, -⟩ := h
    have hpow : pow2 (e - f.minExponent).toNat ≤ pow2 (f.maxExponent - f.minExponent).toNat :=
      pow2_le_pow2 (by omega)
    calc m * pow2 (e - f.minExponent).toNat
        ≤ m * pow2 (f.maxExponent - f.minExponent).toNat := Nat.mul_le_mul_left m hpow
      _ < f.bound := Nat.mul_lt_mul_of_pos_right hm (pow2_pos _)

theorem units_lt_bound (x : Binary f) : -(f.bound : Int) < x.units ∧ x.units < f.bound := by
  have hlt := magnitude_lt_bound x
  rw [units]
  split <;> constructor <;> omega

/-- Numbers are ordered as their ranks are. -/
theorem compare?_eq_compare_rank (hx : x.isNan = false) (hy : y.isNan = false) :
    x.compare? y = some (Ord.compare x.rank y.rank) := by
  have hpos : 0 < f.bound := Nat.mul_pos (pow2_pos _) (pow2_pos _)
  cases x with
  | nan => cases hx
  | infinite a =>
    cases y with
    | nan => cases hy
    | infinite b =>
      refine congrArg some ?_
      cases a <;> cases b <;> simp only [rank, Bool.false_eq_true, if_true, if_false]
      · exact (Int.compare_eq_eq.2 rfl).symm
      · exact (Int.compare_eq_gt.2 (by omega)).symm
      · exact (Int.compare_eq_lt.2 (by omega)).symm
      · exact (Int.compare_eq_eq.2 rfl).symm
    | finite negative m e h =>
      obtain ⟨hlow, hhigh⟩ := units_lt_bound (.finite negative m e h)
      refine congrArg some ?_
      cases a <;> simp only [rank, Bool.false_eq_true, if_true, if_false]
      · exact (Int.compare_eq_gt.2 hhigh).symm
      · exact (Int.compare_eq_lt.2 hlow).symm
  | finite negative m e h =>
    cases y with
    | nan => cases hy
    | infinite b =>
      obtain ⟨hlow, hhigh⟩ := units_lt_bound (.finite negative m e h)
      refine congrArg some ?_
      cases b <;> simp only [rank, Bool.false_eq_true, if_true, if_false]
      · exact (Int.compare_eq_lt.2 hhigh).symm
      · exact (Int.compare_eq_gt.2 hlow).symm
    | finite negative' m' e' h' => rfl

/-! ### Numbers within and beyond the range of decimals -/

/-- The least absolute value without a decimal, as a multiple of the least number of the 64-bit
format. -/
def farRank : Int :=
  pow2 1170

theorem magnitude_lt_iff (negative : Bool) {m : Nat} {e : Int}
    (h : Format.double.Canonical m e) :
    (magnitude (.finite negative m e h) : Int) < farRank ↔ (m * 2 ^ e : ℚ) < 2 ^ (96 : Int) := by
  have hmin : -1074 ≤ e := h.2.1
  have hexponent : (((e - (-1074)).toNat : Nat) : Int) = e + 1074 := by omega
  have hmagnitude : ((magnitude (.finite negative m e h) : Nat) : ℚ) =
      m * 2 ^ e * 2 ^ (1074 : Int) := by
    show ((m * pow2 (e - (-1074)).toNat : Nat) : ℚ) = _
    rw [Nat.cast_mul, cast_pow2, hexponent, zpow_add₀ two_ne_zero, mul_assoc]
  have hlimit : ((pow2 1170 : Nat) : ℚ) = 2 ^ (96 : Int) * 2 ^ (1074 : Int) := by
    rw [cast_pow2, ← zpow_add₀ two_ne_zero]
    rfl
  rw [farRank, Int.ofNat_lt, ← Nat.cast_lt (α := ℚ), hmagnitude, hlimit]
  exact mul_lt_mul_iff_of_pos_right (zpow_pos two_pos _)

/-- A 64-bit number with a decimal is near. -/
theorem rank_near {x : Double} (h : (Decimal.ofBinary? x).isSome = true) :
    -farRank < x.rank ∧ x.rank < farRank := by
  cases x with
  | nan | infinite => cases h
  | finite negative m e hc =>
    have hlt := (magnitude_lt_iff negative hc).2
      ((Decimal.isSome_ofBinary?_iff (by decide) negative hc).1 h)
    rw [rank, units]
    split <;> constructor <;> omega

/-- A 64-bit number without a decimal is far away. -/
theorem rank_far {x : Double} (h : (Decimal.ofBinary? x).isSome = false) (hx : x.isNan = false) :
    if x.isNegative then x.rank ≤ -farRank else farRank ≤ x.rank := by
  cases x with
  | nan => cases hx
  | infinite negative =>
    have hbound : pow2 1170 ≤ Format.double.bound :=
      Nat.le_trans (pow2_le_pow2 (by decide)) (Nat.le_mul_of_pos_left _ (pow2_pos _))
    cases negative
    · exact Int.ofNat_le.2 hbound
    · exact Int.neg_le_neg (Int.ofNat_le.2 hbound)
  | finite negative m e hc =>
    have hle : farRank ≤ magnitude (.finite negative m e hc) := by
      by_contra hlt
      have hsome := (Decimal.isSome_ofBinary?_iff (by decide) negative hc).2
        ((magnitude_lt_iff negative hc).1 (Int.not_le.1 hlt))
      rw [h] at hsome
      cases hsome
    cases negative
    · exact hle
    · exact Int.neg_le_neg hle

end Binary

end TypedFilter
