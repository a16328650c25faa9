import TypedFilter.Expr.Eval
import TypedFilter.Proofs.DecimalArithmetic

/-!
Calculations with whole numbers of any width. Main statement: sums, differences, products, quotients
that are cut off after the point and remainders are exact, in the width of the left number where it
holds them and as decimals where it does not; division by zero and calculations with anything but
numbers have no value.
-/

namespace TypedFilter

/-! ### Numbers without a value for division -/

namespace Decimal

/-- No digit comes into a mantissa that has none. -/
theorem applyFives_zero {fuel : Nat} {r s : Rebase} (hr : r.mantissa = 0)
    (h : r.applyFives fuel = some s) : s.mantissa = 0 := by
  induction fuel generalizing r with
  | zero =>
    cases h
    exact hr
  | succ fuel ih =>
    rw [Rebase.applyFives] at h
    split at h
    · refine ih ?_ h
      rw [Rebase.halve, hr]
      rfl
    split at h
    · obtain ⟨next, hnext, h⟩ := Option.bind_eq_some_iff.1 h
      refine ih ?_ h
      rw [Rebase.double?, hr, if_pos (pow2_pos 95)] at hnext
      cases hnext
      rfl
    · cases h
      exact hr

theorem applyTens_zero {fuel : Nat} {r s : Rebase} (hr : r.mantissa = 0)
    (h : r.applyTens fuel = some s) : s.mantissa = 0 := by
  induction fuel generalizing r with
  | zero =>
    cases h
    exact hr
  | succ fuel ih =>
    rw [Rebase.applyTens] at h
    split at h
    · split at h
      · exact ih (by dsimp only; rw [hr]) h
      · cases h
    split at h
    · split at h
      · cases h
        rfl
      · rename_i hrest
        exact absurd (by rw [hr]) hrest
    · cases h
      exact hr

theorem fewerBits_zero (bits scale : Nat) : (fewerBits bits 0 scale).1 = 0 := by
  cases scale with
  | zero => rfl
  | succ scale => rw [fewerBits, if_pos (pow2_pos bits)]

theorem isZero_shorten {d : Decimal} (h : d.isZero = true) : d.shorten.isZero = true := by
  have hm : d.mantissa = 0 := eq_of_beq h
  have hle : d.shorten.mantissa ≤ d.mantissa := (dropZeros_le d.mantissa d.scale).1
  rw [isZero, beq_iff_eq]
  omega

/-- The decimal of a zero is zero. -/
theorem isZero_ofBinary? {f : Binary.Format} {x : Binary f} {d : Decimal} (hx : x.isZero = true)
    (h : ofBinary? x = some d) : d.isZero = true := by
  cases x with
  | nan | infinite => cases h
  | finite negative m e canonical =>
    cases eq_of_beq hx
    rw [ofBinary?] at h
    obtain ⟨r, hr, h⟩ := Option.bind_eq_some_iff.1 h
    obtain ⟨s, hs, h⟩ := Option.bind_eq_some_iff.1 h
    obtain ⟨c, hc, rfl⟩ := Option.map_eq_some_iff.1 h
    refine isZero_shorten ?_
    rw [isZero, (of_ofParts? hc).2.1, applyTens_zero (applyFives_zero rfl hr) hs, fewerBits_zero]
    rfl

/-- A decimal that is zero is zero in the 64-bit format too. -/
theorem isZero_toDouble {d : Decimal} (h : d.isZero = true) : d.toDouble.isZero = true := by
  have hall : ∀ (negative : Bool) (scale : Fin 29),
      (toDouble ⟨negative, 0, scale, pow2_pos 96, Nat.le_of_lt_succ scale.isLt⟩).isZero = true := by
    decide +kernel
  obtain ⟨negative, m, scale, hm, hs⟩ := d
  cases eq_of_beq h
  exact hall negative ⟨scale, Nat.lt_succ_of_le hs⟩

end Decimal

theorem Binary.isZero_convert_double {f : Format} {x : Binary f} (h : x.isZero = true) :
    (x.convert .double).isZero = true := by
  cases x with
  | nan | infinite => cases h
  | finite negative m e canonical =>
    cases eq_of_beq h
    rw [convert, ofRatio, magnitude, Nat.zero_mul, if_pos rfl]
    cases negative <;> rfl

namespace Value

/-- Whether the value is a number that is zero, of any type and sign and with any places. -/
def isZeroNumber : Value → Bool
  | .integer _ n => n.toInt == 0
  | .float x => x.isZero
  | .double x => x.isZero
  | .decimal d => d.isZero
  | _ => false

variable {x y z : Value} {op : ArithOp} {a b d : Decimal}

theorem isZero_of_toDecimal? (hz : z.isZeroNumber = true) (h : z.toDecimal? = some d) :
    d.isZero = true := by
  cases z with
  | integer w n =>
    cases h
    have hn : n.toInt = 0 := eq_of_beq hz
    exact beq_iff_eq.2 (Int.natAbs_eq_zero.2 hn)
  | float x => exact Decimal.isZero_ofBinary? hz h
  | double x => exact Decimal.isZero_ofBinary? hz h
  | decimal d =>
    cases h
    exact hz
  | _ => cases hz

theorem isZero_of_toDouble? (hz : z.isZeroNumber = true) {q : Double} (h : z.toDouble? = some q) :
    q.isZero = true := by
  cases z with
  | integer w n =>
    cases h
    have hn : n.toInt = 0 := eq_of_beq hz
    rw [SizedInt.toDouble, hn]
    rfl
  | float x =>
    cases h
    exact Binary.isZero_convert_double hz
  | double x =>
    cases h
    exact hz
  | decimal d =>
    cases h
    exact Decimal.isZero_toDouble hz
  | _ => cases hz

/-- A calculation that neither decimals nor 64-bit numbers have a result for has no value. -/
theorem calculate_eq_null
    (hdecimals : ∀ a b, x.toDecimal? = some a → y.toDecimal? = some b → op.onDecimals? a b = none)
    (hdoubles : ∀ p q, x.toDouble? = some p → y.toDouble? = some q → op.onDoubles? p q = none) :
    x.calculate op y = .null := by
  have hexact : (do op.onDecimals? (← x.toDecimal?) (← y.toDecimal?)) = none := by
    cases hx : x.toDecimal? with
    | none => rfl
    | some a =>
      cases hy : y.toDecimal? with
      | none => rfl
      | some b => exact hdecimals a b hx hy
  rw [calculate, hexact]
  cases hx : x.toDouble? with
  | none => rfl
  | some p =>
    cases hy : y.toDouble? with
    | none => rfl
    | some q =>
      dsimp only
      rw [hdoubles p q hx hy]
      rfl

theorem calculate_by_zero (hop : op = .divide ∨ op = .modulo) (hz : z.isZeroNumber = true)
    (x : Value) : x.calculate op z = .null := by
  refine calculate_eq_null (fun a b _ hb => ?_) (fun p q _ hq => ?_)
  · have hzero := isZero_of_toDecimal? hz hb
    rcases hop with rfl | rfl
    · rw [ArithOp.onDecimals?, Decimal.div?, if_pos hzero]
    · rw [ArithOp.onDecimals?, Decimal.rem?, if_pos hzero]
  · have hzero := isZero_of_toDouble? hz hq
    rcases hop with rfl | rfl <;> rw [ArithOp.onDoubles?, if_pos hzero]

theorem toDecimal?_of_not_numeric (h : x.isNumeric = false) : x.toDecimal? = none := by
  cases x with
  | integer | float | double | decimal => cases h
  | _ => rfl

theorem toDouble?_of_not_numeric (h : x.isNumeric = false) : x.toDouble? = none := by
  cases x with
  | integer | float | double | decimal => cases h
  | _ => rfl

theorem calculate_of_not_numeric (h : x.isNumeric = false ∨ y.isNumeric = false) (op : ArithOp) :
    x.calculate op y = .null := by
  refine calculate_eq_null (fun a b ha hb => ?_) (fun p q hp hq => ?_)
  · rcases h with h | h
    · cases (toDecimal?_of_not_numeric h).symm.trans ha
    · cases (toDecimal?_of_not_numeric h).symm.trans hb
  · rcases h with h | h
    · cases (toDouble?_of_not_numeric h).symm.trans hp
    · cases (toDouble?_of_not_numeric h).symm.trans hq

/-! ### Results in the width of the left number -/

/-- Whether a value is a whole number as the result of a calculation with a number of a width on the
left: a number of that width, where it holds the result, and a decimal where it does not. -/
inductive IsWhole (w : IntWidth) (n : Int) : Value → Prop
  | fits (h : w.Holds n) : IsWhole w n (.integer w ⟨n, h⟩)
  | wide (d : Decimal) (h : ¬ w.Holds n) (hd : d.toRat = n) : IsWhole w n (.decimal d)

variable {v w : IntWidth} {n : Int}

theorem IsWhole.amount? (h : IsWhole w n x) : x.amount? = some (n : ℚ) := by
  cases h with
  | fits h => rfl
  | wide d h hd => rw [Value.amount?, hd]

/-- A result is cut off after the point where the width holds it, and has to be whole elsewhere. -/
theorem isWhole_withDecimal (m : SizedInt w) (htruncate : d.truncate = n)
    (hwhole : ¬ w.Holds n → d.toRat = n) : IsWhole w n ((integer w m).withDecimal d) := by
  rw [withDecimal, htruncate, ofInt?, SizedInt.ofInt?]
  by_cases h : w.Holds n
  · rw [dif_pos h]
    exact .fits h
  · rw [dif_neg h]
    exact .wide d h (hwhole h)

theorem amount?_withDecimal {q : ℚ} (hx : x.amount? = some q) (hd : d.toRat = n) :
    (x.withDecimal d).amount? = some (n : ℚ) := by
  cases x with
  | integer w m => exact (isWhole_withDecimal m (Decimal.truncate_eq hd) fun _ => hd).amount?
  | decimal c => exact congrArg some hd
  | _ => cases hx

theorem calculate_of_decimals (op : ArithOp) (ha : x.toDecimal? = some a)
    (hb : y.toDecimal? = some b) (hd : op.onDecimals? a b = some d) :
    x.calculate op y = x.withDecimal d := by
  simp only [calculate, ha, hb, Option.bind_eq_bind, Option.bind_some, hd]

/-! ### Exact calculations -/

/-- A sum of whole numbers and decimals that is a whole number in the range of decimals is exact. -/
theorem amount?_add {p q : ℚ} (hx : x.amount? = some p) (hy : y.amount? = some q)
    (h : p + q = n) (hn : n.natAbs < pow2 96) : (x.calculate .add y).amount? = some (n : ℚ) := by
  obtain ⟨a, ha, rfl⟩ := exists_toDecimal? hx
  obtain ⟨b, hb, rfl⟩ := exists_toDecimal? hy
  obtain ⟨d, hd, hrat⟩ := Decimal.exists_add? h hn
  rw [calculate_of_decimals .add ha hb hd]
  exact amount?_withDecimal hx hrat

/-- So is a product. -/
theorem amount?_multiply {p q : ℚ} (hx : x.amount? = some p) (hy : y.amount? = some q)
    (h : p * q = n) (hn : n.natAbs < pow2 96) :
    (x.calculate .multiply y).amount? = some (n : ℚ) := by
  obtain ⟨a, ha, rfl⟩ := exists_toDecimal? hx
  obtain ⟨b, hb, rfl⟩ := exists_toDecimal? hy
  obtain ⟨d, hd, hrat⟩ := Decimal.exists_mul? h hn
  rw [calculate_of_decimals .multiply ha hb hd]
  exact amount?_withDecimal hx hrat

section Whole

variable (k : SizedInt v) (m : SizedInt w)

theorem natAbs_le : k.toInt.natAbs ≤ pow2 v.bits := by
  have h := k.holds
  rw [IntWidth.Holds] at h
  omega

theorem natAbs_lt_word : k.toInt.natAbs < pow2 64 :=
  Nat.lt_of_le_of_lt (natAbs_le k)
    (Nat.lt_of_le_of_lt (pow2_le_pow2 (by cases v <;> decide)) (by decide : pow2 63 < pow2 64))

theorem toRat_toDecimal : k.toDecimal.toRat = (k.toInt : ℚ) :=
  Decimal.toRat_ofInt k.natAbs_lt

theorem coefficient_toDecimal : k.toDecimal.coefficient = k.toInt :=
  Decimal.signed_natAbs k.toInt

variable {k m}

theorem isWhole_calculate (hd : op.onDecimals? k.toDecimal m.toDecimal = some d)
    (hrat : d.toRat = n) : IsWhole v n ((integer v k).calculate op (integer w m)) := by
  rw [calculate_of_decimals op rfl rfl hd]
  exact isWhole_withDecimal k (Decimal.truncate_eq hrat) fun _ => hrat

variable (k m)

theorem isWhole_add :
    IsWhole v (k.toInt + m.toInt) ((integer v k).calculate .add (integer w m)) := by
  have hk := natAbs_lt_word k
  have hm := natAbs_lt_word m
  have hbits : pow2 64 + pow2 64 < pow2 96 := by decide
  obtain ⟨d, hd, hrat⟩ := Decimal.exists_add? (a := k.toDecimal) (b := m.toDecimal)
    (m := k.toInt + m.toInt) (by rw [toRat_toDecimal, toRat_toDecimal, Int.cast_add]) (by omega)
  exact isWhole_calculate hd hrat

theorem isWhole_subtract :
    IsWhole v (k.toInt - m.toInt) ((integer v k).calculate .subtract (integer w m)) := by
  have hk := natAbs_lt_word k
  have hm := natAbs_lt_word m
  have hbits : pow2 64 + pow2 64 < pow2 96 := by decide
  obtain ⟨d, hd, hrat⟩ := Decimal.exists_sub? (a := k.toDecimal) (b := m.toDecimal)
    (m := k.toInt - m.toInt) (by rw [toRat_toDecimal, toRat_toDecimal, Int.cast_sub]) (by omega)
  exact isWhole_calculate hd hrat

theorem isWhole_multiply (h : (k.toInt * m.toInt).natAbs < pow2 96) :
    IsWhole v (k.toInt * m.toInt) ((integer v k).calculate .multiply (integer w m)) := by
  obtain ⟨d, hd, hrat⟩ := Decimal.exists_mul? (a := k.toDecimal) (b := m.toDecimal)
    (m := k.toInt * m.toInt) (by rw [toRat_toDecimal, toRat_toDecimal, Int.cast_mul]) h
  exact isWhole_calculate hd hrat

/-- Only by one or minus one, a number has a quotient that its width does not hold. -/
theorem dvd_of_not_holds (h : ¬ v.Holds (k.toInt.tdiv m.toInt)) : m.toInt ∣ k.toInt := by
  have hk := natAbs_le k
  have hpos := pow2_pos v.bits
  have hquotient : (k.toInt.tdiv m.toInt).natAbs = k.toInt.natAbs / m.toInt.natAbs :=
    Int.natAbs_tdiv _ _
  have hlarge : pow2 v.bits ≤ k.toInt.natAbs / m.toInt.natAbs := by
    rw [IntWidth.Holds] at h
    omega
  have hunit : m.toInt.natAbs = 1 := by
    by_contra hne
    rcases Nat.lt_or_ge m.toInt.natAbs 2 with hzero | hmany
    · have hnone : m.toInt.natAbs = 0 := by omega
      rw [hnone, Nat.div_zero] at hlarge
      omega
    · have hhalf := Nat.div_le_div_left hmany (by decide) (a := k.toInt.natAbs)
      omega
  rw [← Int.natAbs_dvd_natAbs, hunit]
  exact one_dvd _

theorem isZero_toDecimal (hm : m.toInt ≠ 0) : m.toDecimal.isZero = false :=
  beq_false_of_ne fun h => hm (Int.natAbs_eq_zero.1 h)

theorem isWhole_divide (hm : m.toInt ≠ 0) :
    IsWhole v (k.toInt.tdiv m.toInt) ((integer v k).calculate .divide (integer w m)) := by
  obtain ⟨d, hd, htruncate, heven⟩ := Decimal.exists_div? (a := k.toDecimal) (b := m.toDecimal)
    rfl rfl (natAbs_lt_word k) (natAbs_lt_word m) (isZero_toDecimal m hm)
  rw [coefficient_toDecimal, coefficient_toDecimal] at htruncate heven
  rw [calculate_of_decimals .divide rfl rfl hd]
  exact isWhole_withDecimal k htruncate fun h => heven (dvd_of_not_holds k m h)

theorem isWhole_modulo (hm : m.toInt ≠ 0) :
    IsWhole v (k.toInt.tmod m.toInt) ((integer v k).calculate .modulo (integer w m)) := by
  obtain ⟨d, hd, hrat⟩ := Decimal.exists_rem? (a := k.toDecimal) (b := m.toDecimal)
    rfl rfl (natAbs_lt_word m) (isZero_toDecimal m hm)
  rw [coefficient_toDecimal, coefficient_toDecimal] at hrat
  exact isWhole_calculate hd hrat

/-- A quotient times the divisor and the remainder make the dividend again. -/
theorem amount?_divided (hm : m.toInt ≠ 0) :
    let x : Value := .integer v k
    let y : Value := .integer w m
    (((x.calculate .divide y).calculate .multiply y).calculate .add
      (x.calculate .modulo y)).amount? = some (k.toInt : ℚ) := by
  intro x y
  have hshort : k.toInt.natAbs < pow2 96 := k.natAbs_lt
  have hlt : (k.toInt.tdiv m.toInt * m.toInt).natAbs < pow2 96 := by
    rw [Int.natAbs_mul, Int.natAbs_tdiv]
    exact Nat.lt_of_le_of_lt (Nat.div_mul_le_self _ _) hshort
  have hquotient := (isWhole_divide k m hm).amount?
  have hproduct := amount?_multiply (y := y) hquotient rfl (Int.cast_mul _ _).symm hlt
  refine amount?_add hproduct (isWhole_modulo k m hm).amount? ?_ hshort
  rw [← Int.cast_add, Int.tdiv_mul_add_tmod]

end Whole

end Value

namespace Expr

open Value

/-- Whole numbers of any width are added, subtracted, multiplied and divided exactly, and nothing is
divided by zero or calculated with anything but numbers. The quotient is cut off after the point,
and the remainder has the sign of the number that is divided. -/
theorem whole_arithmetic_is_exact (r : Record) :
    (∀ (l e : Expr) (v w : IntWidth) (k : SizedInt v) (m : SizedInt w),
      l.evaluate r = .integer v k → e.evaluate r = .integer w m →
      IsWhole v (k.toInt + m.toInt) ((arithmetic .add l e).evaluate r) ∧
      IsWhole v (k.toInt - m.toInt) ((arithmetic .subtract l e).evaluate r) ∧
      ((k.toInt * m.toInt).natAbs < pow2 96 →
        IsWhole v (k.toInt * m.toInt) ((arithmetic .multiply l e).evaluate r)) ∧
      (m.toInt ≠ 0 →
        IsWhole v (k.toInt.tdiv m.toInt) ((arithmetic .divide l e).evaluate r) ∧
        IsWhole v (k.toInt.tmod m.toInt) ((arithmetic .modulo l e).evaluate r) ∧
        ((arithmetic .add (arithmetic .multiply (arithmetic .divide l e) e)
          (arithmetic .modulo l e)).evaluate r).amount? = some (k.toInt : ℚ))) ∧
    (∀ l e : Expr, (e.evaluate r).isZeroNumber = true →
      (arithmetic .divide l e).evaluate r = .null ∧
      (arithmetic .modulo l e).evaluate r = .null) ∧
    ∀ (op : ArithOp) (l e : Expr),
      (l.evaluate r).isNumeric = false ∨ (e.evaluate r).isNumeric = false →
      (arithmetic op l e).evaluate r = .null := by
  refine ⟨fun l e v w k m hl he => ?_, fun l e he => ?_, fun op l e h => ?_⟩
  · simp only [evaluate, hl, he]
    exact ⟨isWhole_add k m, isWhole_subtract k m, isWhole_multiply k m, fun hm =>
      ⟨isWhole_divide k m hm, isWhole_modulo k m hm, amount?_divided k m hm⟩⟩
  · simp only [evaluate]
    exact ⟨calculate_by_zero (.inl rfl) he _, calculate_by_zero (.inr rfl) he _⟩
  · rw [evaluate]
    exact calculate_of_not_numeric h op

/-- The least whole number of 64 bits by minus one; a quotient that is as near to the next whole
number as any; an infinite number by a zero with places and a sign; and a text. -/
theorem whole_arithmetic_is_exact_least :
    let d : Definition := { path := "/numbers", fields := [.ofType "n" (.integer .long)] }
    let r : Record := .ofValues d [.integer .long ⟨-9223372036854775808, by decide⟩]
    let n : Expr := .ofName "n"
    let long (k : Int) (h : IntWidth.long.Holds k) : Expr := .ofValue (.integer .long ⟨k, h⟩)
    let largest := long 9223372036854775807 (by decide)
    let previous := long 9223372036854775806 (by decide)
    let minusOne : Expr := .ofValue (.integer .short ⟨-1, by decide⟩)
    let infinite : Expr := .ofValue (.double (.infinite false))
    let zero : Expr := .ofValue (.decimal ⟨true, 0, 3, by decide, by decide⟩)
    n.evaluate r = .integer .long ⟨-9223372036854775808, by decide⟩ ∧
      IsWhole .long 9223372036854775808 ((arithmetic .divide n minusOne).evaluate r) ∧
      IsWhole .long 9223372036854775808 ((arithmetic .multiply n minusOne).evaluate r) ∧
      ((arithmetic .add (arithmetic .multiply (arithmetic .divide n minusOne) minusOne)
        (arithmetic .modulo n minusOne)).evaluate r).amount? =
          some ((-9223372036854775808 : Int) : ℚ) ∧
      IsWhole .long 0 ((arithmetic .divide previous largest).evaluate r) ∧
      IsWhole .long 9223372036854775806 ((arithmetic .modulo previous largest).evaluate r) ∧
      (arithmetic .divide infinite zero).evaluate r = .null ∧
      (arithmetic .add (.ofValue (.string "1")) n).evaluate r = .null := by
  intro d r n long largest previous minusOne infinite zero
  obtain ⟨hwhole, hzero, hother⟩ := whole_arithmetic_is_exact r
  have hn : n.evaluate r = .integer .long ⟨-9223372036854775808, by decide⟩ := by decide +kernel
  obtain ⟨-, -, hproduct, hdivision⟩ := hwhole n minusOne .long .short _ _ hn rfl
  obtain ⟨hquotient, -, hsum⟩ := hdivision (by decide)
  obtain ⟨-, -, -, hnear⟩ := hwhole previous largest .long .long _ _ rfl rfl
  obtain ⟨hcut, hrest, -⟩ := hnear (by decide)
  exact ⟨hn, hquotient, hproduct (by decide), hsum, hcut, hrest, (hzero infinite zero rfl).1,
    hother .add _ n (.inl rfl)⟩

end Expr

end TypedFilter
