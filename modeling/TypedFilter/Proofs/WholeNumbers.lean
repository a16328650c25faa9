import Mathlib.Data.Rat.Cast.Order
import TypedFilter.Proofs.Conversions
import TypedFilter.Proofs.Names

/-!
Whole numbers of a width, made of other numbers. Main statement: a number is converted to a width if
and only if it is a whole number in its range, and the result is that number; so however often a
number is converted on the way, whole numbers and decimals keep it.
-/

namespace TypedFilter

namespace Decimal

variable {d : Decimal} {n : Int}

/-- The number that the decimal stands for. -/
def toRat (d : Decimal) : ℚ :=
  d.coefficient / pow10 d.scale

theorem natAbs_coefficient (d : Decimal) : d.coefficient.natAbs = d.mantissa := by
  rw [coefficient]
  split
  · rw [Int.natAbs_neg, Int.natAbs_natCast]
  · rw [Int.natAbs_natCast]

theorem toRat_eq_iff : d.toRat = n ↔ d.coefficient = n * pow10 d.scale := by
  have hpow : (pow10 d.scale : ℚ) ≠ 0 := Nat.cast_ne_zero.2 (pow10_pos d.scale).ne'
  rw [toRat, div_eq_iff hpow]
  norm_cast

theorem toRat_ofInt (h : n.natAbs < pow2 96) : (ofInt n h).toRat = n := by
  rw [toRat_eq_iff]
  have hscale : pow10 (ofInt n h).scale = 1 := rfl
  rw [hscale, Nat.cast_one, mul_one]
  simp only [coefficient, ofInt, decide_eq_true_eq]
  split <;> omega

/-- Nothing but zeros stands after the point if and only if the number is whole. -/
theorem isWhole_iff : d.isWhole = true ↔ ∃ n : Int, d.toRat = n := by
  have hdvd : d.isWhole = true ↔ (pow10 d.scale : Int) ∣ d.coefficient := by
    rw [isWhole, beq_iff_eq, ← Nat.dvd_iff_mod_eq_zero, ← natAbs_coefficient d,
      Int.natCast_dvd]
  simp only [hdvd, toRat_eq_iff]
  constructor
  · rintro ⟨n, hn⟩
    exact ⟨n, by rw [hn, mul_comm]⟩
  · rintro ⟨n, hn⟩
    exact ⟨n, by rw [hn, mul_comm]⟩

/-- Nothing is cut off a whole number. -/
theorem truncate_eq (h : d.toRat = n) : d.truncate = n := by
  have hpow : (pow10 d.scale : Int) ≠ 0 := Nat.cast_ne_zero.2 (pow10_pos d.scale).ne'
  rw [truncate, toRat_eq_iff.1 h, Int.mul_tdiv_cancel n hpow]

end Decimal

/-- Whether the values of the type are numbers that are kept digit by digit. -/
def DataType.IsExact : DataType → Prop
  | .integer _ | .decimal => True
  | _ => False

namespace Value

variable {t : DataType} {u v : Value} {w : IntWidth} {q : ℚ}

/-- The number that a whole number or a decimal stands for. -/
def amount? : Value → Option ℚ
  | .integer _ n => some n.toInt
  | .decimal d => some d.toRat
  | _ => none

/-- Whole numbers and decimals are decimals with the same number. -/
theorem exists_toDecimal? (h : v.amount? = some q) : ∃ d, v.toDecimal? = some d ∧ d.toRat = q := by
  cases v with
  | integer w n =>
    cases h
    exact ⟨n.toDecimal, rfl, Decimal.toRat_ofInt n.natAbs_lt⟩
  | decimal d =>
    cases h
    exact ⟨d, rfl, rfl⟩
  | _ => cases h

/-- A number is a whole number of a width if there is one in its range that is the number. -/
theorem integerOf?_eq_some_iff (hv : v.amount? = some q) :
    DataType.integerOf? w v = some u ↔ ∃ n : SizedInt w, u = .integer w n ∧ q = n.toInt := by
  obtain ⟨d, hd, rfl⟩ := exists_toDecimal? hv
  rw [DataType.integerOf?, decimalOf?_of_toDecimal? hd, Option.bind_some]
  constructor
  · intro h
    split at h
    · rename_i hwhole
      obtain ⟨n, hn, rfl⟩ := Option.map_eq_some_iff.1 h
      obtain ⟨m, hm⟩ := Decimal.isWhole_iff.1 hwhole
      have hsame : n.toInt = m :=
        (SizedInt.ofInt?_eq_some_iff.1 hn).trans (Decimal.truncate_eq hm)
      exact ⟨n, rfl, by rw [hm, hsame]⟩
    · cases h
  · rintro ⟨n, rfl, hn⟩
    rw [if_pos (Decimal.isWhole_iff.2 ⟨_, hn⟩), Decimal.truncate_eq hn, ofInt?,
      SizedInt.ofInt?_eq_some_iff.2 rfl, Option.map_some]

theorem convert_integer_eq_ok_iff (hv : v.amount? = some q) :
    (DataType.integer w).convert v = .ok u ↔ ∃ n : SizedInt w, u = .integer w n ∧ q = n.toInt := by
  obtain ⟨d, hd, -⟩ := exists_toDecimal? hv
  exact (convert_eq_ok_iff (countsAsNull_of_toDecimal? hd)).trans (integerOf?_eq_some_iff hv)

/-- A conversion between such types keeps the number. -/
theorem amount?_of_convert (ht : t.IsExact) (hv : v.amount? = some q) (h : t.convert v = .ok u) :
    u.amount? = some q := by
  cases t with
  | integer w =>
    obtain ⟨n, rfl, rfl⟩ := (convert_integer_eq_ok_iff hv).1 h
    rfl
  | decimal =>
    obtain ⟨d, hd, rfl⟩ := exists_toDecimal? hv
    have hcast : DataType.decimal.cast? v = some (.decimal d) := by
      rw [DataType.cast?, decimalOf?_of_toDecimal? hd, Option.map_some]
    cases h.symm.trans (convert_of_cast? (countsAsNull_of_toDecimal? hd) hcast)
    rfl
  | _ => exact ht.elim

/-- So does a row of them. -/
theorem amount?_of_foldlM {ts : List DataType} (hts : ∀ t ∈ ts, t.IsExact)
    (hv : v.amount? = some q) (h : ts.foldlM (fun u t => t.convert u) v = Except.ok u) :
    u.amount? = some q := by
  induction ts generalizing v with
  | nil =>
    cases h
    exact hv
  | cons t ts ih =>
    obtain ⟨ht, hts⟩ := List.forall_mem_cons.1 hts
    rw [List.foldlM_cons] at h
    obtain ⟨v', hv', h⟩ := exists_of_bind_ok h
    exact ih hts (amount?_of_convert ht hv hv') h

/-- A whole number or a decimal is converted to a width if and only if its number is a whole one in
the range of the width; the result is that number, and any other conversion fails. Whatever widths
and decimals a number is converted to one after the other, it stays the number that it was, and a
whole number that comes back to its width is the value that it was. -/
theorem whole_numbers_are_exact (w : IntWidth) (hv : v.amount? = some q) :
    (∀ u, (DataType.integer w).convert v = .ok u ↔
      ∃ n : SizedInt w, u = .integer w n ∧ q = n.toInt) ∧
    ((∀ n : Int, w.Holds n → q ≠ n) →
      (DataType.integer w).convert v = .error (.rejected (DataType.integer w).name v
        ("cannot convert to " ++ (DataType.integer w).name))) ∧
    ∀ (ts : List DataType) (u : Value), (∀ t ∈ ts, t.IsExact) →
      ts.foldlM (fun u t => t.convert u) v = Except.ok u →
      u.amount? = some q ∧ ∀ m n : SizedInt w, u = .integer w m → v = .integer w n → u = v := by
  refine ⟨fun u => convert_integer_eq_ok_iff hv, fun hout => ?_, fun ts u hts h => ?_⟩
  · have hcast : (DataType.integer w).cast? v = none := by
      rw [Option.eq_none_iff_forall_ne_some]
      intro u hu
      obtain ⟨n, -, hn⟩ := (integerOf?_eq_some_iff hv).1 hu
      exact hout n.toInt n.holds hn
    obtain ⟨d, hd, -⟩ := exists_toDecimal? hv
    rw [DataType.convert, countsAsNull_of_toDecimal? hd, if_neg Bool.false_ne_true, hcast]
  · have hkept := amount?_of_foldlM hts hv h
    refine ⟨hkept, ?_⟩
    rintro m n rfl rfl
    have hsame : (m.toInt : ℚ) = n.toInt := Option.some.inj (hkept.trans hv.symm)
    rw [SizedInt.ext (Int.cast_injective hsame)]

/-- The least whole number of 64 bits, from a decimal with places and by way of one without. -/
theorem whole_numbers_are_exact_least :
    let least : Value := .decimal ⟨true, 9223372036854775808000, 3, by decide, by decide⟩
    let long : Value := .integer .long ⟨-9223372036854775808, by decide⟩
    let ts : List DataType := [.integer .long, .decimal, .integer .long]
    least.amount? = some ((-9223372036854775808 : Int) : ℚ) ∧
      (DataType.integer .long).convert least = .ok long ∧
      (DataType.integer .int).convert least =
        .error (.rejected "int" least ("cannot convert to " ++ "int")) ∧
      ts.foldlM (fun u t => t.convert u) least = Except.ok long ∧
      long.amount? = some ((-9223372036854775808 : Int) : ℚ) := by
  intro least long ts
  have hleast : least.amount? = some ((-9223372036854775808 : Int) : ℚ) :=
    congrArg some (Decimal.toRat_eq_iff.2 (by decide))
  have hlong : (DataType.integer .long).convert least = .ok long :=
    ((whole_numbers_are_exact .long hleast).1 long).2 ⟨_, rfl, rfl⟩
  have hout : ∀ n : Int, IntWidth.int.Holds n → ((-9223372036854775808 : Int) : ℚ) ≠ n := by
    rintro n hn heq
    rw [← Int.cast_injective heq] at hn
    exact absurd hn (by decide)
  have hrow : ts.foldlM (fun u t => t.convert u) least = Except.ok long :=
    eq_ok_of_toOption (by decide +kernel)
  have hts : ∀ t ∈ ts, t.IsExact := by
    simp [ts, DataType.IsExact]
  exact ⟨hleast, hlong, (whole_numbers_are_exact .int hleast).2.1 hout, hrow,
    ((whole_numbers_are_exact .long hleast).2.2 ts long hts hrow).1⟩

end Value

end TypedFilter
