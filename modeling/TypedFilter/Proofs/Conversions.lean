import TypedFilter.Proofs.DecimalText
import TypedFilter.Proofs.Written

/-!
Conversion to the types whose values can be written as literals. Main statements: what a conversion
gives has the type, or is no value; and what the literal of a converted value stands for converts to
that value again.
-/

namespace TypedFilter

/-- Whether conditions have a notation for every value of the type. -/
def DataType.IsScalar : DataType → Prop
  | .boolean | .integer _ | .decimal | .string | .date | .time | .timestamp => True
  | .float | .double | .geometry | .shape _ | .object => False

namespace Value

variable {v w : Value} {t : DataType} {d : Decimal}

/-! ### Types of values -/

theorem dataType?_of_cast? (ht : t.IsScalar) (h : t.cast? v = some w) : w.dataType? = some t := by
  cases t with
  | boolean | decimal | string | date | time | timestamp =>
    obtain ⟨_, -, rfl⟩ := Option.map_eq_some_iff.1 h
    rfl
  | integer width =>
    obtain ⟨x, -, hx⟩ := Option.bind_eq_some_iff.1 h
    split at hx
    · obtain ⟨n, -, rfl⟩ := Option.map_eq_some_iff.1 hx
      rfl
    · cases hx
  | float | double | geometry | shape | object => exact ht.elim

/-- A converted value has the type, or there is none. -/
theorem dataType?_of_convert (ht : t.IsScalar) (h : t.convert v = .ok w) :
    w = .null ∨ w.dataType? = some t := by
  rw [DataType.convert] at h
  split at h
  · cases h
    exact .inl rfl
  · split at h
    · rename_i hcast
      cases h
      exact .inr (dataType?_of_cast? ht hcast)
    · cases h

/-- A literal can be read for any value of such a type. -/
theorem isPlain_of_dataType? (ht : t.IsScalar) (h : v.dataType? = some t) : v.IsPlain := by
  cases v with
  | float | double | geometry | box | list =>
    cases h
    exact ht.elim
  | _ => trivial

theorem countsAsNull_of_dataType? (h : v.dataType? = some t) : t.countsAsNull v = false := by
  cases v with
  | null => cases h
  | string s =>
    cases h
    simp [DataType.countsAsNull]
  | _ => rfl

theorem convert_eq_ok_iff (hnull : t.countsAsNull v = false) :
    t.convert v = .ok w ↔ t.cast? v = some w := by
  rw [DataType.convert, hnull, if_neg Bool.false_ne_true]
  cases t.cast? v <;> simp

theorem convert_of_cast? (hnull : t.countsAsNull v = false) (h : t.cast? v = some w) :
    t.convert v = .ok w :=
  (convert_eq_ok_iff hnull).2 h

/-! ### Numbers -/

theorem decimalOf?_of_toDecimal? (h : v.toDecimal? = some d) : DataType.decimalOf? v = some d := by
  cases v with
  | boolean | string => cases h
  | _ => exact h

theorem countsAsNull_of_toDecimal? (h : v.toDecimal? = some d) : t.countsAsNull v = false := by
  cases v with
  | null | string => cases h
  | _ => rfl

theorem integerOf?_of_decimalOf? {width : IntWidth} {n : SizedInt width}
    (h : DataType.decimalOf? v = some n.toDecimal) :
    DataType.integerOf? width v = some (.integer width n) := by
  have hwhole : n.toDecimal.isWhole = true := by
    have hscale : pow10 n.toDecimal.scale = 1 := rfl
    simp [Decimal.isWhole, hscale, Nat.mod_one]
  have htruncate : n.toDecimal.truncate = n.toInt := by
    have hscale : pow10 n.toDecimal.scale = 1 := rfl
    have hmantissa : n.toDecimal.mantissa = n.toInt.natAbs := rfl
    have hsign : n.toDecimal.negative = decide (n.toInt < 0) := rfl
    simp only [Decimal.truncate, Decimal.coefficient, hscale, hmantissa, hsign, decide_eq_true_eq]
    split
    · show (-(n.toInt.natAbs : Int)).tdiv 1 = n.toInt
      rw [Int.tdiv_one]
      omega
    · show (n.toInt.natAbs : Int).tdiv 1 = n.toInt
      rw [Int.tdiv_one]
      omega
  have hfits : SizedInt.ofInt? width n.toInt = some n := SizedInt.ofInt?_eq_some_iff.2 rfl
  simp only [DataType.integerOf?, h, Option.bind_some, hwhole, if_true,
    htruncate, ofInt?, hfits, Option.map_some]

theorem isSigned_toDecimal {width : IntWidth} (n : SizedInt width) : n.toDecimal.IsSigned := by
  intro hneg hm
  simp only [SizedInt.toDecimal, Decimal.ofInt, decide_eq_true_eq] at hneg hm
  omega

/-- A decimal whose literal stands for it keeps its sign as text. -/
theorem keepsSign_of_reread (h : d.reread = .decimal d) : d.KeepsSign := by
  intro hscale hneg hm
  have hzero : d.numeral = .integer .int ⟨0, by decide⟩ := by
    rw [Decimal.numeral, if_pos hscale, hm]
    rfl
  rw [Decimal.reread, if_pos hneg, hzero] at h
  cases h

/-- A decimal that a fresh value is converted to keeps its sign as text. -/
theorem keepsSign_of_decimalOf? (hv : v.IsFresh) (h : DataType.decimalOf? v = some d) :
    d.KeepsSign := by
  cases v with
  | string s => exact Decimal.keepsSign_ofText? h
  | boolean b =>
    cases b with
    | true | false =>
      cases h
      intro _ hneg
      cases hneg
  | integer width n =>
    cases h
    exact (isSigned_toDecimal n).keepsSign
  | decimal x =>
    cases h
    exact keepsSign_of_reread hv.2
  | float | double | geometry | box | list => exact hv.1.elim
  | null | date | time | timestamp => cases h

/-! ### Converting again -/

/-- A value of the type is converted to itself. -/
theorem convert_of_dataType? (ht : t.IsScalar) (h : v.dataType? = some t) :
    t.convert v = .ok v := by
  refine convert_of_cast? (countsAsNull_of_dataType? h) ?_
  cases v with
  | integer width n =>
    cases h
    exact integerOf?_of_decimalOf? rfl
  | null => cases h
  | float | double | geometry | box | list =>
    cases h
    exact ht.elim
  | boolean | decimal | string | date | time | timestamp =>
    cases h
    rfl

/-- What the literal of a converted value stands for is converted to that value. -/
theorem convert_reread (ht : t.IsScalar) (hv : v.IsFresh) (h : t.convert v = .ok w)
    (hw : w ≠ .null) : t.convert w.reread = .ok w := by
  have htype := (dataType?_of_convert ht h).resolve_left hw
  cases w with
  | integer width n =>
    cases htype
    have hnumber := n.toDecimal.toDecimal?_reread (isSigned_toDecimal n).keepsSign
    exact convert_of_cast? (countsAsNull_of_toDecimal? hnumber)
      (integerOf?_of_decimalOf? (decimalOf?_of_toDecimal? hnumber))
  | decimal d =>
    cases htype
    have hsign : d.KeepsSign := by
      rw [DataType.convert] at h
      split at h
      · cases h
      · split at h
        · rename_i hcast
          cases h
          obtain ⟨x, hx, hd⟩ := Option.map_eq_some_iff.1 hcast
          cases hd
          exact keepsSign_of_decimalOf? hv hx
        · cases h
    have hnumber := d.toDecimal?_reread hsign
    refine convert_of_cast? (countsAsNull_of_toDecimal? hnumber) ?_
    exact Option.map_eq_some_iff.2 ⟨d, decimalOf?_of_toDecimal? hnumber, rfl⟩
  | null => exact absurd rfl hw
  | _ => exact convert_of_dataType? ht htype

end Value

end TypedFilter
