import TypedFilter.Proofs.Conversions
import TypedFilter.Proofs.DisplayKeys
import TypedFilter.Proofs.OrderSwaps
import TypedFilter.Proofs.SortOrders

/-!
Plain texts of values. Main statement: the plain text of a truth value, a whole number, a decimal, a
string, a day, a time of day or a point in time is converted to its type as the value, and compared
with the value as equal to it. Only the sign of a zero is lost on the way.
-/

namespace TypedFilter

/-! ### Numbers -/

namespace Decimal

variable {d : Decimal}

/-- The text of a decimal is read as it; a zero has no sign then. -/
theorem ofText?_text (d : Decimal) : ofText? d.text = some d.unsignZero := by
  have hparts : unsignedZero? d.negative d.mantissa d.scale = some d.unsignZero :=
    dif_pos ⟨d.mantissa_lt, d.scale_le⟩
  have hchars : ofChars? d.text.toList = some d.unsignZero := by
    rw [text, String.toList_ofList, ofChars?_sign,
      readFrom?_pointed d.negative d.mantissa_lt d.scale_le, hparts]
  rw [ofText?, hchars]
  rfl

theorem bordered_text (d : Decimal) : Text.Bordered d.text := by
  have hblank : ∀ c ∈ d.text.toList, Text.isBlank c = false := by
    intro c hc
    rw [toList_text, List.mem_append] at hc
    rcases hc with hsign | hdigits
    · split at hsign
      · rw [List.mem_singleton.1 hsign]
        decide
      · cases hsign
    · rcases mem_digits hdigits with hdigit | rfl
      · exact Sql.isBlank_of_isPlainChar (Sql.isPlainChar_of_isDigit hdigit)
      · decide
  refine .ofForall ?_ hblank
  obtain ⟨c, cs, heq, -⟩ := pointed_eq_cons d.mantissa d.scale
  rw [toList_text, digits, String.toList_ofList, heq]
  simp

theorem decimalOf?_text (d : Decimal) :
    DataType.decimalOf? (.string d.text) = some d.unsignZero := by
  rw [DataType.decimalOf?, d.bordered_text.trim, ofText?_text]

theorem unsignZero_eq_self_iff : d.unsignZero = d ↔ d.IsSigned := by
  obtain ⟨negative, mantissa, scale, hm, hs⟩ := d
  simp only [unsignZero, IsSigned, Decimal.mk.injEq, and_true]
  cases negative <;> simp

/-- The sign of a zero does not count. -/
theorem coefficient_unsignZero (d : Decimal) : d.unsignZero.coefficient = d.coefficient := by
  obtain ⟨negative, mantissa, scale, hm, hs⟩ := d
  simp only [unsignZero, coefficient]
  cases negative with
  | false => rfl
  | true =>
    by_cases hzero : mantissa = 0
    · subst hzero
      rfl
    · simp [hzero]

theorem compare_unsignZero (d : Decimal) : d.compare d.unsignZero = .eq := by
  rw [compare, coefficient_unsignZero]
  exact Std.ReflCmp.compare_self

end Decimal

namespace Value

variable {t : DataType} {v w : Value}

/-- The value, but a zero among decimals has no sign. -/
def unsignZero : Value → Value
  | .decimal d => .decimal d.unsignZero
  | v => v

theorem unsignZero_eq_self (h : ∀ d, v = .decimal d → d.IsSigned) : v.unsignZero = v := by
  cases v with
  | decimal d => exact congrArg Value.decimal (Decimal.unsignZero_eq_self_iff.2 (h d rfl))
  | _ => rfl

/-! ### Reading back -/

theorem convert_of_bordered {s : String} (hs : Text.Bordered s)
    (h : t.cast? (.string s) = some w) : t.convert (.string s) = .ok w := by
  refine convert_of_cast? ?_ h
  rw [DataType.countsAsNull, hs.not_allBlank, Bool.false_and, Bool.false_and]

/-- A value is read back from its plain text. -/
theorem convert_plainText (ht : t.IsScalar) (hv : v.dataType? = some t) :
    t.convert (.string v.plainText) = .ok v.unsignZero := by
  cases v with
  | boolean b =>
    cases hv
    cases b <;> exact convert_of_cast? (by decide) (by decide)
  | integer w n =>
    cases hv
    have hnumber : DataType.decimalOf? (.string n.toDecimal.text) = some n.toDecimal := by
      rw [Decimal.decimalOf?_text, Decimal.unsignZero_eq_self_iff.2 (isSigned_toDecimal n)]
    have hcast : (DataType.integer w).cast? (.string n.toDecimal.text) = some (.integer w n) :=
      integerOf?_of_decimalOf? hnumber
    show (DataType.integer w).convert (.string (Value.integer w n).text) = _
    rw [text_integer]
    exact convert_of_bordered n.toDecimal.bordered_text hcast
  | decimal d =>
    cases hv
    have hcast : DataType.decimal.cast? (.string d.text) = some (.decimal d.unsignZero) := by
      rw [DataType.cast?, d.decimalOf?_text, Option.map_some]
    exact convert_of_bordered d.bordered_text hcast
  | string s =>
    cases hv
    exact convert_of_dataType? ht rfl
  | date d =>
    cases hv
    exact d.convert_text
  | time s =>
    cases hv
    exact s.convert_text
  | timestamp s =>
    cases hv
    exact s.convert_text
  | null => cases hv
  | float | double | geometry | box | list =>
    cases hv
    exact ht.elim

/-! ### Comparing -/

/-- A value without the sign of a zero is equal to the value. -/
theorem beq_unsignZero (ht : t.IsScalar) (hv : v.dataType? = some t) :
    (v.unsignZero == v) = true := by
  cases v with
  | decimal d =>
    show (d.unsignZero.compare d == .eq) = true
    rw [Decimal.compare_swap, d.compare_unsignZero]
    rfl
  | integer w n =>
    show (decide (w = w) && n.toInt == n.toInt) = true
    simp
  | boolean x | string x => exact beq_self_eq_true x
  | date x | time x | timestamp x => exact decide_eq_true rfl
  | null => cases hv
  | float | double | geometry | box | list =>
    cases hv
    exact ht.elim

theorem compareTyped?_unsignZero (ht : t.IsScalar) (hv : v.dataType? = some t)
    (hstring : t ≠ .string) : v.compareTyped? v.unsignZero = some .eq := by
  cases v with
  | decimal d => exact congrArg some d.compare_unsignZero
  | integer w n => exact congrArg some (Std.ReflOrd.compare_self : Ord.compare n.toDecimal _ = _)
  | boolean b => exact congrArg some Std.ReflOrd.compare_self
  | date d => exact congrArg some (Std.ReflOrd.compare_self : Ord.compare d d = _)
  | time s => exact congrArg some (Std.ReflOrd.compare_self : Ord.compare s s = _)
  | timestamp s => exact congrArg some (Std.ReflOrd.compare_self : Ord.compare s s = _)
  | string s =>
    cases hv
    exact absurd rfl hstring
  | null => cases hv
  | float | double | geometry | box | list =>
    cases hv
    exact ht.elim

/-- A value is compared with its plain text as equal. -/
theorem compare?_plainText (ht : t.IsScalar) (hv : v.dataType? = some t) :
    v.compare? (.string v.plainText) = some .eq := by
  rw [compare?_string_eq_compareText? hv, compareText?, hv, Option.bind_some,
    convert_plainText ht hv]
  cases v with
  | null => cases hv
  | string s => exact congrArg some Std.ReflOrd.compare_self
  | _ =>
    refine compareTyped?_unsignZero ht hv ?_
    rintro rfl
    cases hv

/-- The plain text of a value is converted to the type of the value as that value, and is equal to
it from either side. A zero among decimals loses its sign, which does not count in `==`; every other
value is the same again. -/
theorem plain_text_is_read_back (ht : t.IsScalar) (hv : v.dataType? = some t) :
    (∃ w, t.convert (.string v.plainText) = .ok w ∧ (w == v) = true ∧
      ((∀ d, v = .decimal d → d.IsSigned) → w = v)) ∧
    v.compare? (.string v.plainText) = some .eq ∧
    (Value.string v.plainText).compare? v = some .eq := by
  refine ⟨⟨v.unsignZero, convert_plainText ht hv, beq_unsignZero ht hv, unsignZero_eq_self⟩,
    compare?_plainText ht hv, ?_⟩
  rw [compare?_swap v, compare?_plainText ht hv]
  rfl

/-- A leap second in a year before the first, and a zero with places and a sign. -/
theorem plain_text_is_read_back_leap :
    let leap : Value := .timestamp ⟨⟨-44, 3, 15, by decide⟩,
      ⟨23, 59, 59, 1500000000, by decide, by decide, by decide, by decide⟩⟩
    let zero : Value := .decimal ⟨true, 0, 2, by decide, by decide⟩
    leap.plainText = "-0044-03-15 23:59:60.500" ∧ zero.plainText = "-0.00" ∧
      DataType.timestamp.convert (.string leap.plainText) = .ok leap ∧
      leap.compare? (.string leap.plainText) = some .eq ∧
      (∃ w, DataType.decimal.convert (.string zero.plainText) = .ok w ∧ (w == zero) = true) ∧
      (Value.string zero.plainText).compare? zero = some .eq := by
  intro leap zero
  obtain ⟨⟨w, hw, -, hsame⟩, hleap, -⟩ :=
    plain_text_is_read_back (t := .timestamp) (v := leap) trivial rfl
  obtain ⟨⟨z, hz, hequal, -⟩, -, hzero⟩ :=
    plain_text_is_read_back (t := .decimal) (v := zero) trivial rfl
  obtain rfl : w = leap := hsame nofun
  exact ⟨by decide +kernel, by decide +kernel, hw, hleap, ⟨z, hz, hequal⟩, hzero⟩

end Value

end TypedFilter
