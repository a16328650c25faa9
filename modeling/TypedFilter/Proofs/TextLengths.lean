import TypedFilter.Proofs.Precision

/-!
How long the texts of values are that a field takes. Main statement: a string is no longer than the
length. A number is no longer than its digits, a point and a sign if and only if it has no places, or
the length leaves room for the zero before the point or for the sign.
-/

namespace TypedFilter

namespace Field

variable {f : Field} {v w : Value} {n : Figures}

/-- How many characters the digits of a number have with a point and a sign. -/
def widestNumber (f : Field) : Nat :=
  f.length.toNat + (if f.scale > 0 then 1 else 0) + 1

/-- The length that is stated for numbers is that of the widest one, in 32 bits. -/
theorem maxTextLength_of_isNumeric (hnumeric : f.type.isNumeric = true) (hlength : f.length ≠ 0) :
    ∃ k, f.maxTextLength = some k ∧ k.toNat = f.widestNumber % 2 ^ 32 := by
  rw [maxTextLength, if_neg hlength, if_pos hnumeric, widestNumber]
  refine ⟨_, rfl, ?_⟩
  split <;> simp [UInt32.toNat_add]

/-- The zero before the point of a number below one is no digit of its mantissa: where all digits are
places, it takes the room of the sign. -/
theorem length_text_le_iff (hlength : f.length ≠ 0) (hmantissa : n.mantissa < pow10 f.length.toNat)
    (hplaces : n.places ≤ f.scale.toNat) :
    n.text.length ≤ f.widestNumber ↔
      n.places = 0 ∨ n.places + n.negative.toNat ≤ f.length.toNat := by
  have hdigits : (natDigits n.mantissa).length ≤ f.length.toNat :=
    (Nat.length_toDigits_le_iff (by decide) (length_pos hlength)).2 hmantissa
  have hsign := Bool.toNat_le n.negative
  rw [Figures.length_text, widestNumber]
  split
  · rename_i hzero
    exact iff_of_true (by omega) (.inl hzero)
  · have hscale : f.scale > 0 := by
      rw [gt_iff_lt, UInt32.lt_iff_toNat_lt, UInt32.toNat_zero]
      omega
    rw [if_pos hscale]
    omega

/-- What a field of strings with a length takes is no longer than that. -/
theorem length_plainText_of_validate (hcodes : f.codeTable = none) (hlength : f.length ≠ 0)
    (hstring : f.type = .string) (h : f.validate v = .ok w) (hnull : w.isNull = false) :
    w.plainText.length ≤ f.length.toNat := by
  obtain ⟨hstore, -⟩ := validate_eq_ok_iff.1 h
  have hcheck := ((check_eq_ok_iff hcodes).1 ((store_and_check_of_validate h).2 hnull)).1
  have hholds := holds_of_store hstore hnull
  rw [hstring] at hcheck hholds
  have htype : w.dataType? = some .string := of_decide_eq_true hholds
  cases w with
  | string s => exact checkLength_eq_ok_iff.1 hcheck hlength
  | _ => cases htype

/-- The text of a string that a field with a length and without a code table takes has no more
characters than stated. For numbers, room is stated for the digits, a point where there is a scale,
and a sign, as far as 32 bits hold the sum; and the text of a number that the field counts has room
in this if and only if it has no places, or these and the sign are no more than the length. So it has
room wherever the scale is less than the length. -/
theorem taken_texts_have_stated_length (hcodes : f.codeTable = none) (hlength : f.length ≠ 0)
    (h : f.validate v = .ok w) (hnull : w.isNull = false) :
    (f.type = .string → f.maxTextLength = some f.length ∧ w.plainText.length ≤ f.length.toNat) ∧
    (f.type.isNumeric = true →
      (∃ k, f.maxTextLength = some k ∧ k.toNat = f.widestNumber % 2 ^ 32) ∧
      (f.type.IsExact → ∃ n, w.figures? = some n ∧ n.IsCounted f) ∧
      ∀ n, w.figures? = some n → n.IsCounted f →
        (w.plainText.length ≤ f.widestNumber ↔
          n.places = 0 ∨ n.places + n.negative.toNat ≤ f.length.toNat) ∧
        (f.scale < f.length → w.plainText.length ≤ f.widestNumber)) := by
  refine ⟨fun hstring => ⟨?_, length_plainText_of_validate hcodes hlength hstring h hnull⟩,
    fun hnumeric => ⟨maxTextLength_of_isNumeric hnumeric hlength, fun ht => ?_, ?_⟩⟩
  · rw [maxTextLength, if_neg hlength, hstring]
    rfl
  · obtain ⟨hstore, -⟩ := validate_eq_ok_iff.1 h
    obtain ⟨n, hn, -, hcounted⟩ := exists_figures_of_isExact ht (holds_of_store hstore hnull)
    exact ⟨n, hn, hcounted⟩
  · intro n hn hcounted
    obtain ⟨hmantissa, hplaces⟩ := figures_of_validate hcodes hnumeric hlength h hn hcounted
    have hroom := length_text_le_iff hlength hmantissa hplaces
    rw [Value.plainText_eq hn]
    refine ⟨hroom, fun hscale => hroom.2 (.inr ?_)⟩
    have hless := UInt32.lt_iff_toNat_lt.1 hscale
    have hsign := Bool.toNat_le n.negative
    omega

/-- A price and a name that are as long as they may be. -/
theorem taken_texts_have_stated_length_price :
    let price : Field := { Field.ofType "price" .decimal with length := 4, scale := 2 }
    let name : Field := { Field.ofType "name" .string with length := 3 }
    let paid : Value := .decimal ⟨true, 1250, 2, by decide, by decide⟩
    price.validate (.string "-12.50") = .ok paid ∧ price.maxTextLength = some 6 ∧
      paid.plainText.length ≤ 6 ∧ name.validate (.string "Ann") = .ok (.string "Ann") ∧
      name.maxTextLength = some 3 ∧ (Value.string "Ann").plainText.length ≤ 3 := by
  intro price name paid
  have hpaid : price.validate (.string "-12.50") = .ok paid := eq_ok_of_toOption (by decide +kernel)
  have hname : name.validate (.string "Ann") = .ok (.string "Ann") :=
    eq_ok_of_toOption (by decide +kernel)
  obtain ⟨-, hnumber⟩ := taken_texts_have_stated_length rfl (by decide) hpaid rfl
  obtain ⟨-, hexact, hroom⟩ := hnumber rfl
  obtain ⟨n, hn, hcounted⟩ := hexact trivial
  obtain ⟨hmax, hlength⟩ := (taken_texts_have_stated_length rfl (by decide) hname rfl).1 rfl
  exact ⟨hpaid, by decide, (hroom n hn hcounted).2 (by decide), hname, hmax, hlength⟩

/-- The zero before the point has no room in a field without digits before it, and neither has
anything in a number whose digits are not counted. The room for the longest numbers of all does not
fit 32 bits. -/
theorem texts_exceed_stated_length :
    let rate (length scale : UInt32) : Field :=
      { Field.ofType "rate" .decimal with length := length, scale := scale }
    let ratio : Field := { Field.ofType "ratio" .double with length := 1 }
    let less : Value := .decimal ⟨true, 5, 2, by decide, by decide⟩
    let more : Value := .decimal ⟨false, 5, 2, by decide, by decide⟩
    ((rate 2 2).validate less = .ok less ∧ (rate 2 2).maxTextLength = some 4 ∧
        less.plainText = "-0.05") ∧
      ((rate 1 2).validate more = .ok more ∧ (rate 1 2).maxTextLength = some 3 ∧
        more.plainText = "0.05") ∧
      (ratio.validate (.string "NaN") = .ok (.double .nan) ∧ ratio.maxTextLength = some 2 ∧
        (Value.double .nan).plainText = "NaN") ∧
      (rate 4294967295 2).maxTextLength = some 1 := by
  intro rate ratio less more
  refine ⟨⟨eq_ok_of_toOption ?_, ?_, ?_⟩, ⟨eq_ok_of_toOption ?_, ?_, ?_⟩,
    ⟨eq_ok_of_toOption ?_, ?_, ?_⟩, ?_⟩ <;> decide +kernel

end Field

end TypedFilter
