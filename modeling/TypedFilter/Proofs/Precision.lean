import TypedFilter.Proofs.Constraints
import TypedFilter.Proofs.WrittenNumbers

/-!
How many digits the numbers have that a field takes. Main statement: no more places than the scale,
and no more digits than the length; how many digits stand before the point follows from the places
that the number has, not from those that it could have.
-/

namespace TypedFilter

/-- Whether a field counts all digits that a number is written with: the number is in the range of
decimals, and has no places after the 28th if the scale has room for these. -/
def Figures.IsCounted (f : Field) (n : Figures) : Prop :=
  |n.toRat| < 2 ^ 96 ∧ (n.places ≤ 28 ∨ f.scale.toNat < 28)

/-- A number is a whole multiple of its last place, and of every place after it. -/
theorem Figures.exists_toRat_eq {n : Figures} {k : Nat} (h : n.places ≤ k) :
    ∃ j : Int, n.toRat = j / pow10 k := by
  have hplaces : (pow10 n.places : ℚ) ≠ 0 := Nat.cast_ne_zero.2 (pow10_pos _).ne'
  have hrest : (pow10 (k - n.places) : ℚ) ≠ 0 := Nat.cast_ne_zero.2 (pow10_pos _).ne'
  refine ⟨(if n.negative then -(n.mantissa : Int) else n.mantissa) * pow10 (k - n.places), ?_⟩
  rw [toRat, ← pow10_mul_pow10_sub h]
  push_cast
  rw [mul_div_mul_right _ _ hrest]

namespace Field

variable {f : Field} {v w : Value} {n : Figures}

theorem length_pos (hlength : f.length ≠ 0) : 0 < f.length.toNat :=
  Nat.pos_of_ne_zero fun hzero => hlength (UInt32.toNat_inj.1 hzero)

theorem checkDigits_eq_ok_iff {d : Decimal} (hlength : f.length ≠ 0) (hd : digitsOf? v = some d) :
    f.checkDigits v = .ok () ↔ d.precision ≤ f.length.toNat ∧ d.scale ≤ f.scale.toNat := by
  rw [checkDigits, hd]
  simp only [reject]
  rw [if_neg hlength]
  split
  · exact iff_of_false (by simp) (by omega)
  split
  · exact iff_of_false (by simp) (by omega)
  · exact iff_of_true rfl (by omega)

/-- A number has as many digits as the length allows if it is below the power of ten, in units of
its last place. -/
theorem checkDigits_eq_ok_iff_figures (hlength : f.length ≠ 0) (h : v.figures? = some n)
    (hn : n.IsCounted f) :
    f.checkDigits v = .ok () ↔
      n.mantissa < pow10 f.length.toNat ∧ n.places ≤ f.scale.toNat := by
  obtain ⟨hrange, hplaces⟩ := hn
  obtain ⟨d, hd, hscale, hmantissa⟩ := Value.exists_digitsOf? h hrange
  have hprecision : d.precision ≤ f.length.toNat ↔ d.mantissa < pow10 f.length.toNat :=
    Nat.length_toDigits_le_iff (by decide) (length_pos hlength)
  rw [checkDigits_eq_ok_iff hlength hd, hprecision]
  rcases Nat.lt_or_ge 28 n.places with hlong | hfew
  · omega
  · rw [hmantissa hfew, hscale, Nat.min_eq_left hfew]

/-- What a field of whole numbers or of decimals takes is always counted. -/
theorem exists_figures_of_isExact (ht : f.type.IsExact) (h : f.type.holds w = true) :
    ∃ n, w.figures? = some n ∧ w.amount? = some n.toRat ∧ n.IsCounted f := by
  have hamount : ∃ q, w.amount? = some q := by
    cases hf : f.type with
    | integer | decimal =>
      rw [hf] at h
      have htype := Value.dataType?_of_holds rfl h
      cases w with
      | integer | decimal => exact ⟨_, rfl⟩
      | _ => cases htype
    | _ =>
      rw [hf] at ht
      exact ht.elim
  obtain ⟨q, hq⟩ := hamount
  obtain ⟨n, hn, rfl, hrange, hplaces⟩ := Value.exists_figures? hq
  exact ⟨n, hn, hq, hrange, .inl hplaces⟩

/-- The digits of a number that a field takes are within its length and its scale. -/
theorem figures_of_validate (hcodes : f.codeTable = none) (hnumeric : f.type.isNumeric = true)
    (hlength : f.length ≠ 0) (h : f.validate v = .ok w) (hn : w.figures? = some n)
    (hcounted : n.IsCounted f) :
    n.mantissa < pow10 f.length.toNat ∧ n.places ≤ f.scale.toNat := by
  have hnull : w.isNull = false := by
    cases w with
    | null => cases hn
    | _ => rfl
  have hcheck := ((check_eq_ok_iff hcodes).1 ((store_and_check_of_validate h).2 hnull)).1
  rw [if_pos hnumeric] at hcheck
  exact (checkDigits_eq_ok_iff_figures hlength hn hcounted).1 hcheck.1

/-- Of a number that a field with a length and without a code table takes, `d` places are written, no
more than the scale, so that the number is a whole multiple of the last place of the scale. All
digits together are no more than the length: the number is less than ten to what the length leaves
beside the `d` places. Whole numbers and decimals are the numbers that are written for them. -/
theorem taken_numbers_have_few_digits (hcodes : f.codeTable = none)
    (hnumeric : f.type.isNumeric = true) (hlength : f.length ≠ 0) (h : f.validate v = .ok w)
    (hnull : w.isNull = false) :
    (f.type.IsExact → ∃ n, w.figures? = some n ∧ w.amount? = some n.toRat ∧ n.IsCounted f) ∧
    ∀ n, w.figures? = some n → n.IsCounted f →
      n.places ≤ f.scale.toNat ∧ (∃ k : Int, n.toRat = k / pow10 f.scale.toNat) ∧
        |n.toRat| < 10 ^ ((f.length.toNat : Int) - n.places) := by
  obtain ⟨hstore, -⟩ := validate_eq_ok_iff.1 h
  refine ⟨fun ht => exists_figures_of_isExact ht (holds_of_store hstore hnull), ?_⟩
  intro n hn hcounted
  obtain ⟨hmantissa, hplaces⟩ := figures_of_validate hcodes hnumeric hlength h hn hcounted
  refine ⟨hplaces, Figures.exists_toRat_eq hplaces, Figures.abs_toRat_lt_iff.2 ?_⟩
  rw [← Binary.cast_pow10]
  exact Nat.cast_lt.2 hmantissa

/-- A price with all places of its scale, and a share among floating-point numbers with one. -/
theorem taken_numbers_have_few_digits_price :
    let price : Field := { Field.ofType "price" .decimal with length := 4, scale := 2 }
    let share : Field := { Field.ofType "share" .double with length := 3, scale := 1 }
    let paid : Value := .decimal ⟨true, 1250, 2, by decide, by decide⟩
    let part : Value := .double (.ofRatio .double false 999 10)
    (price.validate (.string "-12.50") = .ok paid ∧ paid.figures? = some ⟨true, 1250, 2⟩ ∧
      (∃ k : Int, (⟨true, 1250, 2⟩ : Figures).toRat = k / pow10 2) ∧
      |(⟨true, 1250, 2⟩ : Figures).toRat| < 10 ^ ((4 : Int) - 2)) ∧
    share.validate (.string "99.9") = .ok part ∧ part.figures? = some ⟨false, 999, 1⟩ ∧
      |(⟨false, 999, 1⟩ : Figures).toRat| < 10 ^ ((3 : Int) - 1) := by
  intro price share paid part
  have hpaid : price.validate (.string "-12.50") = .ok paid := eq_ok_of_toOption (by decide +kernel)
  have hpart : share.validate (.string "99.9") = .ok part := eq_ok_of_toOption (by decide +kernel)
  obtain ⟨hexact, hprice⟩ :=
    taken_numbers_have_few_digits rfl rfl (by decide) hpaid rfl
  obtain ⟨n, hn, -, hcounted⟩ := hexact trivial
  cases hn
  obtain ⟨-, hmultiple, hless⟩ := hprice _ rfl hcounted
  have hfigures : part.figures? = some ⟨false, 999, 1⟩ := by decide +kernel
  have hrange : (⟨false, 999, 1⟩ : Figures).IsCounted share :=
    ⟨by norm_num [Figures.toRat, pow10], .inr (by decide)⟩
  exact ⟨⟨hpaid, rfl, hmultiple, hless⟩, hpart, hfigures,
    ((taken_numbers_have_few_digits rfl rfl (by decide) hpart rfl).2 _ hfigures hrange).2.2⟩

/-- Places that a number does not have are free for digits before the point. -/
theorem unused_places_are_taken :
    let price : Field := { Field.ofType "price" .decimal with length := 4, scale := 2 }
    let whole : Value := .decimal ⟨false, 1234, 0, by decide, by decide⟩
    price.typeDescription = "decimal(4,2)" ∧ price.codeTable = none ∧
      price.validate (.integer .int ⟨1234, by decide⟩) = .ok whole ∧
      whole.amount? = some 1234 ∧ ¬|(1234 : ℚ)| < 10 ^ (4 - 2) := by
  intro price whole
  refine ⟨by decide +kernel, rfl, eq_ok_of_toOption (by decide +kernel), ?_, by norm_num⟩
  exact congrArg some (by norm_num [Decimal.toRat, Decimal.coefficient, pow10])

end Field

end TypedFilter
