import TypedFilter.Proofs.ShortestDigits
import TypedFilter.Proofs.WholeNumbers
import TypedFilter.Schema.Field

/-!
Numbers as they are written. Main statements: the plain text of a finite number consists of its
figures; and of a number below `2 ^ 96` a field counts these figures, as far as they stand in the
first 28 places.
-/

namespace TypedFilter

/-- A number as it is written: its digits, and how many of them stand after the point. -/
structure Figures where
  negative : Bool
  mantissa : Nat
  places : Nat
  deriving DecidableEq, Repr

/-! ### Rows of digits -/

theorem length_pointed (cs : List Char) (places : Nat) :
    (pointed cs places).length =
      if places = 0 then cs.length else max (places + 1) cs.length + 1 := by
  rw [pointed]
  split
  · rfl
  · have hlen := length_padLeft (places + 1) cs
    simp only [List.length_append, List.length_cons, List.length_take, List.length_drop]
    omega

/-- Zeros at the end of a number are its powers of ten. -/
theorem natDigits_mul_pow10 {n : Nat} (h : 0 < n) (k : Nat) :
    natDigits (n * pow10 k) = natDigits n ++ List.replicate k '0' := by
  induction k with
  | zero => simp [pow10]
  | succ k ih =>
    have hpos : 0 < n * pow10 k := Nat.mul_pos h (pow10_pos k)
    have happend := Nat.toDigits_append_toDigits (by decide : 1 < 10) hpos (by decide : 0 < 10)
    rw [List.replicate_succ', ← List.append_assoc, ← ih, pow10_succ, ← Nat.mul_assoc, Nat.mul_comm _ 10]
    exact happend.symm

namespace Figures

variable {n : Figures}

/-- The number. -/
def toRat (n : Figures) : ℚ :=
  (if n.negative then -(n.mantissa : ℚ) else n.mantissa) / pow10 n.places

/-- The text of the number: a sign, if it is below zero, and its digits with the point. -/
def text (n : Figures) : String :=
  String.ofList ((if n.negative then ['-'] else []) ++ pointed (natDigits n.mantissa) n.places)

theorem abs_toRat (n : Figures) : |n.toRat| = n.mantissa / pow10 n.places := by
  rw [toRat, abs_div, Nat.abs_cast]
  split
  · rw [abs_neg, Nat.abs_cast]
  · rw [Nat.abs_cast]

/-- The digits in units of the last place. -/
theorem abs_toRat_lt_iff {k : Int} :
    |n.toRat| < 10 ^ (k - n.places) ↔ (n.mantissa : ℚ) < 10 ^ k := by
  have hpow : (0 : ℚ) < pow10 n.places := Nat.cast_pos.2 (pow10_pos _)
  rw [abs_toRat, div_lt_iff₀ hpow, Binary.cast_pow10, ← zpow_add₀ (by decide), Int.sub_add_cancel]

theorem length_text (n : Figures) : n.text.length = n.negative.toNat +
    if n.places = 0 then (natDigits n.mantissa).length
    else max (n.places + 1) (natDigits n.mantissa).length + 1 := by
  rw [text, String.length_ofList, List.length_append, length_pointed]
  cases n.negative <;> rfl

end Figures

/-! ### Reading numbers -/

namespace Decimal

/-- Digits that have no room round the mantissa. -/
theorem exists_finish? (negative : Bool) {c : Char} {ds : List Char} {m scale : Nat}
    (h : (c :: ds).all Char.isDigit = true) (hm : m + 1 < pow2 96) (hs : scale ≤ 28) :
    ∃ d, finish? negative m scale (c :: ds) = some d ∧ d.scale = scale := by
  have hall : ((c :: ds).all fun c => c.isDigit || c = '_') = true :=
    List.all_eq_true.2 fun c hc => Bool.or_eq_true_iff.2 (.inl (List.all_eq_true.1 h c hc))
  rw [List.all_cons, Bool.and_eq_true] at h
  rw [finish?, if_pos hall, List.find?_cons_of_pos h.1]
  dsimp only
  rw [roundOff?]
  split
  · obtain ⟨d, hd, -, -, hscale⟩ := ofParts?_of_lt (negative && m != 0) (Nat.lt_of_succ_lt hm) hs
    exact ⟨d, hd, hscale⟩
  · obtain ⟨d, hd, -, -, hscale⟩ := ofParts?_of_lt (negative && m + 1 != 0) hm hs
    exact ⟨d, hd, hscale⟩

/-- Of more than 28 places the first 28 are read. -/
theorem exists_readFrom?_places (negative : Bool) {ds : List Char} {m scale : Nat}
    (h : ds.all Char.isDigit = true) (hlt : Nat.ofDigitChars 10 ds m < pow2 96)
    (hscale : scale ≤ 27) (hlong : 28 < scale + ds.length) :
    ∃ d, readFrom? negative true true m scale ds = some d ∧ d.scale = 28 := by
  induction ds generalizing m scale with
  | nil =>
    rw [List.length_nil] at hlong
    omega
  | cons c ds ih =>
    rw [List.all_cons, Bool.and_eq_true] at h
    rw [Nat.ofDigitChars_cons] at hlt
    rw [List.length_cons] at hlong
    generalize hlonger : 10 * m + (c.toNat - '0'.toNat) = longer at hlt
    have hle := le_ofDigitChars ds longer
    rw [readFrom?]
    simp only [h.1, if_true, ofDigits_singleton, hlonger, Bool.true_and, decide_eq_true_eq]
    rw [if_neg (by omega)]
    split
    -- With this digit 28 places are read: the one after it decides how the last of them is rounded.
    · cases ds with
      | nil =>
        rw [List.length_nil] at hlong
        omega
      | cons d ds =>
        have hdigit : d ≠ '_' := by
          rintro rfl
          exact absurd (List.all_eq_true.1 h.2 '_' (List.mem_cons_self ..)) (by decide)
        have hnext := le_ofDigitChars ds (10 * longer + (d.toNat - '0'.toNat))
        rw [Nat.ofDigitChars_cons] at hlt
        have hroom : 10 ≤ pow2 96 := by decide
        rw [finishPlaces?, if_neg (by simp [hdigit])]
        exact exists_finish? negative h.2 (by omega) (Nat.le_refl 28)
    · exact ih h.2 hlt (by omega) (by omega)

end Decimal

namespace Figures

variable {n : Figures}

/-- The text of a number whose digits have room is read as its figures, up to the 28th place. -/
theorem exists_ofChars? (hm : n.mantissa < pow2 96) :
    ∃ d, Decimal.ofChars? n.text.toList = some d ∧ d.scale = min n.places 28 ∧
      (n.places ≤ 28 → d.mantissa = n.mantissa) := by
  rw [text, String.toList_ofList, Decimal.ofChars?_sign]
  rcases Nat.lt_or_ge 28 n.places with hlong | hplaces
  · have hpoint : n.places ≠ 0 := by omega
    obtain ⟨cs, ds, heq, hne, hlen, hcs, hds, hval⟩ := pointed_eq n.mantissa hpoint
    rw [ofDigits, Nat.ofDigitChars_append] at hval
    have hle : ofDigits cs ≤ n.mantissa := hval ▸ le_ofDigitChars ds (ofDigits cs)
    obtain ⟨d, hd, hscale⟩ := Decimal.exists_readFrom?_places n.negative hds (hval.symm ▸ hm)
      (Nat.zero_le 27) (by omega)
    rw [heq, Decimal.readFrom?_point _ _ hne hcs (Nat.lt_of_le_of_lt hle hm)]
    exact ⟨d, hd, by omega, fun h => by omega⟩
  · obtain ⟨d, hd, -, hmantissa, hscale⟩ :=
      Decimal.ofParts?_of_lt (n.negative && n.mantissa != 0) hm hplaces
    rw [Decimal.readFrom?_pointed n.negative hm hplaces]
    exact ⟨d, hd, by omega, fun _ => hmantissa⟩

end Figures

/-! ### Figures of values -/

/-- The figures of a decimal. -/
def Decimal.figures (d : Decimal) : Figures :=
  ⟨d.negative, d.mantissa, d.scale⟩

theorem Decimal.toRat_figures (d : Decimal) : d.figures.toRat = d.toRat := by
  rw [Figures.toRat, toRat, figures, coefficient]
  congr 1
  split <;> simp

namespace Binary

variable {f : Format} {x : Binary f} {n : Figures}

/-- The figures of a finite number: those of the shortest text that is read as it. -/
def figures? : Binary f → Option Figures
  | .finite negative m e _ =>
    let d := if m = 0 then ⟨0, 0⟩ else shortest .up f m e
    some ⟨negative, d.digits * pow10 d.exponent.toNat, (-d.exponent).toNat⟩
  | _ => none

/-- The text of digits at their place. -/
theorem positionalText_eq {d : Digits} (h : d.exponent ≤ 0 ∨ 0 < d.digits) :
    positionalText false d =
      pointed (natDigits (d.digits * pow10 d.exponent.toNat)) (-d.exponent).toNat := by
  rw [positionalText]
  split
  · rename_i hexponent
    have hplaces : (-d.exponent).toNat = 0 := by omega
    rw [pointed, if_pos hplaces]
    rcases h with h | h
    · have hzero : d.exponent.toNat = 0 := by omega
      rw [hzero]
      simp [pow10]
    · rw [natDigits_mul_pow10 h]
      simp
  · have hzero : d.exponent.toNat = 0 := by omega
    rw [hzero]
    simp [pow10]

theorem text_eq (hmin : -1074 ≤ f.minExponent) (hmax : f.maxExponent + f.precision ≤ 1024)
    (h : x.figures? = some n) : x.text = n.text ∧ (0 < n.places → n.mantissa < pow2 96) := by
  cases x with
  | nan | infinite => cases h
  | finite negative m e hcanonical =>
    cases h
    generalize hd : (if m = 0 then (⟨0, 0⟩ : Digits) else shortest .up f m e) = d
    have hbounds : (d.exponent ≤ 0 ∨ 0 < d.digits) ∧ d.digits < pow2 96 := by
      split at hd
      · rw [← hd]
        exact ⟨.inl (Int.le_refl 0), pow2_pos 96⟩
      · rename_i hm
        obtain ⟨hpos, hlt⟩ := shortest_digits .up hmin hmax hcanonical (Nat.pos_of_ne_zero hm)
        rw [← hd]
        exact ⟨.inr hpos, hlt⟩
    obtain ⟨hdigits, hlt⟩ := hbounds
    refine ⟨?_, fun hplaces => ?_⟩
    · show String.ofList (_ ++ positionalText false
        (if m = 0 then ⟨0, 0⟩ else shortest .up f m e)) = _
      rw [hd, positionalText_eq hdigits]
      rfl
    · dsimp only at hplaces ⊢
      have hzero : d.exponent.toNat = 0 := by omega
      rw [hzero]
      exact (Nat.mul_one _).trans_lt hlt

end Binary

namespace Value

variable {v : Value} {n : Figures} {q : ℚ}

/-- The figures that a finite number is written with. -/
def figures? : Value → Option Figures
  | .integer _ n => some n.toDecimal.figures
  | .float x => x.figures?
  | .double x => x.figures?
  | .decimal d => some d.figures
  | _ => none

/-- A whole number or a decimal is the number that it is written as, and always in range. -/
theorem exists_figures? (h : v.amount? = some q) :
    ∃ n, v.figures? = some n ∧ n.toRat = q ∧ |n.toRat| < 2 ^ 96 ∧ n.places ≤ 28 := by
  have hrange (d : Decimal) : |d.figures.toRat| < 2 ^ 96 ∧ d.figures.places ≤ 28 := by
    have hpow : (1 : ℚ) ≤ pow10 d.scale := Nat.one_le_cast.2 (pow10_pos _)
    refine ⟨?_, d.scale_le⟩
    calc |d.figures.toRat| = d.mantissa / pow10 d.scale := Figures.abs_toRat _
      _ ≤ d.mantissa := div_le_self (Nat.cast_nonneg _) hpow
      _ < 2 ^ 96 := by exact_mod_cast d.mantissa_lt
  cases v with
  | integer w a =>
    cases h
    exact ⟨_, rfl, (Decimal.toRat_figures _).trans (Decimal.toRat_ofInt a.natAbs_lt), hrange _⟩
  | decimal d =>
    cases h
    exact ⟨_, rfl, d.toRat_figures, hrange d⟩
  | _ => cases h

/-- The plain text of a number consists of its figures. -/
theorem plainText_eq (h : v.figures? = some n) : v.plainText = n.text := by
  cases v with
  | integer w a =>
    cases h
    exact text_integer a
  | float x => exact (Binary.text_eq (by decide) (by decide) h).1
  | double x => exact (Binary.text_eq (by decide) (by decide) h).1
  | decimal d =>
    cases h
    rfl
  | _ => cases h

/-- The digits of a number have room in the mantissa of a decimal if it is in range. -/
theorem mantissa_lt (h : v.figures? = some n) (hn : |n.toRat| < 2 ^ 96) : n.mantissa < pow2 96 := by
  have hplaced : 0 < n.places → n.mantissa < pow2 96 := by
    cases v with
    | integer w a =>
      cases h
      exact fun _ => a.toDecimal.mantissa_lt
    | float x => exact (Binary.text_eq (by decide) (by decide) h).2
    | double x => exact (Binary.text_eq (by decide) (by decide) h).2
    | decimal d =>
      cases h
      exact fun _ => d.mantissa_lt
    | _ => cases h
  -- Without places the zeros that a floating-point number ends with count, but they are in range.
  rcases Nat.eq_zero_or_pos n.places with hzero | hpos
  · rw [Figures.abs_toRat, hzero, show pow10 0 = 1 from rfl, Nat.cast_one, div_one] at hn
    exact_mod_cast hn
  · exact hplaced hpos

/-- The digits that a field counts are those that the number is written with, up to the 28th
place. -/
theorem exists_digitsOf? (h : v.figures? = some n) (hn : |n.toRat| < 2 ^ 96) :
    ∃ d, Field.digitsOf? v = some d ∧ d.scale = min n.places 28 ∧
      (n.places ≤ 28 → d.mantissa = n.mantissa) := by
  have hm := mantissa_lt h hn
  cases v with
  | integer w a =>
    cases h
    exact ⟨a.toDecimal, rfl, (Nat.min_eq_left a.toDecimal.scale_le).symm, fun _ => rfl⟩
  | float x =>
    rw [Field.digitsOf?, (Binary.text_eq (by decide) (by decide) h).1]
    exact Figures.exists_ofChars? hm
  | double x =>
    rw [Field.digitsOf?, (Binary.text_eq (by decide) (by decide) h).1]
    exact Figures.exists_ofChars? hm
  | decimal d =>
    cases h
    exact ⟨d, rfl, (Nat.min_eq_left d.scale_le).symm, fun _ => rfl⟩
  | _ => cases h

end Value

end TypedFilter
