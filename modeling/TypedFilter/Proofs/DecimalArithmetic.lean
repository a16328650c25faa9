import Mathlib.Tactic.Ring
import TypedFilter.Decimal.Arithmetic
import TypedFilter.Proofs.DecimalText
import TypedFilter.Proofs.PlainTexts
import TypedFilter.Proofs.WholeNumbers

/-!
Arithmetic of decimals where the result is a whole number. Main statements: a sum or a product that
is a whole number in the range of decimals is found exactly; the quotient of two whole numbers of up
to 64 bits, cut off after the point, is their quotient; and so is their remainder.
-/

namespace TypedFilter

/-! ### Rounded quotients -/

/-- A rounded quotient is at most half a unit above the quotient. -/
theorem two_mul_roundDiv_le (tie : Tie) (num : Nat) {den : Nat} (h : 0 < den) :
    2 * (roundDiv tie num den * den) ≤ 2 * num + den := by
  have hdiv : den * (num / den) + num % den = num := Nat.div_add_mod num den
  have hmod : num % den < den := Nat.mod_lt num h
  have hup : (num / den + 1) * den = den * (num / den) + den := by ring
  have hdown : num / den * den = den * (num / den) := Nat.mul_comm _ _
  unfold roundDiv
  cases hcompare : compare (2 * (num % den)) den with
  | lt =>
    dsimp only
    omega
  | gt =>
    rw [Nat.compare_eq_gt] at hcompare
    dsimp only
    omega
  | eq =>
    rw [Nat.compare_eq_eq] at hcompare
    cases tie with
    | up =>
      dsimp only
      omega
    | even =>
      rcases Nat.mod_two_eq_zero_or_one (num / den) with heven | hodd
      · simp only [heven, Nat.add_zero]
        omega
      · simp only [hodd]
        omega

/-- A quotient rounded at some place has the whole part of the quotient, where the place is fine
enough to tell the quotient from the next whole number, or where the quotient comes out even. -/
theorem roundDiv_div_pow10 (tie : Tie) {num den places : Nat} (hden : 0 < den)
    (h : num * pow10 places % den = 0 ∨ den < 2 * pow10 places) :
    roundDiv tie (num * pow10 places) den / pow10 places = num / den := by
  have hpow : 0 < pow10 places := pow10_pos places
  rcases h with heven | hfine
  · obtain ⟨q, hq⟩ := Nat.dvd_of_mod_eq_zero heven
    rw [hq, Nat.mul_comm den q, roundDiv_exact tie q den hden]
    have hsame : num * pow10 places / (den * pow10 places) = num / den :=
      Nat.mul_div_mul_right num den hpow
    rw [← hsame, hq, ← Nat.div_div_eq_div_mul, Nat.mul_div_cancel_left q hden]
  · refine Nat.div_eq_of_lt_le ?_ ?_
    · have hle : num / den * pow10 places ≤ num * pow10 places / den := by
        rw [Nat.le_div_iff_mul_le hden, Nat.mul_right_comm]
        exact Nat.mul_le_mul_right _ (Nat.div_mul_le_self num den)
      exact Nat.le_trans hle (le_roundDiv tie _ _)
    · have hround := two_mul_roundDiv_le tie (num * pow10 places) hden
      have hnum : num + 1 ≤ (num / den + 1) * den := Nat.lt_mul_of_div_lt (Nat.lt_succ_self _) hden
      have hscaled : (num + 1) * pow10 places ≤ (num / den + 1) * den * pow10 places :=
        Nat.mul_le_mul_right _ hnum
      rw [Nat.add_mul, Nat.one_mul, Nat.mul_right_comm] at hscaled
      refine Nat.lt_of_mul_lt_mul_right (a := den) ?_
      omega

namespace Decimal

variable {a b d : Decimal} {negative : Bool} {num den n places : Nat}

/-! ### Signs -/

/-- The whole number with a sign and an amount. -/
def signed (negative : Bool) (n : Nat) : Int :=
  if negative then -(n : Int) else n

theorem coefficient_eq_signed (d : Decimal) : d.coefficient = signed d.negative d.mantissa := rfl

theorem signed_mul (negative : Bool) (m n : Nat) :
    signed negative (m * n) = signed negative m * n := by
  cases negative <;> simp [signed]

theorem signed_mul_signed (s t : Bool) (m n : Nat) :
    signed s m * signed t n = signed (s != t) (m * n) := by
  cases s <;> cases t <;> simp [signed]

/-- The sign of zero does not count. -/
theorem signed_congr {s t : Bool} (h : s = t ∨ n = 0) : signed s n = signed t n := by
  rcases h with rfl | rfl
  · rfl
  · cases s <;> cases t <;> rfl

theorem natAbs_signed (negative : Bool) (n : Nat) : (signed negative n).natAbs = n := by
  cases negative <;> simp [signed]

theorem signed_natAbs (n : Int) : signed (n < 0) n.natAbs = n := by
  rw [signed]
  split <;> rename_i h <;> simp only [decide_eq_true_eq] at h <;> omega

theorem negative_of_signed {m : Int} (h : signed negative n = m) (hm : m ≠ 0) :
    negative = decide (m < 0) := by
  cases negative <;> simp only [signed, if_true, Bool.false_eq_true, if_false] at h <;>
    simp only [Bool.false_eq, Bool.true_eq, decide_eq_true_eq, decide_eq_false_iff_not] <;> omega

theorem toRat_of_mantissa (h : d.mantissa = n * pow10 d.scale) :
    d.toRat = (signed d.negative n : Int) := by
  rw [toRat_eq_iff, coefficient_eq_signed, h, signed_mul]

theorem toRat_of_isZero (h : d.isZero = true) : d.toRat = 0 := by
  have hm : d.mantissa = 0 := eq_of_beq h
  have hzero : d.coefficient = 0 := by
    rw [← Int.natAbs_eq_zero, natAbs_coefficient, hm]
  rw [toRat, hzero, Int.cast_zero, zero_div]

theorem toRat_unsignZero (d : Decimal) : d.unsignZero.toRat = d.toRat := by
  rw [toRat, coefficient_unsignZero]
  rfl

theorem toRat_neg (d : Decimal) : d.neg.toRat = -d.toRat := by
  have hneg : d.neg.coefficient = -d.coefficient := by
    rw [coefficient_eq_signed, coefficient_eq_signed, signed, signed, neg]
    cases d.negative <;> simp
  rw [toRat, toRat, hneg, Int.cast_neg, neg_div]
  rfl

/-! ### The nearest decimal -/

/-- The nearest decimal has as many places as there are to be, or as many as have room. -/
theorem exists_nearest? (negative : Bool) (hfits : roundDiv .even num den < pow2 96)
    (hplaces : places ≤ 28) :
    ∃ d, nearest? negative num den places = some d ∧ d.negative = negative ∧
      d.mantissa = roundDiv .even (num * pow10 d.scale) den ∧
      (d.scale = places ∨ pow2 96 ≤ roundDiv .even (num * pow10 (d.scale + 1)) den) := by
  induction places with
  | zero =>
    obtain ⟨d, hd, hneg, hm, hs⟩ := ofParts?_of_lt negative hfits (Nat.zero_le 28)
    have hone : num * pow10 0 = num := Nat.mul_one num
    exact ⟨d, hd, hneg, by rw [hm, hs, hone], .inl hs⟩
  | succ places ih =>
    rw [nearest?]
    by_cases hroom : roundDiv .even (num * pow10 (places + 1)) den < pow2 96
    · obtain ⟨d, hd, hneg, hm, hs⟩ := ofParts?_of_lt negative hroom hplaces
      exact ⟨d, by rw [hd]; rfl, hneg, by rw [hm, hs], .inl hs⟩
    · obtain ⟨d, hd, hneg, hm, hfull⟩ := ih (Nat.le_of_succ_le hplaces)
      have hnone : ofParts? negative (roundDiv .even (num * pow10 (places + 1)) den)
          (places + 1) = none := dif_neg fun h => hroom h.1
      refine ⟨d, by rw [hnone, hd]; rfl, hneg, hm, .inr ?_⟩
      rcases hfull with hs | hfull
      · rw [hs]
        exact Nat.le_of_not_lt hroom
      · exact hfull

/-- A whole number is its own nearest decimal, whatever places it is given. -/
theorem exists_nearest?_whole (negative : Bool) (hden : 0 < den) (hn : n < pow2 96)
    (hplaces : places ≤ 28) :
    ∃ d, nearest? negative (n * den) den places = some d ∧ d.negative = negative ∧
      d.mantissa = n * pow10 d.scale := by
  have hfits : roundDiv .even (n * den) den < pow2 96 := by rwa [roundDiv_exact .even n den hden]
  obtain ⟨d, hd, hneg, hm, -⟩ := exists_nearest? negative hfits hplaces
  refine ⟨d, hd, hneg, ?_⟩
  rw [hm, Nat.mul_right_comm, roundDiv_exact .even _ den hden]

/-! ### Sums and products that are whole numbers -/

theorem exists_nearest?_signed {m : Int} (hden : 0 < den) (hm : m.natAbs < pow2 96)
    (hplaces : places ≤ 28) (hnegative : m ≠ 0 → negative = decide (m < 0)) :
    ∃ d, nearest? negative (m.natAbs * den) den places = some d ∧ d.toRat = m := by
  obtain ⟨d, hd, hneg, hmantissa⟩ := exists_nearest?_whole negative hden hm hplaces
  refine ⟨d, hd, ?_⟩
  rw [toRat_of_mantissa hmantissa, hneg]
  have hsign : negative = decide (m < 0) ∨ m.natAbs = 0 := by
    by_cases hzero : m = 0
    · exact .inr (Int.natAbs_eq_zero.2 hzero)
    · exact .inl (hnegative hzero)
  rw [signed_congr hsign, signed_natAbs]

/-- The mantissa that a decimal has with more places. -/
theorem coefficient_mul_pow10 (h : d.scale ≤ places) :
    ((d.coefficient * pow10 (places - d.scale) : Int) : ℚ) = d.toRat * pow10 places := by
  have hne : (pow10 d.scale : ℚ) ≠ 0 := Nat.cast_ne_zero.2 (pow10_pos d.scale).ne'
  rw [toRat, ← pow10_mul_pow10_sub h]
  push_cast
  rw [← mul_assoc, div_mul_cancel₀ _ hne]

/-- A sum that is a whole number in the range of decimals is exact. -/
theorem exists_add? {m : Int} (h : a.toRat + b.toRat = m) (hm : m.natAbs < pow2 96) :
    ∃ d, a.add? b = some d ∧ d.toRat = m := by
  rw [add?]
  split
  · rename_i hzero
    rw [toRat_of_isZero hzero, zero_add] at h
    exact ⟨b, rfl, h⟩
  split
  · rename_i hzero
    rw [toRat_of_isZero hzero, add_zero] at h
    exact ⟨a, rfl, h⟩
  have hplaces : max a.scale b.scale ≤ 28 := Nat.max_le.2 ⟨a.scale_le, b.scale_le⟩
  have hpow : (0 : Int) < pow10 (max a.scale b.scale) := Int.natCast_pos.2 (pow10_pos _)
  have hsum : a.coefficient * pow10 (max a.scale b.scale - a.scale) +
      b.coefficient * pow10 (max a.scale b.scale - b.scale) = m * pow10 (max a.scale b.scale) := by
    have hrat : ((m * pow10 (max a.scale b.scale) : Int) : ℚ) =
        a.toRat * pow10 (max a.scale b.scale) + b.toRat * pow10 (max a.scale b.scale) := by
      rw [← add_mul, h]
      push_cast
      rfl
    rw [← coefficient_mul_pow10 (Nat.le_max_left a.scale b.scale),
      ← coefficient_mul_pow10 (Nat.le_max_right a.scale b.scale)] at hrat
    exact_mod_cast hrat.symm
  simp only [hsum, Int.natAbs_mul, Int.natAbs_natCast]
  refine exists_nearest?_signed (pow10_pos _) hm hplaces fun _ => ?_
  refine decide_eq_decide.2 ?_
  rw [mul_neg_iff]
  omega

/-- So is a difference. -/
theorem exists_sub? {m : Int} (h : a.toRat - b.toRat = m) (hm : m.natAbs < pow2 96) :
    ∃ d, a.sub? b = some d ∧ d.toRat = m := by
  rw [sub?]
  split
  · rename_i hzero
    rw [Bool.and_eq_true] at hzero
    rw [toRat_of_isZero hzero.1, toRat_of_isZero hzero.2, sub_zero] at h
    exact ⟨b, rfl, (toRat_of_isZero hzero.2).trans h⟩
  · exact exists_add? (by rw [toRat_neg, ← sub_eq_add_neg, h]) hm

/-- Signs and amounts of two decimals whose product is a whole number. -/
theorem signed_mantissas {m : Int} (h : a.toRat * b.toRat = m) :
    signed (a.negative != b.negative) (a.mantissa * b.mantissa) =
      m * pow10 (a.scale + b.scale) := by
  have hne : (pow10 a.scale * pow10 b.scale : ℚ) ≠ 0 :=
    mul_ne_zero (Nat.cast_ne_zero.2 (pow10_pos _).ne') (Nat.cast_ne_zero.2 (pow10_pos _).ne')
  rw [toRat, toRat, div_mul_div_comm, div_eq_iff hne] at h
  rw [← signed_mul_signed, ← coefficient_eq_signed, ← coefficient_eq_signed, pow10_add]
  exact_mod_cast h

/-- A whole product of two short mantissas has few places. -/
theorem not_many_places (hzero : ¬(a.isZero || b.isZero) = true)
    (hshort : a.mantissa < pow2 32 ∧ b.mantissa < pow2 32)
    (h : a.mantissa * b.mantissa = n * pow10 places) : ¬47 < places := by
  intro hmany
  have hlt : a.mantissa * b.mantissa < pow2 32 * pow2 32 := Nat.mul_lt_mul'' hshort.1 hshort.2
  have hpow : pow10 48 ≤ pow10 places := pow10_le_pow10 hmany
  have hbounds : pow2 32 * pow2 32 ≤ pow10 48 := by decide
  have hpos : 0 < n := by
    refine Nat.pos_of_ne_zero fun hn => hzero ?_
    rw [hn, Nat.zero_mul, Nat.mul_eq_zero] at h
    simpa [isZero] using h
  have hle : pow10 places ≤ n * pow10 places := Nat.le_mul_of_pos_left _ hpos
  omega

/-- A product that is a whole number in the range of decimals is exact. -/
theorem exists_mul? {m : Int} (h : a.toRat * b.toRat = m) (hm : m.natAbs < pow2 96) :
    ∃ d, a.mul? b = some d ∧ d.toRat = m := by
  have hsigned := signed_mantissas h
  have hpow : (0 : Int) < pow10 (a.scale + b.scale) := Int.natCast_pos.2 (pow10_pos _)
  have hmantissas : a.mantissa * b.mantissa = m.natAbs * pow10 (a.scale + b.scale) := by
    rw [← natAbs_signed (a.negative != b.negative) (a.mantissa * b.mantissa), hsigned,
      Int.natAbs_mul, Int.natAbs_natCast]
  have hnegative : m ≠ 0 → (a.negative != b.negative) = decide (m < 0) := by
    refine negative_of_signed (n := m.natAbs) ?_
    rw [hmantissas, signed_mul] at hsigned
    exact Int.eq_of_mul_eq_mul_right hpow.ne' hsigned
  obtain ⟨d, hd, hrat⟩ := exists_nearest?_signed (pow10_pos (a.scale + b.scale)) hm
    (Nat.min_le_left 28 (a.scale + b.scale)) hnegative
  rw [mul?]
  simp only [hmantissas, hd]
  split
  · rename_i hzero
    refine ⟨zero, rfl, ?_⟩
    rw [Bool.or_eq_true] at hzero
    rw [← h]
    rcases hzero with hzero | hzero
    · rw [toRat_of_isZero hzero, zero_mul, toRat_of_isZero rfl]
    · rw [toRat_of_isZero hzero, mul_zero, toRat_of_isZero rfl]
  rename_i hzero
  split
  · split
    · rename_i hshort hmany
      exact absurd hmany (not_many_places hzero hshort hmantissas)
    · exact ⟨d.unsignZero, rfl, (toRat_unsignZero d).trans hrat⟩
  · exact ⟨d, rfl, hrat⟩

/-! ### Places of a quotient -/

/-- Where no digit fits behind a mantissa, none is asked for or not even one has room. -/
theorem of_room_eq_zero {mantissa most : Nat} (h : room mantissa most = 0) :
    most = 0 ∨ pow2 96 ≤ mantissa * 10 := by
  induction most with
  | zero => exact .inl rfl
  | succ most ih =>
    rw [room] at h
    split at h
    · cases h
    · rename_i hfull
      right
      rcases ih h with rfl | hfull'
      · exact Nat.le_of_not_lt hfull
      · exact hfull'

/-- A quotient has all its places, or comes out even, or has no room for one more digit. -/
theorem placesLeft_spec {den total left pending k : Nat}
    (h : placesLeft num den total left pending = k) :
    k = 0 ∨ num * pow10 (total - k) % den = 0 ∨ pow2 96 ≤ num * pow10 (total - k) / den * 10 := by
  fun_induction placesLeft num den total left pending with
  | case1 => exact .inl h.symm
  | case2 left pending ih => exact ih h
  | case3 left raised run hrun =>
    subst h
    by_cases heven : raised % den = 0
    · exact .inr (.inl heven)
    · simp only [run, if_neg heven] at hrun
      rcases of_room_eq_zero hrun with hnone | hfull
      · omega
      · exact .inr (.inr hfull)
  | case4 left raised run next hrun ih => exact ih h

/-- Where 96 bits have no room for one more place of a quotient, the places tell it from the next
whole number. -/
theorem lt_of_no_room {den scale : Nat} (hnum : num < pow2 64) (hden : 0 < den)
    (h : pow2 96 ≤ num * pow10 (scale + 1) / den + 1) : den < 2 * pow10 scale := by
  have hquotient : pow2 96 - 1 ≤ num * pow10 (scale + 1) / den := Nat.sub_le_of_le_add h
  have hmul : (pow2 96 - 1) * den ≤ num * pow10 (scale + 1) :=
    (Nat.le_div_iff_mul_le hden).1 hquotient
  have hle : num * pow10 (scale + 1) ≤ pow2 64 * pow10 (scale + 1) :=
    Nat.mul_le_mul_right _ (Nat.le_of_lt hnum)
  have hbits : pow2 96 - 1 = 79228162514264337593543950335 := by decide
  have hword : pow2 64 = 18446744073709551616 := by decide
  have hpos := pow10_pos scale
  rw [hbits, pow10_succ] at hmul
  rw [hword, pow10_succ] at hle
  omega

/-- With these places, or with as many of them as have room, the whole part of a quotient of whole
numbers of up to 64 bits is not rounded up. -/
theorem roundDiv_div_of_placesLeft {den scale : Nat} (hnum : num < pow2 64) (hden : 0 < den)
    (hlong : den < pow2 64) (h : scale = 28 - placesLeft num den 28 28 0 ∨
      pow2 96 ≤ roundDiv .even (num * pow10 (scale + 1)) den) :
    roundDiv .even (num * pow10 scale) den / pow10 scale = num / den := by
  refine roundDiv_div_pow10 .even hden ?_
  rcases h with hscale | hfull
  · rcases placesLeft_spec (rfl : placesLeft num den 28 28 0 = _) with hall | heven | hroom
    · right
      rw [hscale, hall]
      exact Nat.lt_trans hlong (by decide)
    · rw [← hscale] at heven
      exact .inl heven
    · rw [← hscale] at hroom
      refine .inr (lt_of_no_room hnum hden (Nat.le_succ_of_le (Nat.le_trans hroom ?_)))
      rw [pow10_succ, ← Nat.mul_assoc, Nat.le_div_iff_mul_le hden, Nat.mul_right_comm]
      exact Nat.mul_le_mul_right 10 (Nat.div_mul_le_self _ den)
  · exact .inr (lt_of_no_room hnum hden (Nat.le_trans hfull (roundDiv_le .even _ den)))

/-! ### Quotients and remainders of whole numbers -/

/-- Whether a decimal, cut off after the point, is the whole number with a sign and an amount. -/
structure CutsTo (negative : Bool) (n : Nat) (d : Decimal) : Prop where
  whole : d.mantissa / pow10 d.scale = n
  sign : d.negative = negative ∨ d.mantissa = 0

theorem signed_tdiv (negative : Bool) (m n : Nat) :
    (signed negative m).tdiv n = signed negative (m / n) := by
  cases negative <;> simp [signed, Int.neg_tdiv]

theorem CutsTo.signed_eq (h : CutsTo negative n d) : signed d.negative n = signed negative n :=
  signed_congr (h.sign.imp_right fun hzero => by rw [← h.whole, hzero, Nat.zero_div])

theorem CutsTo.truncate_eq (h : CutsTo negative n d) : d.truncate = signed negative n := by
  rw [truncate, coefficient_eq_signed, signed_tdiv, h.whole, h.signed_eq]

theorem CutsTo.unsignZero (h : CutsTo negative n d) : CutsTo negative n d.unsignZero := by
  refine ⟨h.whole, ?_⟩
  by_cases hzero : d.mantissa = 0
  · exact .inr hzero
  · left
    rw [← h.sign.resolve_right hzero]
    simp [Decimal.unsignZero, hzero]

theorem CutsTo.dropRun (h : CutsTo negative n d) (count : Nat) :
    CutsTo negative n (d.dropRun count) := by
  rw [Decimal.dropRun]
  split
  · rename_i hrun
    refine ⟨?_, ?_⟩
    · dsimp only
      rw [Nat.div_div_eq_div_mul, pow10_mul_pow10_sub hrun.1, h.whole]
    · exact h.sign.imp_right fun hzero => by dsimp only; rw [hzero, Nat.zero_div]
  · exact h

theorem CutsTo.trimQuotient (h : CutsTo negative n d) : CutsTo negative n d.trimQuotient := by
  have height : ∀ {d : Decimal}, CutsTo negative n d →
      CutsTo negative n (if d.mantissa % pow2 32 = 0 then d.dropRun 8 else d) := by
    intro d h
    split
    · exact h.dropRun 8
    · exact h
  exact (((height (height (height h))).dropRun 4).dropRun 2).dropRun 1

theorem exists_unsignedZero? (negative : Bool) (hn : n < pow2 64) :
    ∃ d, unsignedZero? negative n 0 = some d ∧ d.mantissa = n ∧ d.scale = 0 ∧
      (d.negative = negative ∨ n = 0) := by
  have hlt : n < pow2 96 := Nat.lt_of_lt_of_le hn (pow2_le_pow2 (by decide))
  obtain ⟨d, hd, hneg, hm, hs⟩ :=
    ofParts?_of_lt (negative && n != 0) hlt (Nat.zero_le 28)
  refine ⟨d, hd, hm, hs, ?_⟩
  by_cases hzero : n = 0
  · exact .inr hzero
  · exact .inl (by simp [hneg, hzero])

theorem exists_div?_mantissas (ha : a.scale = 0) (hb : b.scale = 0) (hshort : a.mantissa < pow2 64)
    (hlong : b.mantissa < pow2 64) (hzero : b.isZero = false) :
    ∃ d, a.div? b = some d ∧
      CutsTo (a.negative != b.negative) (a.mantissa / b.mantissa) d ∧
      (b.mantissa ∣ a.mantissa → d.mantissa = a.mantissa / b.mantissa * pow10 d.scale) := by
  have hpos : 0 < b.mantissa := Nat.pos_of_ne_zero (ne_of_beq_false hzero)
  rw [div?]
  simp only [ha, hb, hzero, Bool.false_eq_true, if_false]
  split
  · rename_i hnone
    have hm : a.mantissa = 0 := eq_of_beq hnone
    rw [hm, Nat.zero_div]
    exact ⟨zero, rfl, ⟨rfl, .inr rfl⟩, fun _ => rfl⟩
  split
  · have hlt : a.mantissa / b.mantissa < pow2 64 :=
      Nat.lt_of_le_of_lt (Nat.div_le_self _ _) hshort
    obtain ⟨d, hd, hm, hs, hneg⟩ := exists_unsignedZero? (a.negative != b.negative) hlt
    have hone : pow10 d.scale = 1 := by rw [hs]; rfl
    refine ⟨d, hd, ⟨?_, by rwa [hm]⟩, fun _ => ?_⟩
    · rw [hm, hone, Nat.div_one]
    · rw [hm, hone, Nat.mul_one]
  · rename_i hodd
    have hfits : roundDiv .even a.mantissa b.mantissa < pow2 96 := by
      have hround := roundDiv_le .even a.mantissa b.mantissa
      have hle : a.mantissa / b.mantissa ≤ a.mantissa := Nat.div_le_self _ _
      have hwords : pow2 64 < pow2 96 := by decide
      omega
    obtain ⟨d, hd, hneg, hm, hfull⟩ := exists_nearest? (a.negative != b.negative) hfits
      (Nat.sub_le 28 (placesLeft a.mantissa b.mantissa 28 28 0))
    have hcuts : CutsTo (a.negative != b.negative) (a.mantissa / b.mantissa) d := by
      refine ⟨?_, .inl hneg⟩
      rw [hm]
      exact roundDiv_div_of_placesLeft hshort hpos hlong hfull
    have hone : ∀ m, m * pow10 0 = m := Nat.mul_one
    refine ⟨d.unsignZero.trimQuotient, ?_, hcuts.unsignZero.trimQuotient, fun hdvd => ?_⟩
    · rw [hone, hone, Nat.add_zero, Nat.sub_zero, hd, Option.map_some]
    · exact absurd ⟨Nat.le_refl 0, Nat.mod_eq_zero_of_dvd hdvd⟩ hodd

theorem signed_tdiv_signed (s t : Bool) (m n : Nat) :
    (signed s m).tdiv (signed t n) = signed (s != t) (m / n) := by
  cases s <;> cases t <;> simp [signed, Int.neg_tdiv, Int.tdiv_neg]

theorem signed_tmod_signed (s t : Bool) (m n : Nat) :
    (signed s m).tmod (signed t n) = signed s (m % n) := by
  cases s <;> cases t <;> simp [signed, Int.neg_tmod, Int.tmod_neg, Int.tmod_eq_emod_of_nonneg]

theorem CutsTo.toRat_eq (h : CutsTo negative n d) (hm : d.mantissa = n * pow10 d.scale) :
    d.toRat = (signed negative n : Int) := by
  rw [toRat_of_mantissa hm, h.signed_eq]

/-- The quotient of two whole numbers of up to 64 bits, cut off after the point, is their quotient;
nothing is cut off where that one comes out even. -/
theorem exists_div? (ha : a.scale = 0) (hb : b.scale = 0) (hshort : a.mantissa < pow2 64)
    (hlong : b.mantissa < pow2 64) (hzero : b.isZero = false) :
    ∃ d, a.div? b = some d ∧ d.truncate = a.coefficient.tdiv b.coefficient ∧
      (b.coefficient ∣ a.coefficient → d.toRat = (a.coefficient.tdiv b.coefficient : Int)) := by
  obtain ⟨d, hd, hcuts, heven⟩ := exists_div?_mantissas ha hb hshort hlong hzero
  have hquotient : a.coefficient.tdiv b.coefficient =
      signed (a.negative != b.negative) (a.mantissa / b.mantissa) := signed_tdiv_signed _ _ _ _
  refine ⟨d, hd, hquotient ▸ hcuts.truncate_eq, fun hdvd => ?_⟩
  rw [← Int.natAbs_dvd_natAbs, natAbs_coefficient, natAbs_coefficient] at hdvd
  rw [hquotient, hcuts.toRat_eq (heven hdvd)]

theorem toRat_of_scale (h : d.scale = 0) : d.toRat = (d.coefficient : Int) := by
  have hone : pow10 d.scale = 1 := by rw [h]; rfl
  rw [toRat, hone, Nat.cast_one, div_one]

/-- The remainder of two whole numbers of up to 64 bits is their remainder. -/
theorem exists_rem? (ha : a.scale = 0) (hb : b.scale = 0) (hlong : b.mantissa < pow2 64)
    (hzero : b.isZero = false) :
    ∃ d, a.rem? b = some d ∧ d.toRat = (a.coefficient.tmod b.coefficient : Int) := by
  have hpos : 0 < b.mantissa := Nat.pos_of_ne_zero (ne_of_beq_false hzero)
  have hone : ∀ m, m * pow10 0 = m := Nat.mul_one
  have hremainder : a.coefficient.tmod b.coefficient =
      signed a.negative (a.mantissa % b.mantissa) := signed_tmod_signed _ _ _ _
  rw [rem?, hremainder]
  simp only [ha, hb, hzero, Nat.max_self, Nat.sub_zero, hone, Bool.false_eq_true, if_false]
  split
  · rename_i hnone
    have hmod : a.mantissa % b.mantissa = 0 := by
      rw [Bool.or_eq_true, beq_iff_eq] at hnone
      rcases hnone with hnone | hsame
      · rw [eq_of_beq hnone, Nat.zero_mod]
      · rw [hsame, Nat.mod_self]
    refine ⟨zero, rfl, ?_⟩
    rw [hmod, toRat_of_isZero rfl, signed_congr (.inr rfl : a.negative = false ∨ 0 = 0)]
    rfl
  split
  · rename_i hless
    refine ⟨a, rfl, ?_⟩
    rw [Nat.mod_eq_of_lt hless, toRat_of_scale ha, coefficient_eq_signed]
  · rw [remainder, if_pos hlong]
    have hlt : a.mantissa % b.mantissa < pow2 64 := Nat.lt_trans (Nat.mod_lt _ hpos) hlong
    obtain ⟨d, hd, hm, hs, hneg⟩ := exists_unsignedZero? a.negative hlt
    refine ⟨d, hd, ?_⟩
    rw [toRat_of_scale hs, coefficient_eq_signed, hm, signed_congr hneg]

end Decimal

end TypedFilter
