import TypedFilter.Proofs.Numerals

/-!
Decimals that come out of text. Main statements: one that is written without a sign has places or is
too large for a whole number of 64 bits, or else the text is that of such a number; and a zero
without places has no sign.
-/

namespace TypedFilter.Decimal

variable {negative : Bool} {mantissa scale : Nat} {d : Decimal}

theorem of_ofParts? (h : ofParts? negative mantissa scale = some d) :
    d.negative = negative ∧ d.mantissa = mantissa ∧ d.scale = scale := by
  rw [ofParts?] at h
  split at h
  · cases h
    exact ⟨rfl, rfl, rfl⟩
  · cases h

theorem ofParts?_of_lt (negative : Bool) (hm : mantissa < pow2 96) (hs : scale ≤ 28) :
    ∃ d, ofParts? negative mantissa scale = some d ∧ d.negative = negative ∧
      d.mantissa = mantissa ∧ d.scale = scale :=
  ⟨_, dif_pos ⟨hm, hs⟩, rfl, rfl, rfl⟩

/-! ### Signs -/

/-- Whether a zero has no sign. -/
def IsSigned (d : Decimal) : Prop :=
  d.negative = true → d.mantissa ≠ 0

theorem IsSigned.keepsSign (h : d.IsSigned) : d.KeepsSign :=
  fun _ hneg => h hneg

theorem isSigned_unsignedZero? (h : unsignedZero? negative mantissa scale = some d) :
    d.IsSigned := by
  obtain ⟨hneg, hm, -⟩ := of_ofParts? h
  intro hd
  rw [hneg, Bool.and_eq_true, bne_iff_ne] at hd
  rw [hm]
  exact hd.2

theorem isSigned_roundOff? {digit : Nat} (h : roundOff? negative mantissa scale digit = some d) :
    d.IsSigned := by
  rw [roundOff?] at h
  split at h
  · exact isSigned_unsignedZero? h
  split at h
  · exact isSigned_unsignedZero? h
  split at h
  · cases h
  · exact isSigned_unsignedZero? h

theorem isSigned_finish? {rest : List Char} (h : finish? negative mantissa scale rest = some d) :
    d.IsSigned := by
  rw [finish?] at h
  split at h
  · split at h
    · exact isSigned_roundOff? h
    · exact isSigned_unsignedZero? h
  · cases h

theorem isSigned_readFrom? {seen point : Bool} {cs : List Char}
    (h : readFrom? negative seen point mantissa scale cs = some d) : d.IsSigned := by
  fun_induction readFrom? negative seen point mantissa scale cs with
  | case1 => exact isSigned_unsignedZero? h
  | case2 => cases h
  | case3 => exact isSigned_finish? h
  | case4 => cases h
  | case5 =>
    rw [finishPlaces?] at h
    split at h
    · exact isSigned_finish? h
    · exact isSigned_finish? h
  | case6 _ _ _ _ _ _ _ _ _ _ ih => exact ih h
  | case7 _ _ _ _ _ _ _ _ ih => exact ih h
  | case8 _ _ _ _ _ _ _ _ _ ih => exact ih h
  | case9 => cases h

theorem isSigned_ofChars? {cs : List Char} (h : ofChars? cs = some d) : d.IsSigned := by
  unfold ofChars? at h
  split at h
  · exact isSigned_readFrom? h
  · exact isSigned_readFrom? h
  · exact isSigned_readFrom? h

theorem dropZeros_ne_zero {mantissa : Nat} (scale : Nat) (h : mantissa ≠ 0) :
    (dropZeros mantissa scale).1 ≠ 0 := by
  induction scale generalizing mantissa with
  | zero => exact h
  | succ scale ih =>
    rw [dropZeros]
    split
    · exact ih (by omega)
    · exact h

theorem isSigned_normalize (d : Decimal) : d.normalize.IsSigned := by
  rw [normalize]
  split
  · exact fun h => absurd h Bool.false_ne_true
  · rename_i hzero
    intro _
    exact dropZeros_ne_zero d.scale (by simpa [isZero] using hzero)

/-- A zero without places that comes out of text has no sign. -/
theorem keepsSign_ofText? {s : String} (h : ofText? s = some d) : d.KeepsSign := by
  rw [ofText?, Option.orElse_eq_orElse, Option.orElse_eq_or, Option.or_eq_some_iff] at h
  rcases h with h | ⟨-, h⟩
  · exact (isSigned_ofChars? h).keepsSign
  rw [ofScientific?] at h
  split at h
  · cases h
  obtain ⟨base, hbase, h⟩ := Option.bind_eq_some_iff.1 h
  have hsigned := isSigned_ofChars? hbase
  split at h
  · obtain ⟨power, -, h⟩ := Option.bind_eq_some_iff.1 h
    obtain ⟨hneg, hm, hs⟩ := of_ofParts? h
    intro hscale hd
    have hsurplus : base.scale + power - 28 = 0 := by omega
    have hexact := roundDiv_exact .up base.mantissa (pow10 0) (pow10_pos 0)
    have hone : base.mantissa * pow10 0 = base.mantissa := Nat.mul_one _
    rw [hone] at hexact
    rw [hm, hsurplus, hexact]
    exact hsigned (hneg ▸ hd)
  · obtain ⟨power, -, h⟩ := Option.bind_eq_some_iff.1 h
    rw [raise?] at h
    split at h
    · obtain ⟨hneg, hm, -⟩ := of_ofParts? h
      intro _ hd
      rw [hm]
      exact hsigned (hneg ▸ hd)
    · obtain ⟨factor, -, h⟩ := Option.bind_eq_some_iff.1 h
      obtain ⟨product, -, rfl⟩ := Option.map_eq_some_iff.1 h
      exact (isSigned_normalize product).keepsSign

/-! ### Sizes -/

/-- Whether nothing but a decimal can hold the number: it has places, or 64 bits do not suffice. -/
def IsLarge (d : Decimal) : Prop :=
  d.scale = 0 → pow2 63 ≤ d.mantissa

/-- What only a decimal can hold is read as a decimal. -/
theorem reread_of_isLarge (hneg : d.negative = false) (h : d.IsLarge) : d.reread = .decimal d := by
  by_cases hscale : d.scale = 0
  · have hm := h hscale
    have hint : ¬IntWidth.int.Holds d.mantissa := by
      rw [IntWidth.Holds]
      have : pow2 31 ≤ pow2 63 := pow2_le_pow2 (by decide)
      simp only [IntWidth.bits]
      omega
    have hlong : ¬IntWidth.long.Holds d.mantissa := by
      rw [IntWidth.Holds]
      simp only [IntWidth.bits]
      omega
    rw [reread, if_neg (by simp [hneg]), numeral, if_pos hscale, Value.ofInt?, SizedInt.ofInt?,
      dif_neg hint, Value.ofInt?, SizedInt.ofInt?, dif_neg hlong]
    exact congrArg Value.decimal (ext hneg.symm rfl rfl)
  · exact d.reread_of_scale_ne hscale

theorem isLarge_unsignedZero? (hsize : scale = 0 → pow2 63 ≤ mantissa)
    (h : unsignedZero? false mantissa scale = some d) : d.negative = false ∧ d.IsLarge := by
  obtain ⟨hneg, hm, hs⟩ := of_ofParts? h
  refine ⟨hneg, fun hd => ?_⟩
  rw [hm]
  exact hsize (hs ▸ hd)

theorem isLarge_roundOff? {digit : Nat} (hsize : scale = 0 → pow2 63 ≤ mantissa)
    (h : roundOff? false mantissa scale digit = some d) : d.negative = false ∧ d.IsLarge := by
  rw [roundOff?] at h
  split at h
  · exact isLarge_unsignedZero? hsize h
  split at h
  · exact isLarge_unsignedZero? (fun hs => Nat.le_succ_of_le (hsize hs)) h
  split at h
  · cases h
  · rename_i hfull _
    refine isLarge_unsignedZero? (fun _ => ?_) h
    have hsplit : pow2 96 = pow2 63 * pow2 33 := rfl
    have hroom : 20 ≤ pow2 33 := by decide
    have hprod := Nat.mul_le_mul_left (pow2 63) hroom
    have hpos := pow2_pos 63
    omega

theorem isLarge_finish? {rest : List Char} (hsize : scale = 0 → pow2 63 ≤ mantissa)
    (h : finish? false mantissa scale rest = some d) : d.negative = false ∧ d.IsLarge := by
  rw [finish?] at h
  split at h
  · split at h
    · exact isLarge_roundOff? hsize h
    · exact isLarge_unsignedZero? hsize h
  · cases h

/-- Digits after a point make a number with places, or they have no room and the number is large. -/
theorem isLarge_readFrom?_places {ds : List Char} (hds : ds.all Char.isDigit = true)
    (hne : ds ≠ [] ∨ scale ≠ 0) (h : readFrom? false true true mantissa scale ds = some d) :
    d.negative = false ∧ d.IsLarge := by
  induction ds generalizing mantissa scale with
  | nil =>
    have hscale : scale ≠ 0 := hne.resolve_left (fun h => h rfl)
    rw [readFrom?, if_pos rfl] at h
    exact isLarge_unsignedZero? (fun hs => absurd hs hscale) h
  | cons c ds ih =>
    rw [List.all_cons, Bool.and_eq_true] at hds
    rw [readFrom?] at h
    simp only [hds.1, if_true, Bool.true_and, decide_eq_true_eq] at h
    split at h
    · rename_i hfull
      refine isLarge_finish? (fun _ => ?_) h
      have hdigit : c.toNat - '0'.toNat ≤ 9 :=
        Nat.sub_le_sub_right (Char.isDigit_iff_toNat.1 hds.1).2 '0'.toNat
      rw [ofDigits_singleton] at hfull
      have hsplit : pow2 96 = pow2 63 * pow2 33 := rfl
      have hroom : 20 ≤ pow2 33 := by decide
      have hprod := Nat.mul_le_mul_left (pow2 63) hroom
      have hpos := pow2_pos 63
      omega
    split at h
    · rw [finishPlaces?] at h
      split at h
      · exact isLarge_finish? (fun hs => absurd hs (by decide)) h
      · exact isLarge_finish? (fun hs => absurd hs (by decide)) h
    · exact ih hds.2 (.inr (Nat.succ_ne_zero scale)) h

/-- Digits before a point that have no room make no number. -/
theorem readFrom?_whole_none (seen : Bool) {cs : List Char} (rest : List Char) {m : Nat}
    (h : cs.all Char.isDigit = true) (hm : m < pow2 96)
    (hfull : pow2 96 ≤ Nat.ofDigitChars 10 cs m) :
    readFrom? false seen false m 0 (cs ++ rest) = none := by
  induction cs generalizing m seen with
  | nil =>
    rw [Nat.ofDigitChars_nil] at hfull
    omega
  | cons c cs ih =>
    rw [List.all_cons, Bool.and_eq_true] at h
    rw [Nat.ofDigitChars_cons] at hfull
    rw [List.cons_append, readFrom?]
    simp only [h.1, if_true, ofDigits_singleton, Bool.false_and, Bool.false_eq_true, if_false]
    split
    · rfl
    · rename_i hfits
      exact ih true h.2 (by omega) hfull

/-- What is read from digits is their number, or it has places or is large. -/
theorem ofChars?_numeral {cs : List Char} {ds : List Char} (hne : cs ≠ [])
    (hcs : cs.all Char.isDigit = true)
    (hds : ds = [] ∨ ∃ es, ds = '.' :: es ∧ es ≠ [] ∧ es.all Char.isDigit = true)
    (h : ofChars? (cs ++ ds) = some d) :
    d.negative = false ∧ (ds = [] ∧ d.scale = 0 ∧ d.mantissa = ofDigits cs ∨ d.IsLarge) := by
  obtain ⟨c, cs, rfl⟩ := List.exists_cons_of_ne_nil hne
  have hdigit := List.all_eq_true.1 hcs c (List.mem_cons_self ..)
  rw [List.cons_append, ofChars?_digit hdigit, ← List.cons_append] at h
  by_cases hfull : pow2 96 ≤ Nat.ofDigitChars 10 (c :: cs) 0
  · rw [readFrom?_whole_none false ds hcs (pow2_pos 96) hfull] at h
    cases h
  · rw [readFrom?_whole false false ds hcs (Nat.lt_of_not_le hfull)] at h
    rcases hds with rfl | ⟨es, rfl, hes, hall⟩
    · obtain ⟨hneg, hm, hs⟩ := of_ofParts? h
      exact ⟨hneg, .inl ⟨rfl, hs, hm⟩⟩
    · rw [readFrom?] at h
      simp only [show Char.isDigit '.' = false from rfl, Bool.false_eq_true, if_false, and_self,
        if_true, List.isEmpty_cons, Bool.not_false, Bool.or_true] at h
      obtain ⟨hneg, hlarge⟩ := isLarge_readFrom?_places hall (.inl hes) h
      exact ⟨hneg, .inr hlarge⟩

end TypedFilter.Decimal
