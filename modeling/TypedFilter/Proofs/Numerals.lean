import TypedFilter.Expr.Clause
import TypedFilter.Proofs.Levels
import TypedFilter.Proofs.Lexemes

/-!
Numbers as text. Main statement: the digits of a number, with or without a point, are read as the
value that they were written for, in the narrowest type that a statement has for it.
-/

namespace TypedFilter

/-! ### Rows of digits -/

theorem natDigits_ne_nil (n : Nat) : natDigits n ≠ [] :=
  Nat.toDigits_ne_nil

theorem all_isDigit_natDigits (n : Nat) : (natDigits n).all Char.isDigit = true :=
  List.all_eq_true.2 fun _ hc => Nat.isDigit_of_mem_toDigits (by decide) (by decide) hc

theorem all_isDigit_padLeft (width : Nat) {cs : List Char} (h : cs.all Char.isDigit = true) :
    (padLeft width cs).all Char.isDigit = true := by
  simp only [padLeft, List.all_append, h, Bool.and_true, List.all_eq_true, List.mem_replicate]
  rintro c ⟨-, rfl⟩
  rfl

/-- Zeros on the left do not change the number. -/
theorem ofDigits_padLeft (width : Nat) (cs : List Char) :
    ofDigits (padLeft width cs) = ofDigits cs := by
  rw [ofDigits, padLeft, Nat.ofDigitChars_append, Nat.ofDigitChars_replicate_zero, Nat.mul_zero]
  rfl

/-- Reading more digits does not make a number smaller. -/
theorem le_ofDigitChars (cs : List Char) (m : Nat) : m ≤ Nat.ofDigitChars 10 cs m := by
  induction cs generalizing m with
  | nil => exact Nat.le_of_eq Nat.ofDigitChars_nil.symm
  | cons c cs ih =>
    rw [Nat.ofDigitChars_cons]
    have := ih (10 * m + (c.toNat - '0'.toNat))
    omega

/-- The digits of a number with a point among them. -/
theorem pointed_eq (m : Nat) {places : Nat} (h : places ≠ 0) :
    ∃ cs ds, pointed (natDigits m) places = cs ++ '.' :: ds ∧ cs ≠ [] ∧ ds.length = places ∧
      cs.all Char.isDigit = true ∧ ds.all Char.isDigit = true ∧ ofDigits (cs ++ ds) = m := by
  generalize hp : padLeft (places + 1) (natDigits m) = padded
  have hlen := length_padLeft (places + 1) (natDigits m)
  have hall := all_isDigit_padLeft (places + 1) (all_isDigit_natDigits m)
  have hval := ofDigits_padLeft (places + 1) (natDigits m)
  rw [hp] at hlen hall hval
  have hlt : places < padded.length := by omega
  refine ⟨padded.take (padded.length - places), padded.drop (padded.length - places), ?_, ?_, ?_,
    ?_, ?_, ?_⟩
  · simp only [pointed, h, if_false, hp]
  · intro hnil
    have := congrArg List.length hnil
    rw [List.length_take, List.length_nil] at this
    omega
  · rw [List.length_drop]
    omega
  · exact List.all_eq_true.2 fun c hc => List.all_eq_true.1 hall c (List.mem_of_mem_take hc)
  · exact List.all_eq_true.2 fun c hc => List.all_eq_true.1 hall c (List.mem_of_mem_drop hc)
  · rw [List.take_append_drop, hval, ofDigits_natDigits]

/-! ### Decimals -/

namespace Decimal

theorem ofDigits_singleton (c : Char) : ofDigits [c] = c.toNat - '0'.toNat := by
  rw [ofDigits, Nat.ofDigitChars_cons, Nat.ofDigitChars_nil, Nat.mul_zero, Nat.zero_add]

/-- Digits before a point are taken into the mantissa. -/
theorem readFrom?_whole (negative seen : Bool) {cs : List Char} (rest : List Char) {m : Nat}
    (h : cs.all Char.isDigit = true) (hlt : Nat.ofDigitChars 10 cs m < pow2 96) :
    readFrom? negative seen false m 0 (cs ++ rest) =
      readFrom? negative (seen || !cs.isEmpty) false (Nat.ofDigitChars 10 cs m) 0 rest := by
  induction cs generalizing m seen with
  | nil => simp [Nat.ofDigitChars_nil]
  | cons c cs ih =>
    rw [List.all_cons, Bool.and_eq_true] at h
    rw [Nat.ofDigitChars_cons] at hlt ⊢
    have hle := le_ofDigitChars cs (10 * m + (c.toNat - '0'.toNat))
    have hfits : ¬pow2 96 ≤ 10 * m + (c.toNat - '0'.toNat) := by omega
    rw [List.cons_append, readFrom?]
    simp only [h.1, if_true, ofDigits_singleton, hfits, if_false, Bool.false_and,
      Bool.false_eq_true]
    rw [ih true h.2 hlt]
    simp

/-- Digits after a point are taken into the mantissa as long as there is room for them. -/
theorem readFrom?_places (negative : Bool) {ds : List Char} {m scale : Nat}
    (h : ds.all Char.isDigit = true) (hlt : Nat.ofDigitChars 10 ds m < pow2 96)
    (hscale : scale + ds.length ≤ 28) :
    readFrom? negative true true m scale ds =
      unsignedZero? negative (Nat.ofDigitChars 10 ds m) (scale + ds.length) := by
  induction ds generalizing m scale with
  | nil => simp [readFrom?, Nat.ofDigitChars_nil]
  | cons d ds ih =>
    rw [List.all_cons, Bool.and_eq_true] at h
    rw [Nat.ofDigitChars_cons] at hlt ⊢
    rw [List.length_cons] at hscale
    have hle := le_ofDigitChars ds (10 * m + (d.toNat - '0'.toNat))
    have hfits : ¬pow2 96 ≤ 10 * m + (d.toNat - '0'.toNat) := by omega
    rw [readFrom?]
    simp only [h.1, if_true, ofDigits_singleton, hfits, if_false, Bool.true_and, decide_eq_true_eq]
    split
    · obtain rfl : ds = [] := List.length_eq_zero_iff.1 (by omega)
      obtain rfl : scale = 27 := by simp at hscale; omega
      rfl
    · rw [ih h.2 hlt (by omega), List.length_cons, Nat.add_right_comm, Nat.add_assoc]

theorem ofChars?_digit {c : Char} (h : c.isDigit = true) (cs : List Char) :
    ofChars? (c :: cs) = readFrom? false false false 0 0 (c :: cs) := by
  unfold ofChars?
  split
  · rename_i heq
    injection heq with hc
    exact absurd (hc ▸ h) (by decide)
  · rename_i heq
    injection heq with hc
    exact absurd (hc ▸ h) (by decide)
  · rfl

/-- After a point the digits before it are in the mantissa. -/
theorem readFrom?_point (negative : Bool) {cs : List Char} (ds : List Char) (hne : cs ≠ [])
    (hcs : cs.all Char.isDigit = true) (hlt : ofDigits cs < pow2 96) :
    readFrom? negative false false 0 0 (cs ++ '.' :: ds) =
      readFrom? negative true true (ofDigits cs) 0 ds := by
  obtain ⟨c, cs, rfl⟩ := List.exists_cons_of_ne_nil hne
  rw [readFrom?_whole _ _ _ hcs hlt]
  rw [readFrom?]
  simp only [show Char.isDigit '.' = false from rfl, Bool.false_eq_true, if_false, and_self,
    if_true, List.isEmpty_cons, Bool.not_false, Bool.or_true]
  rfl

/-- Digits, with or without a point among them, are read as the number that they are written for. -/
theorem readFrom?_pointed (negative : Bool) {m places : Nat} (hm : m < pow2 96) (hp : places ≤ 28) :
    readFrom? negative false false 0 0 (pointed (natDigits m) places) =
      unsignedZero? negative m places := by
  by_cases hplaces : places = 0
  · have hval : Nat.ofDigitChars 10 (natDigits m) 0 = m := ofDigits_natDigits m
    have hread := readFrom?_whole negative false [] (all_isDigit_natDigits m) (hval.symm ▸ hm)
    have hne : (natDigits m).isEmpty = false := by simp [natDigits_ne_nil]
    rw [List.append_nil, hval, hne] at hread
    rw [pointed, if_pos hplaces, hread, hplaces]
    rfl
  · obtain ⟨cs, ds, heq, hne, hlen, hcs, hds, hval⟩ := pointed_eq m hplaces
    rw [ofDigits, Nat.ofDigitChars_append] at hval
    have hlt := le_ofDigitChars ds (ofDigits cs)
    rw [heq, readFrom?_point negative ds hne hcs (by rw [ofDigits] at hlt ⊢; omega),
      readFrom?_places negative hds (hval.symm ▸ hm) (by omega), ofDigits, hval, hlen, Nat.zero_add]

theorem pointed_eq_cons (m places : Nat) :
    ∃ c cs, pointed (natDigits m) places = c :: cs ∧ c.isDigit = true := by
  by_cases hplaces : places = 0
  · obtain ⟨c, cs, hcs⟩ := List.exists_cons_of_ne_nil (natDigits_ne_nil m)
    have hall := all_isDigit_natDigits m
    rw [hcs, List.all_cons, Bool.and_eq_true] at hall
    exact ⟨c, cs, by rw [pointed, if_pos hplaces, hcs], hall.1⟩
  · obtain ⟨cs, ds, heq, hne, -, hcs, -, -⟩ := pointed_eq m hplaces
    obtain ⟨c, cs, rfl⟩ := List.exists_cons_of_ne_nil hne
    rw [List.all_cons, Bool.and_eq_true] at hcs
    exact ⟨c, cs ++ '.' :: ds, heq, hcs.1⟩

/-- A minus sign that stands before digits is the sign of what they are read as. -/
theorem ofChars?_sign (negative : Bool) (m places : Nat) :
    ofChars? ((if negative then ['-'] else []) ++ pointed (natDigits m) places) =
      readFrom? negative false false 0 0 (pointed (natDigits m) places) := by
  cases negative with
  | true => rfl
  | false =>
    obtain ⟨c, cs, heq, hc⟩ := pointed_eq_cons m places
    rw [heq]
    exact ofChars?_digit hc cs

/-- The digits of a decimal without its sign are read as it. -/
theorem ofChars?_pointed {m places : Nat} (hm : m < pow2 96) (hp : places ≤ 28) :
    ofChars? (pointed (natDigits m) places) = some ⟨false, m, places, hm, hp⟩ := by
  have hread := ofChars?_sign false m places
  rw [readFrom?_pointed false hm hp] at hread
  exact hread.trans (dif_pos ⟨hm, hp⟩)

/-- The decimal without its sign. -/
def unsigned (d : Decimal) : Decimal :=
  { d with negative := false }

/-- The value that a statement has for the decimal without its sign. -/
def numeral (d : Decimal) : Value :=
  if d.scale = 0 then
    (Value.ofInt? .int d.mantissa <|> Value.ofInt? .long d.mantissa).getD (.decimal d.unsigned)
  else .decimal d.unsigned

/-- The digits of a decimal. -/
def digits (d : Decimal) : String :=
  String.ofList (pointed (natDigits d.mantissa) d.scale)

theorem isNumeral_digits (d : Decimal) : ∃ cs ds, d.digits = String.ofList (cs ++ ds) ∧ cs ≠ [] ∧
    cs.all Char.isDigit = true ∧
      (ds = [] ∨ ∃ es, ds = '.' :: es ∧ es ≠ [] ∧ es.all Char.isDigit = true) := by
  by_cases h : d.scale = 0
  · refine ⟨natDigits d.mantissa, [], ?_, natDigits_ne_nil _, all_isDigit_natDigits _, .inl rfl⟩
    rw [digits, pointed, if_pos h, List.append_nil]
  · obtain ⟨cs, ds, heq, hne, hlen, hcs, hds, -⟩ := pointed_eq d.mantissa h
    refine ⟨cs, '.' :: ds, by rw [digits, heq], hne, hcs, .inr ⟨ds, rfl, ?_, hds⟩⟩
    rintro rfl
    exact h hlen.symm

theorem lexes_decimal (d : Decimal) : Sql.Lexes d.digits [.number d.digits] := by
  obtain ⟨cs, ds, heq, hne, hcs, rfl | ⟨es, rfl, hes, hall⟩⟩ := d.isNumeral_digits
  · rw [List.append_nil] at heq
    rw [heq]
    exact Sql.lexes_digits hne hcs
  · rw [heq]
    exact Sql.lexes_pointed hne hcs hes hall

theorem contains_point_natDigits (n : Nat) : (natDigits n).contains '.' = false := by
  rw [Bool.eq_false_iff]
  intro h
  have hmem := List.all_eq_true.1 (all_isDigit_natDigits n) '.' (List.contains_iff_mem.1 h)
  exact absurd hmem (by decide)

/-- The digits of a decimal are read as the value for it. -/
theorem numberValue_digits (d : Decimal) : Sql.numberValue d.digits = .ok d.numeral := by
  have hread := ofChars?_pointed d.mantissa_lt d.scale_le
  by_cases h : d.scale = 0
  · simp only [pointed, h, if_true] at hread
    simp only [Sql.numberValue, numeral, digits, pointed, h, if_true, String.toList_ofList,
      contains_point_natDigits, Bool.false_eq_true, if_false, ofDigits_natDigits, hread]
    cases Value.ofInt? .int d.mantissa with
    | some v => rfl
    | none =>
      cases Value.ofInt? .long d.mantissa with
      | some v => rfl
      | none => simp [unsigned, h]
  · obtain ⟨cs, ds, heq, -⟩ := pointed_eq d.mantissa h
    rw [heq] at hread
    have hpoint : (cs ++ '.' :: ds).contains '.' = true := by simp
    simp only [Sql.numberValue, numeral, digits, heq, h, if_false, String.toList_ofList, hpoint,
      if_true, hread]
    rfl

end Decimal

/-- A number that is not below zero can be negated in its width. -/
theorem SizedInt.exists_neg {w : IntWidth} (a : SizedInt w) (h : 0 ≤ a.toInt) :
    ∃ b : SizedInt w, b.toInt = -a.toInt ∧
      (Value.integer w a).negated? = some (.integer w b) := by
  have hholds := a.holds
  have hneg : w.Holds (-a.toInt) := by
    unfold IntWidth.Holds at hholds ⊢
    omega
  refine ⟨⟨-a.toInt, hneg⟩, rfl, ?_⟩
  simp only [Value.negated?, Value.ofInt?, SizedInt.ofInt?, hneg, dif_pos, Option.map_some]

namespace Decimal

/-! ### Signs -/

/-- The expression that the decimal is read as. -/
def reading (d : Decimal) : Sql.Expression :=
  if d.negative then .unary .minus (.literal d.numeral) else .literal d.numeral

/-- The value that the expression stands for. -/
def reread (d : Decimal) : Value :=
  if d.negative then d.numeral.negated?.getD d.numeral else d.numeral

/-- The value for a decimal without its sign is a whole number of 32 or 64 bits or a decimal. -/
theorem numeral_cases (d : Decimal) :
    (∃ (w : IntWidth) (a : SizedInt w), d.scale = 0 ∧ a.toInt = d.mantissa ∧
      d.numeral = .integer w a) ∨ d.numeral = .decimal d.unsigned := by
  rw [numeral]
  split
  · rename_i h
    simp only [Value.ofInt?]
    cases hi : SizedInt.ofInt? .int d.mantissa with
    | some a => exact .inl ⟨.int, a, h, SizedInt.ofInt?_eq_some_iff.1 hi, rfl⟩
    | none =>
      cases hl : SizedInt.ofInt? .long d.mantissa with
      | some a => exact .inl ⟨.long, a, h, SizedInt.ofInt?_eq_some_iff.1 hl, rfl⟩
      | none => exact .inr rfl
  · exact .inr rfl

theorem negated?_numeral (d : Decimal) :
    (∃ (w : IntWidth) (b : SizedInt w), d.scale = 0 ∧ b.toInt = -d.mantissa ∧
      d.numeral.negated? = some (.integer w b)) ∨
    d.numeral.negated? = some (.decimal d.unsigned.neg) := by
  rcases d.numeral_cases with ⟨w, a, hscale, ha, hd⟩ | hd
  · obtain ⟨b, hb, hneg⟩ := a.exists_neg (by omega)
    refine .inl ⟨w, b, hscale, by rw [hb, ha], ?_⟩
    rw [hd]
    exact hneg
  · exact .inr (by rw [hd]; rfl)

/-- A decimal is read as an expression that means its value. -/
theorem ofExpression_reading (d : Decimal) (definition : Option Definition) :
    Expr.ofExpression definition d.reading = .ok (Expr.ofValue d.reread) := by
  rw [reading, reread]
  split
  · have hneg : ∃ v, d.numeral.negated? = some v := by
      rcases d.negated?_numeral with ⟨w, b, -, -, h⟩ | h
      · exact ⟨_, h⟩
      · exact ⟨_, h⟩
    obtain ⟨v, hv⟩ := hneg
    simp only [Expr.ofExpression, Expr.ofValue, bind, Except.bind, Expr.applyUnary, hv,
      Option.getD_some]
  · rfl

/-- Whether the text of a decimal keeps its sign: a zero without places has none. -/
def KeepsSign (d : Decimal) : Prop :=
  d.scale = 0 → d.negative = true → d.mantissa ≠ 0

theorem ext {a b : Decimal} (hn : a.negative = b.negative) (hm : a.mantissa = b.mantissa)
    (hs : a.scale = b.scale) : a = b := by
  cases a
  cases b
  simp_all

/-- What is read is the same number with the same places. -/
theorem toDecimal?_reread (d : Decimal) (h : d.KeepsSign) : d.reread.toDecimal? = some d := by
  rw [reread]
  split
  · rename_i hneg
    rcases d.negated?_numeral with ⟨w, b, hscale, hb, hv⟩ | hv
    · have hm := h hscale hneg
      rw [hv]
      refine congrArg some (ext ?_ ?_ ?_)
      · simp only [SizedInt.toDecimal, ofInt, hb, hneg, decide_eq_true_eq]
        omega
      · simp only [SizedInt.toDecimal, ofInt, hb]
        omega
      · exact hscale.symm
    · rw [hv]
      exact congrArg some (ext hneg.symm rfl rfl)
  · rename_i hneg
    rw [Bool.not_eq_true] at hneg
    rcases d.numeral_cases with ⟨w, a, hscale, ha, hd⟩ | hd
    · rw [hd]
      refine congrArg some (ext ?_ ?_ hscale.symm)
      · simp only [SizedInt.toDecimal, ofInt, ha, hneg, decide_eq_false_iff_not]
        omega
      · simp only [SizedInt.toDecimal, ofInt, ha]
        omega
    · rw [hd]
      exact congrArg some (ext hneg.symm rfl rfl)

theorem reread_of_scale_ne (d : Decimal) (h : d.scale ≠ 0) : d.reread = .decimal d := by
  rw [reread]
  split
  · rename_i hneg
    rw [numeral, if_neg h]
    exact congrArg Value.decimal (ext hneg.symm rfl rfl)
  · rename_i hneg
    rw [Bool.not_eq_true] at hneg
    rw [numeral, if_neg h]
    exact congrArg Value.decimal (ext hneg.symm rfl rfl)

/-- What the literal without its sign is read as depends on nothing but the digits. -/
theorem numeral_congr {a b : Decimal} (hm : a.mantissa = b.mantissa) (hs : a.scale = b.scale) :
    a.numeral = b.numeral := by
  have hunsigned : a.unsigned = b.unsigned := ext rfl hm hs
  rw [numeral, numeral, hm, hs, hunsigned]

/-- What the literal of a decimal stands for has a literal that stands for it. -/
theorem reread_cases (d : Decimal) :
    (∃ (w : IntWidth) (n : SizedInt w), d.reread = .integer w n ∧ n.toDecimal.reread = d.reread) ∨
      d.reread = .decimal d := by
  rcases d.numeral_cases with ⟨w, a, hscale, ha, hd⟩ | hd
  · obtain ⟨b, hb, hneg⟩ := a.exists_neg (by omega)
    have hdigits : ∀ n : SizedInt w, n.toInt.natAbs = d.mantissa →
        n.toDecimal.numeral = d.numeral :=
      fun n hn => numeral_congr hn hscale.symm
    by_cases hsign : d.negative = true
    · have hread : d.reread = .integer w b := by
        rw [reread, if_pos hsign, hd, hneg]
        rfl
      refine .inl ⟨w, b, hread, ?_⟩
      have hnumeral := hdigits b (by omega)
      by_cases hzero : b.toInt < 0
      · have hbsign : b.toDecimal.negative = true := decide_eq_true hzero
        rw [hread, reread, if_pos hbsign, hnumeral, hd, hneg]
        rfl
      · have hbsign : ¬b.toDecimal.negative = true := by
          rw [show b.toDecimal.negative = decide (b.toInt < 0) from rfl, decide_eq_true_eq]
          exact hzero
        have hab : a = b := SizedInt.ext (by omega)
        rw [hread, reread, if_neg hbsign, hnumeral, hd, hab]
    · have hread : d.reread = .integer w a := by rw [reread, if_neg hsign, hd]
      refine .inl ⟨w, a, hread, ?_⟩
      have hasign : ¬a.toDecimal.negative = true := by
        rw [show a.toDecimal.negative = decide (a.toInt < 0) from rfl, decide_eq_true_eq]
        omega
      rw [hread, reread, if_neg hasign, hdigits a (by omega), hd]
  · right
    rw [reread]
    split
    · rename_i hsign
      rw [hd]
      exact congrArg Value.decimal (ext hsign.symm rfl rfl)
    · rename_i hsign
      rw [Bool.not_eq_true] at hsign
      rw [hd]
      exact congrArg Value.decimal (ext hsign.symm rfl rfl)

/-- A number that is read after a minus sign is that of the decimal with the other sign. -/
theorem negated?_reread (d : Decimal) : d.reread.negated? = some d.neg.reread := by
  have hnumeral : d.neg.numeral = d.numeral := numeral_congr rfl rfl
  have hsign : d.neg.negative = !d.negative := rfl
  cases hneg : d.negative with
  | false =>
    have hnext : ∃ v, d.numeral.negated? = some v := by
      rcases d.negated?_numeral with ⟨w, b, -, -, h⟩ | h
      · exact ⟨_, h⟩
      · exact ⟨_, h⟩
    obtain ⟨v, hv⟩ := hnext
    rw [reread, reread, hsign, hneg, hnumeral]
    simp [hv]
  | true =>
    rw [reread, reread, hsign, hneg, hnumeral]
    simp only [if_true, Bool.not_true, Bool.false_eq_true, if_false]
    rcases d.numeral_cases with ⟨w, a, -, ha, hd⟩ | hd
    · obtain ⟨b, hb, hv⟩ := a.exists_neg (by omega)
      have hback : SizedInt.ofInt? w (-b.toInt) = some a :=
        SizedInt.ofInt?_eq_some_iff.2 (by omega)
      rw [hd, hv]
      simp only [Option.getD_some, Value.negated?, Value.ofInt?, hback, Option.map_some]
    · rw [hd]
      exact congrArg (some ∘ Value.decimal) (ext rfl rfl rfl)

end Decimal

/-! ### Whole numbers -/

namespace SizedInt

theorem reread_of_numeral {w : IntWidth} {a b : SizedInt w} (hb : b.toInt = a.toInt.natAbs)
    (h : a.toDecimal.numeral = .integer w b) : a.toDecimal.reread = .integer w a := by
  have hsign : a.toDecimal.negative = decide (a.toInt < 0) := rfl
  rw [Decimal.reread]
  rw [h, hsign]
  split
  · rename_i hneg
    obtain ⟨c, hc, hv⟩ := b.exists_neg (by omega)
    have hac : c = a := SizedInt.ext (by rw [hc, hb]; simp at hneg; omega)
    rw [hv, hac]
    rfl
  · rename_i hneg
    have hab : b = a := SizedInt.ext (by rw [hb]; simp at hneg; omega)
    rw [hab]

/-- A whole number of 32 bits is read back, the least one apart. -/
theorem reread_int (a : SizedInt .int) (h : a.toInt ≠ -pow2 31) :
    a.toDecimal.reread = .integer .int a := by
  have ha := a.holds
  have hholds : IntWidth.int.Holds a.toInt.natAbs := by
    unfold IntWidth.Holds at ha ⊢
    simp only [IntWidth.bits] at ha ⊢
    omega
  have hscale : a.toDecimal.scale = 0 := rfl
  have hmantissa : a.toDecimal.mantissa = a.toInt.natAbs := rfl
  refine reread_of_numeral (b := ⟨a.toInt.natAbs, hholds⟩) rfl ?_
  rw [Decimal.numeral, if_pos hscale, hmantissa, Value.ofInt?, ofInt?, dif_pos hholds]
  rfl

/-- A whole number of 64 bits is read back if 32 bits do not suffice, the least one apart. -/
theorem reread_long (a : SizedInt .long) (h : ¬IntWidth.int.Holds a.toInt)
    (h' : a.toInt ≠ -pow2 63) : a.toDecimal.reread = .integer .long a := by
  have ha := a.holds
  have hint : ¬IntWidth.int.Holds a.toInt.natAbs := by
    unfold IntWidth.Holds at h ⊢
    simp only [IntWidth.bits] at h ⊢
    omega
  have hlong : IntWidth.long.Holds a.toInt.natAbs := by
    unfold IntWidth.Holds at ha ⊢
    simp only [IntWidth.bits] at ha ⊢
    omega
  have hscale : a.toDecimal.scale = 0 := rfl
  have hmantissa : a.toDecimal.mantissa = a.toInt.natAbs := rfl
  refine reread_of_numeral (b := ⟨a.toInt.natAbs, hlong⟩) rfl ?_
  rw [Decimal.numeral, if_pos hscale, hmantissa, Value.ofInt?, ofInt?, dif_neg hint,
    Value.ofInt?, ofInt?, dif_pos hlong]
  rfl

end SizedInt

end TypedFilter
