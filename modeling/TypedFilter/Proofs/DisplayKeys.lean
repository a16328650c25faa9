import TypedFilter.Proofs.DecimalText
import TypedFilter.Proofs.Names
import TypedFilter.Proofs.SortOrders
import TypedFilter.Schema.CodeTable

/-!
The keys of display values. Main statements: two decimals have one normal form if and only if they
have the same amount, and two display values whose texts lack the separator have one key if and only
if their parts agree one by one.
-/

namespace TypedFilter

namespace Decimal

/-! ### Normal forms -/

theorem dropZeros_exact (mantissa scale : Nat) :
    (dropZeros mantissa scale).1 * pow10 (scale - (dropZeros mantissa scale).2) = mantissa := by
  induction scale generalizing mantissa with
  | zero => exact Nat.mul_one mantissa
  | succ scale ih =>
    rw [dropZeros]
    split
    · have hle := (dropZeros_le (mantissa / 10) scale).2
      rw [Nat.succ_sub hle, pow10_succ, ← Nat.mul_assoc, ih]
      omega
    · rw [Nat.sub_self]
      exact Nat.mul_one mantissa

theorem dropZeros_minimal (mantissa scale : Nat) :
    (dropZeros mantissa scale).2 = 0 ∨ (dropZeros mantissa scale).1 % 10 ≠ 0 := by
  induction scale generalizing mantissa with
  | zero => exact .inl rfl
  | succ scale ih =>
    rw [dropZeros]
    split
    · exact ih (mantissa / 10)
    · rename_i h
      exact .inr h

variable {a b d : Decimal}

/-- Whether no zero stands at the end of the places. -/
def IsShort (d : Decimal) : Prop :=
  d.scale = 0 ∨ d.mantissa % 10 ≠ 0

theorem isShort_normalize (d : Decimal) : d.normalize.IsShort := by
  rw [normalize]
  split
  · exact .inl rfl
  · exact dropZeros_minimal d.mantissa d.scale

theorem units_eq (d : Decimal) :
    d.units = if d.negative then -((d.mantissa * pow10 (28 - d.scale) : Nat) : Int)
      else (d.mantissa * pow10 (28 - d.scale) : Nat) := by
  rw [units, coefficient]
  split <;> push_cast <;> ring

theorem units_normalize (d : Decimal) : d.normalize.units = d.units := by
  rw [normalize]
  split
  · rename_i hzero
    have hm : d.mantissa = 0 := by simpa [isZero] using hzero
    rw [units_eq d, hm, Nat.zero_mul]
    split <;> rfl
  · have hle := (dropZeros_le d.mantissa d.scale).2
    have hsum : 28 - (dropZeros d.mantissa d.scale).2 =
        d.scale - (dropZeros d.mantissa d.scale).2 + (28 - d.scale) := by
      have := d.scale_le
      omega
    have hpow : pow10 (28 - (dropZeros d.mantissa d.scale).2) =
        pow10 (d.scale - (dropZeros d.mantissa d.scale).2) * pow10 (28 - d.scale) := by
      rw [hsum]
      exact Nat.pow_add 10 _ _
    have hmantissa : d.shorten.mantissa * pow10 (28 - d.shorten.scale) =
        d.mantissa * pow10 (28 - d.scale) := by
      show (dropZeros d.mantissa d.scale).1 * pow10 (28 - (dropZeros d.mantissa d.scale).2) = _
      rw [hpow, ← Nat.mul_assoc, dropZeros_exact]
    rw [units_eq, units_eq, hmantissa]
    rfl

/-- A number with fewer places that has no zero at the end of them has other units. -/
theorem scale_le_of_units_eq (hb : b.IsShort)
    (h : a.mantissa * pow10 (28 - a.scale) = b.mantissa * pow10 (28 - b.scale)) :
    b.scale ≤ a.scale := by
  by_contra hlt
  have hscale : b.scale ≠ 0 := by omega
  have hle := b.scale_le
  have hsum : 28 - a.scale = b.scale - a.scale - 1 + 1 + (28 - b.scale) := by omega
  have hpow : pow10 (28 - a.scale) = pow10 (b.scale - a.scale - 1) * 10 * pow10 (28 - b.scale) := by
    rw [hsum, ← pow10_succ]
    exact Nat.pow_add 10 _ _
  rw [hpow, ← Nat.mul_assoc] at h
  have hm := Nat.eq_of_mul_eq_mul_right (pow10_pos _) h
  have hmod : b.mantissa % 10 = 0 := by
    rw [← hm, ← Nat.mul_assoc, Nat.mul_mod_left]
  exact hb.elim hscale fun hne => hne hmod

/-- There is one normal form for each amount. -/
theorem eq_of_units_eq (ha : a.IsShort) (hb : b.IsShort) (hsa : a.IsSigned) (hsb : b.IsSigned)
    (h : a.units = b.units) : a = b := by
  have habs : a.mantissa * pow10 (28 - a.scale) = b.mantissa * pow10 (28 - b.scale) := by
    have hnat := congrArg Int.natAbs h
    rw [units_eq, units_eq] at hnat
    split at hnat <;> split at hnat <;>
      simpa only [Int.natAbs_neg, Int.natAbs_natCast] using hnat
  have hscale : a.scale = b.scale :=
    Nat.le_antisymm (scale_le_of_units_eq ha habs.symm) (scale_le_of_units_eq hb habs)
  rw [hscale] at habs
  have hm := Nat.eq_of_mul_eq_mul_right (pow10_pos _) habs
  refine ext ?_ hm hscale
  have hpos := pow10_pos (28 - b.scale)
  rw [units_eq, units_eq, hm, hscale] at h
  cases hna : a.negative <;> cases hnb : b.negative
  · rfl
  · have hne := hsb hnb
    have := Nat.mul_pos (Nat.pos_of_ne_zero hne) hpos
    simp only [hna, hnb, if_true, Bool.false_eq_true, if_false] at h
    omega
  · have hne := hm ▸ hsa hna
    have := Nat.mul_pos (Nat.pos_of_ne_zero hne) hpos
    simp only [hna, hnb, if_true, Bool.false_eq_true, if_false] at h
    omega
  · rfl

theorem normalize_eq_iff : a.normalize = b.normalize ↔ a.compare b = .eq := by
  rw [compare_eq_compare_units, Int.compare_eq_eq]
  constructor
  · intro h
    rw [← units_normalize a, h, units_normalize]
  · intro h
    refine eq_of_units_eq (isShort_normalize a) (isShort_normalize b) (isSigned_normalize a)
      (isSigned_normalize b) ?_
    rw [units_normalize, units_normalize, h]

/-! ### Texts -/

theorem isCaseless_of_isDigit {c : Char} (h : c.isDigit = true) : Text.IsCaseless c := by
  obtain ⟨hlow, hhigh⟩ := Char.isDigit_iff_toNat.1 h
  have hzero : '0'.toNat = 48 := rfl
  have hnine : '9'.toNat = 57 := rfl
  have hletter : 'A'.toNat = 65 := rfl
  refine ⟨?_, ?_⟩ <;> omega

theorem mem_digits {c : Char} (h : c ∈ d.digits.toList) : c.isDigit = true ∨ c = '.' := by
  obtain ⟨cs, ds, heq, -, hcs, hds⟩ := d.isNumeral_digits
  rw [heq, String.toList_ofList, List.mem_append] at h
  rcases h with h | h
  · exact .inl (List.all_eq_true.1 hcs c h)
  rcases hds with rfl | ⟨es, rfl, -, hes⟩
  · cases h
  rcases List.mem_cons.1 h with rfl | h
  · exact .inr rfl
  · exact .inl (List.all_eq_true.1 hes c h)

theorem toList_text (d : Decimal) :
    d.text.toList = (if d.negative then ['-'] else []) ++ d.digits.toList := by
  rw [text, digits, String.toList_ofList, String.toList_ofList]

theorem isCaseless_of_mem_text {c : Char} (h : c ∈ d.text.toList) :
    Text.IsCaseless c ∧ c ≠ '\x1f' := by
  rw [toList_text, List.mem_append] at h
  rcases h with h | h
  · split at h
    · rw [List.mem_singleton.1 h]
      decide
    · cases h
  · rcases mem_digits h with hdigit | rfl
    · refine ⟨isCaseless_of_isDigit hdigit, ?_⟩
      rintro rfl
      exact absurd hdigit (by decide)
    · decide

theorem text_injective : Function.Injective text := by
  intro a b h
  have hlist := congrArg String.toList h
  rw [toList_text, toList_text] at hlist
  have hminus : ∀ d : Decimal, '-' ∉ d.digits.toList := by
    intro d hmem
    rcases mem_digits hmem with hdigit | hpoint
    · exact absurd hdigit (by decide)
    · exact absurd hpoint (by decide)
  have hdigits : a.negative = b.negative ∧ a.digits.toList = b.digits.toList := by
    cases hna : a.negative <;> cases hnb : b.negative <;>
      simp only [hna, hnb, if_true, Bool.false_eq_true, if_false, List.nil_append,
        List.singleton_append] at hlist
    · exact ⟨rfl, hlist⟩
    · exact absurd (hlist ▸ List.mem_cons_self ..) (hminus a)
    · exact absurd (hlist ▸ List.mem_cons_self ..) (hminus b)
    · exact ⟨rfl, List.tail_eq_of_cons_eq hlist⟩
  have hread := ofChars?_pointed a.mantissa_lt a.scale_le
  rw [digits, digits, String.toList_ofList, String.toList_ofList] at hdigits
  rw [hdigits.2, ofChars?_pointed b.mantissa_lt b.scale_le, Option.some.injEq,
    Decimal.mk.injEq] at hread
  exact ext hdigits.1 hread.2.1.symm hread.2.2.symm

end Decimal

namespace CodeTable

/-! ### Parts of display values -/

/-- A part of a display value in its one form: of a number, no zeros stand at the end of the
places. -/
def written (v : Value) : String :=
  match v.toDecimal? with
  | some d => d.normalize.text
  | none => v.plainText

/-- Whether two parts of display values agree: numbers in the range of decimals by their amount,
whatever their types and places, and other parts by their text in any case. -/
def Agree (a b : Value) : Prop :=
  match a.toDecimal?, b.toDecimal? with
  | some x, some y => x.compare y = .eq
  | _, _ => Text.lowercase (written a) = Text.lowercase (written b)

instance (a b : Value) : Decidable (Agree a b) := by
  unfold Agree
  split <;> infer_instance

/-- Whether the text of a part lacks the character that stands between the keys of parts. -/
def LacksSeparator (v : Value) : Prop :=
  '\x1f' ∉ v.plainText.toList

instance (v : Value) : Decidable (LacksSeparator v) :=
  inferInstanceAs (Decidable (¬_))

variable {a b v : Value} {as bs : List Value}

theorem partKey_eq_lowercase (v : Value) : partKey v = Text.lowercase (written v) := by
  cases hd : v.toDecimal? with
  | none => simp only [partKey, written, hd]
  | some d =>
    have hlower : Text.lowercase d.normalize.text = d.normalize.text :=
      Text.lowercase_of_isCaseless fun c hc => (Decimal.isCaseless_of_mem_text hc).1
    simp only [partKey, written, hd, hlower]

theorem partKey_eq_iff : partKey a = partKey b ↔ Agree a b := by
  rw [Agree]
  split
  · rename_i x y hx hy
    rw [partKey, partKey, hx, hy, ← Decimal.normalize_eq_iff]
    exact Decimal.text_injective.eq_iff
  · rw [partKey_eq_lowercase, partKey_eq_lowercase]

theorem notMem_partKey (h : LacksSeparator v) : '\x1f' ∉ (partKey v).toList := by
  rw [partKey]
  split
  · exact fun hmem => (Decimal.isCaseless_of_mem_text hmem).2 rfl
  · rwa [Text.mem_lowercase (by decide)]

/-! ### Keys of display values -/

theorem map_partKey_eq_iff : as.map partKey = bs.map partKey ↔ List.Forall₂ Agree as bs := by
  rw [← List.forall₂_eq_eq_eq, List.forall₂_map_left_iff, List.forall₂_map_right_iff]
  simp only [partKey_eq_iff]

theorem key_singleton_eq_iff : key [a] = key [b] ↔ Agree a b := by
  rw [key, key, List.map_singleton, List.map_singleton, String.intercalate_singleton,
    String.intercalate_singleton, partKey_eq_iff]

/-- The parts of a key are told apart by the separator, where nothing else contains it. -/
theorem splitOn_key (hne : as ≠ []) (h : ∀ v ∈ as, LacksSeparator v) :
    (key as).toList.splitOn '\x1f' = (as.map partKey).map String.toList := by
  rw [key, String.toList_intercalate]
  refine List.splitOn_intercalate '\x1f' ?_ ?_
  · rw [List.map_map]
    exact List.forall_mem_map.2 fun v hv => notMem_partKey (h v hv)
  · simpa using hne

theorem key_eq_of_agree (h : List.Forall₂ Agree as bs) : key as = key bs := by
  rw [key, key, map_partKey_eq_iff.2 h]

theorem key_eq_iff (hnas : as ≠ []) (hnbs : bs ≠ []) (has : ∀ v ∈ as, LacksSeparator v)
    (hbs : ∀ v ∈ bs, LacksSeparator v) : key as = key bs ↔ List.Forall₂ Agree as bs := by
  refine ⟨fun h => ?_, key_eq_of_agree⟩
  have hsplit := congrArg (fun s : String => s.toList.splitOn '\x1f') h
  simp only [splitOn_key hnas has, splitOn_key hnbs hbs] at hsplit
  exact map_partKey_eq_iff.1 (List.map_injective_iff.2 (fun _ _ => String.toList_injective) hsplit)

end CodeTable

end TypedFilter
