import TypedFilter.Expr.Build
import TypedFilter.Expr.Eval
import TypedFilter.Proofs.Conversions
import TypedFilter.Proofs.Patterns
import TypedFilter.Text.Uppercase

/-!
Patterns in any case. A search in any case turns the value into text, puts the text and the pattern
into upper case and compares character by character; the other way is to compare the folded forms of
the characters. Main statement: in ASCII both come to the same.
-/

namespace TypedFilter

namespace Text

/-- Whether the text consists of ASCII characters. -/
def IsAscii (s : String) : Prop :=
  ∀ c ∈ s.toList, c.toNat < 128

instance (s : String) : Decidable (IsAscii s) :=
  decidable_of_iff (s.toList.all fun c => c.toNat < 128) (by simp [IsAscii])

/-! ### Letters -/

/-- A law of all ASCII characters that can be checked one by one. -/
theorem ascii_induction {p : Char → Prop} (h : ∀ n < 128, p (Char.ofNat n)) {c : Char}
    (hc : c.toNat < 128) : p c :=
  Char.ofNat_toNat c ▸ h c.toNat hc

theorem toUpper_toLower {c : Char} (hc : c.toNat < 128) : c.toLower.toUpper = c.toUpper :=
  ascii_induction (p := fun c => c.toLower.toUpper = c.toUpper) (by decide +kernel) hc

theorem toLower_toUpper {c : Char} (hc : c.toNat < 128) : c.toUpper.toLower = c.toLower :=
  ascii_induction (p := fun c => c.toUpper.toLower = c.toLower) (by decide +kernel) hc

/-- In upper case, `%` and `_` come from themselves alone. -/
theorem toUpper_eq_wildcard_iff {c : Char} (hc : c.toNat < 128) :
    (c.toUpper = '%' ↔ c = '%') ∧ (c.toUpper = '_' ↔ c = '_') :=
  ascii_induction (p := fun c => (c.toUpper = '%' ↔ c = '%') ∧ (c.toUpper = '_' ↔ c = '_'))
    (by decide +kernel) hc

/-- ASCII characters that differ in case alone are those with one upper-case form. -/
theorem sameIgnoringCase_eq {a b : Char} (ha : a.toNat < 128) (hb : b.toNat < 128) :
    sameIgnoringCase a b = (a.toUpper == b.toUpper) := by
  rw [sameIgnoringCase, foldChar, foldChar, if_pos ha, if_pos hb, Bool.eq_iff_iff, beq_iff_eq,
    beq_iff_eq]
  constructor
  · intro h
    rw [← toUpper_toLower ha, h, toUpper_toLower hb]
  · intro h
    rw [← toLower_toUpper ha, h, toLower_toUpper hb]

theorem toList_uppercase {s : String} (h : IsAscii s) :
    (uppercase s).toList = s.toList.map Char.toUpper := by
  rw [uppercase, String.toList_ofList, List.map_eq_flatMap]
  exact List.flatMap_congr fun c hc => uppercaseChar_ascii (h c hc)

/-! ### Patterns -/

/-- A change of characters that keeps what stands for what, and neither makes nor takes away
wildcards, keeps what patterns describe. -/
theorem likeMatch_map_iff {same same' : Char → Char → Bool} {change : Char → Char}
    {pattern text : List Char}
    (hwild : ∀ p ∈ pattern, (change p = '%' ↔ p = '%') ∧ (change p = '_' ↔ p = '_'))
    (hsame : ∀ p ∈ pattern, ∀ c ∈ text, same' (change p) (change c) = same p c) :
    LikeMatch same' (pattern.map change) (text.map change) ↔ LikeMatch same pattern text := by
  induction pattern generalizing text with
  | nil => simp [likeMatch_nil_iff]
  | cons p pattern ih =>
    obtain ⟨⟨hrun, hany⟩, hrest⟩ := List.forall_mem_cons.1 hwild
    have ih : ∀ rest, (∀ c ∈ rest, c ∈ text) →
        (LikeMatch same' (pattern.map change) (rest.map change) ↔ LikeMatch same pattern rest) :=
      fun rest hmem => ih hrest fun p hp c hc => hsame p (List.mem_cons_of_mem _ hp) c (hmem c hc)
    rw [List.map_cons]
    by_cases hp : p = '%'
    · subst hp
      rw [hrun.2 rfl, likeMatch_run_iff, likeMatch_run_iff]
      constructor
      · rintro ⟨_, hsuffix, h⟩
        obtain ⟨rest, hrest, rfl⟩ := List.suffix_map_iff.1 hsuffix
        exact ⟨rest, hrest, (ih rest fun _ hc => hrest.subset hc).1 h⟩
      · rintro ⟨rest, hsuffix, h⟩
        exact ⟨rest.map change, hsuffix.map change, (ih rest fun _ hc => hsuffix.subset hc).2 h⟩
    · rw [likeMatch_one_iff (mt hrun.1 hp), likeMatch_one_iff hp]
      cases text with
      | nil => simp
      | cons c text =>
        have hhead := hsame p List.mem_cons_self c List.mem_cons_self
        simp [hany, hhead, ih text fun _ => List.mem_cons_of_mem c]

/-- Upper case on both sides comes to the same as comparing folded forms. -/
theorem like_uppercase {text pattern : String} (ht : IsAscii text) (hp : IsAscii pattern) :
    like (uppercase text) (uppercase pattern) false = like text pattern true := by
  rw [Bool.eq_iff_iff, like, like, if_neg Bool.false_ne_true, if_pos rfl, search_likeRegex_iff,
    search_likeRegex_iff, toList_uppercase ht, toList_uppercase hp]
  exact likeMatch_map_iff (fun p hmem => toUpper_eq_wildcard_iff (hp p hmem))
    fun p hmem c hc => (sameIgnoringCase_eq (hp p hmem) (ht c hc)).symm

end Text

/-! ### Values as text -/

namespace Value

/-- Whether the value is a single one: no list, geometry or box. -/
def IsSingle : Value → Prop
  | .list _ | .geometry _ | .box _ => False
  | _ => True

theorem stringOf?_eq {v : Value} (h : v.IsSingle) : DataType.stringOf? v = some v.plainText := by
  cases v with
  | list | geometry | box => cases h
  | _ => rfl

theorem countsAsNull_string {v : Value} (h : v.isNull = false) :
    DataType.string.countsAsNull v = false := by
  cases v with
  | null => cases h
  | string s => simp [DataType.countsAsNull]
  | _ => rfl

/-- The cast to text turns a single value into its plain text. -/
theorem castTo_text {v : Value} (hnull : v.isNull = false) (h : v.IsSingle) :
    v.castTo "varchar(4000)" = .string v.plainText := by
  have htype : DataType.ofName? "varchar(4000)" = some .string := by decide +kernel
  have hcast : DataType.string.cast? v = some (.string v.plainText) := by
    rw [DataType.cast?, stringOf?_eq h, Option.map_some]
  unfold castTo
  simp only [htype, convert_of_cast? (countsAsNull_string hnull) hcast]

/-- What is not a single value, or none at all, has no text that it is cast to. -/
theorem castTo_text_eq_null {v : Value} (h : v.isNull = true ∨ ¬v.IsSingle) :
    v.castTo "varchar(4000)" = .null := by
  have htype : DataType.ofName? "varchar(4000)" = some .string := by decide +kernel
  unfold castTo
  simp only [htype]
  cases v with
  | null | list | geometry | box => rfl
  | _ => exact absurd trivial (h.resolve_left Bool.false_ne_true)

theorem satisfies_like_string (s pattern : String) :
    (string s).satisfies .like (.string pattern) = Text.like s pattern false := rfl

end Value

namespace Expr

open Text

theorem apply_upper_string (s : String) :
    Builtin.upper.apply [.string s] = .string (uppercase s) := rfl

/-- A search in any case compares the value as text with the pattern, both in upper case. -/
theorem test_ilike (e : Expr) (pattern : String) (r : Record) :
    (e.ilike (.string pattern)).test r =
      (Builtin.upper.apply [(e.evaluate r).castTo "varchar(4000)"]).satisfies .like
        (.string (uppercase pattern)) := rfl

/-- A search in any case for a pattern comes to the same as matching the text of the value with the
pattern in any case, and is false where there is no value. -/
theorem ilike_is_caseless (pattern : String) (hpattern : IsAscii pattern) (e : Expr) (r : Record) :
    ((e.evaluate r).IsSingle → (e.evaluate r).isNull = false →
        IsAscii (e.evaluate r).plainText →
      (e.ilike (.string pattern)).test r = Text.like (e.evaluate r).plainText pattern true) ∧
    ((e.evaluate r).isNull = true ∨ ¬(e.evaluate r).IsSingle →
      (e.ilike (.string pattern)).test r = false) := by
  refine ⟨fun hsingle hnull htext => ?_, fun h => ?_⟩
  · rw [test_ilike, Value.castTo_text hnull hsingle, apply_upper_string,
      Value.satisfies_like_string, like_uppercase htext hpattern]
  · rw [test_ilike, Value.castTo_text_eq_null h]
    rfl

/-- A text and a truth value that match in another case, a day with a pattern that other languages
read otherwise, and a field without a value. -/
theorem ilike_is_caseless_kinds :
    let fields : List Field :=
      [.ofType "name" .string, .ofType "paid" .boolean, .ofType "due" .date, .ofType "note" .string]
    let r : Record := .ofValues { path := "/shop", fields }
      [.string "Ann [B.]", .boolean true, .string "2024-05-01"]
    ((ofName "name").ilike (.string "aNN%[b_")).test r = false ∧
      ((ofName "name").ilike (.string "aNN%[b._")).test r = true ∧
      ((ofName "paid").ilike (.string "T%E")).test r = true ∧
      ((ofName "due").ilike (.string "20.4%")).test r = false ∧
      ((ofName "note").ilike (.string "%")).test r = false := by
  intro fields r
  have hname := ilike_is_caseless "aNN%[b_" (by decide +kernel) (ofName "name") r
  have hlonger := ilike_is_caseless "aNN%[b._" (by decide +kernel) (ofName "name") r
  have hpaid := ilike_is_caseless "T%E" (by decide +kernel) (ofName "paid") r
  have hdue := ilike_is_caseless "20.4%" (by decide +kernel) (ofName "due") r
  have hnote := ilike_is_caseless "%" (by decide +kernel) (ofName "note") r
  have hann : (ofName "name").evaluate r = .string "Ann [B.]" := by decide +kernel
  have htrue : (ofName "paid").evaluate r = .boolean true := by decide +kernel
  have hday : (ofName "due").evaluate r = .date ⟨2024, 5, 1, by decide⟩ := by decide +kernel
  rw [hann] at hname hlonger
  rw [htrue] at hpaid
  rw [hday] at hdue
  exact ⟨(hname.1 trivial rfl (by decide +kernel)).trans (by decide +kernel),
    (hlonger.1 trivial rfl (by decide +kernel)).trans (by decide +kernel),
    (hpaid.1 trivial rfl (by decide +kernel)).trans (by decide +kernel),
    (hdue.1 trivial rfl (by decide +kernel)).trans (by decide +kernel),
    hnote.2 (.inl (by decide +kernel))⟩

end Expr

end TypedFilter
