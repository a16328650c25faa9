import TypedFilter.Expr.Build
import TypedFilter.Expr.Eval
import TypedFilter.Proofs.Patterns

/-!
Searches for a text at the start of a value or anywhere in it. The text stands in a pattern as it
is, so `%` and `_` in it keep their meaning there. Main statement: every value with the text is
found, and the values found are those with the text alone if and only if it has no `%` and no `_`.
-/

namespace TypedFilter

namespace Text

variable {pattern more text : List Char}

/-! ### Patterns one behind the other -/

theorem isCut_append_iff : IsCut (pattern ++ more) text ↔
    ∃ before rest, text = before ++ rest ∧ IsCut pattern before ∧ IsCut more rest := by
  induction pattern generalizing text with
  | nil => simp [isCut_nil_iff]
  | cons p pattern ih =>
    simp only [List.cons_append, isCut_cons_iff, ih]
    constructor
    · rintro ⟨piece, _, rfl, hpiece, before, rest, rfl, hbefore, hrest⟩
      exact ⟨piece ++ before, rest, by simp, ⟨piece, before, rfl, hpiece, hbefore⟩, hrest⟩
    · rintro ⟨_, rest, rfl, ⟨piece, before, rfl, hpiece, hbefore⟩, hrest⟩
      exact ⟨piece, before ++ rest, by simp, hpiece, before, rest, rfl, hbefore, hrest⟩

theorem isCut_run (text : List Char) : IsCut ['%'] text :=
  isCut_cons_iff.2 ⟨text, [], by simp, .run text, isCut_nil_iff.2 rfl⟩

/-- A pattern describes itself: `%` is a run, and `_` is one character. -/
theorem isCut_self (pattern : List Char) : IsCut pattern pattern := by
  induction pattern with
  | nil => exact isCut_nil_iff.2 rfl
  | cons p pattern ih =>
    refine isCut_cons_iff.2 ⟨[p], pattern, rfl, ?_, ih⟩
    by_cases hp : p = '%'
    · exact hp ▸ .run _
    · by_cases hu : p = '_'
      · exact hu ▸ .any _
      · exact .itself hp hu

/-- In front of a run, a pattern is for the start of a text. -/
theorem isCut_start_iff :
    IsCut (pattern ++ ['%']) text ↔ ∃ start, start <+: text ∧ IsCut pattern start := by
  rw [isCut_append_iff]
  constructor
  · rintro ⟨start, rest, rfl, hstart, -⟩
    exact ⟨start, List.prefix_append _ _, hstart⟩
  · rintro ⟨start, ⟨rest, rfl⟩, hstart⟩
    exact ⟨start, rest, rfl, hstart, isCut_run rest⟩

/-- Between two runs, a pattern is for any part of a text. -/
theorem isCut_part_iff :
    IsCut ('%' :: pattern ++ ['%']) text ↔ ∃ part, part <:+: text ∧ IsCut pattern part := by
  rw [isCut_start_iff]
  constructor
  · rintro ⟨start, hstart, hcut⟩
    obtain ⟨piece, part, rfl, -, hpart⟩ := isCut_cons_iff.1 hcut
    exact ⟨part, (List.suffix_append piece part).isInfix.trans hstart.isInfix, hpart⟩
  · rintro ⟨part, ⟨piece, rest, rfl⟩, hpart⟩
    exact ⟨piece ++ part, List.prefix_append _ _,
      isCut_cons_iff.2 ⟨piece, part, rfl, .run piece, hpart⟩⟩

/-- A pattern with `%` or `_` describes another text that is no longer than the pattern: one in
which nothing stands for the `%`, or another character for the `_`. -/
theorem exists_isCut_ne {p : Char} (hmem : p ∈ pattern) (hp : p = '%' ∨ p = '_') :
    ∃ text, IsCut pattern text ∧ text.length ≤ pattern.length ∧ text ≠ pattern := by
  obtain ⟨before, after, rfl⟩ := List.append_of_mem hmem
  have hcut : ∀ piece, IsPiece p piece →
      IsCut (before ++ p :: after) (before ++ (piece ++ after)) :=
    fun piece hpiece => isCut_append_iff.2 ⟨_, _, rfl, isCut_self before,
      isCut_cons_iff.2 ⟨piece, after, rfl, hpiece, isCut_self after⟩⟩
  rcases hp with rfl | rfl
  · refine ⟨_, hcut [] (.run []), by simp, fun h => ?_⟩
    simpa using congrArg List.length h
  · exact ⟨_, hcut ['x'] (.any 'x'), by simp, by simp⟩

end Text

namespace Expr

open Text

/-- A value matches a pattern if it is there and its text can be cut into pieces for the pattern. -/
theorem test_like_iff (e : Expr) (pattern : String) (r : Record) :
    (e.like (.string pattern)).test r = true ↔
      (e.evaluate r).isNull = false ∧
        IsCut pattern.toList (e.evaluate r).plainText.toList := by
  show (!(e.evaluate r).isNull && true && Text.like (e.evaluate r).plainText pattern false) = true ↔
    _
  rw [Bool.and_true, Bool.and_eq_true, Bool.not_eq_true', like_exact_iff]

variable {e : Expr} {r : Record} (s : String)

/-- A search at the start finds a value that starts with what the text describes as a pattern. -/
theorem test_startsWith_iff (h : (e.evaluate r).isNull = false) :
    (e.startsWith s).test r = true ↔
      ∃ start, start <+: (e.evaluate r).plainText.toList ∧ IsCut s.toList start := by
  rw [startsWith, test_like_iff, String.toList_append, isCut_start_iff.symm]
  exact and_iff_right h

/-- A search anywhere finds a value that has a part that the text describes as a pattern. -/
theorem test_contains_iff (h : (e.evaluate r).isNull = false) :
    (e.contains s).test r = true ↔
      ∃ part, part <:+: (e.evaluate r).plainText.toList ∧ IsCut s.toList part := by
  rw [contains, test_like_iff, String.toList_append, String.toList_append, isCut_part_iff.symm]
  exact and_iff_right h

/-- Whether the searches for a text in a node find the values that have the text, at the start and
anywhere, and no others. -/
def SearchesAreLiteral (s : String) (e : Expr) : Prop :=
  ∀ r : Record, (e.evaluate r).isNull = false →
    ((e.startsWith s).test r = true ↔ s.toList <+: (e.evaluate r).plainText.toList) ∧
    ((e.contains s).test r = true ↔ s.toList <:+: (e.evaluate r).plainText.toList)

/-- Any text is the value of a column for some record. -/
theorem exists_column_eq (s : String) :
    ∃ (c : Column) (r : Record), (column c).evaluate r = .string s := by
  let d : Definition := .ofFields "/shop" 0 [.ofType "note" .string]
  have hindex : d.fieldIndex? "note" = some 0 := by decide +kernel
  refine ⟨.ofName "note", ⟨d, [.string s]⟩, ?_⟩
  have hname : (Column.ofName "note").name = "note" := by decide +kernel
  rw [evaluate, hname, Record.value, hindex]
  rfl

/-- A value that starts with a text is found by the search for it, and so is one with the text in it
by the search for it anywhere. The search finds a start or a part that the text describes as a
pattern, so it finds nothing else, whatever the value, if and only if the text has no `%` and no
`_`. -/
theorem searches_are_literal_iff :
    (∀ (e : Expr) (r : Record), (e.evaluate r).isNull = false →
      ((e.startsWith s).test r = true ↔
        ∃ start, start <+: (e.evaluate r).plainText.toList ∧ IsCut s.toList start) ∧
      ((e.contains s).test r = true ↔
        ∃ part, part <:+: (e.evaluate r).plainText.toList ∧ IsCut s.toList part) ∧
      (s.toList <+: (e.evaluate r).plainText.toList → (e.startsWith s).test r = true) ∧
      (s.toList <:+: (e.evaluate r).plainText.toList → (e.contains s).test r = true)) ∧
    ((∀ p ∈ s.toList, p ≠ '%' ∧ p ≠ '_') → ∀ e, SearchesAreLiteral s e) ∧
    ((∀ c, SearchesAreLiteral s (.column c)) → ∀ p ∈ s.toList, p ≠ '%' ∧ p ≠ '_') := by
  refine ⟨fun e r h => ?_, fun hplain e r h => ?_, fun hliteral p hmem => ?_⟩
  · have hstart := test_startsWith_iff s h
    have hpart := test_contains_iff s h
    exact ⟨hstart, hpart, fun hs => hstart.2 ⟨_, hs, isCut_self _⟩,
      fun hs => hpart.2 ⟨_, hs, isCut_self _⟩⟩
  · rw [test_startsWith_iff s h, test_contains_iff s h]
    simp only [isCut_plain_iff hplain, exists_eq_right, and_self]
  · -- a value that the text describes, and that is too short to have the text in it
    by_contra hwild
    rw [← not_or, not_not] at hwild
    obtain ⟨text, hcut, hlength, hne⟩ := exists_isCut_ne hmem hwild
    obtain ⟨c, r, hvalue⟩ := exists_column_eq (String.ofList text)
    have hthere : ((column c).evaluate r).isNull = false := by
      rw [hvalue]
      rfl
    have htext : ((column c).evaluate r).plainText.toList = text := by
      rw [hvalue]
      exact String.toList_ofList
    obtain ⟨-, hpart⟩ := hliteral c r hthere
    rw [htext] at hpart
    have hfound := (test_contains_iff s hthere).2 ⟨text, htext ▸ List.infix_refl text, hcut⟩
    exact hne ((hpart.1 hfound).eq_of_length_le hlength).symm

/-- A part of a number, in which the point is a character like any other; and a percentage, which is
found where it stands. -/
theorem searches_are_literal_iff_numbers :
    let price : Expr := .ofName "price"
    let note : Expr := .ofName "note"
    let fields : List Field := [.ofType "price" .decimal, .ofType "note" .string]
    let r : Record := .ofValues { path := "/shop", fields }
      [.decimal ⟨false, 1250, 2, by decide, by decide⟩, .string "up 5% since May"]
    (price.evaluate r).isNull = false ∧ (∀ p ∈ "2.5".toList, p ≠ '%' ∧ p ≠ '_') ∧
      (price.contains "2.5").test r = true ∧ (price.startsWith "2.5").test r = false ∧
      (note.evaluate r).isNull = false ∧ (note.contains "5%").test r = true := by
  intro price note fields r
  have hnumber : (price.evaluate r).isNull = false := by decide +kernel
  have hprice : (price.evaluate r).plainText.toList = "12.50".toList := by decide +kernel
  have hplain : ∀ p ∈ "2.5".toList, p ≠ '%' ∧ p ≠ '_' := by simp
  have hnote : (note.evaluate r).isNull = false := by decide +kernel
  have htext : (note.evaluate r).plainText.toList = "up 5% since May".toList := by decide +kernel
  obtain ⟨hstart, hpart⟩ := (searches_are_literal_iff "2.5").2.1 hplain price r hnumber
  obtain ⟨-, -, -, hfound⟩ := (searches_are_literal_iff "5%").1 note r hnote
  rw [hprice] at hstart hpart
  rw [htext] at hfound
  refine ⟨hnumber, hplain, hpart.2 (by decide +kernel), ?_, hnote, hfound (by decide +kernel)⟩
  exact Bool.eq_false_iff.2 (mt hstart.1 (by decide +kernel))

/-- A percentage at the start of a text, and an underscore in one, stand for other characters. -/
theorem wildcards_are_searched_for :
    let note : Expr := .ofName "note"
    let r : Record :=
      .ofValues { path := "/shop", fields := [.ofType "note" .string] } [.string "100 percent"]
    (note.evaluate r).isNull = false ∧ (note.evaluate r).plainText = "100 percent" ∧
      (note.startsWith "100%p").test r = true ∧ ¬"100%p".toList <+: "100 percent".toList ∧
      (note.contains "0_p").test r = true ∧ ¬"0_p".toList <:+: "100 percent".toList := by
  decide +kernel

end Expr

end TypedFilter
