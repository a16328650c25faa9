import TypedFilter.Proofs.Written

/-!
What statements select. Main statement: a statement of columns or of all columns is read as its
columns, then its table, then its condition, whatever the names of the columns are.
-/

namespace TypedFilter.Sql

/-! ### Selected columns

A column by its name; no name stands for all columns. -/

/-- The text of a selected column. -/
def selectedText : Option String → String
  | none => "*"
  | some name => quoteName name

/-- The token of a selected column. -/
def selectedToken : Option String → Token
  | none => .sign .star
  | some name => .identifier name

/-- What a selected column is read as. -/
def selectedItem : Option String → SelectItem
  | none => .all
  | some name => .expression (.column name) none

/-- The text of a statement of columns, up to the word before its table. -/
def selectionText (distinct : Bool) (names : List (Option String)) : String :=
  "SELECT " ++ (if distinct then "DISTINCT " else "") ++
    String.intercalate ", " (names.map selectedText)

/-- The tokens of a statement up to its table. -/
def selectionTokens (distinct : Bool) (name : Option String) (names : List (Option String)) :
    List Token :=
  .keyword .select :: ((if distinct then [.keyword .distinct] else []) ++
    (rowTokens [selectedToken name] (names.map fun n => [selectedToken n]) ++ [.keyword .from]))

theorem lexes_selectedText (name : Option String) :
    Lexes (selectedText name) [selectedToken name] := by
  cases name with
  | none => exact lexes_arithOp .multiply
  | some name => exact lexes_quoteName name

/-- The words around what a statement selects. -/
theorem lexes_around (distinct : Bool) {row : String} {ts : List Token} (h : Lexes row ts) :
    Lexes ("SELECT " ++ (if distinct then "DISTINCT " else "") ++ row ++ " FROM")
      (.keyword .select ::
        ((if distinct then [.keyword .distinct] else []) ++ (ts ++ [.keyword .from]))) := by
  have hselect : Lexes "SELECT" [.keyword .select] := lexes_keyword (by decide) (by decide)
  have hdistinct : Lexes "DISTINCT" [.keyword .distinct] := lexes_keyword (by decide) (by decide)
  have hfrom : Lexes "FROM" [.keyword .from] := lexes_keyword (by decide) (by decide)
  have hselectText : "SELECT " = "SELECT" ++ " " := rfl
  have hdistinctText : "DISTINCT " = "DISTINCT" ++ " " := rfl
  have hfromText : " FROM" = " " ++ "FROM" := rfl
  rw [hselectText, hdistinctText, hfromText]
  cases distinct with
  | true =>
    have hlex := (hselect.spaced hdistinct).spaced (h.spaced hfrom)
    simp only [String.append_assoc] at hlex ⊢
    exact hlex
  | false =>
    have hlex := hselect.spaced (h.spaced hfrom)
    simp only [String.append_assoc] at hlex ⊢
    exact hlex

/-- The text of a statement up to its table, whatever the columns are. -/
theorem lexes_selection (distinct : Bool) (name : Option String) (names : List (Option String)) :
    Lexes (selectionText distinct (name :: names) ++ " FROM")
      (selectionTokens distinct name names) := by
  have hnames : List.Forall₂ Lexes (names.map selectedText)
      (names.map fun n => [selectedToken n]) := by
    rw [List.forall₂_map_left_iff, List.forall₂_map_right_iff, List.forall₂_same]
    exact fun n _ => lexes_selectedText n
  exact lexes_around distinct (lexes_intercalate separates_comma (lexes_selectedText name) hnames)

/-- The tokens of a statement are those up to its table and those of the table. -/
theorem tokensFrom_selection (total : Nat) (distinct : Bool) (name : Option String)
    (names : List (Option String)) (table : String) :
    tokensFrom total (selectionText distinct (name :: names) ++ " FROM " ++ table).toList =
      (tokensFrom total table.toList).map (selectionTokens distinct name names ++ ·) := by
  have hsplit : (selectionText distinct (name :: names) ++ " FROM " ++ table).toList =
      (selectionText distinct (name :: names) ++ " FROM").toList ++ ' ' :: table.toList := by
    simp
  rw [hsplit, lexes_selection distinct name names total _ rfl, tokensFrom_space]

/-- No other name follows a column before a comma or a table. -/
theorem leaves_aliasName {ts : List Token}
    (h : current ts = .sign .comma ∨ current ts = .keyword .from) :
    Leaves (aliasName ts) none ts := by
  unfold aliasName
  split
  · rcases h with h | h <;> cases h
  · rcases h with h | h <;> cases h
  · exact leaves_stay none ts

theorem takes_star {n : Nat} (expression : Below Expression n) (ts : List Token)
    (h : (Token.sign .star :: ts).length < n) :
    Takes (selectItem expression (.sign .star :: ts) h) .all ts :=
  ⟨Nat.lt_succ_self _, rfl⟩

theorem reads_selected (name : Option String) {n m : Nat} (hm : m < n) :
    ReadsItemBefore (n := m) (.keyword .from)
      (fun ts h => selectItem (expressionBelow n) ts (Nat.lt_of_le_of_lt h hm))
      [selectedToken name] (selectedItem name) := by
  rintro rest _ rfl hrest h
  cases name with
  | none => exact takes_star _ rest _
  | some name =>
    have hbinds : binds (current rest) = 0 := by
      rcases hrest with hrest | hrest <;> rw [hrest] <;> rfl
    have hcolumn := (reads_column name).mono (q := 1) (by decide) (by decide) (by decide)
    obtain ⟨h₁, he₁⟩ := hcolumn.below (L := [.identifier name] ++ rest) rfl
      (Nat.lt_of_le_of_lt h hm) hbinds
    obtain ⟨h₂, he₂⟩ := leaves_aliasName hrest
    refine ⟨Nat.lt_of_le_of_lt h₂ h₁, ?_⟩
    simp only [List.singleton_append, selectedToken] at he₁ ⊢
    rw [selectItem]
    · simp only [he₁, he₂, bind, Except.bind]
      rfl
    · simp

theorem takes_selected (name : Option String) (names : List (Option String)) (L : List Token)
    {n m : Nat} (hm : m < n) {ts : List Token}
    (hts : ts = [selectedToken name] ++
      ((names.map fun n => [selectedToken n]).flatMap (.sign .comma :: ·) ++ .keyword .from :: L))
    (h : ts.length ≤ m) :
    Takes
      (items (fun ts h => selectItem (expressionBelow n) ts (Nat.lt_of_le_of_lt h hm)) ts h)
      ((name :: names).map selectedItem) (.keyword .from :: L) := by
  refine takes_itemsBefore (by simp) (reads_selected name hm) ?_ L hts h
  rw [List.forall₂_map_left_iff, List.forall₂_map_right_iff, List.forall₂_same]
  exact fun name _ => reads_selected name hm

theorem distinctPart_selection (distinct : Bool) (name : Option String) (ts : List Token) :
    distinctPart ((if distinct then [.keyword .distinct] else []) ++ selectedToken name :: ts) =
      ⟨distinct, selectedToken name :: ts, (List.suffix_append _ _).length_le⟩ := by
  cases distinct with
  | true => rfl
  | false => cases name <;> rfl

theorem fromPart_from (L : List Token) :
    fromPart (.keyword .from :: L) =
      (tableName L).map fun table => ((table.map some).cons (.keyword .from)).toTail := by
  rw [fromPart]
  cases tableName L <;> rfl

/-- A statement whose columns are read goes on with its table and its condition. -/
theorem selectWith_of_items {n : Nat} {expression : Below Expression n} {ts : List Token}
    (h : (Token.keyword .select :: ts).length ≤ n) {distinct : Tail Bool ts}
    (hdistinct : distinctPart ts = distinct) (hlen : distinct.rest.length < n)
    {selected : Step (List SelectItem) distinct.rest}
    (hselected : items (fun ts h => selectItem expression ts (Nat.lt_of_le_of_lt h hlen))
      distinct.rest (Nat.le_refl _) = .ok selected) :
    selectWith expression (.keyword .select :: ts) h =
      (fromPart selected.rest).bind fun table =>
        (wherePart expression table.rest (Nat.le_trans table.noLonger
            (selected.fits (Nat.le_of_lt hlen)))).map fun condition =>
          ⟨.mk distinct.value selected.value table.value condition.value, condition.rest,
            Nat.lt_succ_of_le (Nat.le_trans (Nat.le_trans condition.noLonger table.noLonger)
              (Nat.le_trans (Nat.le_of_lt selected.shorter) distinct.noLonger))⟩ := by
  subst hdistinct
  simp only [selectWith, expectWord, expect, if_true, bind, Except.bind, hselected]
  cases fromPart selected.rest with
  | error e => rfl
  | ok table =>
    dsimp only
    cases wherePart expression table.rest _ <;> rfl

/-- A statement is read as its columns, then its table, then its condition. -/
theorem selectWith_selection {n : Nat} (distinct : Bool) (name : Option String)
    (names : List (Option String)) {ts L : List Token}
    (hts : ts = selectionTokens distinct name names ++ L) (h : ts.length ≤ n)
    (hL : L.length < ts.length) :
    selectWith (expressionBelow n) ts h =
      (tableName L).bind fun table =>
        (wherePart (expressionBelow n) table.rest
            (table.fits (Nat.le_trans (Nat.le_of_lt hL) h))).map fun condition =>
          ⟨.mk distinct ((name :: names).map selectedItem) (some table.value) condition.value,
            condition.rest,
            Nat.lt_of_le_of_lt condition.noLonger (Nat.lt_trans table.shorter hL)⟩ := by
  let R := (names.map fun n => [selectedToken n]).flatMap (.sign .comma :: ·) ++
    .keyword .from :: L
  have hts' : ts = .keyword .select :: ((if distinct then [.keyword .distinct] else []) ++
      selectedToken name :: R) := by
    rw [hts]
    simp [selectionTokens, rowTokens, R]
  subst hts'
  have hR : (selectedToken name :: R).length < n :=
    Nat.lt_of_lt_of_le (Nat.lt_succ_of_le (List.suffix_append _ _).length_le) h
  obtain ⟨h₁, he₁⟩ := takes_selected name names L hR rfl (Nat.le_refl _)
  rw [selectWith_of_items h (distinctPart_selection distinct name R) hR he₁, fromPart_from]
  cases tableName L <;> rfl

end TypedFilter.Sql
