import TypedFilter.Proofs.SelectLists
import TypedFilter.Proofs.TableNames
import TypedFilter.Query.Statement

/-!
What the statements of queries select. Main statement: a statement of columns and a table alone, if
it can be read, selects the columns that the query names; it can be read with the table of the
query's path if and only if every segment of the path is made of bare words with points between
them.
-/

namespace TypedFilter

namespace Sql

/-! ### Whole statements -/

variable {distinct : Bool} {name : Option String} {names : List (Option String)}

theorem length_lt_selection (L : List Token) :
    L.length < (selectionTokens distinct name names ++ L).length :=
  Nat.lt_succ_of_le (List.suffix_append _ L).length_le

/-- Whatever follows, a statement that can be read selects its columns, and its table is the name
that stands there. -/
theorem exists_of_ofTokens_selection {L : List Token} {select : Select}
    (h : Select.ofTokens (selectionTokens distinct name names ++ L) = .ok select) :
    select.distinct = distinct ∧ select.items = (name :: names).map selectedItem ∧
      ∃ table, tableName L = .ok table ∧ select.table = some table.value := by
  rw [Select.ofTokens, readSelect,
    selectWith_selection distinct name names rfl _ (length_lt_selection L)] at h
  obtain ⟨step, hstep, h⟩ := exists_of_bind_ok h
  obtain ⟨table, htable, hstep⟩ := exists_of_bind_ok hstep
  obtain ⟨condition, -, rfl⟩ := exists_of_map_ok hstep
  -- The end of the statement may have a semicolon before it.
  dsimp only at h
  split at h
  all_goals
    split at h
    · cases h
      exact ⟨rfl, rfl, table, htable, rfl⟩
    · cases h

theorem ofTokens_selection (word : String) (words : List String) :
    Select.ofTokens
        (selectionTokens distinct name names ++ (nameTokens word words ++ [Token.eof])) =
      .ok (.mk distinct ((name :: names).map selectedItem)
        (some (String.intercalate "." (word :: words))) none) := by
  obtain ⟨h, he⟩ := takes_tableName word words (show current [Token.eof] ≠ .sign .dot by decide)
  rw [Select.ofTokens, readSelect,
    selectWith_selection distinct name names rfl _ (length_lt_selection _), he]
  rfl

/-- A statement that can be read selects its columns. -/
theorem items_of_ofText_selection {table : String} {select : Select}
    (h : Select.ofText (selectionText distinct (name :: names) ++ " FROM " ++ table) =
      .ok select) :
    select.distinct = distinct ∧ select.items = (name :: names).map selectedItem := by
  rw [Select.ofText, tokenize, tokensFrom_selection] at h
  obtain ⟨ts, hts, h⟩ := exists_of_bind_ok h
  obtain ⟨L, -, rfl⟩ := exists_of_map_ok hts
  obtain ⟨hdistinct, hitems, -⟩ := exists_of_ofTokens_selection h
  exact ⟨hdistinct, hitems⟩

/-- A statement is read with its columns and its table if and only if the name of the table is made
of bare words with points between them. -/
theorem ofText_selection_iff {table : String} :
    Select.ofText (selectionText distinct (name :: names) ++ " FROM " ++ table) =
      .ok (.mk distinct ((name :: names).map selectedItem) (some table) none) ↔
    IsTableName table := by
  rw [Select.ofText, tokenize, tokensFrom_selection]
  constructor
  · intro h
    obtain ⟨ts, hts, h⟩ := exists_of_bind_ok h
    obtain ⟨L, hL, rfl⟩ := exists_of_map_ok hts
    obtain ⟨-, -, step, hstep, htable⟩ := exists_of_ofTokens_selection h
    exact (tableName_iff _ table).1 ⟨L, step, hL, hstep, (Option.some.inj htable).symm⟩
  · intro h
    obtain ⟨word, words, hbare, rfl⟩ := isTableName_iff.1 h
    rw [tokensFrom_words _ hbare]
    exact ofTokens_selection word words

end Sql

namespace Query

/-! ### Columns -/

/-- The names of the fields, or none for all columns if there are no fields. -/
def allNames (q : Query) : List (Option String) :=
  match q.definition with
  | none => [none]
  | some d => if d.fields.isEmpty then [none] else d.fields.map fun f => some f.name

/-- The names of the columns that are wanted, in their order; none stands for all columns. -/
def selectedNames (q : Query) : List (Option String) :=
  if q.fieldNames.isEmpty then q.allNames
  else q.fieldNames.flatMap fun name => if name = "*" then q.allNames else [some name]

theorem allColumns_eq (q : Query) : q.allColumns = q.allNames.map Sql.selectedText := by
  rw [allColumns, allNames]
  cases q.definition with
  | none => rfl
  | some d =>
    dsimp only
    split
    · rfl
    · rw [List.map_map]
      rfl

theorem columns_eq (q : Query) :
    q.columns = String.intercalate ", " (q.selectedNames.map Sql.selectedText) := by
  rw [columns, selectedNames, allColumns_eq]
  split
  · rfl
  · rw [List.map_flatMap]
    simp only [apply_ite (List.map Sql.selectedText)]
    rfl

theorem allNames_ne_nil (q : Query) : q.allNames ≠ [] := by
  rw [allNames]
  cases q.definition with
  | none => exact List.cons_ne_nil _ _
  | some d =>
    dsimp only
    split
    · exact List.cons_ne_nil _ _
    · rename_i h
      simpa using h

theorem selectedNames_ne_nil (q : Query) : q.selectedNames ≠ [] := by
  rw [selectedNames]
  cases q.fieldNames with
  | nil => exact q.allNames_ne_nil
  | cons name names =>
    have hname : (if name = "*" then q.allNames else [some name]) ≠ [] := by
      split
      · exact q.allNames_ne_nil
      · exact List.cons_ne_nil _ _
    exact fun h => hname (List.append_eq_nil_iff.1 h).1

/-! ### Paths -/

/-- Whether the path is made of the segments: slashes stand between them, and perhaps before the
first one. -/
structure IsPath (segments : List String) (path : String) : Prop where
  segment : ∀ s ∈ segments, s ≠ "" ∧ '/' ∉ s.toList
  path : ∃ slashes, path = String.ofList (List.replicate slashes '/') ++
    String.intercalate "/" segments

/-- No character changes in a text without slashes. -/
theorem map_of_notMem {cs : List Char} (h : '/' ∉ cs) :
    cs.map (fun c => if c = '/' then '.' else c) = cs := by
  refine (List.map_congr_left fun c hc => if_neg ?_).trans (List.map_id _)
  rintro rfl
  exact h hc

theorem map_intercalate {segments : List String} (h : ∀ s ∈ segments, '/' ∉ s.toList) :
    (String.intercalate "/" segments).toList.map (fun c => if c = '/' then '.' else c) =
      (String.intercalate "." segments).toList := by
  induction segments with
  | nil => rfl
  | cons s segments ih =>
    have hs := map_of_notMem (h s (List.mem_cons_self ..))
    cases segments with
    | nil => simpa only [String.intercalate_singleton] using hs
    | cons next segments =>
      have hnext := ih fun s hs => h s (List.mem_cons_of_mem _ hs)
      simp only [String.intercalate_cons_cons, String.toList_append, List.map_append, hs, hnext]
      rfl

theorem dropWhile_intercalate {segments : List String}
    (h : ∀ s ∈ segments, s ≠ "" ∧ '/' ∉ s.toList) :
    (String.intercalate "/" segments).toList.dropWhile (· == '/') =
      (String.intercalate "/" segments).toList := by
  cases segments with
  | nil => rfl
  | cons s segments =>
    obtain ⟨hne, hslash⟩ := h s (List.mem_cons_self ..)
    obtain ⟨c, cs, hs⟩ := List.exists_cons_of_ne_nil (mt String.toList_eq_nil_iff.1 hne)
    obtain ⟨ds, hds⟩ : ∃ ds, (String.intercalate "/" (s :: segments)).toList = c :: ds := by
      cases segments with
      | nil => exact ⟨cs, by rw [String.intercalate_singleton, hs]⟩
      | cons next segments =>
        rw [String.intercalate_cons_cons, String.append_assoc, String.toList_append, hs]
        exact ⟨_, rfl⟩
    rw [hds, List.dropWhile_cons_of_neg]
    rintro hc
    rw [hs, beq_iff_eq.1 hc] at hslash
    exact hslash (List.mem_cons_self ..)

theorem tableOfPath_of_isPath {segments : List String} {path : String}
    (h : IsPath segments path) : tableOfPath path = String.intercalate "." segments := by
  obtain ⟨slashes, rfl⟩ := h.path
  rw [tableOfPath, String.toList_append, String.toList_ofList, List.dropWhile_append_of_pos,
    dropWhile_intercalate h.segment, map_intercalate fun s hs => (h.segment s hs).2,
    String.ofList_toList]
  intro c hc
  rw [List.eq_of_mem_replicate hc]
  rfl

/-! ### Statements -/

/-- Whether the query asks for nothing but columns of the records at its path. -/
structure IsSelection (q : Query) : Prop where
  sql : q.sql = none
  fromClause : q.fromClause = none
  condition : q.condition.isEmptyCondition = true
  sortKeys : q.sortKeys = []
  offset : q.offset = 0
  limit : q.limit = none
  lock : q.lock = .none

theorem selectSql_of_isSelection {q : Query} (h : q.IsSelection) :
    q.selectSql =
      Sql.selectionText q.distinct q.selectedNames ++ " FROM " ++ tableOfPath q.path := by
  simp only [selectSql, h.sql, generatedSql, Sql.selectionText, fromText, h.fromClause, whereText,
    h.condition, orderText, h.sortKeys, pageText, h.offset, h.limit, LockMode.text, h.lock,
    columns_eq, Option.getD_none, if_true, List.isEmpty_nil, String.append_empty,
    String.append_assoc]

/-- A statement that can be read selects the columns that the query names, equal rows once if the
query says so. It can be read, and with the segments of the path as the name of its table, if and
only if there are segments and each is made of bare words with points between them. -/
theorem selectSql_names_columns_and_table {q : Query} (hq : q.IsSelection)
    {segments : List String} (hpath : IsPath segments q.path) :
    (∀ select, Sql.Select.ofText q.selectSql = .ok select →
      select.distinct = q.distinct ∧ select.items = q.selectedNames.map Sql.selectedItem) ∧
    (Sql.Select.ofText q.selectSql =
        .ok (.mk q.distinct (q.selectedNames.map Sql.selectedItem)
          (some (String.intercalate "." segments)) none) ↔
      segments ≠ [] ∧ ∀ s ∈ segments, Sql.IsTableName s) := by
  obtain ⟨name, names, hnames⟩ := List.exists_cons_of_ne_nil q.selectedNames_ne_nil
  rw [selectSql_of_isSelection hq, hnames, tableOfPath_of_isPath hpath]
  refine ⟨fun select h => Sql.items_of_ofText_selection h, ?_⟩
  rw [← Sql.isTableName_intercalate]
  exact Sql.ofText_selection_iff

/-- Distinct rows of all fields and of two more columns, a keyword and a name with a quote. -/
theorem selectSql_names_orders :
    let d : Definition :=
      .ofFields "/shop/orders" 0 [.ofType "id" (.integer .int), .ofType "unit price" .decimal]
    let q : Query := { ofDefinition d with fieldNames := ["*", "SELECT", "a\"b"], distinct := true }
    q.IsSelection ∧ IsPath ["shop", "orders"] q.path ∧
      q.selectSql =
        "SELECT DISTINCT id, \"unit price\", \"SELECT\", \"a\"\"b\" FROM shop.orders" ∧
      Sql.Select.ofText q.selectSql =
        .ok (.mk true (["id", "unit price", "SELECT", "a\"b"].map fun name =>
          .expression (.column name) none) (some "shop.orders") none) := by
  intro d q
  have hq : q.IsSelection := ⟨rfl, rfl, rfl, rfl, rfl, rfl, rfl⟩
  have hpath : IsPath ["shop", "orders"] q.path := ⟨by decide, 1, by decide⟩
  have hnames : q.selectedNames = [some "id", some "unit price", some "SELECT", some "a\"b"] := by
    decide
  have hread := (selectSql_names_columns_and_table hq hpath).2.2 ⟨by decide, by decide⟩
  rw [hnames] at hread
  exact ⟨hq, hpath, by decide +kernel, hread⟩

/-- With a blank in a segment the statement cannot be read; what follows the blank may also be read
as a condition. -/
theorem selectSql_loses_its_table :
    let items : Query := ofPath "/shop/order items"
    let orders : Query := ofPath "/shop/orders WHERE id = 1"
    (items.IsSelection ∧ IsPath ["shop", "order items"] items.path ∧
      items.selectSql = "SELECT * FROM shop.order items" ∧
      (Sql.Select.ofText items.selectSql).toOption.isNone) ∧
    (orders.IsSelection ∧ IsPath ["shop", "orders WHERE id = 1"] orders.path ∧
      (Sql.Select.ofText orders.selectSql).toOption.map (·.table) = some (some "shop.orders")) := by
  intro items orders
  have hitems : items.IsSelection := ⟨rfl, rfl, rfl, rfl, rfl, rfl, rfl⟩
  have horders : orders.IsSelection := ⟨rfl, rfl, rfl, rfl, rfl, rfl, rfl⟩
  exact ⟨⟨hitems, ⟨by decide, 1, by decide⟩, by decide +kernel, by decide +kernel⟩,
    ⟨horders, ⟨by decide, 1, by decide⟩, by decide +kernel⟩⟩

end Query

end TypedFilter
