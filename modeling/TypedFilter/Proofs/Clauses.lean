import Mathlib.Data.List.Forall2
import TypedFilter.Proofs.Names
import TypedFilter.Proofs.Printing
import TypedFilter.Proofs.SelectLists

/-!
Clauses and the statements that they are read in. Main statement: a clause that is the text of a
legible tree means what the tree's expression means. What an expression means is said once for each
form of expression, so that proofs about meanings do not follow the translation themselves.
-/

namespace TypedFilter

namespace Sql

/-- The tokens before the condition of a statement that selects everything. -/
def headTokens (table : String) : List Token :=
  [.keyword .select, .sign .star, .keyword .from, .identifier table, .keyword .where]

/-- Whatever the clause is, the tokens of a statement are those before its condition and those of
the clause. -/
theorem tokensFrom_statement (total : Nat) (table clause : String) :
    tokensFrom total ("SELECT * FROM " ++ Text.quoted '"' table ++ " WHERE " ++ clause).toList =
      (tokensFrom total clause.toList).map (headTokens table ++ ·) := by
  have hwhere : Lexes "WHERE" [.keyword .where] := lexes_keyword (by decide) (by decide)
  have hsplit : (Text.quoted '"' table ++ " WHERE " ++ clause).toList =
      (Text.quoted '"' table ++ " " ++ "WHERE").toList ++ ' ' :: clause.toList := by
    simp
  have htext : "SELECT * FROM " ++ Text.quoted '"' table ++ " WHERE " ++ clause =
      "SELECT * FROM " ++ (Text.quoted '"' table ++ " WHERE " ++ clause) := by
    simp only [String.append_assoc]
  have hselect := tokensFrom_selection total false none []
    (Text.quoted '"' table ++ " WHERE " ++ clause)
  rw [hsplit, (lexes_quotedName table).spaced hwhere total _ rfl, tokensFrom_space,
    Except.map_map] at hselect
  rw [htext]
  exact hselect

theorem takes_onePart (table : String) {L : List Token} :
    Takes (tableName (.identifier table :: .keyword .where :: L)) table (.keyword .where :: L) :=
  ⟨Nat.lt_succ_self _, rfl⟩

/-- The condition of a statement that selects everything is what stands after its head. -/
theorem selectWith_headTokens {n : Nat} (table : String) {L : List Token}
    (h : (headTokens table ++ L).length ≤ n) (hL : L.length < n) :
    selectWith (expressionBelow n) (headTokens table ++ L) h =
      (expressionBelow n L hL).map fun e =>
        ⟨.mk false [.all] (some table) (some e.value), e.rest,
          Nat.lt_of_lt_of_le e.shorter (Nat.le_add_right _ 5)⟩ := by
  obtain ⟨h₁, he₁⟩ := takes_onePart table (L := L)
  have htokens : headTokens table ++ L =
      selectionTokens false none [] ++ .identifier table :: .keyword .where :: L := rfl
  have hselect := selectWith_selection false none [] htokens h
    (Nat.lt_add_of_pos_right (k := 3) (by decide))
  rw [hselect, he₁]
  simp only [Except.bind, wherePart, bind]
  cases expressionBelow n L hL <;> rfl

/-- A statement that selects everything under a condition. -/
theorem ofTokens_headTokens (table : String) {ts : List Token} {x : Expression}
    (h : Reads 1 ts x) :
    Select.ofTokens (headTokens table ++ (ts ++ [Token.eof])) =
      .ok (.mk false [.all] (some table) (some x)) := by
  have hL : (ts ++ [Token.eof]).length < (headTokens table ++ (ts ++ [Token.eof])).length :=
    Nat.lt_add_of_pos_right (n := (ts ++ [Token.eof]).length) (k := 5) (by decide)
  obtain ⟨h₁, he₁⟩ : Takes (expressionBelow _ (ts ++ [Token.eof]) hL) x [Token.eof] :=
    h.below rfl hL rfl
  rw [Select.ofTokens, readSelect, selectWith_headTokens _ _ hL, he₁]
  rfl

/-- The condition of the statement that a clause is read in. -/
theorem ofText_statement {clause : String} {x : Expression} (table : String)
    (h : Written 1 clause x) :
    Select.ofText ("SELECT * FROM " ++ Text.quoted '"' table ++ " WHERE " ++ clause) =
      .ok (.mk false [.all] (some table) (some x)) := by
  obtain ⟨-, ts, hl, hr⟩ := h
  have htokens : ∀ total, tokensFrom total clause.toList = .ok (ts ++ [Token.eof]) := by
    intro total
    have ht := hl total [] rfl
    rw [List.append_nil, tokensFrom_nil] at ht
    exact ht
  rw [Select.ofText, tokenize, tokensFrom_statement, htokens]
  exact ofTokens_headTokens table hr

end Sql

namespace Expr

/-! ### Forms of expressions -/

section

variable {d : Option Definition} {x y z : Sql.Expression} {xs : List Sql.Expression} {e : Expr}

theorem ofExpression_binary_eq_ok_iff {op : Sql.BinaryOp} :
    ofExpression d (.binary op x y) = .ok e ↔ ∃ l, ofExpression d x = .ok l ∧
      ∃ r, ofExpression d y = .ok r ∧ applyBinary op l r = .ok e := by
  simp only [ofExpression, bind_eq_ok_iff]

theorem ofExpression_unary_eq_ok_iff {op : Sql.UnaryOp} :
    ofExpression d (.unary op x) = .ok e ↔
      ∃ a, ofExpression d x = .ok a ∧ applyUnary op a = .ok e := by
  simp only [ofExpression, bind_eq_ok_iff]

theorem ofExpression_function_eq_ok_iff {name : String} :
    ofExpression d (.function name xs) = .ok e ↔
      ∃ es, ofExpressions d .ok xs = .ok es ∧ callNamed name es = .ok e := by
  simp only [ofExpression, bind_eq_ok_iff]

theorem ofExpression_cast_eq_ok_iff {type : String} :
    ofExpression d (.cast x type) = .ok e ↔
      ∃ a, ofExpression d x = .ok a ∧ .cast a type = e := by
  simp only [ofExpression, bind_eq_ok_iff, Except.ok.injEq]

theorem ofExpression_inList_eq_ok_iff {negated : Bool} :
    ofExpression d (.inList x xs negated) = .ok e ↔ ∃ a, ofExpression d x = .ok a ∧
      ∃ es, ofExpressions d (coerceOperand a.columnField? "IN") xs = .ok es ∧
        negatedIf negated (inList a es) = e := by
  simp only [ofExpression, bind_eq_ok_iff, Except.ok.injEq]

/-- What lies between two others has to be a column. -/
theorem ofExpression_between_eq_ok_iff {negated : Bool} :
    ofExpression d (.between x y z negated) = .ok e ↔ ∃ c, ofExpression d x = .ok (.column c) ∧
      ∃ low, ofExpression d y = .ok low ∧
      ∃ low', coerceOperand c.field "BETWEEN" low = .ok low' ∧
      ∃ high, ofExpression d z = .ok high ∧
      ∃ high', coerceOperand c.field "BETWEEN" high = .ok high' ∧
        negatedIf negated (.between (.column c) low' high') = e := by
  rw [ofExpression, bind_eq_ok_iff]
  constructor
  · rintro ⟨a, ha, h⟩
    cases a with
    | column c => exact ⟨c, ha, by simpa only [bind_eq_ok_iff, Except.ok.injEq] using h⟩
    | _ => cases h
  · rintro ⟨c, hc, h⟩
    exact ⟨.column c, hc, by simpa only [bind_eq_ok_iff, Except.ok.injEq] using h⟩

theorem ofExpression_like_eq_ok_iff {escape : Option Sql.Expression} {negated : Bool} :
    ofExpression d (.like x y escape negated) = .ok e ↔ escape = none ∧
      ∃ l, ofExpression d x = .ok l ∧ ∃ r, ofExpression d y = .ok r ∧
        negatedIf negated (.compare .like l r) = e := by
  cases escape with
  | some => simp [ofExpression]
  | none => simp only [ofExpression, bind_eq_ok_iff, Except.ok.injEq, true_and]

theorem ofExpression_isNull_eq_ok_iff {negated : Bool} :
    ofExpression d (.isNull x negated) = .ok e ↔
      ∃ a, ofExpression d x = .ok a ∧ (if negated then .isNotNull a else .isNull a) = e := by
  simp only [ofExpression, bind_eq_ok_iff, Except.ok.injEq]

/-- A row means its first item. -/
theorem ofExpression_row_eq_ok_iff :
    ofExpression d (.row xs) = .ok e ↔ ∃ x ∈ xs.head?, ofExpression d x = .ok e := by
  cases xs with
  | nil => simp [ofExpression, ofRow]
  | cons x xs => simp [ofExpression, ofRow]

/-- Expressions mean trees one by one, each with a last step. -/
theorem ofExpressions_eq_ok_iff {finish : Expr → Result Expr} {es : List Expr} :
    ofExpressions d finish xs = .ok es ↔
      List.Forall₂ (fun x e => ∃ a, ofExpression d x = .ok a ∧ finish a = .ok e) xs es := by
  induction xs generalizing es with
  | nil => simp [ofExpressions, eq_comm]
  | cons x xs ih =>
    simp only [ofExpressions, bind_eq_ok_iff, List.forall₂_cons_left_iff, Except.ok.injEq, ih]
    constructor
    · rintro ⟨a, ha, e, he, rest, hrest, rfl⟩
      exact ⟨e, rest, ⟨a, ha, he⟩, hrest, rfl⟩
    · rintro ⟨e, rest, ⟨a, ha, he⟩, hrest, rfl⟩
      exact ⟨a, ha, e, he, rest, hrest, rfl⟩

theorem exists_mem_of_forall₂ {α β : Type} {R : α → β → Prop} {as : List α} {bs : List β}
    (h : List.Forall₂ R as bs) : (∀ a ∈ as, ∃ b ∈ bs, R a b) ∧ ∀ b ∈ bs, ∃ a ∈ as, R a b := by
  induction h with
  | nil => simp
  | cons hab _ ih =>
    refine ⟨List.forall_mem_cons.2 ⟨⟨_, List.mem_cons_self .., hab⟩, fun a ha => ?_⟩,
      List.forall_mem_cons.2 ⟨⟨_, List.mem_cons_self .., hab⟩, fun b hb => ?_⟩⟩
    · obtain ⟨b, hb, hrest⟩ := ih.1 a ha
      exact ⟨b, List.mem_cons_of_mem _ hb, hrest⟩
    · obtain ⟨a, ha, hrest⟩ := ih.2 b hb
      exact ⟨a, List.mem_cons_of_mem _ ha, hrest⟩

end

/-! ### Clauses -/

/-- A clause that can be read means what its expression means. -/
theorem ofClause_of_written (d : Option Definition) {clause : String} {x : Sql.Expression}
    (h : Sql.Written 1 clause x) : ofClause d clause = ofExpression d x := by
  rw [ofClause]
  simp only [h.bordered.trim, h.bordered.ne_empty, Bool.false_eq_true, if_false, clauseStatement,
    Sql.ofText_statement _ h, Sql.Select.condition]

/-- The text of a legible tree means what the expression of the tree means. -/
theorem ofClause_text (d : Option Definition) {e : Expr} (h : e.Every IsLegible)
    (hf : e.Every IsFlat) (hc : e.isCollection = false) :
    ofClause d e.text = ofExpression d e.reading := by
  have hw := (isPrinted_iff hc).1 (isPrinted_of_legible h hf)
  exact ofClause_of_written d
    (hw.mono (by decide) e.precedence_bounds.1 e.precedence_bounds.2)

end Expr

end TypedFilter
