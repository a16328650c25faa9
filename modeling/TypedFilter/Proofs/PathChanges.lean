import TypedFilter.Proofs.Blanks

/-!
Clauses and the paths of definitions. A path goes into the statement that a clause is read in and
into messages. Main statement: whatever the table of a statement is called, its tokens are those of
the statement's head and those of the clause, so that a clause means the same under two definitions
with different paths, or fails under both for the same kind of cause.
-/

namespace TypedFilter

/-! ### Kinds of failure -/

/-- The kinds of failure. -/
inductive FilterError.Kind where
  | unknownColumn | badValue | unsupported | malformed
  deriving DecidableEq, Repr

/-- The kind of a failure, without its texts. -/
def FilterError.kind : FilterError → Kind
  | .unknownColumn _ _ => .unknownColumn
  | .badValue _ _ _ => .badValue
  | .unsupported _ => .unsupported
  | .malformed _ => .malformed

/-- Whether two results are the same, or failures of one kind. -/
def SameKind {α : Type} (x y : Result α) : Prop :=
  x.mapError FilterError.kind = y.mapError FilterError.kind

namespace SameKind

variable {α β : Type} {x y : Result α} {f g : α → Result β}

theorem refl (x : Result α) : SameKind x x :=
  rfl

theorem error {e e' : FilterError} (h : e.kind = e'.kind) :
    SameKind (.error e : Result α) (.error e') :=
  congrArg Except.error h

theorem eq_ok {a : α} (h : SameKind (.ok a) y) : y = .ok a := by
  cases y with
  | error e => cases h
  | ok b =>
    cases h
    rfl

theorem bind (h : SameKind x y) (hf : ∀ a, SameKind (f a) (g a)) :
    SameKind (x >>= f) (y >>= g) := by
  cases x with
  | error e =>
    cases y with
    | error e' => exact error (Except.error.inj h)
    | ok b => cases h
  | ok a =>
    cases y with
    | error e' => cases h
    | ok b =>
      cases h
      exact hf a

end SameKind

namespace Sql

/-- The statement on a table that a clause is read in. -/
def statementOn (table clause : String) : String :=
  "SELECT * FROM " ++ Text.quoted '"' table ++ " WHERE " ++ clause

/-- The statement cannot be left: its tokens are those of its head and those of the clause, and it
is cut with an error if and only if the clause is. -/
theorem toOption_tokenize_statementOn (table clause : String) :
    (tokenize (statementOn table clause)).toOption =
      (tokenize clause).toOption.map (headTokens table ++ ·) := by
  rw [tokenize, statementOn, tokensFrom_statement,
    toOption_map _ (toOption_tokensFrom _ clause.toList.length _)]
  show ((tokenize clause).map _).toOption = _
  cases tokenize clause <;> rfl

end Sql

namespace Expr

variable {d d' : Option Definition}

/-- Two definitions give columns in the same way, up to the messages for names without a field. -/
def ResolveAlike (d d' : Option Definition) : Prop :=
  ∀ name, SameKind (resolveColumn d name) (resolveColumn d' name)

theorem resolveAlike_renamed (d : Definition) (path : String) :
    ResolveAlike (some d) (some (d.renamed path)) := by
  intro name
  have hfield : (d.renamed path).field? name = d.field? name := rfl
  simp only [resolveColumn, hfield]
  cases d.field? name with
  | some f => exact .refl _
  | none => exact .error rfl

theorem sameKind_ofExpressions (finish : Expr → Result Expr) {xs : List Sql.Expression}
    (h : ∀ x ∈ xs, SameKind (ofExpression d x) (ofExpression d' x)) :
    SameKind (ofExpressions d finish xs) (ofExpressions d' finish xs) := by
  induction xs with
  | nil => exact .refl _
  | cons x xs ih =>
    rw [ofExpressions, ofExpressions]
    refine (h x (List.mem_cons_self ..)).bind fun e => (SameKind.refl (finish e)).bind fun e' => ?_
    exact (ih fun y hy => h y (List.mem_cons_of_mem x hy)).bind fun _ => .refl _

/-- What an expression means depends on a definition through its columns alone. -/
theorem sameKind_ofExpression (h : ResolveAlike d d') {x : Sql.Expression} (hx : Sql.IsRead x) :
    SameKind (ofExpression d x) (ofExpression d' x) := by
  induction hx with
  | literal | null | qualified | case | «exists» | subquery => exact .refl _
  | column name => exact h name
  | binary op _ _ ihl ihr =>
    rw [ofExpression, ofExpression]
    exact ihl.bind fun l => ihr.bind fun r => .refl _
  | unary op _ ih =>
    rw [ofExpression, ofExpression]
    exact ih.bind fun e => .refl _
  | function name _ ih =>
    rw [ofExpression, ofExpression]
    exact (sameKind_ofExpressions .ok ih).bind fun es => .refl _
  | cast type _ ih =>
    rw [ofExpression, ofExpression]
    exact ih.bind fun e => .refl _
  | inList negated _ _ _ ih ihs =>
    rw [ofExpression, ofExpression]
    exact ih.bind fun e => (sameKind_ofExpressions _ ihs).bind fun es => .refl _
  | between negated _ _ _ ih ihlow ihhigh =>
    rw [ofExpression, ofExpression]
    refine ih.bind fun e => ?_
    cases e with
    | column c =>
      refine ihlow.bind fun low => (SameKind.refl _).bind fun low' => ?_
      exact ihhigh.bind fun high => .refl _
    | _ => exact .refl _
  | like escape negated _ _ ih ihp =>
    cases escape with
    | some => exact .refl _
    | none =>
      rw [ofExpression, ofExpression]
      exact ih.bind fun e => ihp.bind fun pattern => .refl _
  | isNull negated _ ih =>
    rw [ofExpression, ofExpression]
    exact ih.bind fun e => .refl _
  | @row es _ ih =>
    rw [ofExpression, ofExpression]
    cases es with
    | nil => exact .refl _
    | cons x xs => exact ih x (List.mem_cons_self ..)

/-- The statement of a clause, with the name of the definition for a table. -/
theorem clauseStatement_eq (d : Option Definition) (clause : String) :
    clauseStatement d clause = Sql.statementOn ((d.map (·.name)).getD "Unknown") clause :=
  rfl

theorem sameKind_ofClause (h : ResolveAlike d d') (clause : String) :
    SameKind (ofClause d clause) (ofClause d' clause) := by
  rcases ofClause_cases clause with hall | hfails | ⟨x, hx, hmeans⟩
  · rw [hall, hall]
    exact .refl _
  · obtain ⟨message, hd⟩ := hfails d
    obtain ⟨message', hd'⟩ := hfails d'
    rw [hd, hd']
    exact .error rfl
  · rw [hmeans, hmeans]
    exact sameKind_ofExpression h hx

/-- Texts on lines of their own are cut one by one, and so is a clause in the statement on any
table: it has its own tokens there, with blanks at its ends or without, or cannot be cut if it cannot
alone. So a clause means the same under two definitions that have different paths, or fails under
both for one kind of cause. -/
theorem clause_is_cut_by_itself :
    (∀ a ts, Sql.tokenize a = .ok (ts ++ [.eof]) → ∀ b,
      (Sql.tokenize (a ++ "\n" ++ b)).toOption = (Sql.tokenize b).toOption.map (ts ++ ·)) ∧
    (∀ table clause, (Sql.tokenize (Sql.statementOn table (Text.trim clause))).toOption =
      (Sql.tokenize (Text.trim clause)).toOption.map
        ([.keyword .select, .sign .star, .keyword .from, .identifier table, .keyword .where] ++ ·)) ∧
    (∀ clause, (Sql.tokenize (Text.trim clause)).toOption = (Sql.tokenize clause).toOption) ∧
    (∀ d clause, clauseStatement d clause =
      Sql.statementOn ((d.map (·.name)).getD "Unknown") clause) ∧
    ∀ (d : Definition) path clause,
      SameKind (ofClause (some d) clause) (ofClause (some (d.renamed path)) clause) := by
  refine ⟨fun a ts h b => Sql.toOption_tokenize_append h b, fun table clause => ?_,
    Sql.toOption_tokenize_trim, clauseStatement_eq, fun d path clause => ?_⟩
  · exact Sql.toOption_tokenize_statementOn table (Text.trim clause)
  · exact sameKind_ofClause (resolveAlike_renamed d path) clause

/-- A comment with a quote, a text with quotes and a text without an end on the next line; a table
whose name closes its quotes, starts a comment and names a keyword. -/
theorem clause_is_cut_by_itself_hostile :
    let a := "price >= 1.5 -- don't"
    let b := "AND name = 'it''s'"
    let table := "x\" --\nWHERE"
    let price : List Sql.Token := [.identifier "price", .sign .greaterEqual, .number "1.5"]
    let name : List Sql.Token :=
      [.keyword .and, .identifier "name", .sign .equal, .string "it's", .eof]
    let head : List Sql.Token :=
      [.keyword .select, .sign .star, .keyword .from, .identifier table, .keyword .where]
    let field : Field := .ofType "price" .decimal
    let d : Definition := .ofFields "/shop" 0 [field]
    let dear : Expr := .compare .greaterEqual (.ofField field)
      (.literal ⟨.decimal ⟨false, 15, 1, by decide, by decide⟩, none, some field⟩)
    Sql.tokenize a = .ok (price ++ [.eof]) ∧
      (Sql.tokenize (a ++ "\n" ++ b)).toOption = some (price ++ name) ∧
      (Sql.tokenize (a ++ "\n" ++ "'it''")).toOption = none ∧
      (Sql.tokenize (Sql.statementOn table (Text.trim a))).toOption =
        some (head ++ (price ++ [.eof])) ∧
      ofClause (some d) a = .ok dear ∧ ofClause (some (d.renamed ("/" ++ table))) a = .ok dear := by
  intro a b table price name head field d dear
  obtain ⟨hlines, hstatement, -, -, hpaths⟩ := clause_is_cut_by_itself
  have ha : Sql.tokenize a = .ok (price ++ [.eof]) := eq_ok_of_toOption (by decide +kernel)
  have hdear : ofClause (some d) a = .ok dear := eq_ok_of_toOption (by decide +kernel)
  refine ⟨ha, (hlines a price ha b).trans (by decide +kernel),
    (hlines a price ha "'it''").trans (by decide +kernel),
    (hstatement table a).trans (by decide +kernel), hdear, ?_⟩
  have hrenamed := hpaths d ("/" ++ table) a
  rw [hdear] at hrenamed
  exact hrenamed.eq_ok

end Expr

end TypedFilter
