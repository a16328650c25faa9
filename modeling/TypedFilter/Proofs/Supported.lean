import Mathlib.Logic.Relation
import TypedFilter.Proofs.Statements

/-!
What clauses can be made of. Main statement: in a clause that is accepted under a definition, every
column is a field, every call is that of a function with as many arguments as it takes, and nothing
stands there that conditions do not have. A row means its first item, so the others may be anything.
-/

namespace TypedFilter

namespace Sql.Expression

/-- The expressions that an expression is directly made of. -/
def parts : Expression → List Expression
  | .literal _ | .null | .column _ | .qualified _ _ | .exists _ _ | .subquery _ => []
  | .unary _ e | .cast e _ | .isNull e _ => [e]
  | .binary _ l r => [l, r]
  | .function _ es | .row es => es
  | .case operand branches otherwise =>
    operand.toList ++ branches.flatMap (fun b => [b.1, b.2]) ++ otherwise.toList
  | .inList e items _ => e :: items
  | .between e low high _ => [e, low, high]
  | .like e pattern escape _ => e :: pattern :: escape.toList

/-- Those of them that count for what it means: of a row, the first item alone. -/
def heeded : Expression → List Expression
  | .row es => es.take 1
  | x => x.parts

/-- Whether an expression stands in another one, at any depth. -/
def Contains : Expression → Expression → Prop :=
  Relation.ReflTransGen fun x y => y ∈ x.parts

/-- Whether an expression stands in another one where it counts. -/
def Heeds : Expression → Expression → Prop :=
  Relation.ReflTransGen fun x y => y ∈ x.heeded

/-- Whether conditions on records of a definition have such an expression, whatever it is made
of. -/
def IsSupported (d : Definition) : Expression → Prop
  | .column name => ∃ f, d.field? name = some f
  | .function name arguments => ∃ f, Builtin.ofName? name = some f ∧ arguments.length = f.arity
  | .binary op _ _ => op ≠ .concat
  | .like _ _ escape _ => escape = none
  | .qualified _ _ | .case _ _ _ | .exists _ _ | .subquery _ => False
  | .literal _ | .null | .unary _ _ | .cast _ _ | .inList _ _ _ | .between _ _ _ _ | .isNull _ _
  | .row _ => True

end Sql.Expression

namespace Expr

variable {d : Definition} {x y : Sql.Expression} {e : Expr}

theorem ne_concat_of_applyBinary {op : Sql.BinaryOp} {l r : Expr}
    (h : applyBinary op l r = .ok e) : op ≠ .concat := by
  rintro rfl
  cases h

/-- A call that means something is that of a function with as many arguments as it takes. -/
theorem exists_of_callNamed {name : String} {arguments : List Expr}
    (h : callNamed name arguments = .ok e) :
    ∃ f, Builtin.ofName? name = some f ∧ arguments.length = f.arity := by
  rw [callNamed] at h
  split at h
  · cases h
  · rename_i f hf
    split at h
    · rename_i harity
      exact ⟨f, hf, harity⟩
    · cases h

theorem exists_of_mem_ofExpressions {d : Option Definition} {finish : Expr → Result Expr}
    {xs : List Sql.Expression} {es : List Expr} (h : ofExpressions d finish xs = .ok es)
    (hy : y ∈ xs) : ∃ e', ofExpression d y = .ok e' := by
  obtain ⟨_, -, a, ha, -⟩ := (exists_mem_of_forall₂ (ofExpressions_eq_ok_iff.1 h)).1 y hy
  exact ⟨a, ha⟩

/-- What counts in an expression that means something means something. -/
theorem exists_of_heeded {d : Option Definition} (h : ofExpression d x = .ok e)
    (hy : y ∈ x.heeded) : ∃ e', ofExpression d y = .ok e' := by
  cases x with
  | case => cases h
  | binary op l r =>
    obtain ⟨a, ha, b, hb, -⟩ := ofExpression_binary_eq_ok_iff.1 h
    rcases List.mem_pair.1 hy with rfl | rfl
    · exact ⟨a, ha⟩
    · exact ⟨b, hb⟩
  | unary op operand =>
    obtain ⟨a, ha, -⟩ := ofExpression_unary_eq_ok_iff.1 h
    rw [List.mem_singleton.1 hy]
    exact ⟨a, ha⟩
  | function name arguments =>
    obtain ⟨es, hes, -⟩ := ofExpression_function_eq_ok_iff.1 h
    exact exists_of_mem_ofExpressions hes hy
  | cast operand type =>
    obtain ⟨a, ha, -⟩ := ofExpression_cast_eq_ok_iff.1 h
    rw [List.mem_singleton.1 hy]
    exact ⟨a, ha⟩
  | inList operand items negated =>
    obtain ⟨a, ha, es, hes, -⟩ := ofExpression_inList_eq_ok_iff.1 h
    rcases List.mem_cons.1 hy with rfl | hy
    · exact ⟨a, ha⟩
    · exact exists_of_mem_ofExpressions hes hy
  | between operand low high negated =>
    obtain ⟨c, hc, a, ha, -, -, b, hb, -⟩ := ofExpression_between_eq_ok_iff.1 h
    rcases List.mem_cons.1 hy with rfl | hy
    · exact ⟨_, hc⟩
    · rcases List.mem_pair.1 hy with rfl | rfl
      · exact ⟨a, ha⟩
      · exact ⟨b, hb⟩
  | like operand pattern escape negated =>
    obtain ⟨rfl, a, ha, b, hb, -⟩ := ofExpression_like_eq_ok_iff.1 h
    rcases List.mem_pair.1 hy with rfl | rfl
    · exact ⟨a, ha⟩
    · exact ⟨b, hb⟩
  | isNull operand negated =>
    obtain ⟨a, ha, -⟩ := ofExpression_isNull_eq_ok_iff.1 h
    rw [List.mem_singleton.1 hy]
    exact ⟨a, ha⟩
  | row items =>
    obtain ⟨first, hfirst, hmeans⟩ := ofExpression_row_eq_ok_iff.1 h
    obtain ⟨rest, rfl⟩ := List.head?_eq_some_iff.1 hfirst
    rw [List.mem_singleton.1 hy]
    exact ⟨e, hmeans⟩
  | _ => cases hy

/-- An expression that means something is one that conditions have, whatever it is made of. -/
theorem isSupported_of_ofExpression (h : ofExpression (some d) x = .ok e) : x.IsSupported d := by
  cases x with
  | literal | null | unary | cast | inList | between | isNull | row => trivial
  | column name =>
    obtain ⟨f, hf, -⟩ := exists_of_resolveColumn h
    exact ⟨f, hf⟩
  | binary op l r =>
    obtain ⟨a, -, b, -, h⟩ := ofExpression_binary_eq_ok_iff.1 h
    exact ne_concat_of_applyBinary h
  | function name arguments =>
    obtain ⟨es, hes, h⟩ := ofExpression_function_eq_ok_iff.1 h
    obtain ⟨f, hf, harity⟩ := exists_of_callNamed h
    exact ⟨f, hf, (ofExpressions_eq_ok_iff.1 hes).length_eq.trans harity⟩
  | like operand pattern escape negated => exact (ofExpression_like_eq_ok_iff.1 h).1
  | _ => cases h

/-- Whatever counts at any depth in an expression that means something is supported. -/
theorem isSupported_of_heeds (h : ofExpression (some d) x = .ok e) (hy : x.Heeds y) :
    y.IsSupported d := by
  have hmeans : ∃ e', ofExpression (some d) y = .ok e' := by
    induction hy with
    | refl => exact ⟨e, h⟩
    | tail _ hpart ih =>
      obtain ⟨_, hwhole⟩ := ih
      exact exists_of_heeded hwhole hpart
  obtain ⟨_, he⟩ := hmeans
  exact isSupported_of_ofExpression he

/-- A clause that is accepted is blank, or whatever counts in the expression that it is read as is
something that conditions on records of the definition have. -/
theorem accepted_clause_is_supported {clause : String} (h : ofClause (some d) clause = .ok e) :
    Text.trim clause = "" ∨ ∃ select x,
      Sql.Select.ofText (clauseStatement (some d) (Text.trim clause)) = .ok select ∧
      select.condition = some x ∧ ∀ y, x.Heeds y → y.IsSupported d := by
  unfold ofClause at h
  dsimp only at h
  split at h
  · rename_i hblank
    exact .inl (String.isEmpty_iff.1 hblank)
  · split at h
    · cases h
    · rename_i select hselect
      obtain ⟨x, hx⟩ := Sql.exists_condition_of_ofText hselect
      have hsame := hselect.symm.trans (hx d.name)
      cases hsame
      exact .inr ⟨_, x, hselect, rfl, fun y hy => isSupported_of_heeds h hy⟩

/-- A row whose second item is not looked at, a list and calls. -/
theorem accepted_clause_is_supported_calls :
    let price : Field := .ofType "price" .decimal
    let label : Field := .ofType "label" .string
    let d : Definition := { path := "/shop", fields := [price, label] }
    let clause := " (price, cost) > 2 AND UPPER(label) IN ('A', lower(Label)) "
    let two : Value := .decimal ⟨false, 2, 0, by decide, by decide⟩
    let e : Expr := .and [
      .compare .greater (ofField price) (.literal ⟨two, none, some price⟩),
      inList (.call .upper [ofField label])
        [ofValue (.string "A"), .call .lower [ofField label]]]
    ofClause (some d) clause = .ok e ∧ ∃ select x,
      Sql.Select.ofText (clauseStatement (some d) (Text.trim clause)) = .ok select ∧
      select.condition = some x ∧ ∀ y, x.Heeds y → y.IsSupported d := by
  intro price label d clause two e
  have h : ofClause (some d) clause = .ok e := eq_ok_of_toOption (by decide +kernel)
  exact ⟨h, (accepted_clause_is_supported h).resolve_left (by decide +kernel)⟩

/-- Whatever stands in a row after its first item is accepted: a column that there is not, one of
another table, and texts that are joined. -/
theorem row_hides_unsupported :
    let price : Field := .ofType "price" .decimal
    let d : Definition := { path := "/shop", fields := [price] }
    let clause := "(price, cost, t.price || 'x') = 1"
    let one : Value := .decimal ⟨false, 1, 0, by decide, by decide⟩
    let e : Expr := equal (ofField price) (.literal ⟨one, none, some price⟩)
    let joined : Sql.Expression := .binary .concat (.qualified "t" "price") (.literal (.string "x"))
    ∃ select x, ofClause (some d) clause = .ok e ∧
      Sql.Select.ofText (clauseStatement (some d) (Text.trim clause)) = .ok select ∧
      select.condition = some x ∧
      (x.Contains (.column "cost") ∧ ¬(Sql.Expression.column "cost").IsSupported d) ∧
      (x.Contains (.qualified "t" "price") ∧
        ¬(Sql.Expression.qualified "t" "price").IsSupported d) ∧
      x.Contains joined ∧ ¬joined.IsSupported d := by
  intro price d clause one e joined
  let row : Sql.Expression := .row [.column "price", .column "cost", joined]
  let x : Sql.Expression := .binary .equal row (.literal (.integer .int ⟨1, by decide⟩))
  have htokens : Sql.tokenize (clauseStatement (some d) (Text.trim clause)) =
      .ok (Sql.headTokens "shop" ++ [.sign .leftParen, .identifier "price", .sign .comma,
        .identifier "cost", .sign .comma, .identifier "t", .sign .dot, .identifier "price",
        .sign .concat, .string "x", .sign .rightParen, .sign .equal, .number "1", .eof]) :=
    eq_ok_of_toOption (by decide +kernel)
  have hselect : Sql.Select.ofText (clauseStatement (some d) (Text.trim clause)) =
      .ok (.mk false [.all] (some "shop") (some x)) := by
    rw [Sql.Select.ofText, htokens]
    rfl
  have hrow : x.Contains row := .single (List.mem_cons_self ..)
  have hjoined : x.Contains joined := hrow.tail (by simp [row, Sql.Expression.parts])
  have hmissing : d.field? "cost" = none := by decide +kernel
  refine ⟨_, x, eq_ok_of_toOption (by decide +kernel), hselect, rfl,
    ⟨hrow.tail (by simp [row, Sql.Expression.parts]), ?_⟩,
    ⟨hjoined.tail (List.mem_cons_self ..), id⟩, hjoined, fun h => h rfl⟩
  rintro ⟨f, hf⟩
  cases hmissing.symm.trans hf

end Expr

end TypedFilter
