import TypedFilter.Proofs.Binding
import TypedFilter.Proofs.Meaning
import TypedFilter.Proofs.Readers

/-!
How the condition of a clause is put together. Main statements: what a clause means is derived from
columns and from the values of literals by the operations of the translation, and a property that
these keep holds of every part of such a tree.
-/

namespace TypedFilter.Expr

/-- The trees that can be put together from columns and from the values of literals. Operands beside
a column have been bound to its field. -/
inductive IsDerived (d : Option Definition) : Expr → Prop
  | all : IsDerived d .all
  | value {v : Value} (fresh : v.IsFresh) : IsDerived d (ofValue v)
  | column {name : String} {e : Expr} (he : resolveColumn d name = .ok e) : IsDerived d e
  | binary {op : Sql.BinaryOp} {l r e : Expr} (left : IsDerived d l) (right : IsDerived d r)
    (he : applyBinary op l r = .ok e) : IsDerived d e
  | unary {op : Sql.UnaryOp} {x e : Expr} (operand : IsDerived d x)
    (he : applyUnary op x = .ok e) : IsDerived d e
  | call {name : String} {es : List Expr} {e : Expr} (arguments : ∀ x ∈ es, IsDerived d x)
    (he : callNamed name es = .ok e) : IsDerived d e
  | cast {e : Expr} (type : String) (operand : IsDerived d e) : IsDerived d (.cast e type)
  | search {e : Expr} {es : List Expr} (source : Expr → Expr) (operand : IsDerived d e)
    (nonempty : es ≠ []) (items : ∀ x ∈ es, IsDerived d (source x))
    (bound : ∀ x ∈ es, coerceOperand e.columnField? "IN" (source x) = .ok x) :
    IsDerived d (inList e es)
  | between {c : Column} {low low' high high' : Expr} (operand : IsDerived d (.column c))
    (lower : IsDerived d low) (upper : IsDerived d high)
    (hlow : coerceOperand c.field "BETWEEN" low = .ok low')
    (hhigh : coerceOperand c.field "BETWEEN" high = .ok high') :
    IsDerived d (.between (.column c) low' high')
  | like {e pattern : Expr} (operand : IsDerived d e) (matched : IsDerived d pattern) :
    IsDerived d (.compare .like e pattern)
  | isNull {e : Expr} (operand : IsDerived d e) : IsDerived d (.isNull e)
  | isNotNull {e : Expr} (operand : IsDerived d e) : IsDerived d (.isNotNull e)
  | not {e : Expr} (operand : IsDerived d e) : IsDerived d (.not e)

variable {d : Option Definition}

theorem isDerived_negatedIf (negated : Bool) {e : Expr} (h : e.IsDerived d) :
    (negatedIf negated e).IsDerived d := by
  cases negated with
  | true => exact .not h
  | false => exact h

/-- What an expression that was read means is derived. -/
theorem isDerived_ofExpression {x : Sql.Expression} (hx : Sql.IsRead x) {e : Expr}
    (h : ofExpression d x = .ok e) : e.IsDerived d := by
  induction hx generalizing e with
  | literal fresh =>
    cases h
    exact .value fresh
  | null =>
    cases h
    exact .value ⟨trivial, rfl⟩
  | column name => exact .column h
  | binary op _ _ ihl ihr =>
    obtain ⟨l, hl, r, hr, h⟩ := ofExpression_binary_eq_ok_iff.1 h
    exact .binary (ihl hl) (ihr hr) h
  | unary op _ ih =>
    obtain ⟨y, hy, h⟩ := ofExpression_unary_eq_ok_iff.1 h
    exact .unary (ih hy) h
  | function name _ ih =>
    obtain ⟨es, hes, h⟩ := ofExpression_function_eq_ok_iff.1 h
    refine .call (fun y hy => ?_) h
    obtain ⟨x, hx, _, hmeans, ⟨⟩⟩ := (exists_mem_of_forall₂ (ofExpressions_eq_ok_iff.1 hes)).2 y hy
    exact ih x hx hmeans
  | cast type _ ih =>
    obtain ⟨y, hy, rfl⟩ := ofExpression_cast_eq_ok_iff.1 h
    exact .cast type (ih hy)
  | inList negated _ hne _ ih ihs =>
    obtain ⟨y, hy, es, hes, rfl⟩ := ofExpression_inList_eq_ok_iff.1 h
    have hitems := ofExpressions_eq_ok_iff.1 hes
    have hsource : ∀ x ∈ es, ∃ z, z.IsDerived d ∧ coerceOperand y.columnField? "IN" z = .ok x := by
      intro x hmem
      obtain ⟨x', hx', z, hz, hfinish⟩ := (exists_mem_of_forall₂ hitems).2 x hmem
      exact ⟨z, ihs x' hx' hz, hfinish⟩
    choose! source hderived hbound using hsource
    refine isDerived_negatedIf negated (.search source (ih hy) ?_ hderived hbound)
    rintro rfl
    exact hne (List.forall₂_nil_right_iff.1 hitems)
  | between negated _ _ _ ih ihlow ihhigh =>
    obtain ⟨c, hc, low, hlow, low', hlow', high, hhigh, high', hhigh', rfl⟩ :=
      ofExpression_between_eq_ok_iff.1 h
    exact isDerived_negatedIf negated
      (.between (ih hc) (ihlow hlow) (ihhigh hhigh) hlow' hhigh')
  | like escape negated _ _ ih ihp =>
    obtain ⟨-, l, hl, r, hr, rfl⟩ := ofExpression_like_eq_ok_iff.1 h
    exact isDerived_negatedIf negated (.like (ih hl) (ihp hr))
  | isNull negated _ ih =>
    obtain ⟨y, hy, rfl⟩ := ofExpression_isNull_eq_ok_iff.1 h
    split
    · exact .isNotNull (ih hy)
    · exact .isNull (ih hy)
  | row _ ih =>
    obtain ⟨x, hx, hmeans⟩ := ofExpression_row_eq_ok_iff.1 h
    exact ih x (List.mem_of_mem_head? hx) hmeans
  | _ => cases h

/-- The condition that a clause means is derived. -/
theorem isDerived_ofClause {clause : String} {e : Expr} (h : ofClause d clause = .ok e) :
    e.IsDerived d := by
  unfold ofClause at h
  dsimp only at h
  split at h
  · cases h
    exact .all
  · split at h
    · cases h
    · rename_i select hselect
      split at h
      · rename_i x hx
        exact isDerived_ofExpression (Sql.isRead_ofText hselect x hx) h
      · cases h
        exact .all

theorem exists_of_resolveColumn {d : Definition} {name : String} {e : Expr}
    (h : resolveColumn (some d) name = .ok e) : ∃ f, d.field? name = some f ∧ e = ofField f := by
  rw [resolveColumn] at h
  split at h
  · rename_i f hf
    cases h
    exact ⟨f, hf, rfl⟩
  · cases h

/-! ### Properties of nodes -/

/-- What a node compares values of: an operand with those beside it. LIKE compares texts, whatever
the type of the operand. -/
def compared : Expr → Option (Expr × List Expr)
  | .compare .like _ _ => none
  | .compare _ l r => some (l, [r])
  | .between e low high => some (e, [low, high])
  | .isIn e values => some (e, values :: values.operands)
  | _ => none

/-- Whether the tree is what the translation makes of some operand beside another. -/
def IsCoercedBeside (x l : Expr) : Prop :=
  ∃ op y, coerceOperand l.columnField? op y = .ok x

/-- A property that nodes of derived trees have: those that compare something may use that the
operands beside it have been bound to it. -/
structure IsNodeProperty (d : Option Definition) (p : Expr → Prop) : Prop where
  column : ∀ name e, resolveColumn d name = .ok e → p e
  plain : ∀ e, e.compared = none → e.isColumn = false → p e
  comparing : ∀ e l others, e.compared = some (l, others) → e.IsSearch → p l →
    (∀ x ∈ others, x.IsCoercedBeside l) → p e

theorem compareOperands_cases {op : CompareOp} {l r e : Expr}
    (h : compareOperands op l r = .ok e) :
    (op = .equal ∧ l.isOne = true ∧ r.isOne = true ∧ e = .all) ∨
      ∃ r', e = .compare op l r' ∧ coerceOperand l.columnField? op.text r = .ok r' := by
  unfold compareOperands at h
  split at h
  · rename_i hone
    cases h
    simp only [Bool.and_eq_true, decide_eq_true_eq] at hone
    exact .inl ⟨hone.1.1, hone.1.2, hone.2, rfl⟩
  · split at h
    · split at h
      · cases h
      · obtain ⟨r', hr', rfl⟩ := exists_of_map_ok h
        exact .inr ⟨r', rfl, hr'⟩
    · rename_i hcolumn
      cases h
      have hfield : l.columnField? = none := by
        cases l with
        | column c => exact absurd rfl (hcolumn c)
        | _ => rfl
      exact .inr ⟨r, rfl, hfield ▸ coerceOperand_none _ r⟩

variable {p : Expr → Prop} {e l r x : Expr}

theorem every_literal (hp : IsNodeProperty d p) (l : Literal) : (literal l).Every p :=
  .leaf (hp.plain _ rfl rfl) rfl

theorem every_resolveColumn (hp : IsNodeProperty d p) {name : String}
    (h : resolveColumn d name = .ok e) : e.Every p := by
  refine .leaf (hp.column name e h) ?_
  unfold resolveColumn at h
  split at h
  · cases h
    rfl
  · split at h
    · cases h
      rfl
    · cases h

/-- Only a literal changes beside a field. -/
theorem every_coerceOperand (hp : IsNodeProperty d p) {field : Option Field} {op : String}
    (he : e.Every p) (h : coerceOperand field op e = .ok x) : x.Every p := by
  cases field with
  | none =>
    rw [coerceOperand_none] at h
    cases h
    exact he
  | some f =>
    cases e with
    | literal l =>
      obtain ⟨-, bound, -, -, rfl⟩ := coerceLiteral_eq_ok_iff.1 h
      exact every_literal hp bound
    | _ =>
      cases h
      exact he

theorem every_compareOperands (hp : IsNodeProperty d p) {op : CompareOp} (hop : op ≠ .like)
    (hl : l.Every p) (hr : r.Every p) (h : compareOperands op l r = .ok e) : e.Every p := by
  obtain ⟨-, -, -, rfl⟩ | ⟨r', rfl, hr'⟩ := compareOperands_cases h
  · exact .leaf (hp.plain _ rfl rfl) rfl
  · have hcompared : (compare op l r').compared = some (l, [r']) := by
      cases op with
      | like => exact absurd rfl hop
      | _ => rfl
    refine .two (hp.comparing _ l [r'] hcompared trivial hl.node ?_) rfl hl
      (every_coerceOperand hp hr hr')
    intro x hx
    rw [List.mem_singleton.1 hx]
    exact ⟨op.text, r, hr'⟩

theorem every_applyBinary (hp : IsNodeProperty d p) {op : Sql.BinaryOp} (hl : l.Every p)
    (hr : r.Every p) (h : applyBinary op l r = .ok e) : e.Every p := by
  have hjoined : ∀ c : Connective, (c.joinRead l r).Every p := by
    intro c
    refine Connective.every_joinRead hl hr ?_
    obtain ⟨es, he⟩ := c.exists_joinRead_eq l r
    rw [he]
    cases c with
    | and => exact hp.plain _ rfl rfl
    | or => exact hp.plain _ rfl rfl
  cases op with
  | and =>
    cases h
    exact hjoined .and
  | or =>
    cases h
    exact hjoined .or
  | concat => cases h
  | plus | minus | multiply | divide | modulo =>
    cases h
    exact .two (hp.plain _ rfl rfl) rfl hl hr
  | equal | notEqual | less | greater | lessEqual | greaterEqual =>
    exact every_compareOperands hp (by decide) hl hr h

theorem every_applyUnary (hp : IsNodeProperty d p) {op : Sql.UnaryOp} (hx : x.Every p)
    (h : applyUnary op x = .ok e) : e.Every p := by
  unfold applyUnary at h
  split at h
  · cases h
    exact .one (hp.plain _ rfl rfl) rfl hx
  · cases h
    exact hx
  · split at h
    · cases h
      exact every_literal hp _
    · cases h
  · cases h

theorem every_callNamed (hp : IsNodeProperty d p) {name : String} {es : List Expr}
    (hes : ∀ x ∈ es, x.Every p) (h : callNamed name es = .ok e) : e.Every p := by
  rw [callNamed] at h
  split at h
  · cases h
  · split at h
    · cases h
      exact ⟨_, hp.plain _ rfl rfl, hes⟩
    · cases h

/-- A search whose values have been bound to what is looked for. -/
theorem every_search (hp : IsNodeProperty d p) {es : List Expr} (he : e.Every p)
    (hes : ∀ x ∈ es, x.Every p) (hbound : ∀ x ∈ es, x.IsCoercedBeside e) :
    (inList e es).Every p := by
  have hvalues : (collection es).Every p := ⟨_, hp.plain _ rfl rfl, hes⟩
  refine .two (hp.comparing _ e (collection es :: es) rfl ⟨es, rfl⟩ he.node ?_) rfl he hvalues
  intro x hx
  rcases List.mem_cons.1 hx with rfl | hx
  · refine ⟨"IN", collection es, ?_⟩
    cases e.columnField? <;> rfl
  · exact hbound x hx

/-- An interval whose ends have been bound to the column. -/
theorem every_between (hp : IsNodeProperty d p) {c : Column} {low low' high high' : Expr}
    (hc : (column c).Every p) (hlow : low.Every p) (hhigh : high.Every p)
    (hl : coerceOperand c.field "BETWEEN" low = .ok low')
    (hh : coerceOperand c.field "BETWEEN" high = .ok high') :
    (between (column c) low' high').Every p := by
  refine ⟨_, hp.comparing _ _ [low', high'] rfl trivial hc.node ?_, ?_⟩
  · intro x hx
    rcases List.mem_pair.1 hx with rfl | rfl
    · exact ⟨_, low, hl⟩
    · exact ⟨_, high, hh⟩
  · simp [operands, hc, every_coerceOperand hp hlow hl, every_coerceOperand hp hhigh hh]

/-- Every part of a derived tree has the property. -/
theorem every_of_isDerived (hp : IsNodeProperty d p) (h : e.IsDerived d) : e.Every p := by
  induction h with
  | all => exact .leaf (hp.plain _ rfl rfl) rfl
  | value => exact every_literal hp _
  | column he => exact every_resolveColumn hp he
  | binary _ _ he ihl ihr => exact every_applyBinary hp ihl ihr he
  | unary _ he ih => exact every_applyUnary hp ih he
  | call _ he ih => exact every_callNamed hp ih he
  | cast type _ ih => exact .one (hp.plain _ rfl rfl) rfl ih
  | search source _ _ _ bound ih ihs =>
    exact every_search hp ih (fun x hx => every_coerceOperand hp (ihs x hx) (bound x hx))
      fun x hx => ⟨_, _, bound x hx⟩
  | between _ _ _ hlow hhigh ih ihlow ihhigh => exact every_between hp ih ihlow ihhigh hlow hhigh
  | like _ _ ih ihp => exact .two (hp.plain _ rfl rfl) rfl ih ihp
  | isNull _ ih | isNotNull _ ih | not _ ih => exact .one (hp.plain _ rfl rfl) rfl ih

/-- Every part of what a clause means has the property. -/
theorem IsNodeProperty.every_ofClause (hp : IsNodeProperty d p) {clause : String}
    (h : ofClause d clause = .ok e) : e.Every p :=
  every_of_isDerived hp (isDerived_ofClause h)

end TypedFilter.Expr
