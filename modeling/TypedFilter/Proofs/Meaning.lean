import TypedFilter.Proofs.Clauses
import TypedFilter.Proofs.Flattening

/-!
What the expression of a tree means. A literal means the value that its text stands for, without a
field; what is compared with a column is then bound to the column's field. Main statement: the
expression of a settled tree means the tree again.
-/

namespace TypedFilter

/-! ### What fields store -/

namespace Field

variable {f : Field} {v w : Value}

/-- A field stores what its type makes of the identifier for a value, or else of the value. -/
theorem store_eq_ok_iff (hv : v.isNull = false) : f.store v = .ok w ↔
    f.type.convert ((f.codeTable.bind (·.identifierFor? v)).getD v) = .ok w := by
  rw [store, hv, if_neg Bool.false_ne_true]
  exact mapError_eq_ok_iff

/-- Without a code table it stores what its type makes of the value. -/
theorem store_eq_ok_iff_of_none (hcodes : f.codeTable = none) :
    f.store v = .ok w ↔ f.type.convert v = .ok w := by
  cases hnull : v.isNull with
  | true =>
    rw [Value.eq_null_of_isNull hnull]
    exact Iff.rfl
  | false => rw [store_eq_ok_iff hnull, hcodes, Option.bind_none, Option.getD_none]

end Field

namespace Expr

/-- The tree that is read for a tree before it is bound to a field: only a literal differs. -/
def unbound : Expr → Expr
  | .literal l => ofValue l.displayed.reread
  | e => e

/-- Whether the tree is a column. -/
def isColumn : Expr → Bool
  | .column _ => true
  | _ => false

/-- The literal that the tree is. -/
def literal? : Expr → Option Literal
  | .literal l => some l
  | _ => none

/-- What is left when a tree is put together again from what its operands mean. -/
def IsSettled (d : Option Definition) : Expr → Prop
  | .literal _ | .collection _ | .all => True
  | .column c => resolveColumn d c.name = .ok (.column c)
  | .call f es => es.length = f.arity ∧ ∀ x ∈ es, x.unbound = x
  | .and es => 2 ≤ es.length ∧ (∀ x ∈ es, x.unbound = x) ∧ ∀ x ∈ es.head?, x.isConjunction = false
  | .or es => 2 ≤ es.length ∧ (∀ x ∈ es, x.unbound = x) ∧ ∀ x ∈ es.head?, x.isDisjunction = false
  | .between e low high =>
    ∃ c, e = .column c ∧ coerceOperand c.field "BETWEEN" low.unbound = .ok low ∧
      coerceOperand c.field "BETWEEN" high.unbound = .ok high
  | .isIn e values =>
    e.unbound = e ∧ ∀ x ∈ values.operands, coerceOperand e.columnField? "IN" x.unbound = .ok x
  | .compare .like l r => l.unbound = l ∧ r.unbound = r
  | .compare op l r => l.unbound = l ∧ compareOperands op l r.unbound = .ok (.compare op l r)
  | .paren _ => False
  | e => ∀ x ∈ e.operands, x.unbound = x

/-- What the expression of a tree means; of a collection, those of its items. -/
def IsMeant (d : Option Definition) : Expr → Prop
  | .collection es => ∀ x ∈ es, ofExpression d x.reading = .ok x.unbound
  | e => ofExpression d e.reading = .ok e.unbound

/-- The expression of a tree means the tree with a change; of a collection, those of its items. -/
def MeansChanged (d : Option Definition) (change : Expr → Expr) : Expr → Prop
  | .collection es => ∀ x ∈ es, ofExpression d x.reading = .ok (change x).unbound
  | e => ofExpression d e.reading = .ok (change e).unbound

/-- What is left of a tree with a change when it is put together again from what its operands
mean. -/
def IsSettledIn (d : Option Definition) (change : Expr → Expr) : Expr → Prop
  | .column c => resolveColumn d c.name = .ok (change (.column c)).unbound
  | e => (e.mapOperands change).IsSettled d

theorem coerceOperand_none (op : String) (e : Expr) : coerceOperand none op e = .ok e := by
  cases e <;> rfl

theorem isCollection_of_isCondition {e : Expr} (h : e.isCondition = true) :
    e.isCollection = false := by
  cases e with
  | collection => cases h
  | _ => rfl

theorem unbound_of_isCondition {e : Expr} (h : e.isCondition = true) : e.unbound = e := by
  cases e with
  | literal => cases h
  | _ => rfl

theorem isColumn_of_isCondition {e : Expr} (h : e.isCondition = true) : e.isColumn = false := by
  cases e with
  | column => cases h
  | _ => rfl

theorem isColumn_of_isJoined {c : Connective} {e : Expr} (h : c.isJoined e = true) :
    e.isColumn = false := by
  obtain ⟨e, es, rfl⟩ := Connective.exists_of_isJoined h
  exact isColumn_of_isCondition (c.isCondition_node _)

theorem isColumn_iff (e : Expr) : e.isColumn = true ↔ ∃ c, e = .column c := by
  cases e with
  | column c => exact ⟨fun _ => ⟨c, rfl⟩, fun _ => rfl⟩
  | _ => exact ⟨fun h => (by cases h), fun ⟨_, hc⟩ => (by cases hc)⟩

theorem eq_of_literal? {e : Expr} {l : Literal} (h : e.literal? = some l) : e = .literal l := by
  cases e with
  | literal => exact congrArg Expr.literal (Option.some.inj h)
  | _ => cases h

theorem unbound_of_literal? {e : Expr} (h : e.literal? = none) : e.unbound = e := by
  cases e with
  | literal => cases h
  | _ => rfl

theorem isOne_of_literal? {e : Expr} (h : e.literal? = none) : e.isOne = false := by
  cases e with
  | literal => cases h
  | _ => rfl

theorem isNullLiteral_of_literal? {e : Expr} (h : e.literal? = none) :
    e.isNullLiteral = false := by
  cases e with
  | literal => cases h
  | _ => rfl

theorem coerceOperand_of_literal? {field : Option Field} {op : String} {e : Expr}
    (h : e.literal? = none) : coerceOperand field op e = .ok e := by
  cases e with
  | literal => cases h
  | _ => cases field <;> rfl

/-- What is asked of literals alone has the same answer for the same literals. -/
theorem congr_of_literal? {p : Expr → Bool} (hp : ∀ e : Expr, e.literal? = none → p e = false)
    {e x : Expr} (h : e.literal? = x.literal?) : p e = p x := by
  cases hx : x.literal? with
  | some l => rw [eq_of_literal? (h.trans hx), eq_of_literal? hx]
  | none => rw [hp e (h.trans hx), hp x hx]

theorem isOne_congr {e x : Expr} (h : e.literal? = x.literal?) : e.isOne = x.isOne :=
  congr_of_literal? (fun _ => isOne_of_literal?) h

theorem isNullLiteral_congr {e x : Expr} (h : e.literal? = x.literal?) :
    e.isNullLiteral = x.isNullLiteral :=
  congr_of_literal? (fun _ => isNullLiteral_of_literal?) h

theorem columnField?_of_isColumn {e : Expr} (h : e.isColumn = false) : e.columnField? = none := by
  cases e with
  | column => cases h
  | _ => rfl

variable {d : Option Definition}

theorem isMeant_iff {e : Expr} (h : e.isCollection = false) :
    e.IsMeant d ↔ ofExpression d e.reading = .ok e.unbound := by
  cases e with
  | collection => cases h
  | _ => rfl

theorem meansChanged_iff {change : Expr → Expr} {e : Expr} (h : e.isCollection = false) :
    e.MeansChanged d change ↔ ofExpression d e.reading = .ok (change e).unbound := by
  cases e with
  | collection => cases h
  | _ => rfl

/-! ### Operands of comparisons -/

/-- What binding a value to a field gives, if the field can store it: for a value that its code
table is asked about, what the table has; for any other, what the field stores. -/
theorem forFieldStrict_eq_ok_iff {f : Field} {v : Value} {l : Literal} :
    Literal.forFieldStrict f v = .ok l ↔
      (f.codeTable = none ∨ v.isNull = true) ∧
          (∃ w, f.store v = .ok w ∧ l = ⟨w, none, some f⟩) ∨
        ∃ table id w, f.codeTable = some table ∧ v.isNull = false ∧
          Literal.identifier? table v = some id ∧ f.type.convert id = .ok w ∧
          l = ⟨w, Literal.displayOf? table id, some f⟩ := by
  have hstores : (f.store v).map (fun w => (⟨w, none, some f⟩ : Literal)) = .ok l ↔
      ∃ w, f.store v = .ok w ∧ l = ⟨w, none, some f⟩ := by
    cases f.store v <;> simp [Except.map, eq_comm]
  rw [Literal.forFieldStrict]
  cases htable : f.codeTable with
  | none => simp [hstores]
  | some table =>
    cases hnull : v.isNull with
    | true => simp [hstores]
    | false =>
      cases hid : Literal.identifier? table v with
      | none => simp [hid]
      | some id =>
        cases hw : f.type.convert id <;> simp [hid, hw, Except.mapError, Except.map, eq_comm]

theorem coerceLiteral_eq_ok_iff {f : Field} {op : String} {l : Literal} {e : Expr} :
    coerceLiteral f op l = .ok e ↔ l.value.isNull = false ∧
      ∃ bound, Literal.forFieldStrict f (operandValue f l.value) = .ok bound ∧
        bound.value.isNull = false ∧ e = .literal bound := by
  constructor
  · intro h
    rw [coerceLiteral] at h
    split at h
    · cases h
    · rename_i hnull
      obtain ⟨bound, hbound, h⟩ := exists_of_bind_ok h
      split at h
      · cases h
      · rename_i hvalue
        cases h
        exact ⟨by simpa using hnull, bound, hbound, by simpa using hvalue, rfl⟩
  · rintro ⟨hnull, bound, hbound, hvalue, rfl⟩
    simp only [coerceLiteral, hnull, hbound, hvalue, Bool.false_eq_true, if_false, Bind.bind,
      Except.bind]

/-- When a comparison is made of its operands. -/
theorem compareOperands_eq_ok_iff {op : CompareOp} {l r r' : Expr} :
    compareOperands op l r = .ok (.compare op l r') ↔
      ¬(op = .equal ∧ l.isOne = true ∧ r.isOne = true) ∧
        ((∃ c, l = .column c) → r.isNullLiteral = false) ∧
          coerceOperand l.columnField? op.text r = .ok r' := by
  have hmarker : (decide (op = .equal) && l.isOne && r.isOne) = true ↔
      (op = .equal ∧ l.isOne = true ∧ r.isOne = true) := by
    simp [and_assoc]
  by_cases hm : op = .equal ∧ l.isOne = true ∧ r.isOne = true
  · unfold compareOperands
    rw [if_pos (hmarker.2 hm)]
    simp [hm]
  · have hvalue : (∀ c, l ≠ .column c) →
        compareOperands op l r = .ok (.compare op l r) ∧ l.columnField? = none := by
      intro hl
      unfold compareOperands
      rw [if_neg fun h => hm (hmarker.1 h)]
      cases l with
      | column c => exact absurd rfl (hl c)
      | _ => exact ⟨rfl, rfl⟩
    by_cases hc : ∃ c, l = .column c
    · obtain ⟨c, rfl⟩ := hc
      rw [compareOperands]
      rw [if_neg fun h => hm (hmarker.1 h)]
      simp only [columnField?]
      cases hn : r.isNullLiteral with
      | true => simp
      | false =>
        cases hx : coerceOperand c.field op.text r with
        | error e => simp [Except.map]
        | ok x => simp [Except.map, isOne]
    · obtain ⟨hok, hfield⟩ := hvalue fun c h => hc ⟨c, h⟩
      rw [hok, hfield, coerceOperand_none]
      simp [hm, hc]

/-! ### Parts -/

theorem ofExpression_value {v : Value} (h : v.IsPlain) :
    ofExpression d v.reading = .ok (ofValue v.reread) := by
  cases v with
  | integer w n => exact n.toDecimal.ofExpression_reading d
  | decimal x => exact x.ofExpression_reading d
  | float | double | geometry | box | list => exact h.elim
  | _ => rfl

theorem ofExpressions_eq {change : Expr → Expr} {finish : Expr → Result Expr} {es : List Expr}
    (h : ∀ x ∈ es, ofExpression d x.reading = .ok (change x).unbound)
    (hfinish : ∀ x ∈ es, finish (change x).unbound = .ok (change x)) :
    ofExpressions d finish (readingAll es) = .ok (es.map change) := by
  rw [ofExpressions_eq_ok_iff, readingAll_eq_map, List.forall₂_map_left_iff,
    List.forall₂_map_right_iff, List.forall₂_same]
  exact fun x hx => ⟨_, h x hx, hfinish x hx⟩

theorem ofExpression_compare {op : CompareOp} {l r : Sql.Expression} {a b e : Expr}
    (hop : op ≠ .like) (hl : ofExpression d l = .ok a) (hr : ofExpression d r = .ok b)
    (h : compareOperands op a b = .ok e) : ofExpression d (op.reading l r) = .ok e := by
  cases op with
  | like => exact absurd rfl hop
  | _ => exact ofExpression_binary_eq_ok_iff.2 ⟨a, hl, b, hr, h⟩

theorem ofExpression_trueReading : ofExpression d trueReading = .ok .all := rfl

/-- A chain of conditions means what its links mean, joined from the left. -/
theorem ofExpression_foldl {change : Expr → Expr} {op : Sql.BinaryOp} {join : Expr → Expr → Expr}
    (hop : ∀ l r, applyBinary op l r = .ok (join l r)) {es : List Expr} {x : Sql.Expression}
    {l : Expr} (hx : ofExpression d x = .ok l)
    (h : ∀ e ∈ es, ofExpression d e.reading = .ok (change e)) :
    ofExpression d ((es.map reading).foldl (.binary op) x) =
      .ok ((es.map change).foldl join l) := by
  induction es generalizing x l with
  | nil => exact hx
  | cons e es ih =>
    rw [List.map_cons, List.map_cons, List.foldl_cons, List.foldl_cons]
    refine ih ?_ fun y hy => h y (List.mem_cons_of_mem e hy)
    exact ofExpression_binary_eq_ok_iff.2 ⟨l, hx, _, h e (List.mem_cons_self ..), hop l (change e)⟩

/-! ### Joined conditions -/

theorem isSettled_node {c : Connective} {es : List Expr} : (c.node es).IsSettled d ↔
    2 ≤ es.length ∧ (∀ x ∈ es, x.unbound = x) ∧ ∀ x ∈ es.head?, c.isJoined x = false := by
  cases c <;> rfl

theorem isLegible_joinRead {c : Connective} {l r : Expr} (h : c.isJoined l = true → l.IsLegible)
    (hl : l.isCollection = false) (hr : r.isCollection = false) : (c.joinRead l r).IsLegible := by
  rcases c.joinRead_eq l r with ⟨e, es, rfl, he⟩ | he
  · have hparts := (isLegible_node c).1 (h (c.isJoined_node (e :: es)))
    rw [he, isLegible_node, ← List.cons_append]
    intro x hx
    rcases List.mem_append.1 hx with hx | hx
    · exact hparts x hx
    · rwa [List.mem_singleton.1 hx]
  · rw [he, isLegible_node]
    simp [hl, hr]

theorem isSettled_joinRead {c : Connective} {l r : Expr} (hs : c.isJoined l = true → l.IsSettled d)
    (hl : l.unbound = l) (hr : r.unbound = r) : (c.joinRead l r).IsSettled d := by
  cases hc : c.isJoined l with
  | true =>
    obtain ⟨e, es, rfl⟩ := Connective.exists_of_isJoined hc
    obtain ⟨hlen, hparts, hhead⟩ := isSettled_node.1 (hs hc)
    rw [c.joinRead_node, isSettled_node]
    refine ⟨?_, ?_, hhead⟩
    · simp only [List.length_cons, List.length_append] at hlen ⊢
      omega
    · rw [← List.cons_append]
      intro x hx
      rcases List.mem_append.1 hx with hx | hx
      · exact hparts x hx
      · rwa [List.mem_singleton.1 hx]
  | false =>
    rw [Connective.joinRead_of_isJoined r hc, isSettled_node]
    exact ⟨Nat.le_refl 2, by simp [hl, hr], by simp [hc]⟩

/-! ### Trees -/

theorem ofName?_name (f : Builtin) : Builtin.ofName? f.name = some f := by
  cases f <;> decide +kernel

theorem ofExpression_call {f : Builtin} {es : List Expr} {xs : List Sql.Expression}
    (harity : es.length = f.arity) (h : ofExpressions d .ok xs = .ok es) :
    ofExpression d (.function f.name xs) = .ok (.call f es) := by
  refine ofExpression_function_eq_ok_iff.2 ⟨es, h, ?_⟩
  simp only [callNamed, ofName?_name, harity, if_true]

variable {change : Expr → Expr}

theorem ofExpression_node {c : Connective} {es : List Expr}
    (hes : (c.node (es.map change)).IsSettled d)
    (h : ∀ x ∈ es, ofExpression d x.reading = .ok (change x).unbound) :
    ofExpression d (c.node es).reading = .ok (c.node (es.map change)) := by
  obtain ⟨hlen, hfree, hhead⟩ := isSettled_node.1 hes
  have hmeant : ∀ x ∈ es, ofExpression d x.reading = .ok (change x) :=
    fun x hx => (h x hx).trans (congrArg Except.ok (hfree _ (List.mem_map_of_mem hx)))
  cases es with
  | nil => exact absurd hlen (Nat.not_succ_le_zero 1)
  | cons e es =>
    obtain ⟨y, rest, hes, hjoin⟩ := Connective.foldl_joinRead hlen hhead
    obtain ⟨rfl, rfl⟩ := List.cons.inj hes
    rw [reading_node, readingAll_eq_map, List.map_cons, chainReading, ← hjoin]
    exact ofExpression_foldl c.applyBinary_binary (hmeant e (List.mem_cons_self ..))
      fun x hx => hmeant x (List.mem_cons_of_mem e hx)

/-- A node whose operands mean themselves with a change means itself with its operands changed. -/
theorem ofExpression_mapOperands
    (hlist : ∀ es, change (.collection es) = .collection (es.map change)) {e : Expr}
    (hcolumn : e.isColumn = false) (hc : e.isCollection = false) (hl : e.IsLegible)
    (hs : (e.mapOperands change).IsSettled d) (ho : ∀ x ∈ e.operands, x.MeansChanged d change) :
    ofExpression d e.reading = .ok (e.mapOperands change).unbound := by
  have hm : ∀ x ∈ e.operands, x.isCollection = false →
      ofExpression d x.reading = .ok (change x).unbound :=
    fun x hx hc => (meansChanged_iff hc).1 (ho x hx)
  -- What is not bound to a field means the operand itself.
  have hfree : ∀ x ∈ e.operands, x.isCollection = false → (change x).unbound = change x →
      ofExpression d x.reading = .ok (change x) :=
    fun x hx hc hx' => (hm x hx hc).trans (congrArg Except.ok hx')
  cases e with
  | literal l => exact ofExpression_value hl
  | column => cases hcolumn
  | collection => cases hc
  | cast e type =>
    have he := hfree e (List.mem_singleton_self e) hl.1 (hs _ (List.mem_singleton_self _))
    exact ofExpression_cast_eq_ok_iff.2 ⟨_, he, rfl⟩
  | arithmetic op l r =>
    have hl' := hfree l (by simp [operands]) (hl l (by simp [operands]))
      (hs _ (by simp [mapOperands, operands]))
    have hr' := hfree r (by simp [operands]) (hl r (by simp [operands]))
      (hs _ (by simp [mapOperands, operands]))
    exact ofExpression_binary_eq_ok_iff.2 ⟨_, hl', _, hr', by cases op <;> rfl⟩
  | call f es =>
    have hes : ∀ x ∈ es, ofExpression d x.reading = .ok (change x).unbound :=
      fun x hx => hm x hx (hl.2 x hx)
    refine ofExpression_call hs.1 (ofExpressions_eq hes fun x hx => ?_)
    rw [hs.2 (change x) (List.mem_map_of_mem hx)]
  | all => exact ofExpression_trueReading
  | and es => exact ofExpression_node (c := .and) hs fun x hx => hm x hx (hl x hx)
  | or es => exact ofExpression_node (c := .or) hs fun x hx => hm x hx (hl x hx)
  | not e =>
    have he := hfree e (List.mem_singleton_self e) (hl e (List.mem_singleton_self e))
      (hs _ (List.mem_singleton_self _))
    exact ofExpression_unary_eq_ok_iff.2 ⟨_, he, rfl⟩
  | between e low high =>
    have he := hm e (by simp [operands]) (hl e (by simp [operands]))
    have hlow := hm low (by simp [operands]) (hl low (by simp [operands]))
    have hhigh := hm high (by simp [operands]) (hl high (by simp [operands]))
    obtain ⟨c, hc, hlow', hhigh'⟩ := hs
    rw [hc] at he
    rw [mapOperands, hc]
    exact ofExpression_between_eq_ok_iff.2 ⟨c, he, _, hlow, _, hlow', _, hhigh, _, hhigh', rfl⟩
  | isIn e values =>
    have hitems := ho values (by simp [operands])
    cases values with
    | collection es =>
      have he := hfree e (by simp [operands]) hl.1 hs.1
      have hbound := hs.2
      rw [hlist] at hbound
      have hes := ofExpressions_eq hitems fun x hx => hbound (change x) (List.mem_map_of_mem hx)
      rw [mapOperands, hlist]
      exact ofExpression_inList_eq_ok_iff.2 ⟨_, he, _, hes, rfl⟩
    | _ => exact absurd hl.2 Bool.false_ne_true
  | isNull e | isNotNull e =>
    have he := hfree e (List.mem_singleton_self e) (hl e (List.mem_singleton_self e))
      (hs _ (List.mem_singleton_self _))
    exact ofExpression_isNull_eq_ok_iff.2 ⟨_, he, rfl⟩
  | compare op l r =>
    have hl' := hfree l (by simp [operands]) (hl l (by simp [operands]))
    have hr' := hm r (by simp [operands]) (hl r (by simp [operands]))
    cases op with
    | like =>
      rw [hs.2] at hr'
      exact ofExpression_like_eq_ok_iff.2 ⟨rfl, _, hl' hs.1, _, hr', rfl⟩
    | _ => exact ofExpression_compare (by decide) (hl' hs.1) hr' hs.2
  | paren e => exact hs.elim

/-- The expression of a tree means the tree with a change that keeps all nodes but columns, if the
changed tree is settled. -/
theorem meansChanged_of_settledIn
    (hchange : ∀ e, e.isColumn = false → change e = e.mapOperands change) {e : Expr}
    (h : e.Every IsLegible) (hs : e.Every (IsSettledIn d change)) : e.MeansChanged d change := by
  induction h with
  | intro e hl _ ih =>
    have ho : ∀ x ∈ e.operands, x.MeansChanged d change := fun x hx => ih x hx (hs.operand hx)
    have hlist : ∀ es, change (.collection es) = .collection (es.map change) :=
      fun es => hchange (.collection es) rfl
    have hnode := hs.node
    cases e with
    | column c => exact hnode
    | collection es => exact fun x hx => (meansChanged_iff (hl.2 x hx)).1 (ho x hx)
    | _ =>
      rw [meansChanged_iff rfl, hchange _ rfl]
      exact ofExpression_mapOperands hlist rfl rfl hl hnode ho

/-- The expression of a settled tree means the tree. -/
theorem isMeant_of_settled {e : Expr} (h : e.Every IsLegible) (hs : e.Every (IsSettled d)) :
    e.IsMeant d := by
  have hself : ∀ e : Expr, e.mapOperands id = e := fun e => mapOperands_eq_self fun x _ => rfl
  have hsettled : e.Every (IsSettledIn d id) := by
    refine hs.imp fun x hx => ?_
    have hmap : (x.mapOperands id).IsSettled d := by rwa [hself]
    cases x <;> exact hmap
  have hmeans := meansChanged_of_settledIn (fun e _ => (hself e).symm) h hsettled
  cases e <;> exact hmeans

/-! ### Changes of trees -/

/-- A change of trees that keeps what the node above asks: which literal a tree is, whether it is a
column, and whether it joins conditions. -/
structure KeepsKinds (change : Expr → Expr) : Prop where
  literal? (e : Expr) : (change e).literal? = e.literal?
  isColumn (e : Expr) : (change e).isColumn = e.isColumn
  isJoined (c : Connective) (e : Expr) : c.isJoined (change e) = c.isJoined e

namespace KeepsKinds

variable (h : KeepsKinds change)
include h

theorem literal (l : Literal) : change (.literal l) = .literal l :=
  eq_of_literal? (h.literal? (.literal l))

theorem unbound (e : Expr) : (change e).unbound = change e.unbound := by
  cases hl : e.literal? with
  | some l =>
    rw [eq_of_literal? hl, h.literal]
    exact (h.literal _).symm
  | none => rw [unbound_of_literal? hl, unbound_of_literal? ((h.literal? e).trans hl)]

theorem exists_column_iff (e : Expr) : (∃ c, change e = .column c) ↔ ∃ c, e = .column c := by
  rw [← isColumn_iff, h.isColumn, isColumn_iff]

theorem coerceOperand {field : Option Field} {op : String} {e x : Expr}
    (hx : coerceOperand field op e = .ok x) :
    coerceOperand field op (change e) = .ok (change x) := by
  cases field with
  | none =>
    rw [coerceOperand_none] at hx ⊢
    rw [Except.ok.inj hx]
  | some f =>
    cases hl : e.literal? with
    | some l =>
      rw [eq_of_literal? hl] at hx ⊢
      obtain ⟨-, bound, -, -, rfl⟩ := coerceLiteral_eq_ok_iff.1 hx
      rwa [h.literal, h.literal]
    | none =>
      rw [coerceOperand_of_literal? hl] at hx
      rw [coerceOperand_of_literal? ((h.literal? e).trans hl), Except.ok.inj hx]

theorem compareOperands {op : CompareOp} {l r r' : Expr}
    (hfield : (change l).columnField? = l.columnField?)
    (hr : compareOperands op l r = .ok (.compare op l r')) :
    compareOperands op (change l) (change r) = .ok (.compare op (change l) (change r')) := by
  rw [compareOperands_eq_ok_iff] at hr ⊢
  rw [isOne_congr (h.literal? l), isOne_congr (h.literal? r), isNullLiteral_congr (h.literal? r),
    hfield, h.exists_column_iff]
  exact ⟨hr.1, hr.2.1, h.coerceOperand hr.2.2⟩

/-- A settled node is settled with its operands changed, if columns keep their fields. -/
theorem isSettled {e : Expr} (hs : e.IsSettled d)
    (hfield : ∀ x ∈ e.operands, (change x).columnField? = x.columnField?)
    (hitems : ∀ x values, e = .isIn x values →
      (change values).operands = values.operands.map change) :
    (e.mapOperands change).IsSettled d := by
  have hfree : (∀ x ∈ e.operands, x.unbound = x) →
      ∀ x ∈ (e.mapOperands change).operands, x.unbound = x := by
    intro hx y hy
    rw [operands_mapOperands] at hy
    obtain ⟨x, hmem, rfl⟩ := List.mem_map.1 hy
    rw [h.unbound, hx x hmem]
  have hnode : ∀ (c : Connective) {es : List Expr}, (c.node es).IsSettled d →
      (c.node (es.map change)).IsSettled d := by
    intro c es hes
    obtain ⟨hlen, hparts, hhead⟩ := isSettled_node.1 hes
    refine isSettled_node.2 ⟨by simpa using hlen, fun y hy => ?_, ?_⟩
    · obtain ⟨x, hx, rfl⟩ := List.mem_map.1 hy
      rw [h.unbound, hparts x hx]
    · simpa [h.isJoined] using hhead
  cases e with
  | literal | collection | all => trivial
  | column c => exact hs
  | paren => exact hs.elim
  | cast | arithmetic | not | isNull | isNotNull => exact hfree hs
  | call f es => exact ⟨(List.length_map _).trans hs.1, hfree hs.2⟩
  | and es => exact hnode .and hs
  | or es => exact hnode .or hs
  | between e low high =>
    obtain ⟨c, rfl, hlow, hhigh⟩ := hs
    obtain ⟨c', hc⟩ := (h.exists_column_iff (.column c)).2 ⟨c, rfl⟩
    have hkept := hfield (.column c) (by simp [operands])
    rw [hc] at hkept
    have hsame : c'.field = c.field := hkept
    refine ⟨c', hc, ?_, ?_⟩
    · rw [hsame, h.unbound]
      exact h.coerceOperand hlow
    · rw [hsame, h.unbound]
      exact h.coerceOperand hhigh
  | isIn e values =>
    refine ⟨by rw [h.unbound, hs.1], fun y hy => ?_⟩
    rw [hitems e values rfl] at hy
    obtain ⟨x, hx, rfl⟩ := List.mem_map.1 hy
    rw [hfield e (by simp [operands]), h.unbound]
    exact h.coerceOperand (hs.2 x hx)
  | compare op l r =>
    cases op with
    | like => exact ⟨by rw [h.unbound, hs.1], by rw [h.unbound, hs.2]⟩
    | _ =>
      refine ⟨by rw [h.unbound, hs.1], ?_⟩
      rw [h.unbound]
      exact h.compareOperands (hfield l (by simp [operands])) hs.2

end KeepsKinds

/-! ### Flat trees -/

theorem exists_flatten_eq_column {e : Expr} :
    (∃ c, e.flatten = .column c) ↔ ∃ c, e = .column c := by
  cases e <;> simp [flatten]

theorem isNullLiteral_flatten (e : Expr) : e.flatten.isNullLiteral = e.isNullLiteral := by
  cases e <;> rfl

theorem isOne_flatten (e : Expr) : e.flatten.isOne = e.isOne := by
  cases e <;> rfl

theorem columnField?_flatten (e : Expr) : e.flatten.columnField? = e.columnField? := by
  cases e <;> rfl

theorem isJoined_flatten (c : Connective) (e : Expr) : c.isJoined e.flatten = c.isJoined e := by
  cases hjunction : e.isJunction with
  | true =>
    obtain ⟨c', es, rfl⟩ := Connective.exists_of_isJunction hjunction
    have hempty := c'.isEmpty_flatMap_conditions (es.map flatten)
    rw [List.isEmpty_map] at hempty
    rw [c'.flatten_node]
    cases c <;> cases c' <;>
      simp [Connective.isJoined, Connective.node, isConjunction, isDisjunction, hempty]
  | false =>
    cases e with
    | and | or => cases hjunction
    | _ => cases c <;> rfl

theorem keepsKinds_flatten : KeepsKinds flatten where
  literal? e := by cases e <;> rfl
  isColumn e := by cases e <;> rfl
  isJoined := isJoined_flatten

theorem length_le_flatMap {split : Expr → List Expr} (hne : ∀ e, split e ≠ []) (es : List Expr) :
    es.length ≤ (es.flatMap split).length := by
  induction es with
  | nil => exact Nat.le_refl 0
  | cons e es ih =>
    have hpos := List.length_pos_of_ne_nil (hne e)
    rw [List.flatMap_cons, List.length_cons, List.length_append]
    omega

theorem isSettled_node_flatten {c : Connective} {es : List Expr}
    (h : ∀ x ∈ es, c.isJoined x.flatten = true → x.flatten.IsSettled d)
    (hes : (c.node es).IsSettled d) :
    (c.node ((es.map flatten).flatMap c.conditions)).IsSettled d := by
  obtain ⟨hlen, hfree, hhead⟩ := isSettled_node.1 hes
  refine isSettled_node.2 ⟨?_, forall_mem_flattened fun x hx => ?_, ?_⟩
  · have hle := length_le_flatMap c.conditions_ne_nil (es.map flatten)
    rw [List.length_map] at hle
    omega
  · rcases c.conditions_eq x.flatten with ⟨hc, he⟩ | ⟨-, he⟩
    · have hnode := h x hx hc
      rw [he] at hnode
      exact (isSettled_node.1 hnode).2.1
    · rw [he]
      simpa [keepsKinds_flatten.unbound] using congrArg flatten (hfree x hx)
  · cases es with
    | nil => exact absurd hlen (by decide)
    | cons e es =>
      have hc : c.isJoined e.flatten = false := (isJoined_flatten c e).trans (hhead e rfl)
      rw [List.map_cons, List.flatMap_cons, c.conditions_of_isJoined hc]
      rintro x ⟨⟩
      exact hc

theorem isSettled_mapOperands_flatten {e : Expr} (hl : e.IsLegible) (h : e.IsSettled d) :
    (e.mapOperands flatten).IsSettled d := by
  refine keepsKinds_flatten.isSettled h (fun x _ => columnField?_flatten x) ?_
  rintro x values rfl
  cases values with
  | collection es => exact flattenAll_eq_map es
  | _ => exact absurd hl.2 Bool.false_ne_true

/-- A settled tree made flat is settled. -/
theorem every_isSettled_flatten {e : Expr} (hl : e.Every IsLegible) (h : e.Every (IsSettled d)) :
    e.flatten.Every (IsSettled d) :=
  (hl.and h).flatten (fun _ _ hp => isSettled_mapOperands_flatten hp.1 hp.2)
    fun _ _ hes hp => isSettled_node_flatten (fun x hx _ => hes x hx) hp.2

/-- The text of a settled tree means the tree made flat. -/
theorem ofClause_text_of_settled {e : Expr} (h : e.Every IsLegible) (hc : e.isCollection = false)
    (hs : e.Every (IsSettled d)) : ofClause d e.text = .ok e.flatten.unbound := by
  have hflat := every_isLegible_flatten h
  have hc' : e.flatten.isCollection = false := (isCollection_flatten e).trans hc
  have htext : e.text = e.flatten.text := (write_flatten _ e).symm
  rw [htext, ofClause_text d hflat (every_isFlat_flatten e) hc']
  exact (isMeant_iff hc').1 (isMeant_of_settled hflat (every_isSettled_flatten h hs))

end Expr

end TypedFilter
