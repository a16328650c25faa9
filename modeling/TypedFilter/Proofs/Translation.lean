import TypedFilter.Proofs.CodeTables
import TypedFilter.Proofs.Derivations
import TypedFilter.Proofs.Names

/-!
What clauses are translated to under a definition. Main statement: if conditions have a notation for
the values of every field and code tables are one-to-one, the tree that an expression means is
settled: it is put together again from what its operands are read as.
-/

namespace TypedFilter

/-- Whether conditions have a notation for what the field stores: its type is one with literals, and
its code table, if it has one, is one-to-one. -/
def Field.IsClear (f : Field) : Prop :=
  f.type.IsScalar ∧ (f.codeTable = none ∨ ∃ name codes,
    f.codeTable = some (.ofCodes name codes) ∧ CodeTable.AreOneToOne f.type codes)

namespace Definition

/-- Whether conditions have a notation for what every field stores. -/
def IsClear (d : Definition) : Prop :=
  ∀ f ∈ d.fields, f.IsClear

end Definition

namespace Expr

/-! ### Literals beside fields -/

theorem isNull_reread {v : Value} (h : v.isNull = false) : v.reread.isNull = false := by
  have hdecimal : ∀ d : Decimal, d.reread.isNull = false := by
    intro d
    rw [Decimal.reread]
    split
    · rcases d.negated?_numeral with ⟨w, b, -, -, hv⟩ | hv
      · rw [hv]
        rfl
      · rw [hv]
        rfl
    · rcases d.numeral_cases with ⟨w, a, -, -, hv⟩ | hv
      · rw [hv]
        rfl
      · rw [hv]
        rfl
  cases v with
  | integer w n => exact hdecimal n.toDecimal
  | decimal d => exact hdecimal d
  | _ => exact h

/-- The value of a field without a code table. -/
theorem forFieldStrict_of_none {f : Field} (hf : f.codeTable = none) {v w : Value}
    (h : f.type.convert v = .ok w) : Literal.forFieldStrict f v = .ok ⟨w, none, some f⟩ :=
  forFieldStrict_eq_ok_iff.2 (.inl ⟨.inl hf, w, (Field.store_eq_ok_iff_of_none hf).2 h, rfl⟩)

theorem convert_of_forFieldStrict {f : Field} (hf : f.codeTable = none) {v : Value} {l : Literal}
    (h : Literal.forFieldStrict f v = .ok l) :
    ∃ w, f.type.convert v = .ok w ∧ l = ⟨w, none, some f⟩ := by
  obtain ⟨-, w, hw, rfl⟩ | ⟨table, id, w, htable, -⟩ := forFieldStrict_eq_ok_iff.1 h
  · exact ⟨w, (Field.store_eq_ok_iff_of_none hf).1 hw, rfl⟩
  · cases hf.symm.trans htable

theorem operandValue_of_none {f : Field} (hf : f.codeTable = none) (v : Value) :
    operandValue f v = v := by
  cases v with
  | string s => simp [operandValue, hf]
  | _ => rfl

theorem isNull_operandValue {f : Field} {v : Value} (h : v.isNull = false) :
    (operandValue f v).isNull = false := by
  cases v with
  | string s =>
    rw [operandValue]
    split
    · rfl
    · rfl
  | _ => exact h

/-- What is shown for a literal that was bound to a field is bound to the same value again. -/
theorem coerceLiteral_reread {f : Field} (hf : f.IsClear) {op : String} {l : Literal}
    (hl : l.value.IsFresh) {e : Expr} (h : coerceLiteral f op l = .ok e) :
    ∃ bound : Literal, e = .literal bound ∧ bound.displayed.IsPlain ∧
      coerceLiteral f op { value := bound.displayed.reread } = .ok e := by
  obtain ⟨hnull, bound, hbound, hvalue, rfl⟩ := coerceLiteral_eq_ok_iff.1 h
  obtain ⟨hscalar, hnone | ⟨name, codes, hsome, hone⟩⟩ := hf
  · rw [operandValue_of_none hnone] at hbound
    obtain ⟨w, hw, rfl⟩ := convert_of_forFieldStrict hnone hbound
    have hne : w ≠ .null := by
      rintro rfl
      cases hvalue
    have htype := (Value.dataType?_of_convert hscalar hw).resolve_left hne
    have hreread := isNull_reread hvalue
    refine ⟨_, rfl, Value.isPlain_of_dataType? hscalar htype, ?_⟩
    refine coerceLiteral_eq_ok_iff.2 ⟨hreread, ⟨w, none, some f⟩, ?_, hvalue, rfl⟩
    rw [operandValue_of_none hnone]
    exact forFieldStrict_of_none hnone (Value.convert_reread hscalar hl hw hne)
  · have hoperand : (operandValue f l.value).isNull = false := isNull_operandValue hnull
    obtain ⟨hnone | hno, -⟩ | ⟨table, id, w, htable, -, hid, hw, rfl⟩ :=
      forFieldStrict_eq_ok_iff.1 hbound
    · cases hsome.symm.trans hnone
    · cases hoperand.symm.trans hno
    obtain rfl : CodeTable.ofCodes name codes = table := Option.some.inj (hsome.symm.trans htable)
    obtain ⟨htype, s, hcolon, hshown, hagain⟩ := CodeTable.identifier?_displayOf? hone hid
    have hconvert := Value.convert_of_dataType? hscalar htype
    obtain rfl : w = id := Except.ok.inj (hw.symm.trans hconvert)
    have hdisplayed : Literal.displayed ⟨w, Literal.displayOf? (.ofCodes name codes) w, some f⟩ =
        .string s := by
      rw [Literal.displayed, hshown, Option.getD_some]
    have hshownOperand : operandValue f (.string s) = .string s := by
      simp [operandValue, hcolon]
    refine ⟨_, rfl, hdisplayed ▸ trivial, ?_⟩
    rw [hdisplayed]
    refine coerceLiteral_eq_ok_iff.2 ⟨rfl, _, ?_, hvalue, rfl⟩
    show Literal.forFieldStrict f (operandValue f (.string s)) = _
    rw [hshownOperand]
    exact forFieldStrict_eq_ok_iff.2 (.inr ⟨_, w, w, hsome, rfl, hagain, hconvert, rfl⟩)

/-! ### Translated trees -/

/-- Whether a cast is to a type whose name can be written with bare words. -/
def IsTyped : Expr → Prop
  | .cast _ type => Sql.IsTypeName type
  | _ => True

/-- What a node of a tree has that an expression means: it is legible apart from type names, and it
is settled or it is a column; the field of a column is one of the definition. -/
structure IsMade (d : Option Definition) (e : Expr) : Prop where
  legible : e.IsTyped → e.IsLegible
  settled : e.isColumn = false → e.IsSettled d
  field : ∀ f ∈ e.columnField?, ∃ d' ∈ d, f ∈ d'.fields

/-- What an expression means. -/
structure IsComposed (d : Option Definition) (e : Expr) : Prop where
  every : e.Every (IsMade d)
  single : e.isCollection = false
  free : e.unbound = e

/-- What a node of a translated tree has: it is settled, and legible apart from type names. -/
def IsPlaced (d : Definition) (e : Expr) : Prop :=
  (e.IsTyped → e.IsLegible) ∧ e.IsSettled (some d)

/-- What an expression means under a definition. -/
structure IsTranslated (d : Definition) (e : Expr) : Prop where
  every : e.Every (IsPlaced d)
  single : e.isCollection = false
  free : e.unbound = e

variable {d : Option Definition}

theorem isMade_node {e : Expr} (hc : e.isColumn = false) (hl : e.IsTyped → e.IsLegible)
    (hs : e.IsSettled d) : e.IsMade d :=
  ⟨hl, fun _ => hs, by rw [columnField?_of_isColumn hc]; simp⟩

/-- A node whose operands are composed. -/
theorem isComposed_node {e : Expr} (h : ∀ x ∈ e.operands, x.IsComposed d)
    (hl : e.IsTyped → (∀ x ∈ e.operands, x.isCollection = false) → e.IsLegible)
    (hs : (∀ x ∈ e.operands, x.unbound = x) → e.IsSettled d) (hc : e.isColumn = false)
    (hsingle : e.isCollection = false) (hf : e.unbound = e) : e.IsComposed d :=
  ⟨⟨e, isMade_node hc (fun ht => hl ht fun x hx => (h x hx).single)
    (hs fun x hx => (h x hx).free), fun x hx => (h x hx).every⟩, hsingle, hf⟩

theorem isComposed_value {v : Value} (hv : v.IsFresh) : (ofValue v).IsComposed d :=
  ⟨⟨_, isMade_node rfl (fun _ => hv.1) trivial, fun x hx => by cases hx⟩, rfl,
    congrArg ofValue hv.2⟩

theorem isComposed_all : Expr.all.IsComposed d :=
  isComposed_node (fun x hx => by cases hx) (fun _ _ => by simp [IsLegible, operands])
    (fun _ => trivial) rfl rfl rfl

/-- A literal among composed trees is that of a value which its own literal stands for. -/
theorem exists_of_isComposed_literal {l : Literal} (h : (literal l).IsComposed d) :
    l = { value := l.value } ∧ l.value.IsFresh := by
  have hfree : ofValue l.displayed.reread = .literal l := h.free
  have hplain : l.displayed.IsPlain := h.every.node.legible trivial
  obtain ⟨v, display, field⟩ := l
  injection hfree with hfree
  injection hfree with hv hd hf
  subst hd
  subst hf
  exact ⟨rfl, hplain, hv⟩

/-- A column has a field of the definition, if there is one. -/
theorem isComposed_column {name : String} {e : Expr} (h : resolveColumn d name = .ok e) :
    e.IsComposed d := by
  have hcolumn : ∀ c : Column, (∀ f ∈ c.field, ∃ d' ∈ d, f ∈ d'.fields) →
      (column c).IsComposed d := fun c hc =>
    ⟨.leaf ⟨fun _ => by simp [IsLegible, operands], (fun h => by cases h), hc⟩ rfl, rfl, rfl⟩
  cases d with
  | none =>
    cases h
    refine hcolumn _ fun f hf => ?_
    rw [Column.field_ofName] at hf
    cases hf
  | some d =>
    obtain ⟨f, hf, rfl⟩ := exists_of_resolveColumn h
    refine hcolumn _ ?_
    rintro g ⟨⟩
    exact ⟨d, rfl, Definition.mem_of_field? hf⟩

/-! ### Operands of columns -/

/-- What an operand beside a field has become: it stands there again when its text is read. -/
structure IsCoerced (d : Option Definition) (field : Option Field) (op : String) (e : Expr) :
    Prop where
  every : e.Every (IsMade d)
  single : e.isCollection = false
  again : coerceOperand field op e.unbound = .ok e

theorem isCoerced_of_coerceOperand (hd : ∀ d' ∈ d, d'.IsClear) {field : Option Field}
    (hfield : ∀ f ∈ field, ∃ d' ∈ d, f ∈ d'.fields) {op : String} {e x : Expr}
    (he : e.IsComposed d) (h : coerceOperand field op e = .ok x) : x.IsCoerced d field op := by
  have hsame : coerceOperand field op e = .ok e → x.IsCoerced d field op := by
    intro hself
    rw [hself] at h
    cases h
    exact ⟨he.every, he.single, by rw [he.free]; exact hself⟩
  cases field with
  | none => exact hsame (coerceOperand_none op e)
  | some f =>
    cases e with
    | literal l =>
      obtain ⟨d', hd', hf⟩ := hfield f rfl
      obtain ⟨-, hfresh⟩ := exists_of_isComposed_literal he
      obtain ⟨bound, rfl, hplain, hagain⟩ := coerceLiteral_reread (hd d' hd' f hf) hfresh h
      exact ⟨⟨_, isMade_node rfl (fun _ => hplain) trivial, fun x hx => by cases hx⟩, rfl, hagain⟩
    | _ => exact hsame rfl

/-- What a comparison with a column leaves is not a literal without a value. -/
theorem isNullLiteral_of_isCoerced {field : Option Field} {op : String} {e x : Expr}
    (he : e.IsComposed d) (hnull : e.isNullLiteral = false)
    (hx : coerceOperand field op e = .ok x) (h : x.IsCoerced d field op) :
    x.unbound.isNullLiteral = false := by
  cases field with
  | none =>
    rw [coerceOperand_none] at hx
    cases hx
    rwa [he.free]
  | some f =>
    cases x with
    | literal l => exact (coerceLiteral_eq_ok_iff.1 h.again).1
    | _ => rfl

/-! ### Operators -/

theorem isComposed_joinRead (c : Connective) {l r : Expr} (hl : l.IsComposed d)
    (hr : r.IsComposed d) : (c.joinRead l r).IsComposed d := by
  have hcond := c.isCondition_joinRead l r
  have hleft : c.isJoined l = true → l.IsTyped := by
    intro hc
    obtain ⟨e, es, rfl⟩ := Connective.exists_of_isJoined hc
    cases c <;> trivial
  refine ⟨Connective.every_joinRead hl.every hr.every
      (isMade_node (isColumn_of_isCondition hcond) (fun _ => ?_) ?_),
    isCollection_of_isCondition hcond, unbound_of_isCondition hcond⟩
  · exact isLegible_joinRead (fun hc => hl.every.node.legible (hleft hc)) hl.single hr.single
  · exact isSettled_joinRead (fun hc => hl.every.node.settled (isColumn_of_isJoined hc)) hl.free
      hr.free

theorem isComposed_not {e : Expr} (h : e.IsComposed d) : (Expr.not e).IsComposed d :=
  isComposed_node (by simpa [operands] using h) (fun _ h => h) (fun h => h) rfl rfl rfl

theorem isComposed_arithmetic (op : ArithOp) {l r : Expr} (hl : l.IsComposed d)
    (hr : r.IsComposed d) : (arithmetic op l r).IsComposed d :=
  isComposed_node (by simp [operands, hl, hr]) (fun _ h => h) (fun h => h) rfl rfl rfl

/-- A comparison of composed trees, of which the right one may have been bound to a column. -/
theorem isComposed_compare {op : CompareOp} (hop : op ≠ .like) {l r : Expr}
    (hl : l.IsComposed d) (hr : r.Every (IsMade d)) (hc : r.isCollection = false)
    (h : compareOperands op l r.unbound = .ok (.compare op l r)) :
    (compare op l r).IsComposed d := by
  refine ⟨⟨_, isMade_node rfl (fun _ => ?_) ?_, ?_⟩, rfl, rfl⟩
  · simp [IsLegible, operands, hl.single, hc]
  · cases op with
    | like => exact absurd rfl hop
    | _ => exact ⟨hl.free, h⟩
  · simp [operands, hl.every, hr]

theorem isComposed_compareOperands (hd : ∀ d' ∈ d, d'.IsClear) {op : CompareOp} (hop : op ≠ .like)
    {l r e : Expr} (hl : l.IsComposed d) (hr : r.IsComposed d)
    (h : compareOperands op l r = .ok e) : e.IsComposed d := by
  have hplain : e = .compare op l r → e.IsComposed d := by
    rintro rfl
    exact isComposed_compare hop hl hr.every hr.single (by rw [hr.free]; exact h)
  by_cases hmarker : (decide (op = .equal) && l.isOne && r.isOne) = true
  · unfold compareOperands at h
    rw [if_pos hmarker] at h
    cases h
    exact isComposed_all
  · cases l with
    | column c =>
      simp only [compareOperands, if_neg hmarker] at h
      split at h
      · cases h
      · rename_i hnull
        obtain ⟨x, hx, rfl⟩ := exists_of_map_ok h
        have hcoerced := isCoerced_of_coerceOperand hd hl.every.node.field hr hx
        refine isComposed_compare hop hl hcoerced.every hcoerced.single ?_
        refine compareOperands_eq_ok_iff.2 ⟨fun hone => ?_, fun _ => ?_, hcoerced.again⟩
        · cases hone.2.1
        · exact isNullLiteral_of_isCoerced hr (by simpa using hnull) hx hcoerced
    | _ =>
      unfold compareOperands at h
      rw [if_neg hmarker] at h
      cases h
      exact hplain rfl

theorem isComposed_applyBinary (hd : ∀ d' ∈ d, d'.IsClear) {op : Sql.BinaryOp} {l r e : Expr}
    (hl : l.IsComposed d) (hr : r.IsComposed d) (h : applyBinary op l r = .ok e) :
    e.IsComposed d := by
  cases op with
  | and =>
    cases h
    exact isComposed_joinRead .and hl hr
  | or =>
    cases h
    exact isComposed_joinRead .or hl hr
  | concat => cases h
  | plus | minus | multiply | divide | modulo =>
    cases h
    exact isComposed_arithmetic _ hl hr
  | equal | notEqual | less | greater | lessEqual | greaterEqual =>
    exact isComposed_compareOperands hd (by decide) hl hr h

/-- A number with the other sign is read as itself if the number is. -/
theorem isFresh_negated? {v w : Value} (hv : v.IsFresh) (h : v.negated? = some w) : w.IsFresh := by
  have hnumber : ∀ d : Decimal, v = d.reread → w.IsFresh := by
    rintro d rfl
    rw [d.negated?_reread] at h
    cases h
    exact Value.isFresh_reread d.neg
  cases v with
  | integer width n => exact hnumber n.toDecimal hv.2.symm
  | decimal d => exact hnumber d hv.2.symm
  | float | double => exact hv.1.elim
  | _ => cases h

theorem isComposed_applyUnary {op : Sql.UnaryOp} {e x : Expr} (he : e.IsComposed d)
    (h : applyUnary op e = .ok x) : x.IsComposed d := by
  cases op with
  | not =>
    cases h
    exact isComposed_not he
  | plus =>
    cases h
    exact he
  | minus =>
    cases e with
    | literal l =>
      obtain ⟨hl, hfresh⟩ := exists_of_isComposed_literal he
      rw [hl] at h
      simp only [applyUnary] at h
      split at h
      · rename_i w hw
        cases h
        exact isComposed_value (isFresh_negated? hfresh hw)
      · cases h
    | _ => cases h

/-! ### Calls and lists -/

theorem isComposed_callNamed {name : String} {es : List Expr} {e : Expr}
    (hes : ∀ x ∈ es, x.IsComposed d) (h : callNamed name es = .ok e) : e.IsComposed d := by
  rw [callNamed] at h
  split at h
  · cases h
  · rename_i f _
    split at h
    · rename_i harity
      cases h
      refine isComposed_node hes (fun _ hc => ⟨?_, hc⟩) (fun hfree => ⟨harity, hfree⟩) rfl rfl rfl
      rintro rfl
      cases f <;> cases harity
    · cases h

theorem isComposed_inList {e : Expr} {es : List Expr} (he : e.IsComposed d) (hne : es ≠ [])
    (hes : ∀ x ∈ es, x.IsCoerced d e.columnField? "IN") : (inList e es).IsComposed d := by
  have hitems : (collection es).Every (IsMade d) :=
    ⟨_, isMade_node rfl (fun _ => ⟨hne, fun x hx => (hes x hx).single⟩) trivial,
      fun x hx => (hes x hx).every⟩
  have hparts : ∀ x ∈ [e, collection es], x.Every (IsMade d) := by simp [he.every, hitems]
  exact ⟨⟨_, isMade_node rfl (fun _ => ⟨he.single, rfl⟩)
    ⟨he.free, fun x hx => (hes x hx).again⟩, hparts⟩, rfl, rfl⟩

theorem isComposed_between {c : Column} {low high : Expr} (hc : (column c).IsComposed d)
    (hlow : low.IsCoerced d c.field "BETWEEN") (hhigh : high.IsCoerced d c.field "BETWEEN") :
    (between (column c) low high).IsComposed d := by
  refine ⟨⟨_, isMade_node rfl (fun _ => ?_) ⟨c, rfl, hlow.again, hhigh.again⟩, ?_⟩, rfl, rfl⟩
  · simp [IsLegible, operands, hc.single, hlow.single, hhigh.single]
  · simp [operands, hc.every, hlow.every, hhigh.every]

/-! ### Clauses -/

/-- What is derived under a clear definition, or under none. -/
theorem isComposed_of_isDerived (hd : ∀ d' ∈ d, d'.IsClear) {e : Expr} (h : e.IsDerived d) :
    e.IsComposed d := by
  induction h with
  | all => exact isComposed_all
  | value fresh => exact isComposed_value fresh
  | column he => exact isComposed_column he
  | binary _ _ he ihl ihr => exact isComposed_applyBinary hd ihl ihr he
  | unary _ he ih => exact isComposed_applyUnary ih he
  | call _ he ih => exact isComposed_callNamed ih he
  | cast type _ ih =>
    exact isComposed_node (by simpa [operands] using ih) (fun ht _ => ⟨ih.single, ht⟩)
      (fun h => h) rfl rfl rfl
  | search source _ nonempty _ bound ih ihs =>
    exact isComposed_inList ih nonempty fun x hx =>
      isCoerced_of_coerceOperand hd ih.every.node.field (ihs x hx) (bound x hx)
  | between _ _ _ hlow hhigh ih ihlow ihhigh =>
    have hfield := ih.every.node.field
    exact isComposed_between ih (isCoerced_of_coerceOperand hd hfield ihlow hlow)
      (isCoerced_of_coerceOperand hd hfield ihhigh hhigh)
  | like _ _ ih ihp =>
    exact isComposed_node (by simp [operands, ih, ihp]) (fun _ h => h)
      (fun _ => ⟨ih.free, ihp.free⟩) rfl rfl rfl
  | isNull _ ih | isNotNull _ ih =>
    exact isComposed_node (by simpa [operands] using ih) (fun _ h => h) (fun h => h) rfl rfl rfl
  | not _ ih => exact isComposed_not ih

/-- What a clause means without a definition. -/
theorem isComposed_ofClause {clause : String} {e : Expr} (h : ofClause none clause = .ok e) :
    e.IsComposed none :=
  isComposed_of_isDerived (fun d hd => by cases hd) (isDerived_ofClause h)

/-- The columns of what is derived under a definition are settled. -/
theorem isNodeProperty_settledColumn (d : Definition) :
    IsNodeProperty (some d) fun e => e.isColumn = true → e.IsSettled (some d) where
  column name e h _ := by
    obtain ⟨f, hf, rfl⟩ := exists_of_resolveColumn h
    show resolveColumn (some d) f.name = .ok (.column (.ofField f))
    simp only [resolveColumn, Definition.field?_name hf]
    rfl
  plain e _ hc h := by
    rw [hc] at h
    cases h
  comparing e l others h _ _ _ hc := by
    cases e with
    | column => cases h
    | _ => cases hc

/-- What a clause means under a clear definition. -/
theorem isTranslated_ofClause {d : Definition} (hd : d.IsClear) {clause : String} {e : Expr}
    (h : ofClause (some d) clause = .ok e) : e.IsTranslated d := by
  have hderived := isDerived_ofClause h
  have hcomposed : e.IsComposed (some d) :=
    isComposed_of_isDerived (by rintro d' ⟨⟩; exact hd) hderived
  have hcolumns := every_of_isDerived (isNodeProperty_settledColumn d) hderived
  refine ⟨(hcomposed.every.and hcolumns).imp fun x hx => ⟨hx.1.legible, ?_⟩, hcomposed.single,
    hcomposed.free⟩
  cases hc : x.isColumn with
  | true => exact hx.2 hc
  | false => exact hx.1.settled hc

end Expr

end TypedFilter
