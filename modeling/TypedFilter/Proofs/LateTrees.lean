import TypedFilter.Proofs.BoundClauses
import TypedFilter.Proofs.Combining

/-!
Trees that are read without a definition beside those that are read under one. Main statements: node
by node, binding leads from the one to the other, unless a name has double quotes of its own or a
text that is looked up in a code table has colons.
-/

namespace TypedFilter

/-- Whether a value is looked up for the field as it is. In a clause, colons stand between the parts
of a display value. -/
def Field.LooksUpWhole (f : Field) : Value → Prop
  | .string s => f.codeTable.isSome = true → ':' ∉ s.toList
  | _ => True

theorem Field.looksUpWhole_of_codeTable {f : Field} (h : f.codeTable = none) (v : Value) :
    f.LooksUpWhole v := by
  cases v with
  | string s =>
    intro hsome
    rw [h] at hsome
    cases hsome
  | _ => trivial

/-! ### Literals -/

/-- A value that a field can store is bound to it in the same way, strictly or not. -/
theorem forField_of_forFieldStrict {f : Field} {v : Value} {l : Literal}
    (h : Literal.forFieldStrict f v = .ok l) : Literal.forField f v = l := by
  rw [Literal.forField]
  obtain ⟨hcodes, w, hw, rfl⟩ | ⟨table, id, w, htable, -, hid, hw, rfl⟩ :=
    Expr.forFieldStrict_eq_ok_iff.1 h
  · have hlookup : (f.codeTable.bind fun table =>
        (Literal.identifier? table v).map (table, ·)) = none := by
      rcases hcodes with hnone | hnull
      · rw [hnone, Option.bind_none]
      · rw [Value.eq_null_of_isNull hnull]
        cases f.codeTable <;> rfl
    simp only [hlookup, Field.storeLenient, hw]
  · simp only [htable, Option.bind_some, hid, Option.map_some, DataType.convertLenient, hw]

namespace Expr

theorem operandValue_of_looksUpWhole {f : Field} {v : Value} (h : f.LooksUpWhole v) :
    operandValue f v = v := by
  cases v with
  | string s =>
    rw [operandValue, if_neg]
    intro hsplit
    rw [Bool.and_eq_true, List.contains_iff_mem] at hsplit
    exact h hsplit.1 hsplit.2
  | _ => rfl

/-- An operand bound to the field beside it, if there is one. -/
def boundBeside (field : Option Field) (e : Expr) : Expr :=
  match field with
  | none => e
  | some f => e.bindLiteral f

theorem boundCompare_eq {op : CompareOp} (hop : op ≠ .like) (l r : Expr) :
    boundCompare op l r = .compare op l (r.boundBeside l.columnField?) := by
  cases hfield : l.columnField? with
  | none =>
    unfold boundCompare
    rw [hfield]
    cases op <;> rfl
  | some f =>
    unfold boundCompare
    rw [hfield]
    cases op with
    | like => exact absurd rfl hop
    | _ => rfl

theorem boundCompare_like (l r : Expr) : boundCompare .like l r = .compare .like l r := by
  unfold boundCompare
  cases l.columnField? <;> rfl

theorem boundBetween_eq (e low high : Expr) : boundBetween e low high =
    .between e (low.boundBeside e.columnField?) (high.boundBeside e.columnField?) := by
  unfold boundBetween
  cases e.columnField? <;> rfl

theorem boundIn_eq (e : Expr) (es : List Expr) :
    boundIn e (.collection es) = inList e (es.map (boundBeside e.columnField?)) := by
  unfold boundIn
  cases e.columnField? with
  | none => exact congrArg (inList e) (List.map_id es).symm
  | some f => rfl

/-! ### What is read with and without a definition -/

/-- Whether literals beside a column at a node are looked up as they are. -/
def IsWhole (d : Definition) (e : Expr) : Prop :=
  ∀ c others f, e.compared = some (.column c, others) → d.field? c.name = some f →
    ∀ l, .literal l ∈ others → f.LooksUpWhole l.value

/-- What a tree that is read without a definition has to do with the one that is read under it: the
same literals and columns stand for themselves, nothing is bound to a field, and under the
conditions on names and texts binding leads from the one to the other. -/
structure IsLate (d : Definition) (u t : Expr) : Prop where
  literal : u.literal? = t.literal?
  fresh : ∀ l ∈ u.literal?, l.field = none
  column : u.isColumn = t.isColumn
  free : u.columnField? = none
  bind : t.Every IsNamed → u.Every (IsWhole d) → u.bind d = t

variable {d : Definition} {u t l r l' r' : Expr}

namespace IsLate

theorem value (v : Value) : IsLate d (ofValue v) (ofValue v) where
  literal := rfl
  fresh l hl := by
    cases hl
    rfl
  column := rfl
  free := rfl
  bind _ _ := rfl

/-- Trees that are neither literals nor columns. -/
theorem node (hu : u.literal? = none) (ht : t.literal? = none) (hcu : u.isColumn = false)
    (hct : t.isColumn = false) (hbind : t.Every IsNamed → u.Every (IsWhole d) → u.bind d = t) :
    IsLate d u t where
  literal := hu.trans ht.symm
  fresh l hl := by
    rw [hu] at hl
    cases hl
  column := hcu.trans hct.symm
  free := columnField?_of_isColumn hcu
  bind := hbind

/-- Operands of trees that are named and looked up as they are. -/
theorem bind_operand {x y : Expr} (h : IsLate d x y) (hnamed : t.Every IsNamed)
    (hwhole : u.Every (IsWhole d)) (hy : y ∈ t.operands) (hx : x ∈ u.operands) : x.bind d = y :=
  h.bind (hnamed.operand hy) (hwhole.operand hx)

theorem all : IsLate d .all .all :=
  node rfl rfl rfl rfl fun _ _ => rfl

/-- Trees around one operand. -/
theorem unary (build : Expr → Expr) (h : IsLate d u t) (hliteral : ∀ e, (build e).literal? = none)
    (hcolumn : ∀ e, (build e).isColumn = false) (hoperands : ∀ e, (build e).operands = [e])
    (hbuild : (build u).bind d = build (u.bind d)) : IsLate d (build u) (build t) := by
  refine node (hliteral u) (hliteral t) (hcolumn u) (hcolumn t) fun hnamed hwhole => ?_
  rw [hbuild, h.bind_operand hnamed hwhole (by simp [hoperands]) (by simp [hoperands])]

/-- Trees around two operands. -/
theorem binary (build : Expr → Expr → Expr) (hl : IsLate d l l') (hr : IsLate d r r')
    (hliteral : ∀ x y, (build x y).literal? = none) (hcolumn : ∀ x y, (build x y).isColumn = false)
    (hoperands : ∀ x y, (build x y).operands = [x, y])
    (hbuild : (build l r).bind d = build (l.bind d) (r.bind d)) :
    IsLate d (build l r) (build l' r') := by
  refine node (hliteral l r) (hliteral l' r') (hcolumn l r) (hcolumn l' r') fun hnamed hwhole => ?_
  rw [hbuild, hl.bind_operand hnamed hwhole (by simp [hoperands]) (by simp [hoperands]),
    hr.bind_operand hnamed hwhole (by simp [hoperands]) (by simp [hoperands])]

theorem not (h : IsLate d u t) : IsLate d (.not u) (.not t) :=
  h.unary .not (fun _ => rfl) (fun _ => rfl) (fun _ => rfl) rfl

theorem isNull (h : IsLate d u t) : IsLate d (.isNull u) (.isNull t) :=
  h.unary .isNull (fun _ => rfl) (fun _ => rfl) (fun _ => rfl) rfl

theorem isNotNull (h : IsLate d u t) : IsLate d (.isNotNull u) (.isNotNull t) :=
  h.unary .isNotNull (fun _ => rfl) (fun _ => rfl) (fun _ => rfl) rfl

theorem cast (h : IsLate d u t) (type : String) : IsLate d (.cast u type) (.cast t type) :=
  h.unary (.cast · type) (fun _ => rfl) (fun _ => rfl) (fun _ => rfl) rfl

theorem negatedIf (h : IsLate d u t) (negated : Bool) :
    IsLate d (negatedIf negated u) (negatedIf negated t) := by
  cases negated with
  | true => exact h.not
  | false => exact h

theorem arithmetic (hl : IsLate d l l') (hr : IsLate d r r') (op : ArithOp) :
    IsLate d (.arithmetic op l r) (.arithmetic op l' r') :=
  hl.binary (.arithmetic op) hr (fun _ _ => rfl) (fun _ _ => rfl) (fun _ _ => rfl) rfl

theorem like (hl : IsLate d l l') (hr : IsLate d r r') :
    IsLate d (.compare .like l r) (.compare .like l' r') :=
  hl.binary (.compare .like) hr (fun _ _ => rfl) (fun _ _ => rfl) (fun _ _ => rfl)
    (boundCompare_like (l.bind d) (r.bind d))

end IsLate

theorem isWhole_of_compared (h : u.compared = none) : u.IsWhole d :=
  fun c others f hcompared => by
    rw [h] at hcompared
    cases hcompared

end Expr

/-! ### Joined conditions -/

namespace Connective

variable {c : Connective} {d : Definition} {l r l' r' : Expr}

theorem bind_node (c : Connective) (d : Definition) (es : List Expr) :
    (c.node es).bind d = c.node (es.map (Expr.bind d)) := by
  cases c <;> simp [node, Expr.bind, Expr.bindAll_eq_map]

theorem isJoined_bind (c : Connective) (d : Definition) (e : Expr) :
    c.isJoined (e.bind d) = c.isJoined e := by
  cases e with
  | and es | or es =>
    cases c <;>
      simp [Expr.bind, Expr.bindAll_eq_map, isJoined, Expr.isConjunction, Expr.isDisjunction]
  | compare op l r =>
    by_cases hop : op = .like
    · rw [hop, Expr.bind, Expr.boundCompare_like]
      cases c <;> rfl
    · rw [Expr.bind, Expr.boundCompare_eq hop]
      cases c <;> rfl
  | between =>
    rw [Expr.bind, Expr.boundBetween_eq]
    cases c <;> rfl
  | isIn =>
    rw [Expr.bind, Expr.boundIn]
    split <;> cases c <;> rfl
  | _ => cases c <;> rfl

theorem bind_joinRead (c : Connective) (d : Definition) (l r : Expr) :
    (c.joinRead l r).bind d = c.joinRead (l.bind d) (r.bind d) := by
  cases hl : c.isJoined l with
  | false =>
    rw [joinRead_of_isJoined r hl,
      joinRead_of_isJoined (r.bind d) ((isJoined_bind c d l).trans hl), bind_node]
    rfl
  | true =>
    obtain ⟨e, es, rfl⟩ := exists_of_isJoined hl
    rw [joinRead_node, bind_node, bind_node, List.map_cons, List.map_cons, joinRead_node,
      List.map_append]
    rfl

theorem isLate_joinRead (hl : Expr.IsLate d l l') (hr : Expr.IsLate d r r') :
    Expr.IsLate d (c.joinRead l r) (c.joinRead l' r') := by
  have hplain : ∀ a b, (c.joinRead a b).literal? = none ∧ (c.joinRead a b).isColumn = false := by
    intro a b
    obtain ⟨es, h⟩ := c.exists_joinRead_eq a b
    rw [h]
    cases c <;> exact ⟨rfl, rfl⟩
  refine .node (hplain l r).1 (hplain l' r').1 (hplain l r).2 (hplain l' r').2 ?_
  intro hnamed hwhole
  have hnode : ∀ es, (c.node es).IsNamed ∧ (c.node es).IsWhole d := fun es => by
    cases c <;> exact ⟨trivial, Expr.isWhole_of_compared rfl⟩
  obtain ⟨hnl, hnr⟩ := every_of_joinRead (fun es => (hnode es).1) hnamed
  obtain ⟨hwl, hwr⟩ := every_of_joinRead (fun es => (hnode es).2) hwhole
  rw [bind_joinRead, hl.bind hnl hwl, hr.bind hnr hwr]

end Connective

namespace Expr

variable {d : Definition} {u t l r l' r' : Expr}

/-! ### Operands beside columns -/

/-- Late columns have the field that they get with the definition. -/
theorem exists_field_of_bind (hl : IsLate d l l') (hbind : l.bind d = l') {f : Field}
    (hfield : l'.columnField? = some f) : ∃ c, l = .column c ∧ d.field? c.name = some f := by
  have hcolumn : l'.isColumn = true := by
    cases l' with
    | column => rfl
    | _ => cases hfield
  obtain ⟨c, rfl⟩ := (isColumn_iff l).1 (hl.column.trans hcolumn)
  refine ⟨c, rfl, ?_⟩
  have hfree : c.field = none := hl.free
  rw [← hbind] at hfield
  change (c.bind d).field = some f at hfield
  rw [Column.bind] at hfield
  cases hf : d.field? c.name with
  | some g =>
    rw [hf] at hfield
    exact hfield
  | none =>
    simp only [hf, hfree, Option.isSome_none, Bool.false_eq_true, if_false] at hfield
    cases hfield

theorem every_of_coerceOperand {p : Expr → Prop} (hp : ∀ l, p (.literal l))
    {field : Option Field} {op : String} {e x : Expr} (h : coerceOperand field op e = .ok x)
    (hx : x.Every p) : e.Every p := by
  cases e with
  | literal l => exact .leaf (hp l) rfl
  | _ =>
    cases field with
    | none =>
      cases h
      exact hx
    | some f =>
      cases h
      exact hx

/-- An operand that the translation binds is bound to the same when this is done late. -/
theorem boundBeside_of_coerceOperand {others : List Expr} {op : String} {x : Expr}
    (hwhole : u.IsWhole d) (hcompared : u.compared = some (l, others)) (hmem : r ∈ others)
    (hl : IsLate d l l') (hbind : l.bind d = l') (hr : IsLate d r r')
    (h : coerceOperand l'.columnField? op r' = .ok x) : r'.boundBeside l'.columnField? = x := by
  cases hfield : l'.columnField? with
  | none =>
    rw [hfield, coerceOperand_none] at h
    exact Except.ok.inj h
  | some f =>
    rw [hfield] at h
    cases r' with
    | literal lit =>
      -- The translation has split the text at colons, if the field has a code table.
      have hliteral : r = .literal lit := eq_of_literal? hr.literal
      obtain ⟨c, rfl, hf⟩ := exists_field_of_bind hl hbind hfield
      obtain ⟨-, bound, hbound, -, rfl⟩ := coerceLiteral_eq_ok_iff.1 h
      rw [operandValue_of_looksUpWhole
        (hwhole c others f hcompared hf lit (hliteral ▸ hmem))] at hbound
      have hfresh : lit.field = none := hr.fresh lit (by rw [hliteral]; rfl)
      have hother : lit.field ≠ some f := by
        rw [hfresh]
        exact (Option.some_ne_none f).symm
      show Expr.literal (lit.bindTo f) = .literal bound
      rw [Literal.bindTo, if_neg hother, forField_of_forFieldStrict hbound]
    | _ =>
      cases h
      rfl

/-! ### Lists -/

theorem map_eq_of_forall₂ {α β : Type} {R : α → β → Prop} {g : α → β} {as : List α}
    {bs : List β} (h : List.Forall₂ R as bs) (hg : ∀ a ∈ as, ∀ b ∈ bs, R a b → g a = b) :
    as.map g = bs := by
  induction h with
  | nil => rfl
  | cons hab _ ih =>
    rw [List.map_cons, hg _ (List.mem_cons_self ..) _ (List.mem_cons_self ..) hab,
      ih fun a ha b hb => hg a (List.mem_cons_of_mem _ ha) b (List.mem_cons_of_mem _ hb)]

/-- What stands in a list that is read without a definition has to do with what stands in one that
is read under it and finished. -/
def AreLate (d : Definition) (finish : Expr → Result Expr) : List Expr → List Expr → Prop :=
  List.Forall₂ fun u t => ∃ t', IsLate d u t' ∧ finish t' = .ok t

theorem IsLate.call {us ts : List Expr} (h : AreLate d .ok us ts) (f : Builtin) :
    IsLate d (.call f us) (.call f ts) := by
  refine .node rfl rfl rfl rfl fun hnamed hwhole => ?_
  rw [Expr.bind, bindAll_eq_map, map_eq_of_forall₂ h]
  rintro u hu t ht ⟨_, hlate, ⟨⟩⟩
  exact hlate.bind (hnamed.operand ht) (hwhole.operand hu)

theorem IsLate.inList {us ts : List Expr} (hl : IsLate d l l')
    (h : AreLate d (coerceOperand l'.columnField? "IN") us ts) :
    IsLate d (.isIn l (.collection us)) (.isIn l' (.collection ts)) := by
  refine .node rfl rfl rfl rfl fun hnamed hwhole => ?_
  have hbind : l.bind d = l' :=
    hl.bind_operand hnamed hwhole (by simp [operands]) (by simp [operands])
  have hnamedItems : (collection ts).Every IsNamed := hnamed.operand (by simp [operands])
  have hwholeItems : (collection us).Every (IsWhole d) := hwhole.operand (by simp [operands])
  -- An item is bound twice: what stands in it first, then the item to the column.
  have hitems : us.map (boundBeside l'.columnField? ∘ Expr.bind d) = ts := by
    refine map_eq_of_forall₂ h ?_
    rintro u hu t ht ⟨t', hlate, hcoerce⟩
    have hitem : u.bind d = t' :=
      hlate.bind (every_of_coerceOperand (fun _ => trivial) hcoerce (hnamedItems.operand ht))
        (hwholeItems.operand hu)
    rw [Function.comp_apply, hitem]
    exact boundBeside_of_coerceOperand hwhole.node rfl (List.mem_cons_of_mem _ hu) hl hbind hlate
      hcoerce
  show boundIn (l.bind d) (.collection (bindAll d us)) = _
  rw [boundIn_eq, hbind, bindAll_eq_map, List.map_map, hitems]
  rfl

theorem IsLate.between {low low' high high' x y : Expr} (hl : IsLate d l l')
    (hlow : IsLate d low low') (hhigh : IsLate d high high')
    (hx : coerceOperand l'.columnField? "BETWEEN" low' = .ok x)
    (hy : coerceOperand l'.columnField? "BETWEEN" high' = .ok y) :
    IsLate d (between l low high) (between l' x y) := by
  refine .node rfl rfl rfl rfl fun hnamed hwhole => ?_
  have hbind : l.bind d = l' :=
    hl.bind_operand hnamed hwhole (by simp [operands]) (by simp [operands])
  have hlowBind : low.bind d = low' :=
    hlow.bind
      (every_of_coerceOperand (fun _ => trivial) hx (hnamed.operand (by simp [operands])))
      (hwhole.operand (by simp [operands]))
  have hhighBind : high.bind d = high' :=
    hhigh.bind
      (every_of_coerceOperand (fun _ => trivial) hy (hnamed.operand (by simp [operands])))
      (hwhole.operand (by simp [operands]))
  rw [Expr.bind, boundBetween_eq, hbind, hlowBind, hhighBind,
    boundBeside_of_coerceOperand hwhole.node rfl (by simp) hl hbind hlow hx,
    boundBeside_of_coerceOperand hwhole.node rfl (by simp) hl hbind hhigh hy]

end Expr

end TypedFilter
