import TypedFilter.Expr.Build
import TypedFilter.Proofs.Names
import TypedFilter.Proofs.Trees

/-!
Trees that are bound to a definition. Main statements: binding leaves nothing to bind, whatever the
tree was bound to before, and a tree with nothing left to bind stays as it is.
-/

namespace TypedFilter

/-! ### What is bound -/

/-- Whether the column is the field of the definition with its name, or of none if there is no such
field. -/
def Column.IsBoundTo (d : Definition) (c : Column) : Prop :=
  match d.field? c.name with
  | some f => c = .ofField f
  | none => c.field = none

namespace Expr

/-- Whether a column has no double quotes of its own around its name. -/
def IsNamed : Expr → Prop
  | .column c => ¬Column.IsWrapped c.name
  | _ => True

/-- Whether a search is for one of the values of a collection. -/
def IsSearch : Expr → Prop
  | .isIn _ values => ∃ items, values = .collection items
  | _ => True

/-- What a node has for the whole tree to be bound. -/
def IsBindable (e : Expr) : Prop :=
  e.IsNamed ∧ e.IsSearch

/-- Whether the tree, beside what may be a field, is no literal that is not bound to it. -/
def IsBeside (field : Option Field) : Expr → Prop
  | .literal l => ∀ f ∈ field, l.field = some f
  | _ => True

/-- Whether a node leaves nothing to bind: columns are bound, and literals are bound to the column
beside them. -/
def IsBoundTo (d : Definition) : Expr → Prop
  | .column c => c.IsBoundTo d
  | .compare op l r => op ≠ .like → r.IsBeside l.columnField?
  | .between e low high => low.IsBeside e.columnField? ∧ high.IsBeside e.columnField?
  | .isIn e values => ∀ x ∈ values.operands, x.IsBeside e.columnField?
  | _ => True

variable {d : Definition} {p : Expr → Prop}

/-! ### Literals -/

theorem isBeside_none (e : Expr) : e.IsBeside none := by
  cases e with
  | literal l => exact fun f hf => by cases hf
  | _ => trivial

theorem field_forField (f : Field) (v : Value) : (Literal.forField f v).field = some f := by
  rw [Literal.forField]
  split <;> rfl

theorem isBeside_ofFieldValue (f : Field) (v : Value) : (ofFieldValue f v).IsBeside (some f) := by
  rintro g ⟨⟩
  exact field_forField f v

theorem isBeside_bindLiteral (f : Field) (e : Expr) : (e.bindLiteral f).IsBeside (some f) := by
  cases e with
  | literal l =>
    rintro g ⟨⟩
    show (l.bindTo f).field = some f
    rw [Literal.bindTo]
    split
    · assumption
    · exact field_forField f l.value
  | _ => trivial

theorem bindLiteral_of_isBeside {f : Field} {e : Expr} (h : e.IsBeside (some f)) :
    e.bindLiteral f = e := by
  cases e with
  | literal l =>
    have hfield : l.field = some f := h f rfl
    rw [bindLiteral, Literal.bindTo, if_pos hfield]
  | _ => rfl

theorem Every.bindLiteral (hp : ∀ l, p (.literal l)) (f : Field) {e : Expr} (h : e.Every p) :
    (e.bindLiteral f).Every p := by
  cases e with
  | literal l => exact .leaf (hp _) rfl
  | _ => exact h

/-! ### Nodes -/

theorem bindAll_eq_map (d : Definition) (es : List Expr) : bindAll d es = es.map (bind d) := by
  induction es with
  | nil => rfl
  | cons e es ih => rw [bindAll, ih, List.map_cons]

theorem boundCompare_of_isBeside {op : CompareOp} {l r : Expr}
    (h : op ≠ .like → r.IsBeside l.columnField?) : boundCompare op l r = .compare op l r := by
  unfold boundCompare
  split
  · rfl
  · rfl
  · rename_i hop hfield
    rw [hfield] at h
    rw [bindLiteral_of_isBeside (h hop)]

theorem boundBetween_of_isBeside {e low high : Expr} (hlow : low.IsBeside e.columnField?)
    (hhigh : high.IsBeside e.columnField?) : boundBetween e low high = .between e low high := by
  rw [boundBetween]
  split
  · rfl
  · rename_i hfield
    rw [hfield] at hlow hhigh
    rw [bindLiteral_of_isBeside hlow, bindLiteral_of_isBeside hhigh]

theorem boundIn_of_isBeside {e values : Expr}
    (h : ∀ x ∈ values.operands, x.IsBeside e.columnField?) :
    boundIn e values = .isIn e values := by
  rw [boundIn]
  split
  · rfl
  · rename_i hfield
    rw [hfield] at h
    rw [mapOperands_eq_self fun x hx => bindLiteral_of_isBeside (h x hx)]

theorem bind_column {c : Column} (h : c.IsBoundTo d) : c.bind d = c := by
  rw [Column.IsBoundTo] at h
  rw [Column.bind]
  cases hf : d.field? c.name with
  | some f =>
    rw [hf] at h
    exact h.symm
  | none =>
    simp only [hf] at h
    simp only [h, Option.isSome_none, Bool.false_eq_true, if_false]

/-- What leaves nothing to bind stays as it is. -/
theorem bind_of_isBoundTo {e : Expr} (h : e.Every (IsBoundTo d)) : e.bind d = e := by
  induction e using Expr.induction with
  | h e ih =>
    have hops : ∀ x ∈ e.operands, x.bind d = x := fun x hx => ih x hx (h.operand hx)
    have hmap := mapOperands_eq_self hops
    cases e with
    | literal | all => rfl
    | column c => rw [bind, bind_column h.node]
    | collection es | call f es | and es | or es =>
      rw [bind, bindAll_eq_map]
      exact hmap
    | cast | arithmetic | not | isNull | isNotNull | paren =>
      rw [bind]
      exact hmap
    | compare op l r =>
      rw [bind, hops l (by simp [operands]), hops r (by simp [operands])]
      exact boundCompare_of_isBeside h.node
    | between e low high =>
      rw [bind, hops e (by simp [operands]), hops low (by simp [operands]),
        hops high (by simp [operands])]
      exact boundBetween_of_isBeside h.node.1 h.node.2
    | isIn e values =>
      rw [bind, hops e (by simp [operands]), hops values (by simp [operands])]
      exact boundIn_of_isBeside h.node

/-! ### Binding -/

/-- What a node has when the tree has been bound: it leaves nothing to bind, and the tree can be
bound to another definition. -/
def StaysBound (d : Definition) (e : Expr) : Prop :=
  e.IsBindable ∧ e.IsBoundTo d

theorem staysBound_literal (l : Literal) : (literal l).StaysBound d :=
  ⟨⟨trivial, trivial⟩, trivial⟩

theorem isBoundTo_ofField {name : String} {f : Field} (hf : d.field? name = some f) :
    (ofField f).IsBoundTo d := by
  show (Column.ofField f).IsBoundTo d
  simp only [Column.IsBoundTo, Column.ofField, Definition.field?_name hf]

theorem staysBound_ofField {name : String} {f : Field} (hf : d.field? name = some f)
    (hname : ¬Column.IsWrapped name) : (ofField f).StaysBound d :=
  ⟨⟨mt (Definition.isWrapped_of_field? hf).1 hname, trivial⟩, isBoundTo_ofField hf⟩

theorem staysBound_ofName {name : String} (hf : d.field? name = none)
    (hname : ¬Column.IsWrapped name) : (ofName name).StaysBound d := by
  rw [ofName, Column.ofName_of_not_wrapped hname]
  refine ⟨⟨hname, trivial⟩, ?_⟩
  show Column.IsBoundTo d ⟨name, none⟩
  simp only [Column.IsBoundTo, hf]

theorem staysBound_column {c : Column} (h : ¬Column.IsWrapped c.name) :
    (column (c.bind d)).StaysBound d := by
  rw [Column.bind]
  split
  · rename_i f hf
    exact staysBound_ofField hf h
  · rename_i hf
    have hfree := staysBound_ofName hf h
    split
    · exact hfree
    · rename_i hfield
      rw [Option.not_isSome_iff_eq_none] at hfield
      rw [ofName, Column.ofName_of_not_wrapped h, ← hfield] at hfree
      exact hfree

theorem every_boundCompare (op : CompareOp) {l r : Expr} (hl : l.Every (StaysBound d))
    (hr : r.Every (StaysBound d)) : (boundCompare op l r).Every (StaysBound d) := by
  unfold boundCompare
  split
  · exact .two ⟨⟨trivial, trivial⟩, fun h => absurd rfl h⟩ rfl hl hr
  · rename_i hfield
    exact .two ⟨⟨trivial, trivial⟩, fun _ => hfield ▸ isBeside_none r⟩ rfl hl hr
  · rename_i f _ hfield
    exact .two ⟨⟨trivial, trivial⟩, fun _ => hfield ▸ isBeside_bindLiteral f r⟩ rfl hl
      (hr.bindLiteral staysBound_literal f)

theorem every_boundBetween {e low high : Expr} (he : e.Every (StaysBound d))
    (hlow : low.Every (StaysBound d)) (hhigh : high.Every (StaysBound d)) :
    (boundBetween e low high).Every (StaysBound d) := by
  rw [boundBetween]
  split
  · rename_i hfield
    refine ⟨_, ⟨⟨trivial, trivial⟩, ?_⟩, by simp [operands, he, hlow, hhigh]⟩
    exact ⟨hfield ▸ isBeside_none low, hfield ▸ isBeside_none high⟩
  · rename_i f hfield
    have hlow' := hlow.bindLiteral staysBound_literal f
    have hhigh' := hhigh.bindLiteral staysBound_literal f
    refine ⟨_, ⟨⟨trivial, trivial⟩, ?_⟩, by simp [operands, he, hlow', hhigh']⟩
    exact ⟨hfield ▸ isBeside_bindLiteral f low, hfield ▸ isBeside_bindLiteral f high⟩

theorem every_collection {es : List Expr} (h : ∀ x ∈ es, x.Every (StaysBound d)) :
    (collection es).Every (StaysBound d) :=
  ⟨_, ⟨⟨trivial, trivial⟩, trivial⟩, h⟩

theorem every_inList {e : Expr} {es : List Expr} (he : e.Every (StaysBound d))
    (hes : ∀ x ∈ es, x.Every (StaysBound d)) (hbeside : ∀ x ∈ es, x.IsBeside e.columnField?) :
    (inList e es).Every (StaysBound d) :=
  .two ⟨⟨trivial, es, rfl⟩, hbeside⟩ rfl he (every_collection hes)

theorem every_boundIn {e : Expr} {es : List Expr} (he : e.Every (StaysBound d))
    (hes : ∀ x ∈ es, x.Every (StaysBound d)) :
    (boundIn e (.collection es)).Every (StaysBound d) := by
  rw [boundIn]
  split
  · rename_i hfield
    exact every_inList he hes fun x _ => hfield ▸ isBeside_none x
  · rename_i f hfield
    refine every_inList he (fun x hx => ?_) fun x hx => ?_
    · obtain ⟨y, hy, rfl⟩ := List.mem_map.1 hx
      exact (hes y hy).bindLiteral staysBound_literal f
    · obtain ⟨y, -, rfl⟩ := List.mem_map.1 hx
      exact hfield ▸ isBeside_bindLiteral f y

/-- A tree is bound once it has been bound, whatever it was bound to before. -/
theorem every_bind (d : Definition) {e : Expr} (h : e.Every IsBindable) :
    (e.bind d).Every (StaysBound d) := by
  induction e using Expr.induction with
  | h e ih =>
    have hops : ∀ x ∈ e.operands, (x.bind d).Every (StaysBound d) :=
      fun x hx => ih x hx (h.operand hx)
    cases e with
    | literal l => exact .leaf (staysBound_literal l) rfl
    | column c => exact .leaf (staysBound_column h.node.1) rfl
    | all => exact .leaf ⟨⟨trivial, trivial⟩, trivial⟩ rfl
    | collection es | call f es | and es | or es =>
      rw [bind, bindAll_eq_map]
      refine ⟨_, ⟨⟨trivial, trivial⟩, trivial⟩, fun x hx => ?_⟩
      obtain ⟨y, hy, rfl⟩ := List.mem_map.1 hx
      exact hops y hy
    | cast e | not e | isNull e | isNotNull e | paren e =>
      exact .one ⟨⟨trivial, trivial⟩, trivial⟩ rfl (hops e (by simp [operands]))
    | arithmetic op l r =>
      exact .two ⟨⟨trivial, trivial⟩, trivial⟩ rfl (hops l (by simp [operands]))
        (hops r (by simp [operands]))
    | compare op l r =>
      exact every_boundCompare op (hops l (by simp [operands])) (hops r (by simp [operands]))
    | between e low high =>
      exact every_boundBetween (hops e (by simp [operands])) (hops low (by simp [operands]))
        (hops high (by simp [operands]))
    | isIn e values =>
      obtain ⟨items, rfl⟩ := h.node.2
      have hvalues := hops (.collection items) (by simp [operands])
      rw [bind, bindAll_eq_map] at hvalues
      rw [bind, bind, bindAll_eq_map]
      exact every_boundIn (hops e (by simp [operands])) fun x hx => hvalues.operand hx

/-- Binding again changes nothing. -/
theorem bind_bind (d : Definition) {e : Expr} (h : e.Every IsBindable) :
    (e.bind d).bind d = e.bind d :=
  bind_of_isBoundTo ((every_bind d h).imp fun _ hx => hx.2)

/-! ### Names and values -/

/-- A column of a name that is bound, beside literals that are bound to it. -/
theorem every_fieldEqual {name : String} {f : Field} (hf : d.field? name = some f)
    (hname : ¬Column.IsWrapped name) (v : Value) : (fieldEqual f v).Every (StaysBound d) :=
  .two ⟨⟨trivial, trivial⟩, fun _ => isBeside_ofFieldValue f v⟩ rfl
    (.leaf (staysBound_ofField hf hname) rfl) (.leaf (staysBound_literal _) rfl)

/-- What the condition that a column has a value is made of: the column, and literals for the values
beside it. -/
theorem nameValue_cases {name : String} (hname : ¬Column.IsWrapped name) (v : Value) :
    ∃ (column : Expr) (literal : Value → Expr), column.Every (StaysBound d) ∧
      (∀ w, (literal w).Every (StaysBound d) ∧ (literal w).IsBeside column.columnField?) ∧
      (nameValue (some d) name v = .isNull column ∨
        (∃ vs : List Value, nameValue (some d) name v = inList column (vs.map literal)) ∨
        nameValue (some d) name v = equal column (literal v)) := by
  cases hf : d.field? name with
  | some f =>
    refine ⟨ofField f, ofFieldValue f, .leaf (staysBound_ofField hf hname) rfl, fun w => ?_, ?_⟩
    · exact ⟨.leaf (staysBound_literal _) rfl, isBeside_ofFieldValue f w⟩
    · simp only [nameValue, Option.bind_some, hf, Option.map_some, Option.getD_some]
      cases v with
      | null => exact .inl rfl
      | list vs => exact .inr (.inl ⟨vs, rfl⟩)
      | _ => exact .inr (.inr rfl)
  | none =>
    have hfree : (ofName name).columnField? = none := by
      rw [ofName, Column.ofName_of_not_wrapped hname]
      rfl
    refine ⟨ofName name, ofValue, .leaf (staysBound_ofName hf hname) rfl, fun w => ?_, ?_⟩
    · exact ⟨.leaf (staysBound_literal _) rfl, hfree ▸ isBeside_none _⟩
    · simp only [nameValue, Option.bind_some, hf, Option.map_none, Option.getD_none]
      cases v with
      | null => exact .inl rfl
      | list vs => exact .inr (.inl ⟨vs, rfl⟩)
      | _ => exact .inr (.inr rfl)

/-- The condition that a column has a value is bound as it is made. -/
theorem every_nameValue {name : String} (hname : ¬Column.IsWrapped name) (v : Value) :
    (nameValue (some d) name v).Every (StaysBound d) := by
  obtain ⟨column, literal, hc, hl, h | ⟨vs, h⟩ | h⟩ := nameValue_cases (d := d) hname v
  · exact h ▸ .one ⟨⟨trivial, trivial⟩, trivial⟩ rfl hc
  · rw [h]
    refine every_inList hc (fun x hx => ?_) fun x hx => ?_
    · obtain ⟨w, -, rfl⟩ := List.mem_map.1 hx
      exact (hl w).1
    · obtain ⟨w, -, rfl⟩ := List.mem_map.1 hx
      exact (hl w).2
  · exact h ▸ .two ⟨⟨trivial, trivial⟩, fun _ => (hl v).2⟩ rfl hc (hl v).1

/-! ### Joined conditions -/

theorem Every.andAlso (hp : ∀ es, p (.and es)) {l r : Expr} (hl : l.Every p) (hr : r.Every p) :
    (l.andAlso r).Every p := by
  unfold Expr.andAlso
  split
  · exact hr
  · split
    · exact hl
    · split
      · refine ⟨_, hp _, fun x hx => ?_⟩
        rcases List.mem_append.1 hx with hx | hx
        · exact hl.operand hx
        · exact List.mem_singleton.1 hx ▸ hr
      · exact .two (hp _) rfl hl hr

theorem Every.orElse (hp : ∀ es, p (.or es)) {l r : Expr} (hl : l.Every p) (hr : r.Every p) :
    (l.orElse r).Every p := by
  unfold Expr.orElse
  split
  · exact hr
  · split
    · exact hl
    · split
      · refine ⟨_, hp _, fun x hx => ?_⟩
        rcases List.mem_append.1 hx with hx | hx
        · exact hl.operand hx
        · exact List.mem_singleton.1 hx ▸ hr
      · exact .two (hp _) rfl hl hr

theorem Every.allOf (hp : ∀ es, p (.and es)) {es : List Expr} (h : ∀ e ∈ es, e.Every p) :
    (allOf es).Every p :=
  ⟨_, hp _, fun e he => h e (List.mem_of_mem_filter he)⟩

theorem Every.anyOf (hp : ∀ es, p (.or es)) {es : List Expr} (h : ∀ e ∈ es, e.Every p) :
    (anyOf es).Every p :=
  ⟨_, hp _, fun e he => h e (List.mem_of_mem_filter he)⟩

end Expr

end TypedFilter
