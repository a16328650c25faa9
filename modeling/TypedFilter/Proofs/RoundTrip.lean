import TypedFilter.Proofs.Bare
import TypedFilter.Proofs.Names
import TypedFilter.Proofs.Placeholders

/-!
Trees that keep their meaning as text. Main statement: the text of such a tree can be read without a
definition, and what is read has the same parameters and is true of the same records.
-/

namespace TypedFilter

/-- Whether the value is what its literal is read as: a whole number has the narrower of two widths
and is not the least one of it, and a decimal has places. -/
def Value.IsStable : Value → Prop
  | .null | .boolean _ | .string _ | .date _ | .time _ | .timestamp _ => True
  | .integer .int n => n.toInt ≠ -pow2 31
  | .integer .long n => ¬IntWidth.int.Holds n.toInt ∧ n.toInt ≠ -pow2 63
  | .decimal d => d.scale ≠ 0
  | .integer .short _ | .float _ | .double _ | .geometry _ | .box _ | .list _ => False

theorem Value.isPlain_of_stable {v : Value} (h : v.IsStable) : v.IsPlain := by
  cases v with
  | float | double | geometry | box | list => exact h
  | _ => trivial

theorem Value.reread_of_stable {v : Value} (h : v.IsStable) : v.reread = v := by
  cases v with
  | integer w n =>
    cases w with
    | short => exact h.elim
    | int => exact n.reread_int h
    | long => exact n.reread_long h.1 h.2
  | decimal d => exact d.reread_of_scale_ne h
  | _ => rfl

namespace Expr

/-- What keeps a tree's meaning in its text, for the node and what its operands are. -/
def Survives : Expr → Prop
  | .literal l => l.field = none ∧ l.display = none ∧ l.value.IsStable
  | .column c => c.field = none ∧ ¬Column.IsWrapped c.name
  | .collection es => es ≠ [] ∧ ∀ x ∈ es, x.isCollection = false
  | .cast e type => e.isCollection = false ∧ Sql.IsTypeName type
  | .call f es => es.length = f.arity ∧ ∀ x ∈ es, x.isCollection = false
  | .and es | .or es => ∀ x ∈ es, x.isCondition = true
  | .between e low high =>
    (∃ c, e.stripped = .column c) ∧ low.isCollection = false ∧ high.isCollection = false
  | .isIn e values => e.isCollection = false ∧ values.isCollection = true
  | .compare op l r =>
    (l.isCollection = false ∧ r.isCollection = false) ∧
      (op ≠ .like → ¬((∃ c, l.stripped = .column c) ∧ r.stripped.isNullLiteral = true)) ∧
      ¬(op = .equal ∧ l.stripped.isOne = true ∧ r.stripped.isOne = true)
  | .all => True
  | .arithmetic _ l r => l.isCollection = false ∧ r.isCollection = false
  | .not e | .isNull e | .isNotNull e | .paren e => e.isCollection = false

/-! ### Flat trees -/

theorem isCollection_of_stripped {e : Expr} (h : ∃ c, e.stripped = .column c) :
    e.isCollection = false := by
  cases e with
  | collection =>
    obtain ⟨c, hc⟩ := h
    cases hc
  | _ => rfl

theorem arity_pos (f : Builtin) : 0 < f.arity := by
  cases f <;> decide

/-- What survives can be read. -/
theorem isLegible_of_survives {e : Expr} (h : e.Survives) : e.IsLegible := by
  cases e with
  | literal l =>
    obtain ⟨-, hd, hv⟩ := h
    rw [IsLegible, Literal.displayed, hd]
    exact Value.isPlain_of_stable hv
  | column | all => simp [IsLegible, operands]
  | collection es => exact h
  | cast e type => exact h
  | isIn e values => exact h
  | call f es =>
    refine ⟨?_, h.2⟩
    rintro rfl
    exact absurd h.1 (Nat.ne_of_lt (arity_pos f))
  | and es | or es => exact fun x hx => isCollection_of_isCondition (h x hx)
  | between e low high =>
    have he := isCollection_of_stripped h.1
    simp [IsLegible, operands, he, h.2.1, h.2.2]
  | compare op l r => simp [IsLegible, operands, h.1.1, h.1.2]
  | arithmetic op l r => simp [IsLegible, operands, h.1, h.2]
  | not e | isNull e | isNotNull e | paren e =>
    have he : e.isCollection = false := h
    simp [IsLegible, operands, he]

theorem isCondition_flatten (e : Expr) : e.flatten.isCondition = e.isCondition := by
  induction e using Expr.induction with
  | h e ih =>
    cases e with
    | paren e => exact ih e (List.mem_singleton_self e)
    | _ => rfl

theorem stripped_flatten (e : Expr) : e.flatten.stripped = e.stripped.flatten := by
  induction e using Expr.induction with
  | h e ih =>
    cases e with
    | paren e => exact ih e (List.mem_singleton_self e)
    | _ => rfl

theorem survives_node (c : Connective) {es : List Expr} :
    (c.node es).Survives ↔ ∀ x ∈ es, x.isCondition = true := by
  cases c <;> rfl

theorem survives_mapOperands {e : Expr} (hjunction : e.isJunction = false)
    (h : e.Survives) : (e.mapOperands flatten).Survives := by
  cases e with
  | and | or => cases hjunction
  | literal | column | all => exact h
  | collection es | call f es =>
    refine ⟨by simpa using h.1, fun x hx => ?_⟩
    obtain ⟨y, hy, rfl⟩ := List.mem_map.1 hx
    rw [isCollection_flatten]
    exact h.2 y hy
  | _ =>
    simp only [mapOperands, Survives, isCollection_flatten, stripped_flatten,
      exists_flatten_eq_column, isNullLiteral_flatten, isOne_flatten]
    exact h

theorem isCondition_conditions (c : Connective) {e : Expr} (h : e.Survives)
    (hc : e.isCondition = true) : ∀ x ∈ c.conditions e, x.isCondition = true := by
  refine c.forall_mem_conditions hc ?_
  rintro es rfl
  exact (survives_node c).1 h

/-- A tree made flat survives if the tree does. -/
theorem survives_flatten {e : Expr} (h : e.Every Survives) : e.flatten.Every Survives := by
  refine h.flatten (fun e hjunction he => survives_mapOperands hjunction he) fun c es h hes => ?_
  rw [survives_node] at hes ⊢
  exact forall_mem_flattened fun x hx =>
    isCondition_conditions c (h x hx) ((isCondition_flatten x).trans (hes x hx))

/-! ### Bare trees -/

theorem isApt_of_survives {e : Expr} (h : e.Survives) : e.IsApt := by
  cases e with
  | call f es => exact h.1
  | and es | or es => exact h
  | _ => trivial

theorem isCollection_bare {e : Expr} (h : e.Every Survives) :
    e.bare.isCollection = e.isCollection := by
  induction h with
  | intro e hs hparts ih =>
    have hapt : e.Every IsApt := Every.imp (fun _ => isApt_of_survives) ⟨e, hs, hparts⟩
    cases e with
    | and es | or es => exact isCollection_of_isCondition (isCondition_bare hapt rfl)
    | paren e => exact (ih e (List.mem_singleton_self e)).trans hs
    | _ => rfl

/-- What is left of a tree when its text is read: it is read as itself. -/
structure IsRestored (e : Expr) : Prop where
  legible : e.IsLegible
  settled : e.IsSettled none
  free : e.unbound = e

theorem every_isRestored_joinRead (c : Connective) {l r : Expr} (hl : l.Every IsRestored)
    (hr : r.Every IsRestored) (cl : l.isCollection = false) (cr : r.isCollection = false) :
    (c.joinRead l r).Every IsRestored :=
  Connective.every_joinRead hl hr ⟨isLegible_joinRead (fun _ => hl.node.legible) cl cr,
    isSettled_joinRead (fun _ => hl.node.settled) hl.node.free hr.node.free,
    unbound_of_isCondition (c.isCondition_joinRead l r)⟩

theorem every_isRestored_joinAll (c : Connective) {es : List Expr}
    (h : ∀ x ∈ es, x.Every IsRestored ∧ x.isCollection = false) :
    (joinAll c.joinRead es).Every IsRestored := by
  cases es with
  | nil => exact ⟨.all, ⟨by simp [IsLegible, operands], trivial, rfl⟩, fun x hx => by cases hx⟩
  | cons e es =>
    obtain ⟨he, hc⟩ := h e (List.mem_cons_self ..)
    have hes := fun x hx => h x (List.mem_cons_of_mem e hx)
    clear h
    rw [joinAll]
    induction es generalizing e with
    | nil => exact he
    | cons x es ih =>
      obtain ⟨hx, hxc⟩ := hes x (List.mem_cons_self ..)
      exact ih (c.joinRead e x) (every_isRestored_joinRead c he hx hc hxc)
        (isCollection_of_isCondition (c.isCondition_joinRead e x))
        fun y hy => hes y (List.mem_cons_of_mem x hy)

theorem columnField?_of_settled {e : Expr} (h : e.IsSettled none) : e.columnField? = none := by
  cases e with
  | column c =>
    have hname : Expr.column (.ofName c.name) = .column c := Except.ok.inj h
    rw [← hname, columnField?, Column.ofName]
    split
    · split
      · rfl
      · rfl
    · rfl
  | _ => rfl

theorem compareOperands_of_none {op : CompareOp} {l r : Expr} (hf : l.columnField? = none)
    (hnull : (∃ c, l = .column c) → r.isNullLiteral = false)
    (hone : ¬(op = .equal ∧ l.isOne = true ∧ r.isOne = true)) :
    compareOperands op l r = .ok (.compare op l r) := by
  refine compareOperands_eq_ok_iff.2 ⟨hone, hnull, ?_⟩
  rw [hf]
  exact coerceOperand_none op.text r

/-- What holds of literals alone and of what is left of a tree holds of what stands in the tree
between nothing but brackets. -/
theorem stripped_of_bare {p : Expr → Bool} (hp : ∀ x : Expr, x.literal? = none → p x = false)
    {e : Expr} (h : e.Every IsApt) (hb : p e.bare = true) : p e.stripped = true := by
  cases hl : e.bare.literal? with
  | none =>
    rw [hp e.bare hl] at hb
    cases hb
  | some l => rwa [stripped_eq_of_bare h (.inl ⟨l, eq_of_literal? hl⟩) rfl]

/-- A comparison that survives is made of its operands when they are bare. -/
theorem compareOperands_bare {op : CompareOp} (hop : op ≠ .like) {l r : Expr}
    (h : (compare op l r).Survives) (hl : l.Every IsApt) (hr : r.Every IsApt)
    (hfield : l.bare.columnField? = none) :
    compareOperands op l.bare r.bare = .ok (.compare op l.bare r.bare) := by
  obtain ⟨-, hnull, hone⟩ := h
  refine compareOperands_of_none hfield ?_ ?_
  · rintro ⟨c, hc⟩
    rw [Bool.eq_false_iff]
    intro hn
    exact hnull hop ⟨⟨c, stripped_eq_of_bare hl (.inr ⟨c, rfl⟩) hc⟩,
      stripped_of_bare (fun _ => isNullLiteral_of_literal?) hr hn⟩
  · rintro ⟨heq, h₁, h₂⟩
    exact hone ⟨heq, stripped_of_bare (fun _ => isOne_of_literal?) hl h₁,
      stripped_of_bare (fun _ => isOne_of_literal?) hr h₂⟩

/-- A node whose operands are read as themselves when they are bare is read as itself then. -/
theorem isSettled_mapOperands {e : Expr} (hp : ∀ x, e ≠ .paren x)
    (hjunction : e.isJunction = false) (h : e.Survives) (hapt : ∀ x ∈ e.operands, x.Every IsApt)
    (hr : ∀ x ∈ e.operands, x.bare.Every IsRestored) :
    (e.mapOperands bare).IsSettled none := by
  have hfree : ∀ x ∈ (e.mapOperands bare).operands, x.unbound = x := by
    intro x hx
    rw [operands_mapOperands] at hx
    obtain ⟨y, hy, rfl⟩ := List.mem_map.1 hx
    exact (hr y hy).node.free
  have hcoerce : ∀ x ∈ (e.mapOperands bare).operands, ∀ op,
      coerceOperand none op x.unbound = .ok x := by
    intro x hx op
    rw [hfree x hx, coerceOperand_none]
  cases e with
  | literal | collection | all => trivial
  | column c =>
    obtain ⟨hfield, hname⟩ := h
    refine congrArg (Except.ok ∘ column) ?_
    rw [Column.ofName_of_not_wrapped hname, ← hfield]
  | paren x => exact absurd rfl (hp x)
  | and | or => cases hjunction
  | call f es =>
    refine ⟨?_, hfree⟩
    rw [List.length_map]
    exact h.1
  | cast | arithmetic | not | isNull | isNotNull => exact hfree
  | between e low high =>
    obtain ⟨⟨c, hc⟩, -⟩ := h
    have hbare : e.bare = .column c := by rw [← bare_stripped, hc, bare]
    have hsettled := (hr e (by simp [operands])).node.settled
    rw [hbare] at hsettled
    have hfield : c.field = none := columnField?_of_settled hsettled
    refine ⟨c, hbare, ?_, ?_⟩
    · rw [hfield]
      exact hcoerce low.bare (by simp [operands, mapOperands]) "BETWEEN"
    · rw [hfield]
      exact hcoerce high.bare (by simp [operands, mapOperands]) "BETWEEN"
  | isIn e values =>
    refine ⟨hfree e.bare (by simp [operands, mapOperands]), fun x hx => ?_⟩
    have hitem := (hr values (by simp [operands])).operand hx
    rw [columnField?_of_settled (hr e (by simp [operands])).node.settled, hitem.node.free,
      coerceOperand_none]
  | compare op l r =>
    have hl := hfree l.bare (by simp [operands, mapOperands])
    have hr' := hfree r.bare (by simp [operands, mapOperands])
    by_cases hop : op = .like
    · subst hop
      exact ⟨hl, hr'⟩
    · have hcompare := compareOperands_bare hop h (hapt l (by simp [operands]))
        (hapt r (by simp [operands]))
        (columnField?_of_settled (hr l (by simp [operands])).node.settled)
      cases op with
      | like => exact absurd rfl hop
      | _ =>
        refine ⟨hl, ?_⟩
        rw [hr']
        exact hcompare

theorem unbound_mapOperands {e : Expr} (h : e.Survives) :
    (e.mapOperands bare).unbound = e.mapOperands bare := by
  cases e with
  | literal l =>
    obtain ⟨v, display, field⟩ := l
    obtain ⟨rfl, rfl, hv⟩ := h
    exact congrArg ofValue (Value.reread_of_stable hv)
  | _ => rfl

/-- Every part of what is left of a surviving tree is read as itself. -/
theorem every_isRestored_bare {e : Expr} (h : e.Every Survives) : e.bare.Every IsRestored := by
  induction h with
  | intro e hs hparts ih =>
    have hapt : ∀ x ∈ e.operands, x.Every IsApt :=
      fun x hx => (hparts x hx).imp fun _ => isApt_of_survives
    have hjoined : ∀ (c : Connective) es, e = c.node es → (c.node es).bare.Every IsRestored := by
      rintro c es rfl
      rw [c.operands_node] at hapt ih
      rw [bare_node]
      refine every_isRestored_joinAll c fun x hx => ?_
      obtain ⟨y, hy, rfl⟩ := List.mem_map.1 hx
      have hcondition := (survives_node c).1 hs y hy
      exact ⟨ih y hy, isCollection_of_isCondition (isCondition_bare (hapt y hy) hcondition)⟩
    have hnode : (∀ x, e ≠ .paren x) → e.isJunction = false → e.bare.Every IsRestored := by
      intro hp hjunction
      rw [bare_eq_mapOperands hjunction hp]
      refine ⟨_, ⟨?_, isSettled_mapOperands hp hjunction hs hapt ih, unbound_mapOperands hs⟩, ?_⟩
      · exact isLegible_mapOperands (fun x hx => isCollection_bare (hparts x hx))
          (isLegible_of_survives hs)
      · intro x hx
        rw [operands_mapOperands] at hx
        obtain ⟨y, hy, rfl⟩ := List.mem_map.1 hx
        exact ih y hy
    cases e with
    | and es => exact hjoined .and es rfl
    | or es => exact hjoined .or es rfl
    | paren e => exact ih e (List.mem_singleton_self e)
    | _ => exact hnode (by simp) rfl

/-! ### Reading the text again -/

/-- The text of a surviving tree means the tree made flat and bare. -/
theorem ofClause_text_of_survives {e : Expr} (h : e.Every Survives) (hc : e.isCollection = false) :
    ofClause none e.text = .ok e.flatten.bare := by
  have hflat := survives_flatten h
  have hlegible : e.flatten.Every IsLegible := hflat.imp fun _ => isLegible_of_survives
  have hc' : e.flatten.isCollection = false := (isCollection_flatten e).trans hc
  have hbare := every_isRestored_bare hflat
  have hmeant :=
    isMeant_of_settled (hbare.imp fun _ h => h.legible) (hbare.imp fun _ h => h.settled)
  have htext : e.text = e.flatten.text := (write_flatten _ e).symm
  rw [htext, ofClause_text none hlegible (every_isFlat_flatten e) hc', ← reading_bare]
  have hresult := (isMeant_iff ((isCollection_bare hflat).trans hc')).1 hmeant
  rwa [hbare.node.free] at hresult

/-- The text of a surviving tree can be read without a definition, and what is read has the same
parameters and is true of the same records. -/
theorem text_keeps_meaning {e : Expr} (h : e.Every Survives) (hc : e.isCollection = false) :
    ∃ e', ofClause none e.text = .ok e' ∧ e'.parameters = e.parameters ∧
      ∀ r, e'.test r = e.test r := by
  refine ⟨e.flatten.bare, ofClause_text_of_survives h hc, ?_, fun r => ?_⟩
  · rw [parameters_eq, parameters_eq, literals_bare, literals_flatten]
  · have hapt := (survives_flatten h).imp fun _ => isApt_of_survives
    rw [test, test, evaluate_bare r hapt, evaluate_flatten]

/-- An AND inside an AND, an OR of one condition, a cast, a list and a number below zero. -/
theorem text_keeps_meaning_nested :
    let negative : Expr := .ofValue (.integer .int ⟨-3, by decide⟩)
    let less : Expr := .compare .less (.column ⟨"a b", none⟩) negative
    let missing : Expr := .not (.paren (.isNull (.column ⟨"c", none⟩)))
    let listed : Expr := .isIn (.cast (.column ⟨"d", none⟩) "decimal(10,2)")
      (.collection [.ofValue (.string "it's"), .ofValue .null])
    let e : Expr := .and [.and [less, missing], .or [listed]]
    e.Every Survives ∧ e.isCollection = false ∧
      ∃ e', ofClause none e.text = .ok e' ∧ e'.parameters = e.parameters ∧
        ∀ r, e'.test r = e.test r := by
  intro negative less missing listed e
  have hcolumn : ∀ name : String, ¬Column.IsWrapped name →
      (Expr.column ⟨name, none⟩).Every Survives := fun name h => .leaf ⟨rfl, h⟩ rfl
  have hvalue : ∀ v : Value, v.IsStable → (ofValue v).Every Survives :=
    fun v h => .leaf ⟨rfl, rfl, h⟩ rfl
  have hless : less.Every Survives := by
    have hnegative : negative.Every Survives := hvalue _ (show (-3 : Int) ≠ -pow2 31 by decide)
    refine .two ⟨⟨rfl, rfl⟩, fun _ h => ?_, fun h => ?_⟩ rfl (hcolumn "a b" (by decide)) hnegative
    · exact absurd h.2 (by decide)
    · exact absurd h.1 (by decide)
  have hmissing : missing.Every Survives := by
    have hnull : (Expr.isNull (.column ⟨"c", none⟩)).Every Survives :=
      .one rfl rfl (hcolumn "c" (by decide))
    exact .one rfl rfl (.one rfl rfl hnull)
  have htype : Sql.IsTypeName "decimal(10,2)" := by
    refine ⟨"decimal", [], ["10", "2"], ?_, ?_, rfl⟩
    · intro w hw
      rw [List.mem_singleton.1 hw]
      exact ⟨by decide, by decide⟩
    · intro d hd
      rcases List.mem_pair.1 hd with rfl | rfl
      · exact ⟨['1', '0'], by decide, by decide, .inl rfl⟩
      · exact ⟨['2'], by decide, by decide, .inl rfl⟩
  have hlisted : listed.Every Survives := by
    have hcast : (Expr.cast (.column ⟨"d", none⟩) "decimal(10,2)").Every Survives :=
      .one ⟨rfl, htype⟩ rfl (hcolumn "d" (by decide))
    have hitems : (collection [.ofValue (.string "it's"), .ofValue .null]).Every Survives :=
      .two ⟨by simp, by simp [ofValue, isCollection]⟩ rfl (hvalue _ trivial) (hvalue _ trivial)
    exact .two ⟨rfl, rfl⟩ rfl hcast hitems
  have hpair : ∀ x y : Expr, x.isCondition = true → y.isCondition = true →
      ∀ z ∈ [x, y], z.isCondition = true := by
    intro x y hx hy
    simp [hx, hy]
  have hboth : (Expr.and [less, missing]).Every Survives :=
    .two (hpair less missing rfl rfl) rfl hless hmissing
  have hchoice : (Expr.or [listed]).Every Survives :=
    .one (List.forall_mem_singleton.2 rfl) rfl hlisted
  have he : e.Every Survives := .two (hpair _ _ rfl rfl) rfl hboth hchoice
  exact ⟨he, rfl, text_keeps_meaning he rfl⟩

end Expr

end TypedFilter
