import TypedFilter.Expr.Revision
import TypedFilter.Proofs.Binding

/-!
Binding a tree that may be bound already. A node is made anew where a part of it is, where its
column has another field, or where a literal in it is not bound to the column beside it. Main
statement: one pass binds everything, keeps the outline of the tree, and makes nothing anew when it
is done again.
-/

namespace TypedFilter.Expr

variable {d : Definition} {e x : Expr}

/-! ### Outlines -/

mutual

/-- The tree with its columns and literals left blank. -/
def outline : Expr → Expr
  | .literal _ => .literal { value := .null }
  | .column _ => .column { name := "" }
  | .collection es => .collection (outlines es)
  | .cast e type => .cast (outline e) type
  | .arithmetic op l r => .arithmetic op (outline l) (outline r)
  | .call f es => .call f (outlines es)
  | .all => .all
  | .and es => .and (outlines es)
  | .or es => .or (outlines es)
  | .not e => .not (outline e)
  | .between e low high => .between (outline e) (outline low) (outline high)
  | .isIn e values => .isIn (outline e) (outline values)
  | .isNull e => .isNull (outline e)
  | .isNotNull e => .isNotNull (outline e)
  | .compare op l r => .compare op (outline l) (outline r)
  | .paren e => .paren (outline e)

/-- The trees with their columns and literals left blank. -/
def outlines : List Expr → List Expr
  | [] => []
  | e :: es => outline e :: outlines es

end

theorem outlines_eq_map (es : List Expr) : outlines es = es.map outline := by
  induction es with
  | nil => rfl
  | cons e es ih => rw [outlines, ih, List.map_cons]

theorem outline_mapOperands {change : Expr → Expr}
    (h : ∀ x ∈ e.operands, (change x).outline = x.outline) :
    (e.mapOperands change).outline = e.outline := by
  cases e with
  | literal | column | all => rfl
  | collection es | call f es | and es | or es =>
    have hmap : (es.map change).map outline = es.map outline := by
      rw [List.map_map]
      exact List.map_congr_left h
    simp only [mapOperands, outline, outlines_eq_map, hmap]
  | _ =>
    simp only [operands, List.mem_cons, List.not_mem_nil, or_false, forall_eq_or_imp,
      forall_eq] at h
    simp only [mapOperands, outline, h]

mutual

theorem parameterCount_outline (e : Expr) : e.outline.parameterCount = e.parameterCount := by
  cases e <;>
    simp only [outline, parameterCount, parameterCount_outline, parameterCountOf_outlines]

theorem parameterCountOf_outlines (es : List Expr) :
    parameterCountOf (outlines es) = parameterCountOf es := by
  cases es <;>
    simp only [outlines, parameterCountOf, parameterCount_outline, parameterCountOf_outlines]

end

/-- Trees of one outline have equally many literals. -/
theorem parameterCount_eq (h : e.outline = x.outline) : e.parameterCount = x.parameterCount := by
  rw [← parameterCount_outline e, h, parameterCount_outline]

/-! ### One node -/

/-- What binding does at one node, once the parts of the node are bound. -/
def bindNode (d : Definition) : Expr → Expr
  | .column c => .column (c.bind d)
  | .compare op l r => boundCompare op l r
  | .between e low high => boundBetween e low high
  | .isIn e values => boundIn e values
  | e => e

theorem bind_eq (d : Definition) (e : Expr) : e.bind d = (e.mapOperands (bind d)).bindNode d := by
  cases e <;> simp only [bind, bindAll_eq_map, mapOperands, bindNode]

theorem outline_bindLiteral (f : Field) (e : Expr) : (e.bindLiteral f).outline = e.outline := by
  cases e <;> rfl

theorem outline_bindNode (d : Definition) (e : Expr) : (e.bindNode d).outline = e.outline := by
  cases e with
  | compare op l r =>
    simp only [bindNode, boundCompare]
    split
    · rfl
    · rfl
    · simp only [outline, outline_bindLiteral]
  | between e low high =>
    simp only [bindNode, boundBetween]
    split
    · rfl
    · simp only [outline, outline_bindLiteral]
  | isIn e values =>
    simp only [bindNode, boundIn]
    split
    · rfl
    · simp only [outline, outline_mapOperands fun x _ => outline_bindLiteral _ x]
  | _ => rfl

/-- Binding changes columns and literals alone. -/
theorem outline_bind (d : Definition) (e : Expr) : (e.bind d).outline = e.outline := by
  induction e using Expr.induction with
  | h e ih => rw [bind_eq, outline_bindNode, outline_mapOperands ih]

/-! ### Nodes that are made anew -/

/-- Whether a node whose parts are bound is made anew: its column has another field than the one
with its name, or a literal in it is not bound to the column beside it. -/
def IsRenewed (d : Definition) : Expr → Prop
  | .column c => c.field ≠ d.field? c.name
  | .compare op l r => op ≠ .like ∧ ¬r.IsBeside l.columnField?
  | .between e low high => ¬low.IsBeside e.columnField? ∨ ¬high.IsBeside e.columnField?
  | .isIn e values => ∃ x ∈ values.operands, ¬x.IsBeside e.columnField?
  | _ => False

/-- Whether binding makes the tree anew: it does so for a part of it, or for the node itself. -/
inductive IsRebuilt (d : Definition) : Expr → Prop
  | operand {e x : Expr} (hx : x ∈ e.operands) (h : IsRebuilt d x) : IsRebuilt d e
  | node {e : Expr} (h : (e.mapOperands (bind d)).IsRenewed d) : IsRebuilt d e

theorem not_isRenewed (h : e.IsBoundTo d) : ¬e.IsRenewed d := by
  cases e with
  | column c =>
    have hbound : c.IsBoundTo d := h
    rw [Column.IsBoundTo] at hbound
    refine not_not_intro ?_
    cases hf : d.field? c.name with
    | some f =>
      rw [hf] at hbound
      exact congrArg Column.field hbound
    | none =>
      rw [hf] at hbound
      exact hbound
  | compare op l r => exact fun hr => hr.2 (h hr.1)
  | between e low high => exact fun hr => hr.elim (· h.1) (· h.2)
  | isIn e values =>
    rintro ⟨x, hx, hr⟩
    exact hr (h x hx)
  | _ => exact id

/-- Nothing is made anew where nothing is left to bind. -/
theorem not_isRebuilt (h : e.Every (IsBoundTo d)) : ¬e.IsRebuilt d := by
  intro hr
  induction hr with
  | operand hx _ ih => exact ih (h.operand hx)
  | node hnode =>
    rw [mapOperands_eq_self fun x hx => bind_of_isBoundTo (h.operand hx)] at hnode
    exact not_isRenewed h.node hnode

theorem Every.self {p : Expr → Prop} (h : e.Every p) : e.Every fun x => x.Every p := by
  induction h with
  | intro e hp ho ih => exact ⟨e, ⟨e, hp, ho⟩, ih⟩

theorem revision_of_bind_eq (h : e.bind d = e) : Revision.bind d e = .unchanged e := by
  simp [Revision.bind, Revision.unchanged, h]

/-! ### What is kept is unchanged -/

/-- Whether a column with a field is spelled as the field is. -/
def IsSpelled : Expr → Prop
  | .column c => ∀ f ∈ c.field, c.name = f.name
  | _ => True

theorem isRenewed_iff (hs : e.IsSpelled) : e.IsRenewed d ↔ ¬e.IsBoundTo d := by
  refine ⟨fun hr hb => not_isRenewed hb hr, fun hb => ?_⟩
  cases e with
  | column c =>
    refine mt (fun hfield => ?_) hb
    show c.IsBoundTo d
    rw [Column.IsBoundTo, ← hfield]
    cases hf : c.field with
    | none => rfl
    | some f =>
      show c = ⟨f.name, some f⟩
      rw [← (hs f hf : c.name = f.name), ← hf]
  | compare op l r => exact Classical.not_imp.1 hb
  | between e low high => exact not_and_or.1 hb
  | isIn e values =>
    obtain ⟨x, hx⟩ := not_forall.1 hb
    exact ⟨x, Classical.not_imp.1 hx⟩
  | _ => exact hb trivial

/-- Nothing is made anew only where nothing is left to bind. -/
theorem every_of_not_isRebuilt (hs : e.Every IsSpelled) (h : ¬e.IsRebuilt d) :
    e.Every (IsBoundTo d) := by
  induction e using Expr.induction with
  | h e ih =>
    have hops : ∀ x ∈ e.operands, x.Every (IsBoundTo d) :=
      fun x hx => ih x hx (hs.operand hx) fun hr => h (.operand hx hr)
    refine ⟨e, ?_, hops⟩
    by_contra hb
    refine h (.node ?_)
    rwa [mapOperands_eq_self fun x hx => bind_of_isBoundTo (hops x hx), isRenewed_iff hs.node]

theorem isBoundTo_of_bind_eq {c : Column} (h : c.bind d = c) : c.IsBoundTo d := by
  rw [Column.bind] at h
  rw [Column.IsBoundTo]
  cases hf : d.field? c.name with
  | some f =>
    rw [hf] at h
    exact h.symm
  | none =>
    simp only [hf] at h
    split at h
    · rw [← h, Column.field_ofName]
    · exact Option.not_isSome_iff_eq_none.1 ‹_›

theorem isBeside_of_bindLiteral_eq {f : Field} (h : e.bindLiteral f = e) : e.IsBeside (some f) :=
  h ▸ isBeside_bindLiteral f e

theorem eq_self_of_mapOperands {change : Expr → Expr} (h : e.mapOperands change = e) :
    ∀ x ∈ e.operands, change x = x := by
  have hmap := operands_mapOperands change e
  rw [h] at hmap
  exact List.map_inj_left.1 (hmap.symm.trans (List.map_id _).symm)

/-- A node stays as it is only if it leaves nothing to bind. -/
theorem isBoundTo_of_bindNode_eq (h : e.bindNode d = e) : e.IsBoundTo d := by
  cases e with
  | column c => exact isBoundTo_of_bind_eq (Expr.column.inj h)
  | compare op l r =>
    intro hop
    cases hf : l.columnField? with
    | none => exact isBeside_none r
    | some f =>
      simp only [bindNode, boundCompare, hf] at h
      exact isBeside_of_bindLiteral_eq (Expr.compare.inj h).2.2
  | between e low high =>
    cases hf : e.columnField? with
    | none => exact ⟨hf ▸ isBeside_none low, hf ▸ isBeside_none high⟩
    | some f =>
      simp only [bindNode, boundBetween, hf] at h
      obtain ⟨-, hlow, hhigh⟩ := Expr.between.inj h
      exact ⟨hf ▸ isBeside_of_bindLiteral_eq hlow, hf ▸ isBeside_of_bindLiteral_eq hhigh⟩
  | isIn e values =>
    intro x hx
    cases hf : e.columnField? with
    | none => exact isBeside_none x
    | some f =>
      simp only [bindNode, boundIn, hf] at h
      exact isBeside_of_bindLiteral_eq (eq_self_of_mapOperands (Expr.isIn.inj h).2 x hx)
  | _ => trivial

/-- A part that is bound before the literals in it are stays a literal if it was one. -/
theorem bind_eq_of_bindLiteral_eq {f : Field} (h : (e.bind d).bindLiteral f = e) :
    e.bind d = e := by
  cases hb : e.bind d with
  | literal l =>
    have houtline := outline_bind d e
    rw [hb] at houtline
    cases e with
    | literal l' => exact hb.symm
    | _ => cases houtline
  | _ =>
    rw [hb] at h
    exact h

/-- A tree that binding leaves as it is has parts that binding leaves as they are. -/
theorem bind_operand_eq (hs : e.IsSearch) (h : e.bind d = e) :
    ∀ x ∈ e.operands, x.bind d = x := by
  cases e with
  | literal | column | all => exact fun x hx => nomatch hx
  | compare op l r =>
    have hparts : l.bind d = l ∧ r.bind d = r := by
      rw [bind] at h
      unfold boundCompare at h
      split at h
      · exact (Expr.compare.inj h).2
      · exact (Expr.compare.inj h).2
      · exact (Expr.compare.inj h).2.imp_right bind_eq_of_bindLiteral_eq
    simpa [operands] using hparts
  | between e low high =>
    have hparts : e.bind d = e ∧ low.bind d = low ∧ high.bind d = high := by
      rw [bind, boundBetween] at h
      split at h
      · exact Expr.between.inj h
      · exact (Expr.between.inj h).imp_right
          (·.imp bind_eq_of_bindLiteral_eq bind_eq_of_bindLiteral_eq)
    simpa [operands] using hparts
  | isIn e values =>
    have hparts : e.bind d = e ∧ values.bind d = values := by
      obtain ⟨items, rfl⟩ := hs
      rw [bind, boundIn] at h
      split at h
      · exact Expr.isIn.inj h
      · refine (Expr.isIn.inj h).imp_right fun hitems => ?_
        rw [bind, bindAll_eq_map, mapOperands, List.map_map] at hitems
        have hmap := List.map_inj_left.1 ((Expr.collection.inj hitems).trans (List.map_id _).symm)
        rw [bind, bindAll_eq_map]
        exact mapOperands_eq_self (e := .collection items) fun x hx =>
          bind_eq_of_bindLiteral_eq (hmap x hx)
    simpa [operands] using hparts
  | _ =>
    rw [bind_eq] at h
    exact eq_self_of_mapOperands h

/-- Binding keeps a tree where it does not make it anew. -/
theorem kept_bind_iff (hs : e.Every fun x => x.IsSpelled ∧ x.IsSearch) :
    (Revision.bind d e).kept = true ↔ ¬e.IsRebuilt d := by
  refine decide_eq_true_iff.trans ⟨fun h => not_isRebuilt ?_, fun h => ?_⟩
  · induction e using Expr.induction with
    | h e ih =>
      have hops := bind_operand_eq hs.node.2 h
      rw [bind_eq, mapOperands_eq_self hops] at h
      exact ⟨e, isBoundTo_of_bindNode_eq h, fun x hx => ih x hx (hs.operand hx) (hops x hx)⟩
  · exact bind_of_isBoundTo (every_of_not_isRebuilt (hs.imp fun _ hx => hx.1) h)

/-! ### One pass is enough -/

/-- Binding a tree once binds all of it, whatever it was bound to before: columns are the fields of
the definition, and literals are bound to the column beside them. The tree keeps its outline, and
binding it again makes nothing anew. -/
theorem bind_reaches_fixed_point (d : Definition) {e : Expr} (h : e.Every IsBindable) :
    (e.bind d).Every (IsBoundTo d) ∧ (e.bind d).outline = e.outline ∧
      (e.bind d).parameterCount = e.parameterCount ∧
      Revision.bind d (e.bind d) = .unchanged (e.bind d) ∧
      (e.bind d).Every fun x => ¬x.IsRebuilt d := by
  have hbound : (e.bind d).Every (IsBoundTo d) := (every_bind d h).imp fun _ hx => hx.2
  refine ⟨hbound, outline_bind d e, parameterCount_eq (outline_bind d e),
    revision_of_bind_eq (bind_of_isBoundTo hbound), ?_⟩
  exact hbound.self.imp fun _ hx => not_isRebuilt hx

/-- An interval, a search and a comparison that were bound to other fields before: one field has
another type now, and the others are gone. -/
theorem bind_reaches_fixed_point_rebound :
    let name : Field := { Field.ofType "name" .string with index := 1, version := ⟨0, 1⟩ }
    let age : Field := { Field.ofType "AGE" (.integer .int) with version := ⟨1, 0⟩ }
    let people : Definition := .ofFields "/people" 0 [.ofType "Age" .decimal, name]
    let trees : Definition := .ofFields "/trees" 1 [age]
    let text (s : String) : Expr := .ofValue (.string s)
    let read : Expr := .and [
      .between (.ofName "age") (text "1") (text "9"),
      .not (.inList (.ofName "AGE") [text "3", .ofName "size"]),
      .compare .less (.ofName "Name") (text "Ada")]
    let e := read.bind people
    let number (s : String) : Expr := .ofFieldValue age (.string s)
    e.Every IsBindable ∧
      e.bind trees = .and [
        .between (.ofField age) (number "1") (number "9"),
        .not (.inList (.ofField age) [number "3", .ofName "size"]),
        .compare .less (.ofName "name") (.ofFieldValue name (.string "Ada"))] ∧
      (e.bind trees).Every (IsBoundTo trees) ∧ (e.bind trees).parameterCount = 4 ∧
      Revision.bind trees (e.bind trees) = .unchanged (e.bind trees) ∧
      (Revision.bind trees e).kept = false := by
  intro name age people trees text read e number
  have hcolumn (s : String) (hs : ¬Column.IsWrapped (Column.ofName s).name) :
      (ofName s).Every IsBindable := .leaf ⟨hs, trivial⟩ rfl
  have htext (s : String) : (text s).Every IsBindable := .leaf ⟨trivial, trivial⟩ rfl
  have hbetween : (between (ofName "age") (text "1") (text "9")).Every IsBindable :=
    ⟨_, ⟨trivial, trivial⟩, by simp [operands, hcolumn "age" (by decide), htext]⟩
  have hin : (inList (ofName "AGE") [text "3", ofName "size"]).Every IsBindable :=
    .two ⟨trivial, _, rfl⟩ rfl (hcolumn "AGE" (by decide))
      (.two ⟨trivial, trivial⟩ rfl (htext "3") (hcolumn "size" (by decide)))
  have hnot : (Expr.not (inList (ofName "AGE") [text "3", ofName "size"])).Every IsBindable :=
    .one ⟨trivial, trivial⟩ rfl hin
  have hless : (compare .less (ofName "Name") (text "Ada")).Every IsBindable :=
    .two ⟨trivial, trivial⟩ rfl (hcolumn "Name" (by decide)) (htext "Ada")
  have hread : read.Every IsBindable :=
    ⟨_, ⟨trivial, trivial⟩, by simp [read, operands, hbetween, hnot, hless]⟩
  have he : e.Every IsBindable := (every_bind people hread).imp fun _ hx => hx.1
  obtain ⟨hbound, -, hcount, hrevision, -⟩ := bind_reaches_fixed_point trees he
  exact ⟨he, by decide +kernel, hbound, hcount.trans (by decide +kernel), hrevision,
    by decide +kernel⟩

end TypedFilter.Expr
