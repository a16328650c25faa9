import TypedFilter.Expr.Basic

/-!
Induction over trees. A property of every part of a tree is given for one node and its operands, and
proofs follow the operands in the same way.
-/

namespace TypedFilter.Expr

theorem sizeOf_lt_of_mem_operands {x e : Expr} (h : x ∈ e.operands) : sizeOf x < sizeOf e := by
  cases e with
  | literal | column | all => cases h
  | collection es | call f es | and es | or es =>
    have hlt : sizeOf x < sizeOf es := List.sizeOf_lt_of_mem h
    simp
    omega
  | cast e t | not e | isNull e | isNotNull e | paren e =>
    rw [List.mem_singleton.1 h]
    simp +arith
  | arithmetic op l r | compare op l r | isIn l r =>
    simp only [operands, List.mem_cons, List.not_mem_nil, or_false] at h
    rcases h with rfl | rfl <;> simp +arith
  | between e l r =>
    simp only [operands, List.mem_cons, List.not_mem_nil, or_false] at h
    rcases h with rfl | rfl | rfl <;> simp +arith

/-- What holds of a tree whenever it holds of its operands holds of every tree. -/
theorem induction {motive : Expr → Prop} (h : ∀ e, (∀ x ∈ e.operands, motive x) → motive e)
    (e : Expr) : motive e :=
  h e fun x hx =>
    have := sizeOf_lt_of_mem_operands hx
    induction h x
termination_by sizeOf e

theorem mapOperands_eq_self {change : Expr → Expr} {e : Expr}
    (h : ∀ x ∈ e.operands, change x = x) : e.mapOperands change = e := by
  cases e with
  | literal | column | all => rfl
  | collection es | call f es | and es | or es =>
    have hmap : es.map change = es := (List.map_congr_left h).trans (List.map_id es)
    rw [mapOperands, hmap]
  | _ =>
    simp only [operands, List.mem_cons, List.not_mem_nil, or_false, forall_eq_or_imp,
      forall_eq] at h
    simp [mapOperands, h]

/-- The property holds of the tree and of every part of it. -/
inductive Every (p : Expr → Prop) : Expr → Prop
  | intro (e : Expr) (node : p e) (operands : ∀ x ∈ e.operands, Every p x) : Every p e

namespace Every

variable {p q : Expr → Prop} {e x : Expr}

theorem node (h : Every p e) : p e := by
  cases h with
  | intro _ hp _ => exact hp

theorem operand (h : Every p e) (hx : x ∈ e.operands) : Every p x := by
  cases h with
  | intro _ _ ho => exact ho x hx

theorem ofForall (h : ∀ e, p e) (e : Expr) : Every p e := by
  induction e using Expr.induction with
  | h e ih => exact ⟨e, h e, ih⟩

theorem imp (hpq : ∀ e, p e → q e) (h : Every p e) : Every q e := by
  induction h with
  | intro e hp _ ih => exact ⟨e, hpq e hp, ih⟩

theorem and (hp : Every p e) (hq : Every q e) : Every (fun e => p e ∧ q e) e := by
  induction hp with
  | intro e hp _ ih => exact ⟨e, ⟨hp, hq.node⟩, fun x hx => ih x hx (hq.operand hx)⟩

theorem leaf (hp : p e) (h : e.operands = []) : Every p e :=
  ⟨e, hp, by simp [h]⟩

theorem one {x : Expr} (hp : p e) (h : e.operands = [x]) (hx : Every p x) : Every p e :=
  ⟨e, hp, by simp [h, hx]⟩

theorem two {x y : Expr} (hp : p e) (h : e.operands = [x, y]) (hx : Every p x) (hy : Every p y) :
    Every p e :=
  ⟨e, hp, by simp [h, hx, hy]⟩

end Every

end TypedFilter.Expr
