import TypedFilter.Expr.Eval
import TypedFilter.Expr.Literals
import TypedFilter.Proofs.Printing

/-!
Trees in which no AND stands directly inside an AND and no OR inside an OR: the inner conditions
move out to the others. Main statements: a tree made flat in this way has the same text, the same
literals and the same value, and stays legible.
-/

namespace TypedFilter

namespace Expr

/-- The conditions that have to hold together for the tree to hold. -/
def conjuncts : Expr → List Expr
  | .and (e :: es) => e :: es
  | e => [e]

/-- The conditions of which one has to hold for the tree to hold. -/
def disjuncts : Expr → List Expr
  | .or (e :: es) => e :: es
  | e => [e]

mutual

/-- The tree without an AND directly inside an AND or an OR inside an OR. -/
def flatten : Expr → Expr
  | .literal l => .literal l
  | .column c => .column c
  | .collection es => .collection (flattenAll es)
  | .cast e type => .cast (flatten e) type
  | .arithmetic op l r => .arithmetic op (flatten l) (flatten r)
  | .call f es => .call f (flattenAll es)
  | .all => .all
  | .and es => .and ((flattenAll es).flatMap conjuncts)
  | .or es => .or ((flattenAll es).flatMap disjuncts)
  | .not e => .not (flatten e)
  | .between e low high => .between (flatten e) (flatten low) (flatten high)
  | .isIn e values => .isIn (flatten e) (flatten values)
  | .isNull e => .isNull (flatten e)
  | .isNotNull e => .isNotNull (flatten e)
  | .compare op l r => .compare op (flatten l) (flatten r)
  | .paren e => .paren (flatten e)

/-- Trees made flat one by one. -/
def flattenAll : List Expr → List Expr
  | [] => []
  | e :: es => flatten e :: flattenAll es

end

theorem flattenAll_eq_map (es : List Expr) : flattenAll es = es.map flatten := by
  induction es with
  | nil => rfl
  | cons e es ih => rw [flattenAll, ih, List.map_cons]

/-! ### Joined conditions -/

end Expr

namespace Connective

variable (c : Connective)

/-- The conditions that the connective joins in a tree; in any other one, the tree itself. -/
def conditions : Connective → Expr → List Expr
  | .and => Expr.conjuncts
  | .or => Expr.disjuncts

theorem conditions_node {es : List Expr} (h : es ≠ []) : c.conditions (c.node es) = es := by
  obtain ⟨e, es, rfl⟩ := List.exists_cons_of_ne_nil h
  cases c <;> rfl

theorem conditions_of_isJoined {e : Expr} (h : c.isJoined e = false) : c.conditions e = [e] := by
  cases c with
  | and =>
    rw [conditions]
    unfold Expr.conjuncts
    split
    · cases h
    · rfl
  | or =>
    rw [conditions]
    unfold Expr.disjuncts
    split
    · cases h
    · rfl

theorem conditions_eq (e : Expr) :
    (c.isJoined e = true ∧ e = c.node (c.conditions e)) ∨
      (c.isJoined e = false ∧ c.conditions e = [e]) := by
  cases h : c.isJoined e with
  | true =>
    obtain ⟨e, es, rfl⟩ := exists_of_isJoined h
    exact .inl ⟨rfl, by rw [c.conditions_node (List.cons_ne_nil e es)]⟩
  | false => exact .inr ⟨rfl, c.conditions_of_isJoined h⟩

theorem conditions_ne_nil (e : Expr) : c.conditions e ≠ [] := by
  rcases c.conditions_eq e with ⟨h, -⟩ | ⟨-, he⟩
  · obtain ⟨e, es, rfl⟩ := exists_of_isJoined h
    rw [c.conditions_node (List.cons_ne_nil e es)]
    exact List.cons_ne_nil e es
  · simp [he]

theorem flatten_node (es : List Expr) :
    (c.node es).flatten = c.node ((es.map Expr.flatten).flatMap c.conditions) := by
  cases c <;> simp [node, Expr.flatten, conditions, Expr.flattenAll_eq_map]

theorem isEmpty_flatMap_conditions (es : List Expr) :
    (es.flatMap c.conditions).isEmpty = es.isEmpty := by
  cases es with
  | nil => rfl
  | cons e es => simp [c.conditions_ne_nil e]

/-- What holds of the tree and of the conditions that are joined in it. -/
theorem forall_mem_conditions {p : Expr → Prop} {e : Expr} (h : p e)
    (hjoined : ∀ es, e = c.node es → ∀ x ∈ es, p x) : ∀ x ∈ c.conditions e, p x := by
  rcases c.conditions_eq e with ⟨-, he⟩ | ⟨-, he⟩
  · exact hjoined _ he
  · rw [he]
    simpa using h

end Connective

namespace Expr

/-! ### Texts -/

theorem intercalate_flatMap (sep : String) {split : Expr → List Expr} {show₁ show₂ : Expr → String}
    (hne : ∀ e, split e ≠ [])
    (h : ∀ e, String.intercalate sep ((split e).map show₁) = show₂ e) (es : List Expr) :
    String.intercalate sep ((es.flatMap split).map show₁) =
      String.intercalate sep (es.map show₂) := by
  induction es with
  | nil => rfl
  | cons e es ih =>
    cases es with
    | nil => simpa using h e
    | cons e' es =>
      have hrest : ((e' :: es).flatMap split).map show₁ ≠ [] := by
        simp [hne e']
      have hfirst : (split e).map show₁ ≠ [] := by
        simp [hne e]
      rw [List.flatMap_cons, List.map_append, String.intercalate_append_of_ne_nil hfirst hrest, ih,
        h, List.map_cons, List.map_cons, List.map_cons, String.intercalate_cons_cons]

variable (shown : Literal → String)

theorem intercalate_conditions (c : Connective) (e : Expr) :
    String.intercalate c.separator
        ((c.conditions e).map fun x => enclosed c.level x (x.write shown)) =
      enclosed c.level e (e.write shown) := by
  rcases c.conditions_eq e with ⟨hc, -⟩ | ⟨-, he⟩
  · obtain ⟨e, es, rfl⟩ := Connective.exists_of_isJoined hc
    rw [c.conditions_node (List.cons_ne_nil e es), enclosed, Connective.precedence_node,
      Connective.write_node, ← writeAll_eq_map]
    simp
  · rw [he, List.map_singleton, String.intercalate_singleton]

theorem precedence_flatten (e : Expr) : e.flatten.precedence = e.precedence := by
  cases h : e.isJunction with
  | true =>
    obtain ⟨c, es, rfl⟩ := Connective.exists_of_isJunction h
    rw [c.flatten_node, c.precedence_node, c.precedence_node, c.isEmpty_flatMap_conditions,
      List.isEmpty_map]
  | false =>
    cases e with
    | and | or => cases h
    | _ => rfl

theorem enclosed_flatten (least : Nat) (e : Expr) (s : String) :
    enclosed least e.flatten s = enclosed least e s := by
  rw [enclosed, enclosed, precedence_flatten]

/-- A tree made flat has the same text. -/
theorem write_flatten (e : Expr) : e.flatten.write shown = e.write shown := by
  induction e using Expr.induction with
  | h e ih =>
    have hnode : ∀ (c : Connective) es, (∀ x ∈ es, x.flatten.write shown = x.write shown) →
        (c.node es).flatten.write shown = (c.node es).write shown := by
      intro c es h
      rw [c.flatten_node, c.write_node, c.write_node, c.isEmpty_flatMap_conditions,
        List.isEmpty_map, writeAll_eq_map, writeAll_eq_map,
        intercalate_flatMap _ c.conditions_ne_nil (intercalate_conditions shown c), List.map_map]
      congr 2
      refine List.map_congr_left fun x hx => ?_
      rw [Function.comp_apply, enclosed_flatten, h x hx]
    have hall : ∀ least es, (∀ x ∈ es, x.flatten.write shown = x.write shown) →
        writeAll shown least (flattenAll es) = writeAll shown least es := by
      intro least es h
      rw [writeAll_eq_map, writeAll_eq_map, flattenAll_eq_map, List.map_map]
      refine List.map_congr_left fun x hx => ?_
      rw [Function.comp_apply, enclosed_flatten, h x hx]
    cases e with
    | literal | column | all => rfl
    | collection es => rw [flatten, write, write, hall 0 es ih]
    | call f es => rw [flatten, write, write, hall 0 es ih]
    | and es => exact hnode .and es ih
    | or es => exact hnode .or es ih
    | cast e t | not e | isNull e | isNotNull e | paren e =>
      have he := ih e (List.mem_singleton_self e)
      simp only [flatten, write, enclosed_flatten, he]
    | arithmetic op l r | compare op l r | isIn l r =>
      have hl := ih l (by simp [operands])
      have hr := ih r (by simp [operands])
      simp only [flatten, write, enclosed_flatten, hl, hr]
    | between e l r =>
      have he := ih e (by simp [operands])
      have hl := ih l (by simp [operands])
      have hr := ih r (by simp [operands])
      simp only [flatten, write, enclosed_flatten, he, hl, hr]

/-! ### Literals and values -/

theorem literalsOf_eq_flatMap (es : List Expr) : literalsOf es = es.flatMap literals := by
  induction es with
  | nil => rfl
  | cons e es ih => rw [literalsOf, ih, List.flatMap_cons]

theorem literals_node (c : Connective) (es : List Expr) :
    (c.node es).literals = es.flatMap literals := by
  cases c <;> exact literalsOf_eq_flatMap es

theorem flatten_eq_mapOperands {e : Expr} (h : e.isJunction = false) :
    e.flatten = e.mapOperands flatten := by
  cases e with
  | and | or => cases h
  | _ => simp [flatten, mapOperands, flattenAll_eq_map]

/-- What is collected from the parts of a tree in order is the same when the tree is made flat. -/
theorem collect_flatten {α : Type} {collect : Expr → List α}
    (hjoined : ∀ (c : Connective) es, collect (c.node es) = es.flatMap collect)
    (hnode : ∀ e : Expr, (∀ x ∈ e.operands, collect x.flatten = collect x) →
      collect (e.mapOperands flatten) = collect e) (e : Expr) :
    collect e.flatten = collect e := by
  have hconditions : ∀ (c : Connective) e, (c.conditions e).flatMap collect = collect e := by
    intro c e
    rcases c.conditions_eq e with ⟨-, he⟩ | ⟨-, he⟩
    · rw [← hjoined, ← he]
    · rw [he, List.flatMap_singleton]
  induction e using Expr.induction with
  | h e ih =>
    cases h : e.isJunction with
    | true =>
      obtain ⟨c, es, rfl⟩ := Connective.exists_of_isJunction h
      rw [c.operands_node] at ih
      rw [c.flatten_node, hjoined, hjoined, List.flatMap_assoc, List.flatMap_map]
      exact List.flatMap_congr fun x hx => (hconditions c x.flatten).trans (ih x hx)
    | false =>
      rw [flatten_eq_mapOperands h]
      exact hnode e ih

theorem literals_mapOperands {change : Expr → Expr} {e : Expr}
    (h : ∀ x ∈ e.operands, (change x).literals = x.literals) :
    (e.mapOperands change).literals = e.literals := by
  cases e with
  | literal | column | all => rfl
  | collection es | call f es | and es | or es =>
    rw [mapOperands, literals, literals, literalsOf_eq_flatMap, literalsOf_eq_flatMap,
      List.flatMap_map]
    exact List.flatMap_congr h
  | _ =>
    simp only [operands, List.mem_cons, List.not_mem_nil, or_false, forall_eq_or_imp,
      forall_eq] at h
    simp [mapOperands, literals, h]

/-- A tree made flat has the same literals in the same order. -/
theorem literals_flatten (e : Expr) : e.flatten.literals = e.literals :=
  collect_flatten literals_node (fun _ h => literals_mapOperands h) e

theorem evaluateAll_eq_map (r : Record) (es : List Expr) :
    evaluateAll r es = es.map (evaluate r) := by
  induction es with
  | nil => rfl
  | cons e es ih => rw [evaluateAll, ih, List.map_cons]

theorem evaluate_node (c : Connective) (r : Record) (es : List Expr) :
    (c.node es).evaluate r = .boolean (c.holds (es.map (·.test r))) := by
  cases c with
  | and =>
    rw [Connective.node, evaluate, evaluateAll_eq_map, Connective.holds, List.all_map, List.all_map]
    rfl
  | or =>
    rw [Connective.node, evaluate, evaluateAll_eq_map, Connective.holds, List.any_map, List.any_map,
      List.isEmpty_map]
    rfl

theorem test_node (c : Connective) (r : Record) (es : List Expr) :
    (c.node es).test r = c.holds (es.map (·.test r)) := by
  rw [test, evaluate_node, Value.isTrue]

theorem holds_conditions (c : Connective) (r : Record) (e : Expr) :
    c.holds ((c.conditions e).map (·.test r)) = e.test r := by
  rcases c.conditions_eq e with ⟨-, he⟩ | ⟨-, he⟩
  · rw [← test_node, ← he]
  · rw [he, List.map_singleton, Connective.holds_singleton]

/-- A tree made flat has the same value. -/
theorem evaluate_flatten (r : Record) (e : Expr) : e.flatten.evaluate r = e.evaluate r := by
  induction e using Expr.induction with
  | h e ih =>
    have hall : ∀ es, (∀ x ∈ es, x.flatten.evaluate r = x.evaluate r) →
        evaluateAll r (flattenAll es) = evaluateAll r es := by
      intro es h
      rw [evaluateAll_eq_map, evaluateAll_eq_map, flattenAll_eq_map, List.map_map]
      exact List.map_congr_left h
    have hnode : ∀ (c : Connective) es, (∀ x ∈ es, x.flatten.evaluate r = x.evaluate r) →
        (c.node es).flatten.evaluate r = (c.node es).evaluate r := by
      intro c es h
      have hne : ∀ x : Expr, (c.conditions x).map (·.test r) ≠ [] := fun x => by
        simp [c.conditions_ne_nil x]
      rw [c.flatten_node, evaluate_node, evaluate_node, List.map_flatMap, c.holds_flatMap hne,
        List.map_map]
      congr 2
      refine List.map_congr_left fun x hx => ?_
      rw [Function.comp_apply, holds_conditions, test, h x hx, test]
    cases e with
    | literal | column | all => rfl
    | collection es | call f es => rw [flatten, evaluate, evaluate, hall es ih]
    | and es => exact hnode .and es ih
    | or es => exact hnode .or es ih
    | cast e t | not e | isNull e | isNotNull e | paren e =>
      have he := ih e (List.mem_singleton_self e)
      simp only [flatten, evaluate, he]
    | arithmetic op l r | compare op l r | isIn l r =>
      have hl := ih l (by simp [operands])
      have hr := ih r (by simp [operands])
      simp only [flatten, evaluate, hl, hr]
    | between e l r =>
      have he := ih e (by simp [operands])
      have hl := ih l (by simp [operands])
      have hr := ih r (by simp [operands])
      simp only [flatten, evaluate, he, hl, hr]

/-! ### Parts -/

theorem isCollection_flatten (e : Expr) : e.flatten.isCollection = e.isCollection := by
  cases e <;> rfl

variable {p q : Expr → Prop} {e : Expr}

theorem Every.conditions (c : Connective) (h : e.Every p) : ∀ x ∈ c.conditions e, x.Every p := by
  refine c.forall_mem_conditions h ?_
  rintro es rfl x hx
  exact h.operand (by rwa [c.operands_node])

/-- What every part of the tree made flat has, if nodes whose operands are made flat have it, and so
do ANDs and ORs whose conditions are joined with others. -/
theorem Every.flatten
    (hnode : ∀ e : Expr, e.isJunction = false → p e → q (e.mapOperands Expr.flatten))
    (hjoined : ∀ (c : Connective) es, (∀ x ∈ es, q x.flatten) → p (c.node es) →
      q (c.node ((es.map Expr.flatten).flatMap c.conditions)))
    (h : e.Every p) : e.flatten.Every q := by
  induction h with
  | intro e hp _ ih =>
    cases hjunction : e.isJunction with
    | true =>
      obtain ⟨c, es, rfl⟩ := Connective.exists_of_isJunction hjunction
      rw [c.operands_node] at ih
      rw [c.flatten_node]
      refine ⟨_, hjoined c es (fun x hx => (ih x hx).node) hp, fun y hy => ?_⟩
      rw [c.operands_node] at hy
      obtain ⟨z, hz, hy⟩ := List.mem_flatMap.1 hy
      obtain ⟨x, hx, rfl⟩ := List.mem_map.1 hz
      exact (ih x hx).conditions c y hy
    | false =>
      rw [flatten_eq_mapOperands hjunction]
      refine ⟨_, hnode e hjunction hp, fun y hy => ?_⟩
      rw [operands_mapOperands] at hy
      obtain ⟨x, hx, rfl⟩ := List.mem_map.1 hy
      exact ih x hx

/-- What all conditions of a node have after it is made flat, if all conditions that are joined in
the ones that it had before have it. -/
theorem forall_mem_flattened {c : Connective} {es : List Expr}
    (h : ∀ x ∈ es, ∀ y ∈ c.conditions x.flatten, p y) :
    ∀ y ∈ (es.map Expr.flatten).flatMap c.conditions, p y := by
  intro y hy
  obtain ⟨z, hz, hy⟩ := List.mem_flatMap.1 hy
  obtain ⟨x, hx, rfl⟩ := List.mem_map.1 hz
  exact h x hx y hy

theorem isFlat_mapOperands (change : Expr → Expr) (h : e.isJunction = false) :
    (e.mapOperands change).IsFlat := by
  cases e with
  | and | or => cases h
  | _ => trivial

/-- None of the conditions of a flat tree is joined again. -/
theorem isJoined_conditions (c : Connective) (h : e.IsFlat) :
    ∀ x ∈ c.conditions e, c.isJoined x = false := by
  rcases c.conditions_eq e with ⟨-, he⟩ | ⟨hc, he⟩
  · rw [he] at h
    exact (isFlat_node c).1 h
  · rw [he]
    simpa using hc

/-- The tree made flat is flat in all its parts. -/
theorem every_isFlat_flatten (e : Expr) : e.flatten.Every IsFlat := by
  have htrue : e.Every fun _ => True := .ofForall (fun _ => trivial) e
  refine htrue.flatten (fun e h _ => isFlat_mapOperands Expr.flatten h) fun c es h _ => ?_
  exact (isFlat_node c).2 (forall_mem_flattened fun x hx => isJoined_conditions c (h x hx))

theorem isLegible_mapOperands {change : Expr → Expr}
    (hc : ∀ x ∈ e.operands, (change x).isCollection = x.isCollection) (h : e.IsLegible) :
    (e.mapOperands change).IsLegible := by
  cases e with
  | literal l => exact h
  | cast e type => exact ⟨(hc e (List.mem_singleton_self e)).trans h.1, h.2⟩
  | isIn e values =>
    exact ⟨(hc e (by simp [operands])).trans h.1, (hc values (by simp [operands])).trans h.2⟩
  | call f es | collection es =>
    refine ⟨by simpa using h.1, fun x hx => ?_⟩
    obtain ⟨y, hy, rfl⟩ := List.mem_map.1 hx
    exact (hc y hy).trans (h.2 y hy)
  | column | all => exact h
  | _ =>
    intro x hx
    rw [operands_mapOperands] at hx
    obtain ⟨y, hy, rfl⟩ := List.mem_map.1 hx
    exact (hc y hy).trans (h y hy)

theorem isCollection_conditions (c : Connective) (h : e.IsLegible) (hc : e.isCollection = false) :
    ∀ x ∈ c.conditions e, x.isCollection = false := by
  refine c.forall_mem_conditions hc ?_
  rintro es rfl
  exact (isLegible_node c).1 h

/-- The tree made flat is as legible as the tree. -/
theorem every_isLegible_flatten (h : e.Every IsLegible) : e.flatten.Every IsLegible := by
  refine h.flatten (fun e _ he => ?_) fun c es h hes => ?_
  · exact isLegible_mapOperands (fun x _ => isCollection_flatten x) he
  · rw [isLegible_node] at hes ⊢
    exact forall_mem_flattened fun x hx =>
      isCollection_conditions c (h x hx) ((isCollection_flatten x).trans (hes x hx))

end Expr

end TypedFilter
