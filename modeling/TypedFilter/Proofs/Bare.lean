import TypedFilter.Proofs.Meaning

/-!
Trees without what their text does not need: brackets around operands, AND and OR of a single
condition or of none. Main statements: a tree made bare is read as the same expression, has the same
literals and, if it joins nothing but conditions, the same value.
-/

namespace TypedFilter.Expr

/-- Conditions joined from the left; without any, the condition that is always true. -/
def joinAll (join : Expr → Expr → Expr) : List Expr → Expr
  | [] => .all
  | e :: es => es.foldl join e

mutual

/-- The tree without brackets and with its conditions joined as text is. -/
def bare : Expr → Expr
  | .literal l => .literal l
  | .column c => .column c
  | .collection es => .collection (bareAll es)
  | .cast e type => .cast (bare e) type
  | .arithmetic op l r => .arithmetic op (bare l) (bare r)
  | .call f es => .call f (bareAll es)
  | .all => .all
  | .and es => joinAll joinAnd (bareAll es)
  | .or es => joinAll joinOr (bareAll es)
  | .not e => .not (bare e)
  | .between e low high => .between (bare e) (bare low) (bare high)
  | .isIn e values => .isIn (bare e) (bare values)
  | .isNull e => .isNull (bare e)
  | .isNotNull e => .isNotNull (bare e)
  | .compare op l r => .compare op (bare l) (bare r)
  | .paren e => bare e

/-- Trees made bare one by one. -/
def bareAll : List Expr → List Expr
  | [] => []
  | e :: es => bare e :: bareAll es

end

/-- The tree without the brackets around it. -/
def stripped : Expr → Expr
  | .paren e => stripped e
  | e => e

/-- Whether AND and OR join nothing but conditions, and a function has its number of arguments. -/
def IsApt : Expr → Prop
  | .call f es => es.length = f.arity
  | .and es | .or es => ∀ x ∈ es, x.isCondition = true
  | _ => True

theorem bareAll_eq_map (es : List Expr) : bareAll es = es.map bare := by
  induction es with
  | nil => rfl
  | cons e es ih => rw [bareAll, ih, List.map_cons]

theorem bare_node (c : Connective) (es : List Expr) :
    (c.node es).bare = joinAll c.joinRead (es.map bare) := by
  rw [← bareAll_eq_map]
  cases c <;> rfl

/-! ### Joined conditions -/

theorem reading_joinRead (c : Connective) (l r : Expr) :
    (c.joinRead l r).reading = .binary c.binary l.reading r.reading := by
  rcases c.joinRead_eq l r with ⟨e, es, rfl, h⟩ | h
  · rw [h, reading_node, reading_node, readingAll_eq_map, readingAll_eq_map]
    simp [chainReading]
  · rw [h, reading_node]
    rfl

theorem reading_joinAll (c : Connective) (es : List Expr) :
    (joinAll c.joinRead es).reading = chainReading c.binary (es.map reading) := by
  cases es with
  | nil => rfl
  | cons e es =>
    rw [joinAll, List.map_cons, chainReading]
    induction es generalizing e with
    | nil => rfl
    | cons x es ih =>
      rw [List.foldl_cons, ih, reading_joinRead, List.map_cons, List.foldl_cons]

theorem literals_joinRead (c : Connective) (l r : Expr) :
    (c.joinRead l r).literals = l.literals ++ r.literals := by
  rcases c.joinRead_eq l r with ⟨e, es, rfl, h⟩ | h
  · simp [h, literals_node]
  · simp [h, literals_node]

theorem literals_joinAll (c : Connective) (es : List Expr) :
    (joinAll c.joinRead es).literals = es.flatMap literals := by
  cases es with
  | nil => rfl
  | cons e es =>
    rw [joinAll, List.flatMap_cons]
    induction es generalizing e with
    | nil => simp
    | cons x es ih =>
      rw [List.foldl_cons, ih, literals_joinRead, List.flatMap_cons, List.append_assoc]

/-! ### The same text and the same literals -/

/-- A tree made bare is read as the same expression. -/
theorem reading_bare (e : Expr) : e.bare.reading = e.reading := by
  induction e using Expr.induction with
  | h e ih =>
    have hall : ∀ es, (∀ x ∈ es, x.bare.reading = x.reading) →
        readingAll (bareAll es) = readingAll es := by
      intro es h
      rw [readingAll_eq_map, readingAll_eq_map, bareAll_eq_map, List.map_map]
      exact List.map_congr_left h
    have hnode : ∀ (c : Connective) es, (∀ x ∈ es, x.bare.reading = x.reading) →
        (c.node es).bare.reading = (c.node es).reading := by
      intro c es h
      rw [bare_node, reading_joinAll, reading_node, ← bareAll_eq_map, ← readingAll_eq_map,
        hall es h]
    cases e with
    | literal | column | all => rfl
    | collection es | call f es => rw [bare, reading, reading, hall es ih]
    | and es => exact hnode .and es ih
    | or es => exact hnode .or es ih
    | paren e =>
      rw [bare, reading]
      exact ih e (List.mem_singleton_self e)
    | cast e t | not e | isNull e | isNotNull e =>
      have he := ih e (List.mem_singleton_self e)
      simp only [bare, reading, he]
    | arithmetic op l r | compare op l r | isIn l r =>
      have hl := ih l (by simp [operands])
      have hr := ih r (by simp [operands])
      simp only [bare, reading, hl, hr]
    | between e l r =>
      have he := ih e (by simp [operands])
      have hl := ih l (by simp [operands])
      have hr := ih r (by simp [operands])
      simp only [bare, reading, he, hl, hr]

theorem bare_eq_mapOperands {e : Expr} (hjunction : e.isJunction = false)
    (hp : ∀ x, e ≠ .paren x) : e.bare = e.mapOperands bare := by
  cases e with
  | and | or => cases hjunction
  | paren e => exact absurd rfl (hp e)
  | _ => simp [bare, mapOperands, bareAll_eq_map]

/-- A tree made bare has the same literals in the same order. -/
theorem literals_bare (e : Expr) : e.bare.literals = e.literals := by
  induction e using Expr.induction with
  | h e ih =>
    have hnode : ∀ (c : Connective) es, (∀ x ∈ es, x.bare.literals = x.literals) →
        (c.node es).bare.literals = (c.node es).literals := by
      intro c es h
      rw [bare_node, literals_joinAll, literals_node, List.flatMap_map]
      exact List.flatMap_congr h
    cases e with
    | and es => exact hnode .and es ih
    | or es => exact hnode .or es ih
    | paren e =>
      rw [bare, literals]
      exact ih e (List.mem_singleton_self e)
    | _ =>
      rw [bare_eq_mapOperands rfl (by simp)]
      exact literals_mapOperands ih

/-! ### The same value -/

theorem isApt_node (c : Connective) {es : List Expr} :
    (c.node es).IsApt ↔ ∀ x ∈ es, x.isCondition = true := by
  cases c <;> rfl

variable (r : Record)

/-- Conditions are true or false. -/
theorem exists_evaluate_eq_boolean {e : Expr} (h : e.Every IsApt) (hc : e.isCondition = true) :
    ∃ b, e.evaluate r = .boolean b := by
  induction h with
  | intro e hapt _ ih =>
    cases e with
    | literal | column | collection | cast | arithmetic => cases hc
    | paren e => exact ih e (List.mem_singleton_self e) hc
    | call f es =>
      rw [evaluate, evaluateAll_eq_map]
      cases f with
      | upper | lower => cases hc
      | envelopeIntersects =>
        obtain ⟨a, b, rfl⟩ := List.length_eq_two.1 hapt
        exact ⟨_, rfl⟩
      | withinDistance =>
        obtain ⟨a, b, c, rfl⟩ := List.length_eq_three.1 hapt
        simp only [List.map_cons, List.map_nil, Builtin.apply]
        split
        · exact ⟨_, rfl⟩
        · exact ⟨_, rfl⟩
    | _ => exact ⟨_, rfl⟩

theorem evaluate_joinRead (c : Connective) (l x : Expr) :
    (c.joinRead l x).evaluate r = .boolean (c.apply (l.test r) (x.test r)) := by
  rcases c.joinRead_eq l x with ⟨e, es, rfl, h⟩ | h
  · have hconcat := c.holds_concat (List.cons_ne_nil (e.test r) (es.map (·.test r))) (x.test r)
    rw [h, evaluate_node, test_node, List.map_cons, List.map_append, List.map_singleton,
      List.map_cons, ← hconcat]
    rfl
  · rw [h, evaluate_node, List.map_cons, List.map_singleton, c.holds_cons_cons, c.holds_singleton]

theorem evaluate_foldl_joinRead (c : Connective) {e : Expr} {b : Bool}
    (h : e.evaluate r = .boolean b) (es : List Expr) :
    (es.foldl c.joinRead e).evaluate r = .boolean (c.holds (b :: es.map (·.test r))) := by
  induction es generalizing e b with
  | nil => rw [List.foldl_nil, h, List.map_nil, c.holds_singleton]
  | cons x es ih =>
    have hjoin : (c.joinRead e x).evaluate r = .boolean (c.apply b (x.test r)) := by
      rw [evaluate_joinRead, test, h, Value.isTrue]
    rw [List.foldl_cons, ih hjoin, List.map_cons, c.holds_cons_cons]

/-- Conditions that are joined from the left have the value of the node of them. -/
theorem evaluate_joinAll (c : Connective) {es : List Expr}
    (h : ∀ x ∈ es, ∃ b, x.evaluate r = .boolean b) :
    (joinAll c.joinRead es).evaluate r = (c.node es).evaluate r := by
  rw [evaluate_node]
  cases es with
  | nil => cases c <;> rfl
  | cons e es =>
    obtain ⟨b, hb⟩ := h e (List.mem_cons_self ..)
    rw [joinAll, evaluate_foldl_joinRead r c hb, List.map_cons, test, hb, Value.isTrue]

/-- A tree made bare has the same value. -/
theorem evaluate_bare {e : Expr} (h : e.Every IsApt) : e.bare.evaluate r = e.evaluate r := by
  induction h with
  | intro e hapt hparts ih =>
    have hall : ∀ es, (∀ x ∈ es, x.bare.evaluate r = x.evaluate r) →
        evaluateAll r (bareAll es) = evaluateAll r es := by
      intro es h
      rw [evaluateAll_eq_map, evaluateAll_eq_map, bareAll_eq_map, List.map_map]
      exact List.map_congr_left h
    -- What is joined is bare already, so that its value is that of a condition of the tree.
    have hnode : ∀ (c : Connective) es, e = c.node es →
        (c.node es).bare.evaluate r = (c.node es).evaluate r := by
      rintro c es rfl
      rw [c.operands_node] at hparts ih
      have hbool : ∀ x ∈ es.map bare, ∃ b, x.evaluate r = .boolean b := by
        intro x hx
        obtain ⟨y, hy, rfl⟩ := List.mem_map.1 hx
        rw [ih y hy]
        exact exists_evaluate_eq_boolean r (hparts y hy) ((isApt_node c).1 hapt y hy)
      rw [bare_node, evaluate_joinAll r c hbool, evaluate_node, evaluate_node, List.map_map]
      congr 2
      refine List.map_congr_left fun x hx => ?_
      rw [Function.comp_apply, test, ih x hx, test]
    cases e with
    | literal | column | all => rfl
    | collection es | call f es => rw [bare, evaluate, evaluate, hall es ih]
    | and es => exact hnode .and es rfl
    | or es => exact hnode .or es rfl
    | paren e =>
      rw [bare, evaluate]
      exact ih e (List.mem_singleton_self e)
    | cast e t | not e | isNull e | isNotNull e =>
      have he := ih e (List.mem_singleton_self e)
      simp only [bare, evaluate, he]
    | arithmetic op l r | compare op l r | isIn l r =>
      have hl := ih l (by simp [operands])
      have hr := ih r (by simp [operands])
      simp only [bare, evaluate, hl, hr]
    | between e l r =>
      have he := ih e (by simp [operands])
      have hl := ih l (by simp [operands])
      have hr := ih r (by simp [operands])
      simp only [bare, evaluate, he, hl, hr]

/-! ### What is below brackets -/

theorem bare_stripped (e : Expr) : e.stripped.bare = e.bare := by
  induction e using Expr.induction with
  | h e ih =>
    cases e with
    | paren e => exact ih e (List.mem_singleton_self e)
    | _ => rfl

theorem isCondition_joinAll (c : Connective) {es : List Expr}
    (h : ∀ x ∈ es, x.isCondition = true) : (joinAll c.joinRead es).isCondition = true := by
  cases es with
  | nil => rfl
  | cons e es =>
    have he := h e (List.mem_cons_self ..)
    clear h
    rw [joinAll]
    induction es generalizing e with
    | nil => exact he
    | cons x es ih => exact ih (c.joinRead e x) (c.isCondition_joinRead e x)

/-- A condition made bare is a condition. -/
theorem isCondition_bare {e : Expr} (h : e.Every IsApt) (hc : e.isCondition = true) :
    e.bare.isCondition = true := by
  induction h with
  | intro e hapt _ ih =>
    have hnode : ∀ (c : Connective) es, e = c.node es → (c.node es).bare.isCondition = true := by
      rintro c es rfl
      rw [c.operands_node] at ih
      rw [bare_node]
      refine isCondition_joinAll c fun x hx => ?_
      obtain ⟨y, hy, rfl⟩ := List.mem_map.1 hx
      exact ih y hy ((isApt_node c).1 hapt y hy)
    cases e with
    | and es => exact hnode .and es rfl
    | or es => exact hnode .or es rfl
    | paren e => exact ih e (List.mem_singleton_self e) hc
    | _ => exact hc

/-- A column or a literal that is left of a tree stands in it between nothing but brackets. -/
theorem stripped_eq_of_bare {e x : Expr} (h : e.Every IsApt)
    (hx : (∃ l, x = .literal l) ∨ ∃ c, x = .column c) (hb : e.bare = x) : e.stripped = x := by
  have hvalue : x.isCondition = false := by
    rcases hx with ⟨l, rfl⟩ | ⟨c, rfl⟩
    · rfl
    · rfl
  induction h with
  | intro e hapt hparts ih =>
    have hnot : ∀ hc : e.isCondition = true, False := by
      intro hc
      have hbare := isCondition_bare ⟨e, hapt, hparts⟩ hc
      rw [hb, hvalue] at hbare
      cases hbare
    cases e with
    | literal | column => exact hb
    | paren e => exact ih e (List.mem_singleton_self e) hb
    | all | and es | or es => exact (hnot rfl).elim
    | _ => rcases hx with ⟨l, rfl⟩ | ⟨c, rfl⟩ <;> cases hb

end TypedFilter.Expr
