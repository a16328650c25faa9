import TypedFilter.Expr.Clause
import TypedFilter.Proofs.Trees

/-!
AND and OR as one thing. Both join any number of conditions, and a clause joins them from the left
in the same way, so that most of what there is to say about the one is said about either. Main
statement: conditions that are joined from the left are the node of all of them, unless the first
one is such a node itself.
-/

namespace TypedFilter

namespace Expr

/-- Whether the tree joins conditions with AND. -/
def isConjunction : Expr → Bool
  | .and es => !es.isEmpty
  | _ => false

/-- Whether the tree joins conditions with OR. -/
def isDisjunction : Expr → Bool
  | .or es => !es.isEmpty
  | _ => false

/-- Whether the tree is an AND or an OR, also of no conditions at all. -/
def isJunction : Expr → Bool
  | .and _ | .or _ => true
  | _ => false

end Expr

/-- How a condition is added to what there is. -/
inductive Connective where
  | and | or
  deriving DecidableEq

namespace Connective

/-- Conditions that the connective joins. -/
def node : Connective → List Expr → Expr
  | .and => .and
  | .or => .or

/-- The connective on truth values. -/
def apply : Connective → Bool → Bool → Bool
  | .and, a, b => a && b
  | .or, a, b => a || b

/-- The truth value of conditions that the connective joins, from those of the conditions. -/
def holds : Connective → List Bool → Bool
  | .and, bs => bs.all id
  | .or, bs => bs.isEmpty || bs.any id

/-- The operator that stands for the connective in a clause. -/
def binary : Connective → Sql.BinaryOp
  | .and => .and
  | .or => .or

/-- How tightly conditions that the connective joins hold together. -/
def level : Connective → Nat
  | .and => 2
  | .or => 1

/-- What stands between them in a text. -/
def separator : Connective → String
  | .and => " AND "
  | .or => " OR "

/-- The connective on two conditions of a clause. -/
def joinRead : Connective → Expr → Expr → Expr
  | .and, l, r => l.joinAnd r
  | .or, l, r => l.joinOr r

/-- Whether the tree is conditions that the connective joins. -/
def isJoined : Connective → Expr → Bool
  | .and, e => e.isConjunction
  | .or, e => e.isDisjunction

variable {c : Connective} {l r : Expr}

/-! ### Nodes -/

theorem exists_of_isJunction {e : Expr} (h : e.isJunction = true) :
    ∃ (c : Connective) (es : List Expr), e = c.node es := by
  cases e with
  | and es => exact ⟨.and, es, rfl⟩
  | or es => exact ⟨.or, es, rfl⟩
  | _ => cases h

theorem isCondition_node (c : Connective) (es : List Expr) : (c.node es).isCondition = true := by
  cases c <;> rfl

theorem operands_node (c : Connective) (es : List Expr) : (c.node es).operands = es := by
  cases c <;> rfl

theorem isJoined_node (c : Connective) (es : List Expr) : c.isJoined (c.node es) = !es.isEmpty := by
  cases c <;> rfl

theorem exists_of_isJoined (h : c.isJoined l = true) : ∃ e es, l = c.node (e :: es) := by
  have hnode : ∀ es, c.isJoined (c.node es) = true → ∃ e rest, es = e :: rest := by
    intro es hes
    rw [isJoined_node] at hes
    exact List.exists_cons_of_ne_nil fun hnil => by simp [hnil] at hes
  cases c with
  | and =>
    cases l with
    | and es =>
      obtain ⟨e, rest, rfl⟩ := hnode es h
      exact ⟨e, rest, rfl⟩
    | _ => cases h
  | or =>
    cases l with
    | or es =>
      obtain ⟨e, rest, rfl⟩ := hnode es h
      exact ⟨e, rest, rfl⟩
    | _ => cases h

theorem precedence_node (c : Connective) (es : List Expr) :
    (c.node es).precedence = if es.isEmpty then 4 else c.level := by
  cases c <;> rfl

theorem write_node (c : Connective) (shown : Literal → String) (es : List Expr) :
    (c.node es).write shown = if es.isEmpty then Expr.trueText
      else String.intercalate c.separator (Expr.writeAll shown c.level es) := by
  cases c <;> rfl

/-- Nothing but conditions that the connective joins is at its level. -/
theorem precedence_ne_level {e : Expr} (h : c.isJoined e = false) : e.precedence ≠ c.level := by
  cases hjunction : e.isJunction with
  | true =>
    obtain ⟨c', es, rfl⟩ := exists_of_isJunction hjunction
    rw [precedence_node]
    split
    · cases c <;> decide
    · rename_i hne
      have hother : c' ≠ c := by
        rintro rfl
        rw [isJoined_node, Bool.not_eq_false'] at h
        exact hne h
      revert hother
      cases c <;> cases c' <;> decide
  | false =>
    cases e with
    | and | or => cases hjunction
    | arithmetic op => cases op <;> cases c <;> simp [Expr.precedence, ArithOp.precedence, level]
    | _ => cases c <;> simp [Expr.precedence, level]

/-! ### Joining two conditions -/

theorem applyBinary_binary (c : Connective) (l r : Expr) :
    Expr.applyBinary c.binary l r = .ok (c.joinRead l r) := by
  cases c <;> rfl

theorem joinRead_node (c : Connective) (e : Expr) (es : List Expr) (r : Expr) :
    c.joinRead (c.node (e :: es)) r = c.node (e :: (es ++ [r])) := by
  cases c <;> rfl

theorem joinRead_of_isJoined (r : Expr) (h : c.isJoined l = false) :
    c.joinRead l r = c.node [l, r] := by
  cases c with
  | and =>
    rw [joinRead]
    unfold Expr.joinAnd
    split
    · cases h
    · rfl
  | or =>
    rw [joinRead]
    unfold Expr.joinOr
    split
    · cases h
    · rfl

theorem joinRead_eq (c : Connective) (l r : Expr) :
    (∃ e es, l = c.node (e :: es) ∧ c.joinRead l r = c.node (e :: (es ++ [r]))) ∨
      c.joinRead l r = c.node [l, r] := by
  cases h : c.isJoined l with
  | true =>
    obtain ⟨e, es, rfl⟩ := exists_of_isJoined h
    exact .inl ⟨e, es, rfl, joinRead_node c e es r⟩
  | false => exact .inr (joinRead_of_isJoined r h)

theorem exists_joinRead_eq (c : Connective) (l r : Expr) : ∃ es, c.joinRead l r = c.node es := by
  rcases joinRead_eq c l r with ⟨e, es, -, h⟩ | h
  · exact ⟨_, h⟩
  · exact ⟨_, h⟩

theorem isCondition_joinRead (c : Connective) (l r : Expr) :
    (c.joinRead l r).isCondition = true := by
  obtain ⟨es, h⟩ := exists_joinRead_eq c l r
  rw [h, isCondition_node]

/-- What stands in joined conditions is the one on the right or stood in the one on the left, which
may be among them itself. -/
theorem mem_operands_joinRead {x : Expr} (hx : x ∈ (c.joinRead l r).operands) :
    x = r ∨ x = l ∨ c.isJoined l = true ∧ x ∈ l.operands := by
  rcases joinRead_eq c l r with ⟨e, es, rfl, h⟩ | h
  · rw [h, operands_node, ← List.cons_append, List.mem_append, List.mem_singleton] at hx
    rcases hx with hx | hx
    · exact .inr (.inr ⟨isJoined_node c _, by rwa [operands_node]⟩)
    · exact .inl hx
  · rw [h, operands_node] at hx
    simp only [List.mem_cons, List.not_mem_nil, or_false] at hx
    rcases hx with hx | hx
    · exact .inr (.inl hx)
    · exact .inl hx

theorem every_joinRead {p : Expr → Prop} (hl : l.Every p) (hr : r.Every p)
    (h : p (c.joinRead l r)) : (c.joinRead l r).Every p := by
  refine ⟨_, h, fun x hx => ?_⟩
  rcases mem_operands_joinRead hx with rfl | rfl | ⟨-, hx⟩
  · exact hr
  · exact hl
  · exact hl.operand hx

theorem every_of_joinRead {p : Expr → Prop} (hp : ∀ es, p (c.node es))
    (h : (c.joinRead l r).Every p) : l.Every p ∧ r.Every p := by
  have hpart : ∀ {es : List Expr}, c.joinRead l r = c.node es → ∀ x ∈ es, x.Every p :=
    fun hes x hx => h.operand (by rwa [hes, operands_node])
  rcases joinRead_eq c l r with ⟨e, es, rfl, he⟩ | he
  · have hall := hpart he
    refine ⟨⟨_, hp _, fun x hx => hall x ?_⟩, hall r (by simp)⟩
    rw [operands_node] at hx
    exact List.mem_append_left [r] hx
  · exact ⟨hpart he l (by simp), hpart he r (by simp)⟩

/-! ### Joining conditions in a row -/

theorem foldl_joinRead_node (c : Connective) (l : Expr) (ls es : List Expr) :
    es.foldl c.joinRead (c.node (l :: ls)) = c.node (l :: ls ++ es) := by
  induction es generalizing ls with
  | nil => rw [List.append_nil, List.foldl_nil]
  | cons e es ih =>
    rw [List.foldl_cons, joinRead_node, ih, List.cons_append, List.cons_append, List.append_assoc]
    rfl

/-- Joining conditions from the left gives the node of them. -/
theorem foldl_joinRead {es : List Expr} (hlen : 2 ≤ es.length)
    (h : ∀ x ∈ es.head?, c.isJoined x = false) :
    ∃ e rest, es = e :: rest ∧ rest.foldl c.joinRead e = c.node es := by
  match es, hlen with
  | e :: r :: rest, _ =>
    refine ⟨e, r :: rest, rfl, ?_⟩
    rw [List.foldl_cons, joinRead_of_isJoined r (h e rfl), foldl_joinRead_node]
    rfl

/-! ### Truth values -/

theorem holds_singleton (c : Connective) (b : Bool) : c.holds [b] = b := by
  cases c <;> simp [holds]

theorem holds_cons_cons (c : Connective) (a b : Bool) (bs : List Bool) :
    c.holds (a :: b :: bs) = c.holds (c.apply a b :: bs) := by
  cases c with
  | and => simp [holds, apply, Bool.and_assoc]
  | or => simp [holds, apply, Bool.or_assoc]

theorem holds_concat (c : Connective) {bs : List Bool} (h : bs ≠ []) (b : Bool) :
    c.holds (bs ++ [b]) = c.apply (c.holds bs) b := by
  have hempty : bs.isEmpty = false := by simpa using h
  cases c with
  | and => simp [holds, apply]
  | or => simp [holds, apply, hempty]

/-- Truth values that are joined in groups first. -/
theorem holds_flatMap {α : Type} (c : Connective) {group : α → List Bool}
    (h : ∀ x, group x ≠ []) (xs : List α) :
    c.holds (xs.flatMap group) = c.holds (xs.map fun x => c.holds (group x)) := by
  cases c with
  | and => simp [holds, List.all_flatMap, List.all_map]
  | or =>
    have hgroup : ∀ x, (group x).isEmpty = false := fun x => by simpa using h x
    have hempty : (xs.flatMap group).isEmpty = xs.isEmpty := by
      cases xs with
      | nil => rfl
      | cons x xs => simp [h x]
    simp [holds, hempty, hgroup, List.any_flatMap, List.any_map]

end Connective

end TypedFilter
