import TypedFilter.Expr.Build
import TypedFilter.Expr.Literals

/-!
Changes to conditions that tell what they kept. A part of a tree that a change does not reach is
kept; one that it reaches is new, even where it comes out equal to what it was.
-/

namespace TypedFilter

/-- A tree as it is after a change. -/
structure Revision where
  expr : Expr
  /-- Whether it is the tree from before the change. -/
  kept : Bool
  /-- For each operand, whether the tree had it as an operand before the change. -/
  keptOperands : List Bool
  deriving DecidableEq

namespace Revision

/-- The tree as it was. -/
def unchanged (e : Expr) : Revision :=
  ⟨e, true, e.operands.map fun _ => true⟩

/-- A tree with nothing of what was there before. -/
def entirely (e : Expr) : Revision :=
  ⟨e, false, e.operands.map fun _ => false⟩

/-- Binding a tree to a definition: it leaves alone what is bound already, and whatever it changes
comes out different. -/
def bind (d : Definition) (e : Expr) : Revision :=
  let bound := e.bind d
  ⟨bound, bound = e, List.zipWith (fun a b => decide (a = b)) bound.operands e.operands⟩

/-- For each operand, whether the literal at a place lies outside it. -/
def spared (index : Nat) : (start : Nat) → List Expr → List Bool
  | _, [] => []
  | start, e :: es =>
    let next := start + e.parameterCount
    (decide (index < start) || decide (next ≤ index)) :: spared index next es

/-- Putting another value at the place of one literal. -/
def setValue (index : Nat) (v : Value) (e : Expr) : Revision :=
  ⟨e.setValue index v, e.parameterCount ≤ index, spared index 0 e.operands⟩

/-- The tree with one of its operands replaced. -/
def replaceOperand (index : Nat) (operand : Expr) (e : Expr) : Revision :=
  if index < e.operands.length then
    ⟨e.setOperand index operand, false, e.operands.mapIdx fun i _ => i != index⟩
  else unchanged e

/-- The tree with a condition added to those that it joins, and whether it joins any. -/
def addCondition (condition e : Expr) : Revision × Bool :=
  let kept := e.operands.map fun _ => true
  match e.addCondition? condition with
  | some joined => (⟨joined, false, kept ++ [false]⟩, true)
  | none => (⟨e, false, kept⟩, false)

/-- Joining a condition to a tree: what comes out is the condition, the tree, a tree that joins one
operand more, or a new one of both. -/
def joined (joins : Bool) (l r result : Expr) : Revision :=
  if l.isEmptyCondition then entirely result
  else if r.isEmptyCondition then unchanged result
  else if joins then ⟨result, false, (l.operands.map fun _ => true) ++ [false]⟩
  else entirely result

/-- Both conditions. -/
def andAlso (l r : Expr) : Revision :=
  joined (match l with | .and _ => true | _ => false) l r (l.andAlso r)

/-- Either condition. -/
def orElse (l r : Expr) : Revision :=
  joined (match l with | .or _ => true | _ => false) l r (l.orElse r)

end Revision

end TypedFilter
