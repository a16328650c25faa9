import TypedFilter.Expr.Basic
import TypedFilter.Value.Number

/-!
The part of the plane that a condition is about: the extents that its spatial functions are called
with.
-/

namespace TypedFilter.Expr

/-- The extent of an argument of a spatial function. -/
def operandExtent : Expr → BoundingBox
  | .literal l => l.value.extent
  | .paren e => operandExtent e
  | _ => .empty

/-- The number that an argument is, or zero. -/
def operandNumber : Expr → Double
  | .literal l => l.value.toDouble?.getD (.zero false)
  | _ => .zero false

mutual

/-- The extents that the tree names, in order. A spatial function names one even if its arguments
have none. -/
def extents : Expr → List BoundingBox
  | .literal l =>
    match l.value with
    | .box b => [b]
    | _ => []
  | .column _ | .all => []
  | .call .envelopeIntersects es => .empty :: es.map operandExtent
  | .call .withinDistance es =>
    match es with
    | [a, b, d] => [(a.operandExtent.union b.operandExtent).expand d.operandNumber]
    | _ => [.empty]
  | .collection es | .call _ es | .and es | .or es => extentsOf es
  | .cast e _ | .not e | .isNull e | .isNotNull e | .paren e => extents e
  | .arithmetic _ l r | .compare _ l r | .isIn l r => extents l ++ extents r
  | .between e l h => extents e ++ extents l ++ extents h

/-- The extents that trees name, in order. -/
def extentsOf : List Expr → List BoundingBox
  | [] => []
  | e :: es => extents e ++ extentsOf es

end

/-- The extent that covers all those that the tree names, if it names any. -/
def boundingBox (e : Expr) : Option BoundingBox :=
  match e.extents with
  | [] => none
  | boxes => some (boxes.foldl BoundingBox.union .empty)

end TypedFilter.Expr
