import TypedFilter.Expr.Basic
import TypedFilter.Schema.Definition

/-!
Binding a condition to a definition: columns become fields of the definition, and literals that a
field is directly compared with are bound to that field.
-/

namespace TypedFilter

/-- The column as a field of a definition, or without a field if the definition has none of its
name. -/
def Column.bind (d : Definition) (c : Column) : Column :=
  match d.field? c.name with
  | some f => .ofField f
  | none => if c.field.isSome then .ofName c.name else c

/-- The literal bound to a field; one that is bound to it already stays as it is. -/
def Literal.bindTo (f : Field) (l : Literal) : Literal :=
  if l.field = some f then l else .forField f l.value

namespace Expr

/-- The field of a tree that is a bound column. -/
def columnField? : Expr → Option Field
  | .column c => c.field
  | _ => none

/-- A literal bound to a field; any other tree as it is. -/
def bindLiteral (f : Field) : Expr → Expr
  | .literal l => .literal (l.bindTo f)
  | e => e

/-- A comparison, with a literal on the right bound to a column on the left. Patterns are texts
whatever the type of the column. -/
def boundCompare (op : CompareOp) (l r : Expr) : Expr :=
  match op, l.columnField? with
  | .like, _ | _, none => .compare op l r
  | op, some f => .compare op l (r.bindLiteral f)

/-- An interval, with literals for its ends bound to a column. -/
def boundBetween (e low high : Expr) : Expr :=
  match e.columnField? with
  | none => .between e low high
  | some f => .between e (low.bindLiteral f) (high.bindLiteral f)

/-- A search for a value, with literals among the values bound to a column. -/
def boundIn (e values : Expr) : Expr :=
  match e.columnField? with
  | none => .isIn e values
  | some f => .isIn e (values.mapOperands (bindLiteral f))

mutual

/-- The tree bound to a definition. -/
def bind (d : Definition) : Expr → Expr
  | .literal l => .literal l
  | .column c => .column (c.bind d)
  | .collection es => .collection (bindAll d es)
  | .cast e type => .cast (bind d e) type
  | .arithmetic op l r => .arithmetic op (bind d l) (bind d r)
  | .call f es => .call f (bindAll d es)
  | .all => .all
  | .and es => .and (bindAll d es)
  | .or es => .or (bindAll d es)
  | .not e => .not (bind d e)
  | .between e low high => boundBetween (bind d e) (bind d low) (bind d high)
  | .isIn e values => boundIn (bind d e) (bind d values)
  | .isNull e => .isNull (bind d e)
  | .isNotNull e => .isNotNull (bind d e)
  | .compare op l r => boundCompare op (bind d l) (bind d r)
  | .paren e => .paren (bind d e)

/-- Trees bound to a definition. -/
def bindAll (d : Definition) : List Expr → List Expr
  | [] => []
  | e :: es => bind d e :: bindAll d es

end

end Expr

end TypedFilter
