import TypedFilter.Expr.Basic
import TypedFilter.Schema.Record
import TypedFilter.Text.Like

/-!
The value of a condition for a record. There is one for every tree and record: what cannot be
calculated is no value, and a condition on it is false.
-/

namespace TypedFilter

namespace Value

/-- Whether the value is the truth value true. -/
def isTrue : Value → Bool
  | .boolean b => b
  | _ => false

/-- The result of a calculation: in decimals if both operands and the result are in their range,
else in the 64-bit floating-point format. -/
def calculate (op : ArithOp) (a b : Value) : Value :=
  let exact := do op.onDecimals? (← a.toDecimal?) (← b.toDecimal?)
  match exact with
  | some d => a.withDecimal d
  | none =>
    match a.toDouble?, b.toDouble? with
    | some x, some y => ((op.onDoubles? x y).map a.withDouble).getD .null
    | _, _ => .null

/-- Whether a value comes before another or is equal to it. -/
def atMost (a b : Value) : Bool :=
  match a.compare? b with
  | some o => o != .gt
  | none => false

/-- Whether a value lies between two others; every one of them has to be a value. -/
def isBetween (v low high : Value) : Bool :=
  !v.isNull && !low.isNull && !high.isNull && low.atMost v && v.atMost high

/-- Whether a value is one of a list, or equal to a single value. -/
def isAmong (v : Value) (values : Value) : Bool :=
  !v.isNull &&
    match values with
    | .list items => items.any fun item => v.equal item
    | single => v.equal single

/-- Whether a comparison holds. -/
def satisfies (op : CompareOp) (a b : Value) : Bool :=
  match op with
  | .like => !a.isNull && !b.isNull && Text.like a.plainText b.plainText false
  | op =>
    match a.compare? b with
    | some o => op.holds o
    | none => false

/-- The value as another type, or none if it cannot be converted; an unknown type changes
nothing. -/
def castTo (type : String) (v : Value) : Value :=
  match DataType.ofName? type with
  | none => v
  | some t =>
    match t.convert v with
    | .ok w => w
    | .error _ => .null

end Value

/-- The value of a call; none with any other number of arguments than the function takes. -/
def Builtin.apply : Builtin → List Value → Value
  | .upper, [v] => if v.isNull then .null else .string (Text.uppercase v.plainText)
  | .lower, [v] => if v.isNull then .null else .string (Text.lowercase v.plainText)
  | .envelopeIntersects, [a, b] => .boolean (a.extent.intersects b.extent)
  | .withinDistance, [a, b, limit] =>
    match a.extent.distance? b.extent, limit.toDouble? with
    | some d, some limit => .boolean (d.le limit)
    | _, _ => .boolean false
  | _, _ => .null

namespace Expr

mutual

/-- The value of the tree for a record. -/
def evaluate (r : Record) : Expr → Value
  | .literal l => l.value
  | .column c => r.value c.name
  | .collection es => .list (evaluateAll r es)
  | .cast e type => (evaluate r e).castTo type
  | .arithmetic op a b => (evaluate r a).calculate op (evaluate r b)
  | .call f es => f.apply (evaluateAll r es)
  | .all => .boolean true
  | .and es => .boolean ((evaluateAll r es).all Value.isTrue)
  | .or es => .boolean (es.isEmpty || (evaluateAll r es).any Value.isTrue)
  | .not e => .boolean (!(evaluate r e).isTrue)
  | .between e low high =>
    .boolean ((evaluate r e).isBetween (evaluate r low) (evaluate r high))
  | .isIn e values => .boolean ((evaluate r e).isAmong (evaluate r values))
  | .isNull e => .boolean (evaluate r e).isNull
  | .isNotNull e => .boolean (!(evaluate r e).isNull)
  | .compare op a b => .boolean ((evaluate r a).satisfies op (evaluate r b))
  | .paren e => evaluate r e

/-- The values of trees for a record. -/
def evaluateAll (r : Record) : List Expr → List Value
  | [] => []
  | e :: es => evaluate r e :: evaluateAll r es

end

/-- Whether the tree is true of a record. -/
def test (e : Expr) (r : Record) : Bool :=
  (e.evaluate r).isTrue

end Expr

end TypedFilter
