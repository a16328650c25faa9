import TypedFilter.Binary.Arithmetic
import TypedFilter.Decimal.Arithmetic
import TypedFilter.Text.Blank
import TypedFilter.Text.Lowercase

/-!
The operators and functions of conditions, with the words that they are read from and written as.
-/

namespace TypedFilter

/-- Operators that compare two values. -/
inductive CompareOp where
  | equal | notEqual | less | lessEqual | greater | greaterEqual | like
  deriving DecidableEq, Repr

namespace CompareOp

/-- The operator as it is written. -/
def text : CompareOp → String
  | .equal => "="
  | .notEqual => "<>"
  | .less => "<"
  | .lessEqual => "<="
  | .greater => ">"
  | .greaterEqual => ">="
  | .like => "LIKE"

/-- The operator that a text names, in any case and with blanks around it; `==` and `!=` are other
spellings. -/
def ofText? (s : String) : Option CompareOp :=
  match Text.lowercaseAscii (Text.trim s) with
  | "=" | "==" => some .equal
  | "<>" | "!=" => some .notEqual
  | "<" => some .less
  | "<=" => some .lessEqual
  | ">" => some .greater
  | ">=" => some .greaterEqual
  | "like" => some .like
  | _ => none

/-- Whether the operator holds of two values in an order; for patterns there is no order. -/
def holds : CompareOp → Ordering → Bool
  | .equal, o => o == .eq
  | .notEqual, o => o != .eq
  | .less, o => o == .lt
  | .lessEqual, o => o != .gt
  | .greater, o => o == .gt
  | .greaterEqual, o => o != .lt
  | .like, _ => false

end CompareOp

/-- Operators that calculate with two values. -/
inductive ArithOp where
  | add | subtract | multiply | divide | modulo
  deriving DecidableEq, Repr

namespace ArithOp

/-- The operator as it is written. -/
def text : ArithOp → String
  | .add => "+"
  | .subtract => "-"
  | .multiply => "*"
  | .divide => "/"
  | .modulo => "%"

/-- The operator that a text names, in any case and with blanks around it. -/
def ofText? (s : String) : Option ArithOp :=
  match Text.lowercaseAscii (Text.trim s) with
  | "+" => some .add
  | "-" => some .subtract
  | "*" => some .multiply
  | "/" => some .divide
  | "%" | "mod" => some .modulo
  | _ => none

/-- How tightly the operator binds its operands: products bind tighter than sums. -/
def precedence : ArithOp → Nat
  | .add | .subtract => 5
  | .multiply | .divide | .modulo => 6

/-- The exact result, if there is one in the range of decimals. -/
def onDecimals? : ArithOp → Decimal → Decimal → Option Decimal
  | .add => Decimal.add?
  | .subtract => Decimal.sub?
  | .multiply => Decimal.mul?
  | .divide => Decimal.div?
  | .modulo => Decimal.rem?

/-- The floating-point result; only a division by zero has none. -/
def onDoubles? (op : ArithOp) (x y : Double) : Option Double :=
  match op with
  | .add => some (x.add y)
  | .subtract => some (x.sub y)
  | .multiply => some (x.mul y)
  | .divide => if y.isZero then none else some (x.div y)
  | .modulo => if y.isZero then none else some (x.rem y)

end ArithOp

/-- The functions that conditions can call. -/
inductive Builtin where
  | upper | lower | envelopeIntersects | withinDistance
  deriving DecidableEq, Repr

namespace Builtin

/-- The name of the function. -/
def name : Builtin → String
  | .upper => "UPPER"
  | .lower => "LOWER"
  | .envelopeIntersects => "ENVELOPE_INTERSECTS"
  | .withinDistance => "WITHIN_DISTANCE"

/-- The function that a name stands for, in any case; a hyphen is as good as an underscore. -/
def ofName? (s : String) : Option Builtin :=
  match (Text.lowercaseAscii s).map fun c => if c = '-' then '_' else c with
  | "upper" => some .upper
  | "lower" => some .lower
  | "envelope_intersects" => some .envelopeIntersects
  | "within_distance" => some .withinDistance
  | _ => none

/-- How many arguments the function takes. -/
def arity : Builtin → Nat
  | .upper | .lower => 1
  | .envelopeIntersects => 2
  | .withinDistance => 3

/-- Whether the function is a condition on places. -/
def isSpatial : Builtin → Bool
  | .upper | .lower => false
  | .envelopeIntersects | .withinDistance => true

end Builtin

end TypedFilter
