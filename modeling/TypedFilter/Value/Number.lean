import TypedFilter.Value.Basic
import TypedFilter.Decimal.Binary

/-!
Values as numbers: every number as a decimal or as a 64-bit floating-point number, and the result of
a calculation as a number of the left operand's type.
-/

namespace TypedFilter

/-- The number of the 64-bit format for a whole number. -/
def SizedInt.toDouble {w : IntWidth} (n : SizedInt w) : Double :=
  .ofInt .double n.toInt

namespace Value

/-- The number as a decimal, if it is one and in the range of decimals. -/
def toDecimal? : Value → Option Decimal
  | .integer _ n => some n.toDecimal
  | .float x => Decimal.ofBinary? x
  | .double x => Decimal.ofBinary? x
  | .decimal d => some d
  | _ => none

/-- The number in the 64-bit format. -/
def toDouble? : Value → Option Double
  | .integer _ n => some n.toDouble
  | .float x => some (x.convert .double)
  | .double x => some x
  | .decimal d => some d.toDouble
  | _ => none

/-- A result as a number of this value's type. Whole numbers are cut off after the point; a result
that the type does not hold stays a decimal. -/
def withDecimal (v : Value) (result : Decimal) : Value :=
  match v with
  | .integer w _ => (ofInt? w result.truncate).getD (.decimal result)
  | .float _ => .float result.toSingle
  | .double _ => .double result.toDouble
  | _ => .decimal result

/-- The largest number of the 32-bit format, in the 64-bit format. -/
def largestSingle : Double :=
  (Binary.pack .single false (pow2 24 - 1) 104).convert .double

/-- A floating-point result as a number of this value's type: it keeps 32 bits only for a value
that has 32 bits, and only in their range. -/
def withDouble (v : Value) (result : Double) : Value :=
  match v with
  | .float _ => if result.abs.le largestSingle then .float (result.convert .single) else .double result
  | _ => .double result

end Value

end TypedFilter
