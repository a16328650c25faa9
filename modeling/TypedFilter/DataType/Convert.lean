import TypedFilter.DataType.Basic
import TypedFilter.Error
import TypedFilter.Value.Number

/-!
Conversion of values to declared types. No value stays none for every type, and blank text becomes
none for every type but that of strings.
-/

namespace TypedFilter

namespace DataType

/-- The number that a value stands for; a truth value stands for one or zero. -/
def decimalOf? : Value → Option Decimal
  | .string s => Decimal.ofText? (Text.trim s)
  | .boolean b => some (.ofInt (if b then 1 else 0) (by cases b <;> decide))
  | v => v.toDecimal?

/-- The 64-bit number that a value stands for. -/
def doubleOf? : Value → Option Double
  | .string s => Binary.ofText? .double (Text.trim s)
  | .boolean b => some (.ofInt .double (if b then 1 else 0))
  | v => v.toDouble?

/-- The words for true. -/
def trueWords : List String := ["true", "t", "yes", "y", "1", "on"]

/-- The words for false. -/
def falseWords : List String := ["false", "f", "no", "n", "0", "off"]

/-- The truth value that a value stands for; a number stands for whether it differs from zero. -/
def booleanOf? : Value → Option Bool
  | .boolean b => some b
  | .string s =>
    let word := Text.lowercaseAscii (Text.trim s)
    if trueWords.contains word then some true
    else if falseWords.contains word then some false
    else none
  | v => v.toDecimal?.map (!·.isZero)

/-- The whole number of a width that a value stands for; a fraction is not cut off. -/
def integerOf? (w : IntWidth) (v : Value) : Option Value :=
  (decimalOf? v).bind fun d => if d.isWhole then Value.ofInt? w d.truncate else none

/-- The plain text of a value that has one line of text. -/
def stringOf? : Value → Option String
  | .list _ | .geometry _ | .box _ => none
  | v => some v.plainText

/-- The day that a value stands for. -/
def dateOf? : Value → Option Date
  | .date d => some d
  | .timestamp t => some t.date
  | .string s =>
    let s := Text.trim s
    Date.ofText? s <|> (Timestamp.ofText? s).map (·.date)
  | _ => none

/-- The time of day that a value stands for. -/
def timeOf? : Value → Option Time
  | .time t => some t
  | .timestamp t => some t.time
  | .string s => Time.ofText? (Text.trim s)
  | _ => none

/-- The timestamp that a value stands for; 64-bit whole numbers count milliseconds from 1970 on. -/
def timestampOf? : Value → Option Timestamp
  | .string s =>
    let s := Text.trim s
    Timestamp.ofText? s <|> (Date.ofText? s).map fun d => ⟨d, .midnight⟩
  | .integer .long n => Timestamp.ofMillis? n.toInt
  | v => v.toTimestamp?

/-- The value as a geometry of one kind, or of any; a box is a polygon. -/
def geometryOf? (kind : Option ShapeKind) : Value → Option Geometry
  | .geometry g => if kind = none ∨ kind = some g.kind then some g else none
  | .box b =>
    if kind = none ∨ kind = some .polygon then b.toPolygon?.map .polygon else none
  | _ => none

/-- The value in the form of a type, if it has one. -/
def cast? (t : DataType) (v : Value) : Option Value :=
  match t with
  | .boolean => (booleanOf? v).map .boolean
  | .integer w => integerOf? w v
  | .float => (doubleOf? v).map fun x => .float (x.convert .single)
  | .double => (doubleOf? v).map .double
  | .decimal => (decimalOf? v).map .decimal
  | .string => (stringOf? v).map .string
  | .date => (dateOf? v).map .date
  | .time => (timeOf? v).map .time
  | .timestamp => (timestampOf? v).map .timestamp
  | .geometry => (geometryOf? none v).map .geometry
  | .shape kind => (geometryOf? (some kind) v).map .geometry
  | .object => some v

/-- Whether the value counts as none for the type. -/
def countsAsNull (t : DataType) : Value → Bool
  | .null => true
  | .string s => Text.allBlank s && t != .string && t != .object
  | _ => false

/-- Converts a value to the type. -/
def convert (t : DataType) (v : Value) : Result Value :=
  if t.countsAsNull v then .ok .null
  else match t.cast? v with
    | some w => .ok w
    | none => .error (.rejected t.name v ("cannot convert to " ++ t.name))

/-- Converts a value to the type, or leaves it as it is. -/
def convertLenient (t : DataType) (v : Value) : Value :=
  match t.convert v with
  | .ok w => w
  | .error _ => v

end DataType

end TypedFilter
