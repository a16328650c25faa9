import TypedFilter.DataType.Convert

/-!
The order of values. Numbers are ordered by their amount whatever their type, a date is midnight of
its day, and text is converted to the type of what it is compared with. Values of classes that have
no order in common are not ordered, nor is no value with anything.
-/

namespace TypedFilter.Value

/-- The order of two numbers: as decimals where both have one, else in the 64-bit format. -/
def compareNumbers? (a b : Value) : Option Ordering :=
  match a.toDecimal?, b.toDecimal? with
  | some x, some y => some (x.compare y)
  | _, _ =>
    match a.toDouble?, b.toDouble? with
    | some x, some y => x.compare? y
    | _, _ => none

/-- Equal, where that is so; geometries and boxes are not ordered otherwise. -/
def equalOnly (h : Bool) : Option Ordering :=
  if h then some .eq else none

/-- The order of two values that are neither texts nor lists. -/
def compareTyped? : Value → Value → Option Ordering
  | .boolean a, .boolean b => some (Ord.compare a b)
  | .time a, .time b => some (a.compare b)
  | .date a, .date b => some (a.compare b)
  | .geometry a, .geometry b => equalOnly (a == b)
  | .box a, .box b => equalOnly (a == b)
  | a, b =>
    if a.isNumeric && b.isNumeric then compareNumbers? a b
    else match a.toTimestamp?, b.toTimestamp? with
      | some s, some t => some (s.compare t)
      | _, _ => none

/-- The order of a typed value and a text: the text is converted to the value's type, or else the
value is turned into text. -/
def compareText? (typed : Value) (s : String) : Option Ordering :=
  typed.dataType?.bind fun t =>
    match t.convert (.string s) with
    | .ok (.string _) | .ok .null | .error _ => some (Ord.compare typed.plainText s)
    | .ok converted => compareTyped? typed converted

mutual

/-- The order of two values, if they have one. -/
def compare? : Value → Value → Option Ordering
  | .null, _ => none
  | _, .null => none
  | .string a, .string b => some (Ord.compare a b)
  | .string s, b => (compareText? b s).map Ordering.swap
  | a, .string s => compareText? a s
  | .list as, .list bs => compareAll? as bs
  | a, b => compareTyped? a b

/-- The order of two lists: that of the first items that differ, or else of the lengths. -/
def compareAll? : List Value → List Value → Option Ordering
  | a :: as, b :: bs =>
    match compare? a b with
    | some .eq => compareAll? as bs
    | o => o
  | as, bs => some (Ord.compare as.length bs.length)

end

/-- Whether two values are equal in their order; no value is equal to nothing. -/
def equal (a b : Value) : Bool :=
  compare? a b == some .eq

end TypedFilter.Value
