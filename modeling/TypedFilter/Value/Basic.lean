import TypedFilter.Value.Integer
import TypedFilter.Calendar.Time
import TypedFilter.Geometry.BoundingBox

/-!
The values that records hold, that conditions compare and that statements are given as parameters.
-/

namespace TypedFilter

/-- A value of any type, or none at all. -/
inductive Value where
  | null
  | boolean (b : Bool)
  | integer (width : IntWidth) (n : SizedInt width)
  | float (x : Single)
  | double (x : Double)
  | decimal (d : Decimal)
  | string (s : String)
  | date (d : Date)
  | time (t : Time)
  | timestamp (t : Timestamp)
  | geometry (g : Geometry)
  | box (b : BoundingBox)
  | list (items : List Value)

instance : Inhabited Value := ⟨.null⟩

namespace Value

mutual

/-- Whether two values are of one type and equal in it: numbers by their amount, geometries by their
positions and lists item by item. -/
def alike : Value → Value → Bool
  | .null, .null => true
  | .boolean a, .boolean b => a == b
  | .integer v a, .integer w b => v = w && a.toInt == b.toInt
  | .float a, .float b => a == b
  | .double a, .double b => a == b
  | .decimal a, .decimal b => a == b
  | .string a, .string b => a == b
  | .date a, .date b => a = b
  | .time a, .time b => a = b
  | .timestamp a, .timestamp b => a = b
  | .geometry a, .geometry b => a == b
  | .box a, .box b => a == b
  | .list a, .list b => alikeAll a b
  | _, _ => false

/-- Whether two rows of values are alike. -/
def alikeAll : List Value → List Value → Bool
  | [], [] => true
  | a :: as, b :: bs => alike a b && alikeAll as bs
  | _, _ => false

end

instance : BEq Value := ⟨alike⟩

mutual

/-- Whether two values are the same down to the places of decimals and the signs of zeros. The
equality `==` is coarser: there numbers of one type are equal by their amount. -/
def identical : Value → Value → Bool
  | .null, .null => true
  | .boolean a, .boolean b => a = b
  | .integer v a, .integer w b => v = w ∧ a.toInt = b.toInt
  | .float a, .float b => a = b
  | .double a, .double b => a = b
  | .decimal a, .decimal b => a = b
  | .string a, .string b => a = b
  | .date a, .date b => a = b
  | .time a, .time b => a = b
  | .timestamp a, .timestamp b => a = b
  | .geometry a, .geometry b => a = b
  | .box a, .box b => a = b
  | .list a, .list b => identicalAll a b
  | _, _ => false

/-- Whether two rows of values are the same. -/
def identicalAll : List Value → List Value → Bool
  | [], [] => true
  | a :: as, b :: bs => identical a b && identicalAll as bs
  | _, _ => false

end

theorem integer_inj {v w : IntWidth} {a : SizedInt v} {b : SizedInt w} :
    Value.integer v a = .integer w b ↔ v = w ∧ a.toInt = b.toInt := by
  constructor
  · intro h
    cases h
    exact ⟨rfl, rfl⟩
  · rintro ⟨rfl, h⟩
    rw [SizedInt.ext h]

mutual

theorem identical_iff (a b : Value) : identical a b = true ↔ a = b := by
  cases a <;> cases b <;> simp [identical, identicalAll_iff, integer_inj, -Value.integer.injEq]

theorem identicalAll_iff (as bs : List Value) : identicalAll as bs = true ↔ as = bs := by
  cases as <;> cases bs <;> simp [identicalAll, identical_iff, identicalAll_iff]

end

instance : DecidableEq Value := fun a b => decidable_of_iff _ (identical_iff a b)

/-- Whether there is no value. -/
def isNull : Value → Bool
  | .null => true
  | _ => false

theorem eq_null_of_isNull {v : Value} (h : v.isNull = true) : v = .null := by
  cases v with
  | null => rfl
  | _ => cases h

/-- Whether the value is a number. -/
def isNumeric : Value → Bool
  | .integer .. | .float _ | .double _ | .decimal _ => true
  | _ => false

/-- Whether the value is a date, a time or a timestamp. -/
def isTemporal : Value → Bool
  | .date _ | .time _ | .timestamp _ => true
  | _ => false

/-- The whole number as a value of a width, if it fits. -/
def ofInt? (w : IntWidth) (n : Int) : Option Value :=
  (SizedInt.ofInt? w n).map (.integer w)

/-- The text of a string value. -/
def asString? : Value → Option String
  | .string s => some s
  | _ => none

/-- The geometry of a geometry value. -/
def asGeometry? : Value → Option Geometry
  | .geometry g => some g
  | _ => none

/-- The point in time of a timestamp, and midnight for a date. -/
def toTimestamp? : Value → Option Timestamp
  | .timestamp t => some t
  | .date d => some ⟨d, .midnight⟩
  | _ => none

/-- The extent of a geometry or of a box; other values have none. -/
def extent : Value → BoundingBox
  | .geometry g => .ofGeometry g
  | .box b => b
  | _ => .empty

end Value

end TypedFilter
