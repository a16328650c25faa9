import TypedFilter.Schema.Definition

/-!
Records: one value for each field of a definition, in the order of the fields.
-/

namespace TypedFilter

/-- A record. -/
structure Record where
  definition : Definition
  values : List Value
  deriving DecidableEq

namespace Record

/-- A record with every field at its default. -/
def ofDefaults (d : Definition) : Record :=
  ⟨d, d.fields.map fun f => (d.default? f.name).getD .null⟩

/-- Sets the value at a place, as its field stores it; a place without a field is left out. -/
def setAt (r : Record) (index : Nat) (v : Value) : Record :=
  match r.definition.fields[index]? with
  | some f => { r with values := r.values.set index (f.storeLenient v) }
  | none => r

/-- Sets values from a place on. -/
def setFrom (r : Record) (index : Nat) : List Value → Record
  | [] => r
  | v :: rest => (r.setAt index v).setFrom (index + 1) rest

/-- A record with values in the order of the fields; fields past the last value keep their
defaults. -/
def ofValues (d : Definition) (values : List Value) : Record :=
  (ofDefaults d).setFrom 0 values

/-- The value at a place; none past the last field. -/
def valueAt (r : Record) (index : Nat) : Value :=
  r.values[index]?.getD .null

/-- The value of a field; none for a name that no field has. -/
def value (r : Record) (name : String) : Value :=
  match r.definition.fieldIndex? name with
  | some i => r.valueAt i
  | none => .null

/-- Sets the value of a field. -/
def set (r : Record) (name : String) (v : Value) : Result Record :=
  match r.definition.fieldIndex? name with
  | some i => .ok (r.setAt i v)
  | none => .error (r.definition.missing name)

/-- Checks values against fields in order; the first value that its field does not take is the
error. -/
def checkAll : List Field → List Value → Result Unit
  | f :: fields, v :: values =>
    match f.validate v with
    | .ok _ => checkAll fields values
    | .error e => .error e
  | _, _ => .ok ()

/-- Checks every value against its field. -/
def validate (r : Record) : Result Unit :=
  checkAll r.definition.fields r.values

end Record

end TypedFilter
