import TypedFilter.Value.Text

/-!
What can go wrong while conditions are built, read and bound and while records are checked.
-/

namespace TypedFilter

/-- The causes of failure. -/
inductive FilterError where
  /-- A definition has no field of the name. -/
  | unknownColumn (name : String) (schema : String)
  /-- A field or a type does not take a value; the value is given as the text of its literal. -/
  | badValue (field : String) (value : String) (reason : String)
  /-- The text means something that conditions do not offer. -/
  | unsupported (construct : String)
  /-- The text does not follow the grammar. -/
  | malformed (message : String)
  deriving DecidableEq, Repr

namespace FilterError

/-- A field or a type does not take a value. -/
def rejected (field : String) (value : Value) (reason : String) : FilterError :=
  .badValue field value.text reason

/-- What the user is told. -/
def message : FilterError → String
  | .unknownColumn name schema => "Column '" ++ name ++ "' does not exist in " ++ schema
  | .badValue field value reason => "Invalid value " ++ value ++ " for " ++ field ++ ": " ++ reason
  | .unsupported construct => "Unsupported construct: " ++ construct
  | .malformed text => "Syntax error: " ++ text

/-- Says of a value that is not taken which field it was meant for. -/
def forField (name : String) : FilterError → FilterError
  | .badValue _ value reason => .badValue name value reason
  | e => e

end FilterError

/-- A result, or what went wrong. -/
abbrev Result := Except FilterError

end TypedFilter
