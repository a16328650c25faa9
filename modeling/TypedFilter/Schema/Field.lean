import TypedFilter.Schema.CodeTable
import TypedFilter.Text.Uppercase
import TypedFilter.Value.Compare

/-!
Fields of records: the declared type, the constraints on values, and the code table whose
identifiers are stored in place of what is shown.
-/

namespace TypedFilter

/-- Tells apart the states that the fields of definitions go through: the edition of the definition
and a number that rises with every field that is put into it. -/
structure FieldVersion where
  edition : Nat := 0
  revision : Nat := 0
  deriving DecidableEq, Repr

/-- A field of a record. Lengths count digits or characters; none is meant by zero. -/
structure Field where
  name : String
  title : String
  description : Option String := none
  index : Nat := 0
  type : DataType
  length : UInt32 := 0
  scale : UInt32 := 0
  required : Bool := false
  minimum : Option Value := none
  maximum : Option Value := none
  default : Option Value := none
  allowed : List (Value × String) := []
  codeTable : Option CodeTable := none
  version : FieldVersion := {}
  deriving DecidableEq

namespace Field

/-! ### Building fields -/

/-- A word with its first letter in upper case and the others in lower case. -/
def capitalize : List Char → List Char
  | [] => []
  | c :: rest => Text.uppercaseChar c ++ rest.flatMap Text.lowercaseChar

/-- The words of a name, which blanks and underscores stand between. -/
def nameWords (name : String) : List (List Char) :=
  (name.toList.splitBy fun a b => isBreak a == isBreak b).filter fun word =>
    !word.any isBreak
where
  /-- Whether the character stands between words. -/
  isBreak (c : Char) : Bool := c == '_' || Text.isBlank c

/-- The title of a field that has no other: the words of its name. -/
def titleOf (name : String) : String :=
  String.intercalate " " ((nameWords name).map fun word => String.ofList (capitalize word))

/-- A field without constraints. -/
def ofType (name : String) (type : DataType) : Field :=
  { name := name, title := titleOf name, type := type }

/-- Sets the least value that is taken. -/
def withMinimum (f : Field) (v : Value) : Field :=
  { f with minimum := some (f.type.convertLenient v) }

/-- Sets the greatest value that is taken. -/
def withMaximum (f : Field) (v : Value) : Field :=
  { f with maximum := some (f.type.convertLenient v) }

/-- Sets the value of new records. -/
def withDefault (f : Field) (v : Value) : Field :=
  { f with default := some (f.type.convertLenient v) }

/-- Adds a value to those that are taken, with the text that is shown for it. -/
def withAllowedText (f : Field) (v : Value) (text : String) : Field :=
  { f with allowed := f.allowed ++ [(f.type.convertLenient v, text)] }

/-- Adds a value to those that are taken; it is shown as its own text. -/
def withAllowed (f : Field) (v : Value) : Field :=
  f.withAllowedText v v.plainText

/-! ### Describing fields -/

/-- The type with its length and scale, as far as there are any. -/
def typeDescription (f : Field) : String :=
  if f.length = 0 then f.type.name
  else if f.scale = 0 then f.type.name ++ "(" ++ natText f.length.toNat ++ ")"
  else f.type.name ++ "(" ++ natText f.length.toNat ++ "," ++ natText f.scale.toNat ++ ")"

/-- How many characters a value can have; a number can have a sign and a point. -/
def maxTextLength (f : Field) : Option UInt32 :=
  if f.length = 0 then none
  else if f.type.isNumeric then some (f.length + (if f.scale > 0 then 1 else 0) + 1)
  else some f.length

/-! ### Values of a field -/

/-- The value as the field stores it: the identifier for what is shown, converted to the type. -/
def store (f : Field) (v : Value) : Result Value :=
  if v.isNull then .ok .null
  else
    let v := (f.codeTable.bind (·.identifierFor? v)).getD v
    (f.type.convert v).mapError (·.forField f.name)

/-- The value as the field stores it, or as it is if the field cannot store it. -/
def storeLenient (f : Field) (v : Value) : Value :=
  match f.store v with
  | .ok w => w
  | .error _ => v

/-- The field does not take a value. -/
def reject (f : Field) (v : Value) (reason : String) : Result Unit :=
  .error (.rejected f.name v reason)

/-- The decimal that the digits of a number are counted in: that of its text. -/
def digitsOf? : Value → Option Decimal
  | .float x => Decimal.ofChars? x.text.toList
  | .double x => Decimal.ofChars? x.text.toList
  | v => v.toDecimal?

/-- Checks how many digits a number has, and how many of them after the point. -/
def checkDigits (f : Field) (v : Value) : Result Unit :=
  match digitsOf? v with
  | none => .ok ()
  | some d =>
    if f.length = 0 then .ok ()
    else if f.length.toNat < d.precision then
      f.reject v ("precision " ++ natText d.precision ++ " > " ++ natText f.length.toNat)
    else if f.scale.toNat < d.scale then
      f.reject v ("scale " ++ natText d.scale ++ " > " ++ natText f.scale.toNat)
    else .ok ()

/-- Checks a value against the least one. -/
def checkMinimum (f : Field) (v : Value) : Result Unit :=
  match f.minimum with
  | none => .ok ()
  | some least =>
    if v.compare? least = some .lt then f.reject v ("< minimum " ++ least.text) else .ok ()

/-- Checks a value against the greatest one. -/
def checkMaximum (f : Field) (v : Value) : Result Unit :=
  match f.maximum with
  | none => .ok ()
  | some greatest =>
    if v.compare? greatest = some .gt then f.reject v ("> maximum " ++ greatest.text) else .ok ()

/-- Checks how many characters a text has. -/
def checkLength (f : Field) : Value → Result Unit
  | .string s =>
    if f.length ≠ 0 ∧ f.length.toNat < s.length then
      f.reject (.string s) ("length " ++ natText s.length ++ " > " ++ natText f.length.toNat)
    else .ok ()
  | _ => .ok ()

/-- Checks a value against the list of those that are taken, if there is one. -/
def checkAllowed (f : Field) (v : Value) : Result Unit :=
  if f.allowed.isEmpty || f.allowed.any (fun a => a.1.equal v) then .ok ()
  else f.reject v "not in the list of allowed values"

/-- Checks a value that the field stores against its constraints; with a code table that is the
only one. -/
def check (f : Field) (v : Value) : Result Unit :=
  match f.codeTable with
  | some table =>
    if (table.identifierFor? v).isSome then .ok ()
    else f.reject v
      ("Unable to find code for '" ++ v.plainText ++ "' in " ++ table.name)
  | none => do
    if f.type.isNumeric then
      f.checkDigits v
      f.checkMinimum v
      f.checkMaximum v
    else f.checkLength v
    f.checkAllowed v

/-- The value as the field stores it, if it keeps every constraint. -/
def validate (f : Field) (v : Value) : Result Value := do
  let v ← f.store v
  if v.isNull then
    if f.required then f.reject v "is required"
    return v
  f.check v
  return v

/-- Whether the field takes a value. -/
def isValid (f : Field) (v : Value) : Bool :=
  match f.validate v with
  | .ok _ => true
  | .error _ => false

end Field

end TypedFilter
