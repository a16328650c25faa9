import TypedFilter.Json.Members
import TypedFilter.Schema.Definition
import TypedFilter.Value.Json

/-!
Definitions described in JSON documents.
-/

namespace TypedFilter

/-- The description of a code. -/
structure CodeDescription where
  id : Json
  values : List Json

/-- The description of a code table. -/
structure CodeTableDescription where
  name : String
  codes : List CodeDescription

/-- The description of a field. -/
structure FieldDescription where
  name : String
  type : String
  length : Option UInt32
  scale : Option UInt32
  required : Bool
  title : Option String
  description : Option String
  minimum : Option Json
  maximum : Option Json
  default : Option Json
  allowed : List Json
  codeTable : Option CodeTableDescription

/-- The description of a definition. -/
structure Description where
  path : String
  srid : Option UInt32
  scale : Option Double
  idFields : List String
  fields : List FieldDescription

/-- Why a definition cannot be made from a description. -/
inductive DescriptionError where
  /-- The text is no description. -/
  | unreadable
  | unknownType (type : String) (field : String)
  | badIdFields (path : String) (cause : FilterError)
  deriving DecidableEq, Repr

namespace DescriptionError

/-- What the user is told. -/
def message : DescriptionError → String
  | .unreadable => "Failed to parse schema description"
  | .unknownType type field => "Unknown type '" ++ type ++ "' for field '" ++ field ++ "'"
  | .badIdFields path _ => "Invalid id fields for " ++ path

/-- What is behind the message. -/
def causes : DescriptionError → List String
  | .badIdFields _ cause => [cause.message]
  | _ => []

end DescriptionError

/-! ### Reading descriptions

Values inside a description may nest less deeply the deeper they stand in it. -/

open Json in
/-- Reads the description of a code. -/
def CodeDescription.ofJson? (j : Json) : Option CodeDescription := do
  let members ← j.members? ["id", "values"]
  let id ← required? (asUsable? (maxDepth - 6)) members 0
  let values ← required? (asArray? (asUsable? (maxDepth - 7))) members 1
  some ⟨id, values⟩

open Json in
/-- Reads the description of a code table. -/
def CodeTableDescription.ofJson? (j : Json) : Option CodeTableDescription := do
  let members ← j.members? ["name", "codes"]
  let name ← required? asText? members 0
  let codes ← withDefault? [] (asArray? CodeDescription.ofJson?) members 1
  some ⟨name, codes⟩

open Json in
/-- Reads the description of a field. -/
def FieldDescription.ofJson? (j : Json) : Option FieldDescription := do
  let members ← j.members? ["name", "type", "length", "scale", "required", "title", "description",
    "min", "max", "default", "allowed_values", "code_table"]
  let value := asUsable? (maxDepth - 3)
  let name ← required? asText? members 0
  let type ← required? asText? members 1
  let length ← optional? asUInt32? members 2
  let scale ← optional? asUInt32? members 3
  let required ← withDefault? false asBoolean? members 4
  let title ← optional? asText? members 5
  let description ← optional? asText? members 6
  let minimum ← optional? value members 7
  let maximum ← optional? value members 8
  let default ← optional? value members 9
  let allowed ← withDefault? [] (asArray? (asUsable? (maxDepth - 4))) members 10
  let codeTable ← optional? CodeTableDescription.ofJson? members 11
  some ⟨name, type, length, scale, required, title, description, minimum, maximum, default, allowed,
    codeTable⟩

open Json in
/-- Reads the description of a definition. -/
def Description.ofJson? (j : Json) : Option Description := do
  let members ← j.members? ["path", "srid", "scale", "id_fields", "fields"]
  let path ← required? asText? members 0
  let srid ← optional? asUInt32? members 1
  let scale ← optional? asDouble? members 2
  let idFields ← withDefault? [] (asArray? asText?) members 3
  let fields ← required? (asArray? FieldDescription.ofJson?) members 4
  some ⟨path, srid, scale, idFields, fields⟩

/-- Reads the text of a description. -/
def Description.ofText (s : String) : Except DescriptionError Description :=
  match (Json.ofText? s).bind Description.ofJson? with
  | some d => .ok d
  | none => .error .unreadable

/-! ### Making definitions -/

/-- The code table that is described. -/
def CodeTableDescription.table (t : CodeTableDescription) : CodeTable :=
  .ofCodes t.name (t.codes.map fun c => (Value.ofJson c.id, c.values.map Value.ofJson))

/-- The field that is described. -/
def FieldDescription.field (d : FieldDescription) : Except DescriptionError Field :=
  match DataType.ofName? d.type with
  | none => .error (.unknownType d.type d.name)
  | some type =>
    let f := Field.ofType d.name type
    let f := { f with
      length := d.length.getD 0
      scale := d.scale.getD 0
      required := d.required
      title := d.title.getD f.title
      description := d.description }
    let set (with_ : Field → Value → Field) (f : Field) : Option Json → Field
      | none => f
      | some j => with_ f (.ofJson j)
    let f := set Field.withMinimum f d.minimum
    let f := set Field.withMaximum f d.maximum
    let f := set Field.withDefault f d.default
    let f := d.allowed.foldl (fun f j => f.withAllowed (.ofJson j)) f
    .ok { f with codeTable := d.codeTable.map (·.table) }

/-- The definition that is described, and the grids after it has asked for its own. -/
def Description.definition (d : Description) (edition : Nat) (grids : GridCache) :
    Except DescriptionError (Definition × GridCache) := do
  let fields ← d.fields.mapM FieldDescription.field
  let definition := Definition.ofFields d.path edition fields
  let definition ←
    if d.idFields.isEmpty then .ok definition
    else (definition.setIdFields d.idFields).mapError (.badIdFields d.path)
  match d.srid with
  | none => .ok (definition, grids)
  | some srid =>
    let (grid, _, grids) := grids.get srid.toNat (d.scale.getD (.zero false))
    .ok ({ definition with grid := some grid }, grids)

end TypedFilter
