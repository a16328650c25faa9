import TypedFilter.Schema.Field
import TypedFilter.Geometry.Grid

/-!
Definitions of records: the fields in order, found by name in any case, and what is known of them
besides. Fields are added or replaced in place and never taken away. Main statement: the place that
is held for a name is that of the first field with it.
-/

namespace TypedFilter

/-- What a name is found by: its lower-case form. -/
def Definition.nameKey (name : String) : String :=
  Text.lowercase name

/-- The places of some fields, by name in lower case. -/
def Definition.placesOf (fields : List Field) : Keyed Nat :=
  (fields.map fun f => nameKey f.name).zipIdx

/-- The definition of one kind of record. -/
structure Definition where
  path : String
  /-- Tells definitions apart that are built separately. -/
  edition : Nat := 0
  /-- The number that the next field gets. -/
  nextRevision : Nat := 0
  fields : List Field := []
  /-- Where each field is, by name in lower case. -/
  places : Keyed Nat := Definition.placesOf fields
  /-- Whatever is done to the fields, their places are kept in step. -/
  places_eq : places = Definition.placesOf fields := by rfl
  geometryIndexes : List Nat := []
  idIndexes : List Nat := []
  /-- Values of new records, by field name in lower case. -/
  defaults : Keyed Value := []
  /-- Code tables for fields that have none of their own, by field name in lower case. -/
  codeTables : Keyed CodeTable := []
  grid : Option GeometryGrid := none
  deriving DecidableEq

namespace Definition

/-! ### Looking fields up -/

/-- The place of the field with a name in any case. -/
def fieldIndex? (d : Definition) (name : String) : Option Nat :=
  d.places.get? (nameKey name)

/-- The field with a name in any case. -/
def field? (d : Definition) (name : String) : Option Field :=
  (d.fieldIndex? name).bind fun i => d.fields[i]?

/-- The names of the fields in order. -/
def fieldNames (d : Definition) : List String :=
  d.fields.map (·.name)

/-- The last segment of the path. -/
def name (d : Definition) : String :=
  String.ofList (d.path.toList.reverse.takeWhile (· != '/')).reverse

/-- The geometry field that stands for the record: the first that was added. -/
def geometryField? (d : Definition) : Option Field :=
  d.geometryIndexes.head?.bind fun i => d.fields[i]?

/-- The fields at some places. -/
def fieldsAt (d : Definition) (places : List Nat) : List Field :=
  places.filterMap fun i => d.fields[i]?

/-- The field that identifies a record alone. -/
def idField? (d : Definition) : Option Field :=
  match d.idIndexes with
  | [i] => d.fields[i]?
  | _ => none

/-- The value of a field in new records. -/
def default? (d : Definition) (name : String) : Option Value :=
  d.defaults.get? (nameKey name)

/-- The code table of a field: its own, or else the one registered for its name. -/
def codeTable? (d : Definition) (name : String) : Option CodeTable :=
  ((d.field? name).bind (·.codeTable)) <|> d.codeTables.get? (nameKey name)

/-- The definition has no field of a name. -/
def missing (d : Definition) (name : String) : FilterError :=
  .unknownColumn name d.path

/-! ### Places of fields -/

theorem placesOf_concat (fields : List Field) (f : Field) :
    placesOf (fields ++ [f]) = placesOf fields ++ [(nameKey f.name, fields.length)] := by
  simp [placesOf, List.zipIdx_append]

/-- The first field that is found by a key is the one whose place is held for it. -/
theorem get?_placesOf (fields : List Field) (key : String) :
    (placesOf fields).get? key = fields.findIdx? fun f => nameKey f.name == key := by
  have hfrom : ∀ n, Keyed.get? ((fields.map fun f => nameKey f.name).zipIdx n) key =
      (fields.findIdx? fun f => nameKey f.name == key).map (· + n) := by
    induction fields with
    | nil => exact fun n => rfl
    | cons f fields ih =>
      intro n
      rw [List.map_cons, List.zipIdx_cons, Keyed.get?_cons, ih, List.findIdx?_cons]
      by_cases h : key = nameKey f.name
      · simp [h]
      · simp only [h, Ne.symm h, if_false, beq_iff_eq, Option.map_map, Function.comp_def,
          Nat.add_right_comm, Nat.add_assoc]
  exact (hfrom 0).trans (Option.map_id' ..)

theorem fieldIndex?_eq (d : Definition) (name : String) :
    d.fieldIndex? name = d.fields.findIdx? fun f => nameKey f.name == nameKey name := by
  rw [fieldIndex?, d.places_eq, get?_placesOf]

/-- A field in the place of one with its name. -/
theorem placesOf_set {fields : List Field} {i : Nat} {f : Field}
    (h : (placesOf fields).get? (nameKey f.name) = some i) :
    placesOf (fields.set i f) = placesOf fields := by
  rw [get?_placesOf] at h
  obtain ⟨hlt, hfound, -⟩ := List.findIdx?_eq_some_iff_getElem.1 h
  have hkeys : (fields.set i f).map (fun f => nameKey f.name) =
      fields.map fun f => nameKey f.name := by
    have hi : i < (fields.map fun f => nameKey f.name).length := by simpa using hlt
    have hkey : (fields.map fun f => nameKey f.name)[i] = nameKey f.name := by
      simpa using hfound
    rw [List.map_set, ← hkey, List.set_getElem_self]
  rw [placesOf, hkeys]
  rfl

/-- A field that changes and keeps its name. -/
theorem placesOf_modify (fields : List Field) (i : Nat) {change : Field → Field}
    (h : ∀ f, (change f).name = f.name) :
    placesOf (fields.modify i change) = placesOf fields := by
  have hkeys : (fields.modify i change).map (fun f => nameKey f.name) =
      fields.map fun f => nameKey f.name := by
    refine List.ext_getElem (by simp) fun j _ _ => ?_
    simp only [List.getElem_map, List.getElem_modify]
    split <;> simp only [h]
  rw [placesOf, hkeys]
  rfl

/-! ### Changing a definition -/

/-- The field as it stands at a place of the definition: it takes the code table registered for its
name if it has none, and gets a version of its own. -/
def prepare (d : Definition) (index : Nat) (f : Field) : Field :=
  { f with
    index := index
    codeTable := f.codeTable <|> d.codeTables.get? (nameKey f.name)
    version := ⟨d.edition, d.nextRevision⟩ }

/-- Adds a field after all others; its name has to be a new one. -/
def append (d : Definition) (f : Field) (h : d.fieldIndex? f.name = none) : Definition :=
  let index := d.fields.length
  { d with
    nextRevision := d.nextRevision + 1
    fields := d.fields ++ [d.prepare index f]
    places := d.places.put (nameKey f.name) index
    places_eq := by
      rw [Keyed.put_of_get?_eq_none index h, d.places_eq, placesOf_concat]
      rfl
    geometryIndexes :=
      if f.type.isGeometry then d.geometryIndexes ++ [index] else d.geometryIndexes
    defaults := match f.default with
      | some v => d.defaults.put (nameKey f.name) v
      | none => d.defaults }

/-- Puts a field in the place of the one with its name. The order of the geometry fields is that in
which they became geometry fields. -/
def install (d : Definition) (index : Nat) (f : Field) (h : d.fieldIndex? f.name = some index) :
    Definition :=
  { d with
    nextRevision := d.nextRevision + 1
    fields := d.fields.set index (d.prepare index f)
    places_eq := d.places_eq.trans
      (placesOf_set (f := d.prepare index f) (d.places_eq ▸ h)).symm
    geometryIndexes :=
      if f.type.isGeometry then
        if d.geometryIndexes.contains index then d.geometryIndexes
        else d.geometryIndexes ++ [index]
      else d.geometryIndexes.filter (· != index)
    defaults := match f.default with
      | some v => d.defaults.put (nameKey f.name) v
      | none => d.defaults.erase (nameKey f.name) }

/-- Adds a field, or replaces the one with its name. -/
def addField (d : Definition) (f : Field) : Definition :=
  match h : d.fieldIndex? f.name with
  | some i => d.install i f h
  | none => d.append f h

/-- Replaces the field with the name of the given one. -/
def replaceField (d : Definition) (f : Field) : Result Definition :=
  match h : d.fieldIndex? f.name with
  | some i => .ok (d.install i f h)
  | none => .error (d.missing f.name)

/-- A definition with fields added in order. -/
def ofFields (path : String) (edition : Nat) (fields : List Field) : Definition :=
  fields.foldl addField { path := path, edition := edition }

/-- The places of fields by name; the first name without a field is the error. -/
def indexesOf (d : Definition) : List String → Result (List Nat)
  | [] => .ok []
  | name :: rest =>
    match d.fieldIndex? name with
    | none => .error (d.missing name)
    | some i => (d.indexesOf rest).map (i :: ·)

/-- Says which fields identify a record. -/
def setIdFields (d : Definition) (names : List String) : Result Definition :=
  (d.indexesOf names).map fun places => { d with idIndexes := places }

/-- Sets the value of a field in new records. -/
def setDefault (d : Definition) (name : String) (v : Value) : Result Definition :=
  match d.field? name with
  | none => .error (d.missing name)
  | some f => (f.store v).map fun w => { d with defaults := d.defaults.put (nameKey name) w }

/-- Registers a code table for a name. A field of the name that has none takes it. -/
def registerCodeTable (d : Definition) (name : String) (table : CodeTable) : Definition :=
  let d := { d with codeTables := d.codeTables.put (nameKey name) table }
  match d.fieldIndex? name with
  | none => d
  | some i =>
    { d with
      nextRevision := d.nextRevision + 1
      fields := d.fields.modify i fun f =>
        if f.codeTable.isSome then f
        else { f with
          codeTable := some table
          version := ⟨d.edition, d.nextRevision⟩ }
      places_eq := d.places_eq.trans
        (placesOf_modify d.fields i fun f => by split <;> rfl).symm }

/-- The same definition under another path; its fields stay the same. -/
def renamed (d : Definition) (path : String) : Definition :=
  { d with path := path }

end Definition

end TypedFilter
