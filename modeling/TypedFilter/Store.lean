import TypedFilter.Query.Run

/-!
A store of records in memory: definitions by path, and under each path the records that were put
there, in order.
-/

namespace TypedFilter

/-- A store. -/
structure Store where
  definitions : Keyed Definition := []
  tables : Keyed (List Record) := []

/-- The causes for which a store does not answer. -/
inductive StoreError where
  /-- No definition has the path. -/
  | unregistered (path : String)
  /-- A record does not keep its definition. -/
  | invalid (cause : FilterError)
  deriving DecidableEq, Repr

/-- What the user is told. -/
def StoreError.message : StoreError → String
  | .unregistered path => "No record definition registered for " ++ path
  | .invalid cause => cause.message

namespace Store

/-- The definition with a path. -/
def definition? (s : Store) (path : String) : Option Definition :=
  s.definitions.get? path

/-- The records under a path. -/
def records (s : Store) (path : String) : List Record :=
  (s.tables.get? path).getD []

/-- How many records there are under a path. -/
def size (s : Store) (path : String) : Nat :=
  (s.records path).length

/-- Registers a definition under its path; records that are there stay. -/
def register (s : Store) (d : Definition) : Store :=
  { s with definitions := s.definitions.put d.path d }

/-- Puts a record under the path of its definition, if there is a definition with the path and the
record keeps its own. -/
def insert (s : Store) (r : Record) : Except StoreError Store :=
  let path := r.definition.path
  if (s.definition? path).isNone then .error (.unregistered path)
  else match r.validate with
    | .error e => .error (.invalid e)
    | .ok _ => .ok { s with tables := s.tables.put path (s.records path ++ [r]) }

/-- Records under another path. -/
def relabel (d : Definition) (records : List Record) : List Record :=
  records.map fun r => .ofValues d r.values

/-- The records that a query finds. A query without a definition takes that of its path. -/
def query (s : Store) (q : Query) : Except StoreError (List Record) :=
  match s.definition? q.path with
  | none => .error (.unregistered q.path)
  | some registered =>
    let q := if q.definition.isSome then q else q.withDefinition registered
    let found := q.filter (s.records q.path)
    match q.label, q.definition with
    | some label, some d => .ok (relabel (d.renamed label) found)
    | _, _ => .ok found

end Store

end TypedFilter
