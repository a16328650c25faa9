import TypedFilter.Expr.Clause
import TypedFilter.Schema.Record

/-!
Queries: a condition on the records of one definition, and which of their fields are wanted, in what
order and how many at a time. Conditions that come to a query with a definition are bound to it.
-/

namespace TypedFilter

/-- Whether the records that are found are locked, and against what. -/
inductive LockMode where
  | none | share | update
  deriving DecidableEq, Repr

/-- A column that records are sorted by. -/
structure SortKey where
  name : String
  ascending : Bool := true
  deriving DecidableEq, Repr

/-- A query. -/
structure Query where
  /-- The path of the records' definition. -/
  path : String
  definition : Option Definition := none
  fieldNames : List String := []
  condition : Expr := .all
  sortKeys : List SortKey := []
  limit : Option Nat := none
  offset : Nat := 0
  lock : LockMode := .none
  distinct : Bool := false
  /-- Stands in place of the table. -/
  fromClause : Option String := none
  /-- Stands in place of the whole statement. -/
  sql : Option String := none
  /-- What a statement is given ahead of the parameters of the condition. -/
  parameters : List Value := []
  /-- The path that the records found are given. -/
  label : Option String := none
  deriving DecidableEq

namespace Query

/-! ### Order -/

/-- Adds a column to sort by; one that is there already changes its direction alone. -/
def addSortKey (q : Query) (name : String) (ascending : Bool) : Query :=
  if q.sortKeys.any (·.name == name) then
    { q with sortKeys := q.sortKeys.map fun k => if k.name = name then { k with ascending } else k }
  else { q with sortKeys := q.sortKeys ++ [⟨name, ascending⟩] }

/-- Adds columns to sort by, with the least value first. -/
def addSortNames (q : Query) (names : List String) : Query :=
  names.foldl (fun q name => q.addSortKey name true) q

/-- Sorts by columns with the least value first, and by nothing else. -/
def sortByNames (q : Query) (names : List String) : Query :=
  { q with sortKeys := [] }.addSortNames names

/-- Sorts by the fields that identify a record too. -/
def addSortId (q : Query) : Query :=
  match q.definition with
  | none => q
  | some d => q.addSortNames ((d.fieldsAt d.idIndexes).map (·.name))

/-! ### Making queries -/

/-- Every record at a path. -/
def ofPath (path : String) : Query :=
  { path := path }

/-- Every record of a definition. -/
def ofDefinition (d : Definition) : Query :=
  { path := d.path, definition := some d }

/-- Every record at a path, sorted by columns. -/
def ofSortNames (path : String) (names : List String) : Query :=
  (ofPath path).sortByNames names

/-- The records at a path for which a condition is true. -/
def ofCondition (path : String) (condition : Expr) : Query :=
  { path := path, condition := condition }

/-- The records in which a field has a value, if there is such a field. -/
def ofEqual? (d : Definition) (name : String) (v : Value) : Option Query :=
  (d.field? name).map fun f => { ofDefinition d with condition := .fieldEqual f v }

/-- The records that meet an extent, if they have a geometry. -/
def ofExtent? (d : Definition) (box : BoundingBox) : Option Query :=
  d.geometryField?.map fun f =>
    { ofDefinition d with
      condition := .call .envelopeIntersects [.ofField f, .ofValue (.box box)] }

/-- The records in which every one of some columns has its value. -/
def ofAllPairs (d : Definition) (pairs : List (String × Value)) : Query :=
  { ofDefinition d with condition := .allPairs (some d) pairs }

/-- The records in which one of some columns has its value. -/
def ofAnyPair (d : Definition) (pairs : List (String × Value)) : Query :=
  { ofDefinition d with condition := .anyPair (some d) pairs }

/-! ### Conditions -/

/-- A condition bound to the definition of the query. -/
def bindCondition (q : Query) (e : Expr) : Expr :=
  match q.definition with
  | some d => e.bind d
  | none => e

/-- The query on the records of a definition. -/
def withDefinition (q : Query) (d : Definition) : Query :=
  { q with path := d.path, definition := some d, condition := q.condition.bind d }

/-- The query with another condition. -/
def withCondition (q : Query) (e : Expr) : Query :=
  { q with condition := q.bindCondition e }

/-- The query with the condition that a clause means. -/
def withClause (q : Query) (clause : String) : Result Query :=
  (Expr.ofClause q.definition clause).map fun e => { q with condition := e }

/-- The query with one condition more. -/
def andAlso (q : Query) (e : Expr) : Query :=
  { q with condition := q.condition.andAlso (q.bindCondition e) }

/-- The query with another condition as an alternative. -/
def orElse (q : Query) (e : Expr) : Query :=
  { q with condition := q.condition.orElse (q.bindCondition e) }

/-! ### Fields -/

/-- Adds a field to those that are wanted, once. -/
def addFieldName (q : Query) (name : String) : Query :=
  if q.fieldNames.contains name then q else { q with fieldNames := q.fieldNames ++ [name] }

/-- Says which fields are wanted. -/
def withFieldNames (q : Query) (names : List String) : Query :=
  names.foldl addFieldName { q with fieldNames := [] }

/-- The fields that are wanted. No name at all and the name `*` stand for all of them; a name that
no field has is left out. -/
def fields (q : Query) : List Field :=
  match q.definition with
  | none => []
  | some d =>
    if q.fieldNames.isEmpty then d.fields
    else q.fieldNames.flatMap fun name =>
      if name = "*" then d.fields else (d.field? name).toList

end Query

end TypedFilter
