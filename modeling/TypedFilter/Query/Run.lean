import TypedFilter.Expr.Eval
import TypedFilter.Expr.Extent
import TypedFilter.Query.Basic
import TypedFilter.Value.Compare

/-!
Running a query on records in memory.
-/

namespace TypedFilter

namespace Value

/-- The order that records are sorted by: nothing comes first, and values without an order in common
are as good as equal. -/
def sortOrder (a b : Value) : Ordering :=
  if a.isNull then if b.isNull then .eq else .lt
  else if b.isNull then .gt
  else (a.compare? b).getD .eq

end Value

namespace SortKey

/-- The order of two records by one column. -/
def order (k : SortKey) (a b : Record) : Ordering :=
  let o := (a.value k.name).sortOrder (b.value k.name)
  if k.ascending then o else o.swap

end SortKey

/-- The order of two records by columns: that of the first one in which they differ. -/
def orderBy : List SortKey → Record → Record → Ordering
  | [], _, _ => .eq
  | k :: ks, a, b =>
    match k.order a b with
    | .eq => orderBy ks a b
    | o => o

/-- Puts a record among sorted ones, the greatest of which comes first: after all that are less or
equal. -/
def insertRecord (order : Record → Record → Ordering) (r : Record) : List Record → List Record
  | [] => [r]
  | s :: rest => if order r s = .lt then s :: insertRecord order r rest else r :: s :: rest

/-- Sorts records; equal ones stay in their order. -/
def sortRecords (order : Record → Record → Ordering) (records : List Record) : List Record :=
  (records.foldl (fun sorted r => insertRecord order r sorted) []).reverse

namespace Query

/-- The records in the order that the query asks for. -/
def sort (q : Query) (records : List Record) : List Record :=
  if q.sortKeys.isEmpty then records else sortRecords (orderBy q.sortKeys) records

/-- The part of a list that the query asks for. -/
def page {α : Type} (q : Query) (items : List α) : List α :=
  let rest := items.drop q.offset
  match q.limit with
  | none => rest
  | some n => rest.take n

/-- The records for which the condition is true, sorted, and of those the part that is asked for. -/
def filter (q : Query) (records : List Record) : List Record :=
  q.page (q.sort (records.filter q.condition.test))

/-- The extent of the condition, grown to the grid of the definition if it has one. -/
def boundingBox (q : Query) : Option BoundingBox :=
  q.condition.boundingBox.map fun box =>
    match q.definition.bind (·.grid) with
    | some grid => grid.snap box
    | none => box

end Query

end TypedFilter
