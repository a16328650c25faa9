import TypedFilter.Expr.Literals
import TypedFilter.Query.Basic

/-!
Queries as SELECT statements with places for parameters.
-/

namespace TypedFilter

/-- A statement and the values for its places, in order. -/
structure Statement where
  sql : String
  parameters : List Value

/-- The statement with its parameters behind it, if it has any. -/
def Statement.text (s : Statement) : String :=
  if s.parameters.isEmpty then s.sql
  else s.sql ++ " [" ++ String.intercalate ", " (s.parameters.map Value.text) ++ "]"

/-- The end of a statement that locks records. -/
def LockMode.text : LockMode → String
  | .none => ""
  | .share => " FOR SHARE"
  | .update => " FOR UPDATE"

/-- The column in a list of those that are sorted by. -/
def SortKey.text (k : SortKey) : String :=
  if k.ascending then Sql.quoteName k.name else Sql.quoteName k.name ++ " DESC"

namespace Query

/-- The table for a path: its segments with points between them. -/
def tableOfPath (path : String) : String :=
  String.ofList ((path.toList.dropWhile (· == '/')).map fun c => if c = '/' then '.' else c)

/-- The columns of every field. -/
def allColumns (q : Query) : List String :=
  match q.definition with
  | none => ["*"]
  | some d => if d.fields.isEmpty then ["*"] else d.fields.map fun f => Sql.quoteName f.name

/-- The columns that are wanted. -/
def columns (q : Query) : String :=
  String.intercalate ", "
    (if q.fieldNames.isEmpty then q.allColumns
    else q.fieldNames.flatMap fun name =>
      if name = "*" then q.allColumns else [Sql.quoteName name])

/-- The part of the statement that says which table is selected from. -/
def fromText (q : Query) : String :=
  " FROM " ++ q.fromClause.getD (tableOfPath q.path)

/-- The part of the statement that says which records are selected; none if all are. -/
def whereText (q : Query) : String :=
  if q.condition.isEmptyCondition then "" else " WHERE " ++ q.condition.sql

/-- The part of the statement that says how records are sorted. -/
def orderText (q : Query) : String :=
  if q.sortKeys.isEmpty then ""
  else " ORDER BY " ++ String.intercalate ", " (q.sortKeys.map SortKey.text)

/-- The part of the statement that says how many records are left out and how many follow. -/
def pageText (q : Query) : String :=
  (if q.offset = 0 then "" else " OFFSET " ++ natText q.offset) ++
    match q.limit with
    | none => ""
    | some n => " LIMIT " ++ natText n

/-- The statement that the query makes of its parts. -/
def generatedSql (q : Query) : String :=
  "SELECT " ++ (if q.distinct then "DISTINCT " else "") ++ q.columns ++ q.fromText ++
    q.whereText ++ q.orderText ++ q.pageText ++ q.lock.text

/-- The start of a statement that selects all columns. -/
def selectAll : String := "SELECT * FROM "

/-- A statement given as a whole; the star at its start stands for the columns of the query. -/
def explicitSql (q : Query) (sql : String) : String :=
  let size := selectAll.length
  let start := String.ofList (sql.toList.take size)
  let statement :=
    if Text.lowercaseAscii start = Text.lowercaseAscii selectAll then
      "SELECT " ++ q.columns ++ " FROM " ++ String.ofList (sql.toList.drop size)
    else sql
  statement ++ q.orderText

/-- The statement. -/
def selectSql (q : Query) : String :=
  match q.sql with
  | some sql => q.explicitSql sql
  | none => q.generatedSql

/-- The statement with its parameters: those of the query, then those of the condition unless the
statement is given as a whole. -/
def statement (q : Query) : Statement :=
  ⟨q.selectSql, if q.sql.isSome then q.parameters else q.condition.addParameters q.parameters⟩

end Query

end TypedFilter
