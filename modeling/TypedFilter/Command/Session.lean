import TypedFilter.Query.Run
import TypedFilter.Query.Statement
import TypedFilter.Schema.Description

/-!
The command: it shows the statement that a clause makes on the definition that a document describes,
and, if it is given records, those that the clause is true of.
-/

namespace TypedFilter.Command

/-- What the command is asked for. The descriptions are the texts of documents. -/
structure Request where
  schema : String
  clause : String := ""
  records : Option String := none
  /-- Columns to sort by; a hyphen before a name puts the greatest value first. -/
  sortBy : List String := []
  limit : Option Nat := none
  offset : Nat := 0

/-- Why the command stops: what the user is told first, and what is behind that. -/
structure Failure where
  message : String
  causes : List String := []
  deriving DecidableEq

/-- What the command shows before it ends or stops. -/
structure Outcome where
  lines : List String
  failure : Option Failure := none
  deriving DecidableEq

/-- The failure for a description without a definition. -/
def Failure.ofDescription (e : DescriptionError) : Failure :=
  ⟨e.message, e.causes⟩

/-- The failure as it is shown, with every cause on a line of its own. -/
def Failure.text (f : Failure) : String :=
  let causes := match f.causes with
    | [] => ""
    | [cause] => "\n\nCaused by:\n    " ++ cause
    | causes => "\n\nCaused by:" ++ String.join
        (causes.mapIdx fun i cause => "\n    " ++ natText i ++ ": " ++ cause)
  "Error: " ++ f.message ++ causes

/-! ### Queries -/

/-- Adds a column to sort by. -/
def addSortBy (q : Query) (key : String) : Query :=
  match key.toList with
  | '-' :: name => q.addSortKey (String.ofList name) false
  | _ => q.addSortKey key true

/-- The query that is asked for. -/
def Request.query (r : Request) (d : Definition) : Except Failure Query :=
  match (Query.ofDefinition d).withClause r.clause with
  | .error e => .error ⟨"Invalid WHERE clause: " ++ r.clause, [e.message]⟩
  | .ok q => .ok { r.sortBy.foldl addSortBy q with limit := r.limit, offset := r.offset }

/-- The lines that show a statement. -/
def statementLines (s : Statement) : List String :=
  s.sql :: s.parameters.mapIdx fun i v => "  $" ++ natText (i + 1) ++ " = " ++ v.text

/-! ### Records -/

/-- Sets fields from the members of a document. -/
def setMembers (r : Record) : List (String × Json) → Result Record
  | [] => .ok r
  | (name, j) :: rest => do
    let r ← r.set name (.ofJson j)
    setMembers r rest

/-- The record that a document describes; `place` is its place among the others. -/
def readRecord (d : Definition) (place : Nat) : Json → Except Failure Record
  | .object members =>
    (setMembers (.ofDefaults d) (Json.sortMembers members)).mapError fun e =>
      ⟨"Record " ++ natText place, [e.message]⟩
  | _ => .error ⟨"Record " ++ natText place ++ " is not a JSON object", []⟩

/-- The records that documents describe, the first of which has a place. -/
def readRecordsFrom (d : Definition) (place : Nat) : List Json → Except Failure (List Record)
  | [] => .ok []
  | j :: rest => do
    let r ← readRecord d place j
    let records ← readRecordsFrom d (place + 1) rest
    .ok (r :: records)

/-- The records in a text. -/
def readRecords (d : Definition) (text : String) : Except Failure (List Record) :=
  match Json.usableOfText? text with
  | some (.array items) => readRecordsFrom d 0 items
  | _ => .error ⟨"Records file must hold a JSON array", []⟩

/-- The line that shows a record. -/
def recordLine (d : Definition) (r : Record) : String :=
  String.intercalate ", " (d.fieldNames.map fun name => name ++ "=" ++ (r.value name).text)

/-! ### The command -/

/-- What the command shows for a definition. -/
def Request.runOn (r : Request) (d : Definition) : Outcome :=
  match r.query d with
  | .error f => ⟨[], some f⟩
  | .ok q =>
    let shown := statementLines q.statement
    match r.records with
    | none => ⟨shown, none⟩
    | some text =>
      match readRecords d text with
      | .error f => ⟨shown, some f⟩
      | .ok records => ⟨shown ++ (q.filter records).map (recordLine d), none⟩

/-- Runs the command. -/
def Request.run (r : Request) : Outcome :=
  match Description.ofText r.schema with
  | .error e => ⟨[], some (.ofDescription e)⟩
  | .ok description =>
    match description.definition 0 {} with
    | .error e => ⟨[], some (.ofDescription e)⟩
    | .ok (d, _) => r.runOn d

end TypedFilter.Command
