import TypedFilter.Keyed
import TypedFilter.Text.Escaped
import TypedFilter.Text.Lowercase
import TypedFilter.Value.Number
import TypedFilter.Value.Text

/-!
Code tables: identifiers that records hold, and the values that are shown for them. Texts are looked
up in any case and numbers in any width and with any number of places.
-/

namespace TypedFilter

/-- A code table. Codes stay in the order in which they came; two indexes lead from the key of an
identifier and from the key of its display values to the place of the code. -/
structure CodeTable where
  name : String
  codes : List (Value × List Value) := []
  byId : Keyed Nat := []
  byValues : Keyed Nat := []
  deriving DecidableEq

namespace CodeTable

/-- The key of one value: a number in its one form, any other value as text in lower case. -/
def partKey (v : Value) : String :=
  match v.toDecimal? with
  | some d => d.normalize.text
  | none => Text.lowercase v.plainText

/-- Stands between the keys of the parts of a display value. -/
def separator : String := "\x1f"

/-- The key of a display value of any number of parts. -/
def key (parts : List Value) : String :=
  String.intercalate separator (parts.map partKey)

/-- The display values of the code at a place. -/
def valuesAt (t : CodeTable) (place : Nat) : List Value :=
  match t.codes[place]? with
  | some (_, values) => values
  | none => []

/-- The identifier of the code at a place. -/
def identifierAt? (t : CodeTable) (place : Nat) : Option Value :=
  t.codes[place]?.map Prod.fst

/-- Adds a code, or puts it in the place of the one with the same identifier, whose display values
are found no more. -/
def add (t : CodeTable) (id : Value) (values : List Value) : CodeTable :=
  let idKey := key [id]
  let (place, codes, byValues) :=
    match t.byId.get? idKey with
    | some i => (i, t.codes.set i (id, values), t.byValues.erase (key (t.valuesAt i)))
    | none => (t.codes.length, t.codes ++ [(id, values)], t.byValues)
  { t with
    codes := codes
    byId := t.byId.put idKey place
    byValues := byValues.put (key values) place }

/-- The table with codes added in order. -/
def ofCodes (name : String) (codes : List (Value × List Value)) : CodeTable :=
  codes.foldl (fun t code => t.add code.1 code.2) { name := name }

/-- How many codes there are. -/
def size (t : CodeTable) : Nat :=
  t.codes.length

/-- The table in one line: its name, and how many codes it has. -/
def summary (t : CodeTable) : String :=
  "MemoryCodeTable \x7b name: " ++ Text.shown t.name ++ ", codes: " ++ natText t.size ++ " \x7d"

/-- The identifiers in order. -/
def identifiers (t : CodeTable) : List Value :=
  t.codes.map Prod.fst

/-- The identifier for a display value. A single part that is an identifier itself stands for
itself; a display value without any part that is a value has none. -/
def identifier? (t : CodeTable) (parts : List Value) : Option Value :=
  if parts.all Value.isNull then none
  else
    let k := key parts
    let direct := if parts.length = 1 then t.byId.get? k else none
    (direct <|> t.byValues.get? k).bind t.identifierAt?

/-- The identifier for a display value of one part. -/
def identifierFor? (t : CodeTable) (v : Value) : Option Value :=
  t.identifier? [v]

/-- The display values of an identifier. -/
def values? (t : CodeTable) (id : Value) : Option (List Value) :=
  (t.byId.get? (key [id])).map t.valuesAt

/-- The first display value of an identifier. -/
def value? (t : CodeTable) (id : Value) : Option Value :=
  (t.values? id).bind List.head?

end CodeTable

end TypedFilter
