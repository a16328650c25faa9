import TypedFilter.Json.Basic
import TypedFilter.Value.Basic

/-!
Values from JSON documents.
-/

namespace TypedFilter.Value

/-- The closest value to a number: 32 bits where they suffice, then 64, then floating point. -/
def ofJsonNumber : JsonNumber → Value
  | .whole n =>
    (ofInt? .int n <|> ofInt? .long n).getD (.double (.ofInt .double n))
  | .real x => .double x
  | .tooLarge => .null

mutual

/-- The closest value to a document; an object is kept as its text. -/
def ofJson : Json → Value
  | .null | .broken => .null
  | .boolean b => .boolean b
  | .number n => ofJsonNumber n
  | .string s => .string s
  | .array items => .list (ofJsonItems items)
  | .object members => .string (Json.object members).text

/-- The closest values to the items of an array. -/
def ofJsonItems : List Json → List Value
  | [] => []
  | j :: rest => ofJson j :: ofJsonItems rest

end

end TypedFilter.Value
