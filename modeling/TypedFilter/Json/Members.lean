import TypedFilter.Json.Reader

/-!
Reading typed members out of JSON documents. A structure is written as an object, in which members
of other names are skipped and none of its own may come twice, or as an array of its members in
their order. A member that may be left out may also be `null`.
-/

namespace TypedFilter.Json

/-- The values of some members, none for one that is left out. -/
abbrev Members := List (Option Json)

/-- The value of a member of an object; two of one name are refused. -/
def member? (members : List (String × Json)) (name : String) : Option (Option Json) :=
  match members.filter (·.1 == name) with
  | [] => some none
  | [(_, j)] => some (some j)
  | _ => none

/-- The members of a structure in their order. -/
def members? (names : List String) : Json → Option Members
  | .object members => names.mapM (member? members)
  | .array items =>
    if items.length ≤ names.length then
      some (items.map some ++ List.replicate (names.length - items.length) none)
    else none
  | _ => none

/-- The member at a place; the reader decides about its value. -/
def required? {α : Type} (read : Json → Option α) (members : Members) (place : Nat) : Option α :=
  (members[place]?.join).bind read

/-- The member at a place, or a given value if it is left out. -/
def withDefault? {α : Type} (a : α) (read : Json → Option α) (members : Members) (place : Nat) :
    Option α :=
  match members[place]?.join with
  | none => some a
  | some j => read j

/-- The member at a place, if it is neither left out nor `null`. -/
def optional? {α : Type} (read : Json → Option α) (members : Members) (place : Nat) :
    Option (Option α) :=
  match members[place]?.join with
  | none | some .null => some none
  | some j => (read j).map some

/-- A text. -/
def asText? : Json → Option String
  | .string s => some s
  | _ => none

/-- A truth value. -/
def asBoolean? : Json → Option Bool
  | .boolean b => some b
  | _ => none

/-- A whole number of 32 bits without a sign. -/
def asUInt32? : Json → Option UInt32
  | .number (.whole n) => if 0 ≤ n ∧ n < pow2 32 then some (.ofNat n.toNat) else none
  | _ => none

/-- A number of the 64-bit floating-point format. -/
def asDouble? : Json → Option Double
  | .number (.whole n) => some (.ofInt .double n)
  | .number (.real x) => some x
  | _ => none

/-- The items of an array, each read. -/
def asArray? {α : Type} (read : Json → Option α) : Json → Option (List α)
  | .array items => items.mapM read
  | _ => none

/-- A part that is taken as a value; `depth` is how deep it may nest. -/
def asUsable? (depth : Nat) (j : Json) : Option Json :=
  if j.isUsable depth then some j else none

/-- A document that is taken as a value. -/
def usableOfText? (s : String) : Option Json :=
  (ofText? s).bind (asUsable? maxDepth)

end TypedFilter.Json
