import TypedFilter.Binary.Text

/-!
JSON documents. Numbers are told apart by what they fit: a 64-bit whole number, or else a 64-bit
floating-point number. An object keeps its members in the order of the text, repeated names
included; as a value it has each name once, with the last value, in the order of the names.
-/

namespace TypedFilter

/-- A number of a document. -/
inductive JsonNumber where
  /-- Between `-2 ^ 63` and `2 ^ 64`. -/
  | whole (n : Int)
  | real (x : Double)
  /-- Beyond the floating-point numbers. -/
  | tooLarge
  deriving DecidableEq

/-- A document, or a part of one. -/
inductive Json where
  | null
  | boolean (b : Bool)
  | number (n : JsonNumber)
  | string (s : String)
  | array (items : List Json)
  | object (members : List (String × Json))
  /-- A string that is no text, since it holds one half of a surrogate pair, or an object with such
  a name. -/
  | broken

namespace Json

/-- Puts a member in its place among members sorted by name; it replaces one of its name. -/
def putMember {α : Type} (name : String) (a : α) : List (String × α) → List (String × α)
  | [] => [(name, a)]
  | (n, b) :: rest =>
    match compare name n with
    | .lt => (name, a) :: (n, b) :: rest
    | .eq => (name, a) :: rest
    | .gt => (n, b) :: putMember name a rest

/-- The members in the order of their names, each name once with its last value. -/
def sortMembers {α : Type} (members : List (String × α)) : List (String × α) :=
  members.foldl (fun sorted m => putMember m.1 m.2 sorted) []

mutual

/-- Whether the document can be taken as a value: every number is in range, every string and name is
text, and no more than `depth` arrays and objects are nested. -/
def isUsable (depth : Nat) : Json → Bool
  | .null | .boolean _ | .string _ => true
  | .number n => n != .tooLarge
  | .array items => 0 < depth && areUsable (depth - 1) items
  | .object members => 0 < depth && membersAreUsable (depth - 1) members
  | .broken => false

/-- Whether the items can be taken as values. -/
def areUsable (depth : Nat) : List Json → Bool
  | [] => true
  | j :: rest => isUsable depth j && areUsable depth rest

/-- Whether the members can be taken as values. -/
def membersAreUsable (depth : Nat) : List (String × Json) → Bool
  | [] => true
  | (_, j) :: rest => isUsable depth j && membersAreUsable depth rest

end

/-- How deep arrays and objects can be nested. -/
def maxDepth : Nat := 127

/-- The character of a number below sixteen. -/
def hexChar (n : Nat) : Char :=
  Nat.digitChar n

/-- One character of a string, as it is written between quotes. -/
def escapeChar (c : Char) : List Char :=
  match c with
  | '"' => ['\\', '"']
  | '\\' => ['\\', '\\']
  | '\n' => ['\\', 'n']
  | '\r' => ['\\', 'r']
  | '\t' => ['\\', 't']
  | c =>
    if c.toNat = 8 then ['\\', 'b']
    else if c.toNat = 12 then ['\\', 'f']
    else if c.toNat < 32 then
      ['\\', 'u', '0', '0', hexChar (c.toNat / 16), hexChar (c.toNat % 16)]
    else [c]

/-- A string between quotes. -/
def stringText (s : String) : String :=
  String.ofList ('"' :: s.toList.flatMap escapeChar ++ ['"'])

/-- A number as text. -/
def numberText : JsonNumber → String
  | .whole n => intText n
  | .real x => x.textIn .document
  | .tooLarge => "null"

mutual

/-- The document as text without blanks. -/
def text : Json → String
  | .null | .broken => "null"
  | .boolean b => if b then "true" else "false"
  | .number n => numberText n
  | .string s => stringText s
  | .array items => "[" ++ String.intercalate "," (itemTexts items) ++ "]"
  | .object members =>
    let texts := (sortMembers (memberTexts members)).map fun m => stringText m.1 ++ ":" ++ m.2
    "\x7b" ++ String.intercalate "," texts ++ "\x7d"

/-- The texts of items. -/
def itemTexts : List Json → List String
  | [] => []
  | j :: rest => text j :: itemTexts rest

/-- The texts of members beside their names. -/
def memberTexts : List (String × Json) → List (String × String)
  | [] => []
  | (name, j) :: rest => (name, text j) :: memberTexts rest

end

end Json

end TypedFilter
