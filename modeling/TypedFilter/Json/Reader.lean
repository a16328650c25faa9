import TypedFilter.Json.Basic

/-!
Reading JSON documents. Every reader takes the characters from where it starts and returns what
follows what it has read; `none` means that the text is no document.
-/

namespace TypedFilter.Json

/-- What a reader returns: something read, and the rest of the text. -/
abbrev Read (α : Type) := Option (α × List Char)

/-- The text without blanks at its start. -/
def skipBlanks (cs : List Char) : List Char :=
  cs.dropWhile fun c => c == ' ' || c == '\t' || c == '\n' || c == '\r'

/-! ### Numbers -/

/-- The number nearest to a significand times a power of ten, in two steps: the significand is
rounded, and then its product or quotient with a power of ten. -/
def scaled (negative : Bool) (significand : Nat) (exponent : Int) : JsonNumber :=
  let x : Double := .ofInt .double significand
  let power (k : Nat) : Double := .ofInt .double (pow10 k)
  let signed (x : Double) : JsonNumber := .real (if negative then x.neg else x)
  if significand = 0 then signed x
  else if 308 < exponent then .tooLarge
  else if 0 ≤ exponent then
    let product := x.mul (power exponent.toNat)
    if product.isFinite then signed product else .tooLarge
  else if -308 ≤ exponent then signed (x.div (power exponent.natAbs))
  else if -616 ≤ exponent then signed ((x.div (power 308)).div (power (exponent.natAbs - 308)))
  else signed (.zero false)

/-- The largest significand that is kept whole. -/
def significandLimit : Nat := pow2 64

/-- Adds digits to a significand as long as it stays below the limit: the significand, how many
digits were added, and how many were left out. -/
def addDigits (significand : Nat) : List Char → Nat × Nat × Nat
  | [] => (significand, 0, 0)
  | c :: rest =>
    let longer := 10 * significand + ofDigits [c]
    if longer < significandLimit then
      let (s, added, left) := addDigits longer rest
      (s, added + 1, left)
    else (significand, 0, rest.length + 1)

/-- The exponent after its letter. -/
def readExponent : List Char → Read Int
  | '-' :: cs => unsigned true cs
  | '+' :: cs => unsigned false cs
  | cs => unsigned false cs
where
  unsigned (negative : Bool) (cs : List Char) : Read Int :=
    match takeDigits cs with
    | ([], _) => none
    | (digits, rest) => some (if negative then -(ofDigits digits : Int) else ofDigits digits, rest)

/-- Reads on after the whole part of a number. A whole number that fits 64 bits stays one; minus
zero does not. -/
def readFraction (negative : Bool) (whole : List Char) (cs : List Char) : Read JsonNumber :=
  let (significand, _, left) := addDigits 0 whole
  let withExponent (significand : Nat) (exponent : Int) (cs : List Char) : Read JsonNumber :=
    match cs with
    | 'e' :: cs | 'E' :: cs =>
      (readExponent cs).map fun (e, rest) => (scaled negative significand (exponent + e), rest)
    | cs => some (scaled negative significand exponent, cs)
  match cs with
  | '.' :: cs =>
    match takeDigits cs with
    | ([], _) => none
    | (digits, rest) =>
      let (significand, added, _) := addDigits significand digits
      withExponent significand (left - added) rest
  | cs =>
    let plain := !(cs.head? == some 'e' || cs.head? == some 'E')
    if plain && left = 0 then
      if negative then
        if significand = 0 ∨ pow2 63 < significand then
          some (.real (Binary.neg (.ofInt .double significand)), cs)
        else some (.whole (-significand), cs)
      else some (.whole significand, cs)
    else withExponent significand left cs

/-- Reads a number; a whole part of more than one digit does not start with zero. -/
def readNumber (cs : List Char) : Read JsonNumber :=
  let (negative, cs) := match cs with
    | '-' :: rest => (true, rest)
    | _ => (false, cs)
  match takeDigits cs with
  | ([], _) => none
  | ('0' :: _ :: _, _) => none
  | (digits, rest) => readFraction negative digits rest

/-! ### Strings -/

/-- The value of a hexadecimal digit. -/
def hexValue? (c : Char) : Option Nat :=
  if c.isDigit then some (c.toNat - '0'.toNat)
  else if 'a' ≤ c ∧ c ≤ 'f' then some (c.toNat - 'a'.toNat + 10)
  else if 'A' ≤ c ∧ c ≤ 'F' then some (c.toNat - 'A'.toNat + 10)
  else none

/-- The 16-bit unit that four hexadecimal digits denote. -/
def hexUnit? (a b c d : Char) : Option Nat := do
  let a ← hexValue? a
  let b ← hexValue? b
  let c ← hexValue? c
  let d ← hexValue? d
  some (((a * 16 + b) * 16 + c) * 16 + d)

/-- What an escape of one letter stands for. -/
def simpleEscape? : Char → Option Char
  | '"' => some '"'
  | '\\' => some '\\'
  | '/' => some '/'
  | 'b' => some (Char.ofNat 8)
  | 'f' => some (Char.ofNat 12)
  | 'n' => some '\n'
  | 'r' => some '\r'
  | 't' => some '\t'
  | _ => none

/-- Reads the 16-bit units of a string up to its closing quote. Characters that stand for
themselves come as code points, which are larger where they need two units. -/
def readUnits : List Char → Read (List Nat)
  | [] => none
  | '"' :: rest => some ([], rest)
  | '\\' :: 'u' :: a :: b :: c :: d :: rest =>
    match hexUnit? a b c d, readUnits rest with
    | some unit, some (units, after) => some (unit :: units, after)
    | _, _ => none
  | '\\' :: e :: rest =>
    match simpleEscape? e, readUnits rest with
    | some c, some (units, after) => some (c.toNat :: units, after)
    | _, _ => none
  | c :: rest =>
    if c.toNat < 32 then none
    else (readUnits rest).map fun (units, after) => (c.toNat :: units, after)

/-- Joins surrogate pairs; a half without the other is no text. -/
def joinSurrogates : List Nat → Option (List Char)
  | [] => some []
  | [u] => if 0xD800 ≤ u ∧ u ≤ 0xDFFF then none else some [Char.ofNat u]
  | u :: v :: rest =>
    if 0xD800 ≤ u ∧ u ≤ 0xDBFF then
      if 0xDC00 ≤ v ∧ v ≤ 0xDFFF then
        (joinSurrogates rest).map
          (Char.ofNat (0x10000 + (u - 0xD800) * 0x400 + (v - 0xDC00)) :: ·)
      else none
    else if 0xDC00 ≤ u ∧ u ≤ 0xDFFF then none
    else (joinSurrogates (v :: rest)).map (Char.ofNat u :: ·)

/-- Reads a string after its opening quote; a broken one has no text. -/
def readString (cs : List Char) : Read (Option String) :=
  (readUnits cs).map fun (units, rest) => ((joinSurrogates units).map String.ofList, rest)

/-! ### Documents -/

/-- Reads a fixed word. -/
def readWord (word : List Char) (j : Json) (cs : List Char) : Read Json :=
  if word.isPrefixOf cs then some (j, cs.drop word.length) else none

mutual

/-- Reads one value; `fuel` bounds how deep the values nest and how many stand in a row. -/
def readValue (fuel : Nat) (cs : List Char) : Read Json :=
  match fuel with
  | 0 => none
  | fuel + 1 =>
    match skipBlanks cs with
    | '"' :: rest =>
      (readString rest).map fun (s, rest) => (s.elim .broken .string, rest)
    | '[' :: rest =>
      match skipBlanks rest with
      | ']' :: rest => some (.array [], rest)
      | rest => (readItems fuel rest).map fun (items, rest) => (.array items, rest)
    | '\x7b' :: rest =>
      match skipBlanks rest with
      | '\x7d' :: rest => some (.object [], rest)
      | rest => (readMembers fuel rest).map fun (members, rest) => (members.elim .broken .object, rest)
    | 't' :: rest => readWord ['r', 'u', 'e'] (.boolean true) rest
    | 'f' :: rest => readWord ['a', 'l', 's', 'e'] (.boolean false) rest
    | 'n' :: rest => readWord ['u', 'l', 'l'] .null rest
    | rest => (readNumber rest).map fun (n, rest) => (.number n, rest)

/-- Reads the items of an array up to its closing bracket. -/
def readItems (fuel : Nat) (cs : List Char) : Read (List Json) :=
  match fuel with
  | 0 => none
  | fuel + 1 =>
    match readValue fuel cs with
    | none => none
    | some (item, rest) =>
      match skipBlanks rest with
      | ']' :: rest => some ([item], rest)
      | ',' :: rest => (readItems fuel rest).map fun (items, rest) => (item :: items, rest)
      | _ => none

/-- Reads the members of an object up to its closing brace; no members if a name is broken. -/
def readMembers (fuel : Nat) (cs : List Char) : Read (Option (List (String × Json))) :=
  match fuel with
  | 0 => none
  | fuel + 1 =>
    match skipBlanks cs with
    | '"' :: rest =>
      match readString rest with
      | none => none
      | some (name, rest) =>
        match skipBlanks rest with
        | ':' :: rest =>
          match readValue fuel rest with
          | none => none
          | some (value, rest) =>
            let member := name.map (·, value)
            match skipBlanks rest with
            | '\x7d' :: rest => some (member.map ([·]), rest)
            | ',' :: rest =>
              (readMembers fuel rest).map fun (members, rest) =>
                (member.bind fun m => members.map (m :: ·), rest)
            | _ => none
        | _ => none
    | _ => none

end

/-- Reads a document; nothing but blanks may stand around it. Every step down or along takes a
character, so the length of the text bounds both. -/
def ofText? (s : String) : Option Json :=
  match readValue (2 * s.toList.length + 1) s.toList with
  | some (j, rest) => if (skipBlanks rest).isEmpty then some j else none
  | none => none

end TypedFilter.Json
