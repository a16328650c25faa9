import TypedFilter.Calendar.Time
import TypedFilter.Text.Blank
import TypedFilter.Digits
import TypedFilter.Powers

/-!
Dates, times and timestamps as text. One pattern per kind says which parts stand where; writing
fills the pattern in, and reading follows it with some freedom in blanks and in the number of
digits.
-/

namespace TypedFilter

namespace Calendar

/-- What stands at one place of a pattern. -/
inductive Part where
  | year
  | month
  | day
  | hour
  | minute
  | second
  /-- A point and the digits of the fraction of a second; nothing where it is zero. -/
  | fraction
  /-- A character of its own. -/
  | mark (c : Char)
  /-- A blank, for which any row of blanks may stand, an empty one too. -/
  | gap
  deriving DecidableEq, Repr

/-- The numbers that a pattern is filled with. A leap second has the number 60. -/
structure Numbers where
  year : Int := 0
  month : Nat := 1
  day : Nat := 1
  hour : Nat := 0
  minute : Nat := 0
  second : Nat := 0
  nano : Nat := 0
  deriving DecidableEq, Repr

/-- `2024-02-29` -/
def datePattern : List Part :=
  [.year, .mark '-', .month, .mark '-', .day]

/-- `23:59:60.5` -/
def timePattern : List Part :=
  [.hour, .mark ':', .minute, .mark ':', .second, .fraction]

/-- A day and a time with a blank between them. -/
def timestampPattern : List Part :=
  datePattern ++ .gap :: timePattern

/-- A day and a time with a `T` between them. -/
def joinedPattern : List Part :=
  datePattern ++ .mark 'T' :: timePattern

/-! ### Writing -/

/-- A year has four digits, and a sign outside the years 0 to 9999. -/
def yearChars (year : Int) : List Char :=
  let digits := padLeft 4 (natDigits year.natAbs)
  if 0 ≤ year ∧ year ≤ 9999 then digits
  else (if year < 0 then '-' else '+') :: digits

/-- A fraction has three, six or nine digits, as few as it needs. -/
def fractionChars (nano : Nat) : List Char :=
  if nano = 0 then []
  else if nano % 1000000 = 0 then '.' :: padLeft 3 (natDigits (nano / 1000000))
  else if nano % 1000 = 0 then '.' :: padLeft 6 (natDigits (nano / 1000))
  else '.' :: padLeft 9 (natDigits nano)

/-- The text of one part. -/
def Part.write (n : Numbers) : Part → List Char
  | .year => yearChars n.year
  | .month => padLeft 2 (natDigits n.month)
  | .day => padLeft 2 (natDigits n.day)
  | .hour => padLeft 2 (natDigits n.hour)
  | .minute => padLeft 2 (natDigits n.minute)
  | .second => padLeft 2 (natDigits n.second)
  | .fraction => fractionChars n.nano
  | .mark c => [c]
  | .gap => [' ']

/-- The pattern filled with numbers. -/
def write (pattern : List Part) (n : Numbers) : String :=
  String.ofList (pattern.flatMap (Part.write n))

/-! ### Reading -/

/-- Reads one to `most` digits after any blanks. -/
def readNumber? (most : Nat) (cs : List Char) : Option (Nat × List Char) :=
  let cs := Text.trimStart cs
  let digits := (takeDigits cs).1.take most
  if digits.isEmpty then none else some (ofDigits digits, cs.drop digits.length)

/-- Reads a year: up to four digits, or any number of them after a sign. -/
def readYear? (cs : List Char) : Option (Int × List Char) :=
  let signed (cs : List Char) : Option (Nat × List Char) :=
    match takeDigits cs with
    | ([], _) => none
    | (digits, rest) => some (ofDigits digits, rest)
  match Text.trimStart cs with
  | '-' :: rest => (signed rest).map fun (n, rest) => (-n, rest)
  | '+' :: rest => (signed rest).map fun (n, rest) => (n, rest)
  | cs => (readNumber? 4 cs).map fun (n, rest) => (n, rest)

/-- Reads the fraction of a second, if a point says there is one; digits past nine are skipped. -/
def readFraction? : List Char → Option (Nat × List Char)
  | '.' :: cs =>
    match takeDigits cs with
    | ([], _) => none
    | (digits, rest) =>
      let kept := digits.take 9
      some (ofDigits kept * pow10 (9 - kept.length), rest)
  | cs => some (0, cs)

/-- Reads one part, and returns what follows it. -/
def Part.read? (n : Numbers) (cs : List Char) : Part → Option (Numbers × List Char)
  | .year => (readYear? cs).map fun (v, rest) => ({ n with year := v }, rest)
  | .month => (readNumber? 2 cs).map fun (v, rest) => ({ n with month := v }, rest)
  | .day => (readNumber? 2 cs).map fun (v, rest) => ({ n with day := v }, rest)
  | .hour => (readNumber? 2 cs).map fun (v, rest) => ({ n with hour := v }, rest)
  | .minute => (readNumber? 2 cs).map fun (v, rest) => ({ n with minute := v }, rest)
  | .second => (readNumber? 2 cs).map fun (v, rest) => ({ n with second := v }, rest)
  | .fraction => (readFraction? cs).map fun (v, rest) => ({ n with nano := v }, rest)
  | .mark c =>
    match cs with
    | d :: rest => if c = d then some (n, rest) else none
    | [] => none
  | .gap => some (n, Text.trimStart cs)

/-- Follows a pattern to the end of the text. -/
def readFrom? (n : Numbers) (cs : List Char) : List Part → Option Numbers
  | [] => if cs.isEmpty then some n else none
  | part :: pattern => (part.read? n cs).bind fun (n, rest) => readFrom? n rest pattern

/-- The numbers that stand in a text that follows the pattern. -/
def read? (pattern : List Part) (s : String) : Option Numbers :=
  readFrom? {} s.toList pattern

end Calendar

namespace Date

open Calendar

/-- The day as text. -/
def text (d : Date) : String :=
  write datePattern { year := d.year, month := d.month, day := d.day }

/-- The day that a text names. -/
def ofText? (s : String) : Option Date :=
  (read? datePattern s).bind fun n => ofParts? n.year n.month n.day

end Date

namespace Time

open Calendar

/-- The numbers of a time, leap seconds counted out. -/
def numbers (t : Time) (n : Numbers) : Numbers :=
  { n with
    hour := t.hour
    minute := t.minute
    second := t.second + t.nano / 1000000000
    nano := t.nano % 1000000000 }

/-- The time with the numbers. -/
def ofNumbers? (n : Numbers) : Option Time :=
  if n.second = 60 then ofParts? n.hour n.minute 59 (n.nano + 1000000000)
  else ofParts? n.hour n.minute n.second n.nano

/-- The time as text. -/
def text (t : Time) : String :=
  write timePattern (t.numbers {})

/-- The time that a text names. -/
def ofText? (s : String) : Option Time :=
  (read? timePattern s).bind ofNumbers?

end Time

namespace Timestamp

open Calendar

/-- The timestamp as text. -/
def text (t : Timestamp) : String :=
  write timestampPattern
    (t.time.numbers { year := t.date.year, month := t.date.month, day := t.date.day })

/-- The timestamp with the numbers. -/
def ofNumbers? (n : Numbers) : Option Timestamp :=
  (Date.ofParts? n.year n.month n.day).bind fun date =>
    (Time.ofNumbers? n).map fun time => ⟨date, time⟩

/-- The timestamp that a text names, with a blank or a `T` between day and time. -/
def ofText? (s : String) : Option Timestamp :=
  ((read? timestampPattern s).bind ofNumbers?) <|> ((read? joinedPattern s).bind ofNumbers?)

end Timestamp

end TypedFilter
