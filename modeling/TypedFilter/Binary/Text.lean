import TypedFilter.Binary.Arithmetic
import TypedFilter.Binary.Shortest
import TypedFilter.Digits

/-!
Binary floating-point numbers as text: the shortest decimal that reads back, laid out in one of
three styles, and the reader for all of them.
-/

namespace TypedFilter.Binary

variable {f : Format}

/-- How a number is laid out. -/
structure Style where
  /-- The leading digit's place up to which small numbers are written without an exponent;
  none writes no exponent at all. -/
  positional : Option (Int × Int)
  /-- Whether a whole number keeps `.0`. -/
  keepPoint : Bool
  /-- Whether an exponent that is not negative has a plus sign. -/
  plusSign : Bool
  /-- Which of two shortest decimals is written that are equally near. -/
  tie : Tie
  deriving DecidableEq, Repr

/-- Values of conditions: positional, whole numbers without a point. -/
def Style.plain : Style := ⟨none, false, false, .up⟩

/-- Coordinates: always with a point, an exponent from `1e16` up and below `0.0001`. -/
def Style.coordinate : Style := ⟨some (-4, 15), true, false, .up⟩

/-- Numbers inside compact documents: a point, a signed exponent from `1e+16` up and below
`0.00001`, and an even last digit where two are equally near. -/
def Style.document : Style := ⟨some (-5, 15), true, true, .even⟩

/-- Digits at their place, without an exponent. -/
def positionalText (keepPoint : Bool) (d : Digits) : List Char :=
  if 0 ≤ d.exponent then
    natDigits d.digits ++ List.replicate d.exponent.toNat '0' ++ (if keepPoint then ['.', '0'] else [])
  else pointed (natDigits d.digits) (-d.exponent).toNat

/-- One digit before the point, the others after it, and the exponent. -/
def exponentText (style : Style) (d : Digits) : List Char :=
  let digits := natDigits d.digits
  let exponent := d.exponent + (digits.length - 1 : Nat)
  let sign := if exponent < 0 then ['-'] else if style.plusSign then ['+'] else []
  pointed digits (digits.length - 1) ++ 'e' :: sign ++ natDigits exponent.natAbs

/-- The digits laid out in a style. -/
def Style.layOut (style : Style) (d : Digits) : List Char :=
  match style.positional with
  | none => positionalText style.keepPoint d
  | some (low, high) =>
    let lead := d.exponent + ((natDigits d.digits).length - 1 : Nat)
    if d.digits = 0 ∨ (low ≤ lead ∧ lead ≤ high) then positionalText style.keepPoint d
    else exponentText style d

/-- The number as text in a style. -/
def textIn (style : Style) : Binary f → String
  | .nan => "NaN"
  | .infinite negative => if negative then "-inf" else "inf"
  | .finite negative m e _ =>
    let d := if m = 0 then ⟨0, 0⟩ else shortest style.tie f m e
    String.ofList ((if negative then ['-'] else []) ++ style.layOut d)

/-- The number as text, positional and as short as it can be. -/
def text (x : Binary f) : String :=
  x.textIn .plain

/-- A number beyond every format, whatever its digits: reading stops at this power of ten. -/
def farExponent : Int := 500

/-- The number nearest to `digits * 10 ^ exponent`. -/
def ofDecimal (f : Format) (negative : Bool) (digits : Nat) (exponent : Int) : Binary f :=
  let lead := exponent + ((natDigits digits).length : Int)
  if digits = 0 ∨ lead < -farExponent then zero negative
  else if farExponent < lead then .infinite negative
  else ofRatio f negative (digits * pow10 exponent.toNat) (pow10 (-exponent).toNat)

/-- Reads the exponent after its letter; nothing may follow. -/
def readExponent? (cs : List Char) : Option Int :=
  let (negative, cs) := match cs with
    | '-' :: rest => (true, rest)
    | '+' :: rest => (false, rest)
    | _ => (false, cs)
  match takeDigits cs with
  | ([], _) => none
  | (digits, []) => some (if negative then -(ofDigits digits : Int) else ofDigits digits)
  | (_, _ :: _) => none

/-- Reads an unsigned decimal with an optional point and exponent. -/
def readUnsigned? (f : Format) (negative : Bool) (cs : List Char) : Option (Binary f) :=
  let (whole, rest) := takeDigits cs
  let (fraction, rest) := match rest with
    | '.' :: rest => takeDigits rest
    | _ => ([], rest)
  if whole.isEmpty && fraction.isEmpty then none
  else
    let number (exponent : Int) :=
      ofDecimal f negative (ofDigits (whole ++ fraction)) (exponent - fraction.length)
    match rest with
    | [] => some (number 0)
    | 'e' :: rest | 'E' :: rest => (readExponent? rest).map number
    | _ => none

/-- Reads a number: digits, or a word for infinity or for an undefined number in any case. -/
def ofText? (f : Format) (s : String) : Option (Binary f) :=
  let (negative, cs) := match s.toList with
    | '-' :: rest => (true, rest)
    | '+' :: rest => (false, rest)
    | cs => (false, cs)
  let word := String.ofList (cs.map Char.toLower)
  if word = "inf" ∨ word = "infinity" then some (.infinite negative)
  else if word = "nan" then some .nan
  else readUnsigned? f negative cs

end TypedFilter.Binary
