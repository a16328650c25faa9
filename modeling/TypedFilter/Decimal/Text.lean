import TypedFilter.Decimal.Arithmetic
import TypedFilter.Digits

/-!
Decimals as text. The written form keeps the places; the readers take a sign, digits, one point and
underscores after a first digit, and optionally a power of ten.
-/

namespace TypedFilter.Decimal

/-- The decimal as text, with all its places. -/
def text (d : Decimal) : String :=
  String.ofList ((if d.negative then ['-'] else []) ++ pointed (natDigits d.mantissa) d.scale)

/-- Rounds a mantissa that has no room for a further digit: five and above go up. -/
def roundOff? (negative : Bool) (mantissa scale digit : Nat) : Option Decimal :=
  if digit < 5 then unsignedZero? negative mantissa scale
  else if mantissa + 1 < pow2 96 then unsignedZero? negative (mantissa + 1) scale
  else if scale = 0 then none
  else unsignedZero? negative ((mantissa + 5) / 10) (scale - 1)

/-- Ends the reading of a number that has no room for a further digit: the next digit rounds the
mantissa, and nothing but digits and underscores may stand after it. -/
def finish? (negative : Bool) (mantissa scale : Nat) (rest : List Char) : Option Decimal :=
  if rest.all fun c => c.isDigit || c = '_' then
    match rest.find? Char.isDigit with
    | some digit => roundOff? negative mantissa scale (ofDigits [digit])
    | none => unsignedZero? negative mantissa scale
  else none

/-- Below this, a mantissa and the digit after it still fit 64 bits, with some to spare. -/
def shortLimit : Nat :=
  (pow2 64 - 1) / 10 - 255

/-- Ends the reading of a number that has its 28 places. If all digits but the last fit 64 bits, an
underscore that follows at once ends the number, and the digits after it do not round it. -/
def finishPlaces? (negative : Bool) (mantissa : Nat) (rest : List Char) : Option Decimal :=
  if rest.head? = some '_' ∧ mantissa / 10 < shortLimit then
    finish? negative mantissa 28 ('0' :: rest)
  else finish? negative mantissa 28 rest

/-- Reads on after a mantissa; `seenDigit` and `seenPoint` tell what has been read. -/
def readFrom? (negative seenDigit seenPoint : Bool) (mantissa scale : Nat) :
    List Char → Option Decimal
  | [] => if seenDigit then unsignedZero? negative mantissa scale else none
  | c :: rest =>
    if c.isDigit then
      let longer := 10 * mantissa + ofDigits [c]
      if pow2 96 ≤ longer then
        if seenPoint then finish? negative mantissa scale (c :: rest) else none
      else if seenPoint && 27 ≤ scale then finishPlaces? negative longer rest
      else readFrom? negative true seenPoint longer (if seenPoint then scale + 1 else 0) rest
    else if c = '.' ∧ seenPoint = false then readFrom? negative seenDigit true mantissa scale rest
    else if c = '_' ∧ seenDigit = true then readFrom? negative true seenPoint mantissa scale rest
    else none

/-- Reads a decimal in positional form. -/
def ofChars? : List Char → Option Decimal
  | '-' :: rest => readFrom? true false false 0 0 rest
  | '+' :: rest => readFrom? false false false 0 0 rest
  | cs => readFrom? false false false 0 0 cs

/-- Reads a power of ten without its sign, a plus sign apart; a decimal has none above 28. -/
def readPower? (cs : List Char) : Option Nat :=
  let digits := match cs with
    | '+' :: rest => rest
    | _ => cs
  if digits.isEmpty || !digits.all Char.isDigit || 28 < ofDigits digits then none
  else some (ofDigits digits)

/-- Takes the decimal times `10 ^ power`: first by dropping places, else by a product. -/
def raise? (d : Decimal) (power : Nat) : Option Decimal :=
  if power ≤ d.scale then ofParts? d.negative d.mantissa (d.scale - power)
  else (ofParts? false (pow10 power) 0).bind fun factor => (d.mul? factor).map normalize

/-- Takes the decimal times `10 ^ -power` by further places. Places beyond the 28th are rounded off
first, a half going away from zero; a zero so made keeps its sign. -/
def lower? (d : Decimal) (power : Nat) : Option Decimal :=
  let surplus := d.scale + power - 28
  ofParts? d.negative (roundDiv .up d.mantissa (pow10 surplus)) (d.scale + power - surplus)

/-- Reads a decimal with a power of ten after `e` or `E`. -/
def ofScientific? (cs : List Char) : Option Decimal :=
  match cs.span (fun c => c != 'e' && c != 'E') with
  | (_, []) => none
  | (base, _ :: power) =>
    (ofChars? base).bind fun d =>
      match power with
      | '-' :: power => (readPower? power).bind d.lower?
      | _ => (readPower? power).bind d.raise?

/-- Reads a decimal in positional form, or else with a power of ten. -/
def ofText? (s : String) : Option Decimal :=
  ofChars? s.toList <|> ofScientific? s.toList

end TypedFilter.Decimal
