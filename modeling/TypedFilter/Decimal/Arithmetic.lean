import TypedFilter.Decimal.Basic

/-!
Arithmetic of decimals. A result that needs more places or digits than a decimal has is rounded
once, a half to the even neighbour; a result whose whole part does not fit is refused.
-/

namespace TypedFilter.Decimal

/-- The decimal nearest to `± num / den` with as many places as fit, but no more than `places`; a
zero keeps the sign. -/
def nearest? (negative : Bool) (num den : Nat) : (places : Nat) → Option Decimal
  | 0 => ofParts? negative (roundDiv .even num den) 0
  | places + 1 =>
    ofParts? negative (roundDiv .even (num * pow10 (places + 1)) den) (places + 1) <|>
      nearest? negative num den places

/-- The sum. A zero leaves the other operand as it is, places included. -/
def add? (a b : Decimal) : Option Decimal :=
  if a.isZero then some b
  else if b.isZero then some a
  else
    let places := max a.scale b.scale
    let sum := a.coefficient * pow10 (places - a.scale) + b.coefficient * pow10 (places - b.scale)
    nearest? (sum < 0) sum.natAbs (pow10 places) places

/-- The difference. Taking zero away changes nothing, and zero is not turned. -/
def sub? (a b : Decimal) : Option Decimal :=
  if a.isZero && b.isZero then some b else a.add? b.neg

/-- The product. It has the places of both factors, as far as they fit. Two mantissas below `2 ^ 32`
with more than 47 places make zero, and a product of such mantissas that is rounded to zero has no
sign; any other that is rounded to zero keeps its sign. -/
def mul? (a b : Decimal) : Option Decimal :=
  let places := a.scale + b.scale
  let product :=
    nearest? (a.negative != b.negative) (a.mantissa * b.mantissa) (pow10 places) (min 28 places)
  if a.isZero || b.isZero then some zero
  else if a.mantissa < pow2 32 ∧ b.mantissa < pow2 32 then
    if 47 < places then some zero else product.map unsignZero
  else product

/-- How many more digits fit behind a mantissa, but no more than `most`. -/
def room (mantissa : Nat) : (most : Nat) → Nat
  | 0 => 0
  | most + 1 => if mantissa * pow10 (most + 1) < pow2 96 then most + 1 else room mantissa most

/-- How many places of a quotient are left out of `total`, which ends at the 28th place after the
point. Digits come in runs of nine, or of as many as fit, until the division has come out even and
reached the point, or until there is no room. `pending` of the current run are still to come. -/
def placesLeft (num den total : Nat) : (left pending : Nat) → Nat
  | 0, _ => 0
  | left + 1, pending + 1 => placesLeft num den total left pending
  | left + 1, 0 =>
    let raised := num * pow10 (total - (left + 1))
    let run :=
      if raised % den = 0 then min 9 (left + 1 - 28) else room (raised / den) (min 9 (left + 1))
    match run with
    | 0 => left + 1
    | run + 1 => placesLeft num den total left run

/-- A quotient without zeros at its end, as far as they make up runs of four, two and one. A run of
eight is dropped where the low 32 bits of the mantissa are zero. -/
def trimQuotient (d : Decimal) : Decimal :=
  let dropEight (d : Decimal) : Decimal := if d.mantissa % pow2 32 = 0 then d.dropRun 8 else d
  (((dropEight (dropEight (dropEight d))).dropRun 4).dropRun 2).dropRun 1

/-- The quotient. One that is exact at the difference of the places keeps them; any other has the
places of the runs that its digits came in, less the zeros at its end. -/
def div? (a b : Decimal) : Option Decimal :=
  let negative := a.negative != b.negative
  if b.isZero then none
  else if a.isZero then some zero
  else if b.scale ≤ a.scale ∧ a.mantissa % b.mantissa = 0 then
    unsignedZero? negative (a.mantissa / b.mantissa) (a.scale - b.scale)
  else
    let total := 28 + b.scale - a.scale
    let places := 28 - placesLeft a.mantissa b.mantissa total total 0
    (nearest? negative (a.mantissa * pow10 b.scale) (b.mantissa * pow10 a.scale) places).map
      fun quotient => trimQuotient quotient.unsignZero

/-- What a division in words of 32 bits leaves of `words` words of the dividend, the most significant
first, behind what is `left` of those before. The divisor has three words and begins with a one bit.
Each word of the quotient is estimated from the leading words, as a word: where the leading word of
what is left is that of the divisor, the estimate has no room and this word is lost. -/
def wordRemainder (divisor dividend : Nat) : (words left : Nat) → Nat
  | 0, left => left
  | words + 1, left =>
    let next := left * pow2 32 + dividend / pow2 (32 * words) % pow2 32
    wordRemainder divisor dividend words <|
      if next / pow2 96 = divisor / pow2 64 then next % pow2 96 % divisor else next % divisor

/-- The remainder of two mantissas with the same places: exact by a divisor of up to 64 bits, and in
words by a longer one, which is first shifted so that it begins with a one bit. -/
def remainder (dividend divisor : Nat) : Nat :=
  if divisor < pow2 64 then dividend % divisor
  else
    let unit := pow2 (95 - divisor.log2)
    wordRemainder (divisor * unit) (dividend * unit) 7 0 / unit

/-- The remainder of the division that truncates; it has the sign of the dividend. -/
def rem? (a b : Decimal) : Option Decimal :=
  let places := max a.scale b.scale
  let x := a.mantissa * pow10 (places - a.scale)
  let y := b.mantissa * pow10 (places - b.scale)
  if b.isZero then none
  else if a.isZero || x == y then some zero
  else if x < y then some a
  else unsignedZero? a.negative (remainder x y) places

end TypedFilter.Decimal
