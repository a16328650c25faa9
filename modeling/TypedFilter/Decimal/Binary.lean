import TypedFilter.Decimal.Basic
import TypedFilter.Binary.Arithmetic

/-!
Decimals from binary floating-point numbers and back. The way to a decimal works in 96 bits and
keeps about as many digits as the binary format tells apart.
-/

namespace TypedFilter.Decimal

/-- A 96-bit mantissa with a power of ten and a power of five still to be applied. -/
structure Rebase where
  mantissa : Nat
  tens : Int
  fives : Int

/-- Divides by two exactly, or else with a factor five and a tenth, or else by dropping a bit. -/
def Rebase.halve (r : Rebase) : Rebase :=
  if r.mantissa % 2 = 0 then ⟨r.mantissa / 2, r.tens + 1, r.fives - 1⟩
  else if r.mantissa * 5 < pow2 96 then ⟨r.mantissa * 5, r.tens, r.fives - 1⟩
  else ⟨r.mantissa / 2, r.tens + 1, r.fives - 1⟩

/-- Multiplies by two as long as there is room, or else divides by five; too large a number has no
decimal. -/
def Rebase.double? (r : Rebase) : Option Rebase :=
  if r.mantissa < pow2 95 then some ⟨r.mantissa * 2, r.tens - 1, r.fives + 1⟩
  else if -r.fives < r.tens * 2 then none
  else some ⟨r.mantissa / 5, r.tens, r.fives + 1⟩

/-- Applies the powers of five. -/
def Rebase.applyFives : Nat → Rebase → Option Rebase
  | 0, r => some r
  | fuel + 1, r =>
    if 0 < r.fives then applyFives fuel r.halve
    else if r.fives < 0 then r.double?.bind (applyFives fuel)
    else some r

/-- Applies the powers of ten that leave no place after the point, and drops what is beyond 28
places, a half going up; a mantissa that runs out of digits is zero. -/
def Rebase.applyTens : Nat → Rebase → Option Rebase
  | 0, r => some r
  | fuel + 1, r =>
    if 0 < r.tens then
      if r.mantissa * 10 < pow2 96 then applyTens fuel { r with
        mantissa := r.mantissa * 10
        tens := r.tens - 1 }
      else none
    else if r.tens < -28 then
      if r.mantissa / 10 = 0 then some { r with
        mantissa := 0
        tens := 0 }
      else applyTens fuel { r with
        mantissa := roundDiv .up r.mantissa 10
        tens := r.tens + 1 }
    else some r

/-- Drops places until the mantissa has no more than `bits` bits, a half going up. -/
def fewerBits (bits : Nat) (mantissa : Nat) : Nat → Nat × Nat
  | 0 => (mantissa, 0)
  | scale + 1 =>
    if mantissa < pow2 bits then (mantissa, scale + 1)
    else fewerBits bits (roundDiv .up mantissa 10) scale

/-- The bits of a mantissa that a binary format vouches for. -/
def reliableBits (f : Binary.Format) : Nat :=
  if f = .double then 52 else f.precision

/-- The decimal for a binary number: none where it is undefined, infinite or too large. -/
def ofBinary? {f : Binary.Format} : Binary f → Option Decimal
  | .nan | .infinite _ => none
  | .finite negative m e _ =>
    let steps := e.natAbs + 200
    ((Rebase.mk m e (-e)).applyFives steps).bind fun r =>
      (r.applyTens (r.tens.natAbs + 1)).bind fun r =>
        let (mantissa, scale) := fewerBits (reliableBits f) r.mantissa (-r.tens).toNat
        (ofParts? negative mantissa scale).map shorten

/-- The number of the 64-bit format for a decimal: whole part and fraction are turned separately,
and their sum is rounded to the places of the decimal. Without places a zero has no sign. -/
def toDouble (d : Decimal) : Double :=
  if d.scale = 0 then .ofInt .double d.coefficient
  else
    let ofNat (n : Nat) : Double := .ofInt .double n
    let power := ofNat (pow10 d.scale)
    let whole := ofNat (d.mantissa / pow10 d.scale)
    let fraction := (ofNat (d.mantissa % pow10 d.scale)).div power
    let value :=
      if fraction.isZero then whole
      else (((whole.add fraction).mul power).toWhole .round).div power
    if d.negative then value.neg else value

/-- The number of the 32-bit format for a decimal. -/
def toSingle (d : Decimal) : Single :=
  d.toDouble.convert .single

end TypedFilter.Decimal
