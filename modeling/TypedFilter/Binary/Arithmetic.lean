import TypedFilter.Binary.Basic

/-!
Arithmetic of binary floating-point numbers. Every operation finds the exact result as a quotient
of whole numbers and rounds it once, to the nearest number of the format, a half to the even
neighbour.
-/

namespace TypedFilter.Binary

variable {f : Format}

/-- The greatest `k` with `2 ^ k ≤ num / den`, for a positive quotient. -/
def floorLog2 (num den : Nat) : Int :=
  let k : Int := (num.log2 : Int) - den.log2
  if num * pow2 (-k).toNat < den * pow2 k.toNat then k - 1 else k

/-- The number of the format nearest to `num / den`. -/
def ofRatio (f : Format) (negative : Bool) (num den : Nat) : Binary f :=
  if num = 0 then zero negative
  else
    let e := max f.minExponent (floorLog2 num den - (f.precision - 1))
    let m := roundDiv .even (num * pow2 (-e).toNat) (den * pow2 e.toNat)
    if m = pow2 f.precision then pack f negative (pow2 (f.precision - 1)) (e + 1)
    else pack f negative m e

/-- The number nearest to a whole number. -/
def ofInt (f : Format) (n : Int) : Binary f :=
  ofRatio f (n < 0) n.natAbs 1

/-- The same number in another format, rounded if it has to be. -/
def convert (g : Format) : Binary f → Binary g
  | .nan => .nan
  | .infinite negative => .infinite negative
  | .finite negative m e h =>
    ofRatio g negative (magnitude (.finite negative m e h : Binary f)) f.unitsPerOne

/-- The number nearest to a multiple of the least number, `negative` being the sign of a zero. -/
def ofUnits (f : Format) (negative : Bool) (units : Int) : Binary f :=
  if units = 0 then zero negative
  else ofRatio f (units < 0) units.natAbs f.unitsPerOne

/-- The sum. -/
def add : Binary f → Binary f → Binary f
  | .nan, _ => .nan
  | _, .nan => .nan
  | .infinite a, .infinite b => if a = b then .infinite a else .nan
  | .infinite a, .finite .. => .infinite a
  | .finite .., .infinite b => .infinite b
  | x, y => ofUnits f (x.isNegative && y.isNegative) (x.units + y.units)

/-- The difference. -/
def sub (x y : Binary f) : Binary f :=
  x.add y.neg

/-- The product. -/
def mul (x y : Binary f) : Binary f :=
  let negative := x.isNegative != y.isNegative
  match x, y with
  | .nan, _ => .nan
  | _, .nan => .nan
  | .infinite _, y => if y.isZero then .nan else .infinite negative
  | x, .infinite _ => if x.isZero then .nan else .infinite negative
  | x, y => ofRatio f negative (x.magnitude * y.magnitude) (f.unitsPerOne * f.unitsPerOne)

/-- The quotient. -/
def div (x y : Binary f) : Binary f :=
  let negative := x.isNegative != y.isNegative
  match x, y with
  | .nan, _ => .nan
  | _, .nan => .nan
  | .infinite _, .infinite _ => .nan
  | .infinite _, .finite .. => .infinite negative
  | .finite .., .infinite _ => zero negative
  | x, y =>
    if y.isZero then if x.isZero then .nan else .infinite negative
    else ofRatio f negative x.magnitude y.magnitude

/-- The remainder of the division that truncates; it has the sign of the dividend. -/
def rem : Binary f → Binary f → Binary f
  | .finite negative m e h, .finite negative' m' e' h' =>
    let x : Binary f := .finite negative m e h
    let y : Binary f := .finite negative' m' e' h'
    if y.isZero then .nan
    else ofRatio f negative (x.magnitude % y.magnitude) f.unitsPerOne
  | .finite negative m e h, .infinite _ => .finite negative m e h
  | _, _ => .nan

/-- The integer square root. -/
def natSqrt (n : Nat) : Nat :=
  if h : n = 0 then 0
  else
    let r := 2 * natSqrt (n / 4)
    if (r + 1) * (r + 1) ≤ n then r + 1 else r
termination_by n
decreasing_by omega

/-- The square root. The root of a magnitude scaled by an even power of two is long enough that its
lowest bit, set when the root is not exact, decides every rounding. -/
def sqrt : Binary f → Binary f
  | .nan => .nan
  | .infinite negative => if negative then .nan else .infinite false
  | .finite negative m e h =>
    if m = 0 then .finite negative m e h
    else if negative then .nan
    else
      let units := magnitude (.finite negative m e h : Binary f)
      let shift := 2 * (f.precision + 2)
      let scaled := units * f.unitsPerOne * pow2 shift
      let root := natSqrt scaled
      let sticky := if root * root = scaled then 0 else 1
      ofRatio f false (2 * root + sticky) (f.unitsPerOne * pow2 (f.precision + 2) * 2)

/-- How `toWhole` picks a whole number. -/
inductive Whole where
  /-- The greatest that is not above. -/
  | floor
  /-- The least that is not below. -/
  | ceil
  /-- The nearest, a half going away from zero. -/
  | round
  deriving DecidableEq, Repr

/-- The absolute value of a whole number next to `num / den`, whose sign is given. -/
def Whole.apply (w : Whole) (negative : Bool) (num den : Nat) : Nat :=
  match w, negative with
  | .round, _ => roundDiv .up num den
  | .floor, false | .ceil, true => num / den
  | .floor, true | .ceil, false => (num + (den - 1)) / den

/-- A whole number next to the given one, as a number of the format; the sign stays. -/
def toWhole (w : Whole) : Binary f → Binary f
  | .finite negative m e h =>
    let x : Binary f := .finite negative m e h
    if 0 ≤ e then x
    else ofRatio f negative (w.apply negative x.magnitude f.unitsPerOne) 1
  | x => x

end TypedFilter.Binary
