import TypedFilter.Binary.Basic

/-!
The shortest decimal that reads back as a given binary number. On ever finer decimal grids the two
neighbours of the number are tried; the first grid with a neighbour that rounds to the number wins,
and of two such neighbours the nearer. Where both are equally near, the format of the text decides.
-/

namespace TypedFilter.Binary

/-- The decimal `digits * 10 ^ exponent`. -/
structure Digits where
  digits : Nat
  exponent : Int
  deriving DecidableEq, Repr

/-- The reals that round to one number, as multiples of `1 / scale`. -/
structure Interval where
  low : Nat
  value : Nat
  high : Nat
  scale : Nat
  /-- Whether the ends round to the number too. -/
  closed : Bool

/-- Whether `n` lies between the ends. -/
def Interval.holds (i : Interval) (n : Nat) : Bool :=
  if i.closed then i.low ≤ n && n ≤ i.high else i.low < n && n < i.high

/-- What rounds to `significand * 2 ^ exponent`: half a step to either side, and a quarter below a
power of two, where the steps are half as long. -/
def Interval.around (f : Format) (significand : Nat) (exponent : Int) : Interval :=
  let quarter := pow2 exponent.toNat
  let below := if significand = pow2 (f.precision - 1) ∧ f.minExponent < exponent then 1 else 2
  { low := (4 * significand - below) * quarter
    value := 4 * significand * quarter
    high := (4 * significand + 2) * quarter
    scale := 4 * pow2 (-exponent).toNat
    closed := significand % 2 = 0 }

/-- The interval in units of `1 / (scale * 10 ^ k)`; `k` is negative for coarse grids. -/
def Interval.refine (i : Interval) (k : Int) : Interval :=
  let up := pow10 k.toNat
  { i with
    low := i.low * up
    value := i.value * up
    high := i.high * up
    scale := i.scale * pow10 (-k).toNat }

/-- The neighbour of the number on the grid of whole multiples of `scale` that rounds to it. -/
def Interval.hit (tie : Tie) (i : Interval) : Option Nat :=
  let floor := i.value / i.scale
  let below := i.holds (floor * i.scale)
  let above := i.holds ((floor + 1) * i.scale)
  if below && above then some (roundDiv tie i.value i.scale)
  else if below then some floor
  else if above then some (floor + 1)
  else none

/-- Tries the grids `10 ^ exponent`, `10 ^ (exponent - 1)`, …, at most `steps` of them. -/
def Interval.search (tie : Tie) (i : Interval) : Nat → Int → Digits
  | 0, exponent => ⟨(i.refine (-exponent)).value / (i.refine (-exponent)).scale, exponent⟩
  | steps + 1, exponent =>
    match (i.refine (-exponent)).hit tie with
    | some digits => ⟨digits, exponent⟩
    | none => i.search tie steps (exponent - 1)

/-- A power of ten above `significand * 2 ^ exponent`. -/
def topExponent (significand : Nat) (exponent : Int) : Int :=
  (significand.log2 + exponent + 1) * 30103 / 100000 + 2

/-- The shortest decimal that rounds to a positive number of the format, and of these the nearest.
Seventeen digits always suffice; the first grids tried lie above the number. -/
def shortest (tie : Tie) (f : Format) (significand : Nat) (exponent : Int) : Digits :=
  (Interval.around f significand exponent).search tie 24 (topExponent significand exponent)

end TypedFilter.Binary
