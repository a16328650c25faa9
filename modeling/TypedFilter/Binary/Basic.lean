import TypedFilter.Powers
import TypedFilter.Rounding

/-!
Binary floating-point numbers, held exactly: a sign, a significand and a power of two in the one
form that the format gives each number. Every finite number is a whole multiple of the format's
least number, and order and equality are those of these multiples.
-/

namespace TypedFilter

/-- A binary format: finite numbers are `significand * 2 ^ exponent`, the significand below
`2 ^ precision` and the exponent between the bounds. -/
structure Binary.Format where
  precision : Nat
  minExponent : Int
  maxExponent : Int
  deriving DecidableEq, Repr

namespace Binary.Format

/-- The 64-bit format. -/
def double : Format := ⟨53, -1074, 971⟩

/-- The 32-bit format. -/
def single : Format := ⟨24, -149, 104⟩

/-- The one form of each number: the significand has its full length, unless the exponent is the
least one. -/
def Canonical (f : Format) (significand : Nat) (exponent : Int) : Prop :=
  significand < pow2 f.precision ∧ f.minExponent ≤ exponent ∧ exponent ≤ f.maxExponent ∧
    (pow2 (f.precision - 1) ≤ significand ∨ exponent = f.minExponent)

instance (f : Format) (m : Nat) (e : Int) : Decidable (f.Canonical m e) :=
  inferInstanceAs (Decidable (_ ∧ _))

end Binary.Format

/-- A number of a binary format. -/
inductive Binary (f : Binary.Format) where
  /-- The result of an undefined operation. -/
  | nan
  /-- Beyond the largest number. -/
  | infinite (negative : Bool)
  /-- A finite number; zero has a sign too. -/
  | finite (negative : Bool) (significand : Nat) (exponent : Int)
      (canonical : f.Canonical significand exponent)
  deriving DecidableEq

/-- A number of the 64-bit format. -/
abbrev Double := Binary .double

/-- A number of the 32-bit format. -/
abbrev Single := Binary .single

namespace Binary

variable {f : Format}

/-- The number `significand * 2 ^ exponent`, or infinity where the format does not hold it. -/
def pack (f : Format) (negative : Bool) (significand : Nat) (exponent : Int) : Binary f :=
  if h : f.Canonical significand exponent then .finite negative significand exponent h
  else .infinite negative

/-- The zero of a sign. -/
def zero (negative : Bool) : Binary f :=
  pack f negative 0 f.minExponent

/-- Whether the number has a minus sign. -/
def isNegative : Binary f → Bool
  | .nan => false
  | .infinite negative => negative
  | .finite negative _ _ _ => negative

/-- Whether the number is neither infinite nor undefined. -/
def isFinite : Binary f → Bool
  | .finite .. => true
  | _ => false

/-- Whether the number is zero, of either sign. -/
def isZero : Binary f → Bool
  | .finite _ m _ _ => m == 0
  | _ => false

/-- The number with its sign turned. -/
def neg : Binary f → Binary f
  | .nan => .nan
  | .infinite negative => .infinite (!negative)
  | .finite negative m e h => .finite (!negative) m e h

/-- The number without its sign. -/
def abs : Binary f → Binary f
  | .nan => .nan
  | .infinite _ => .infinite false
  | .finite _ m e h => .finite false m e h

/-- The absolute value of a finite number as a multiple of the format's least number. -/
def magnitude : Binary f → Nat
  | .finite _ m e _ => m * pow2 (e - f.minExponent).toNat
  | _ => 0

/-- A finite number as a multiple of the format's least number. -/
def units (x : Binary f) : Int :=
  if x.isNegative then -(x.magnitude : Int) else x.magnitude

/-- How many of the format's least numbers make one. -/
def Format.unitsPerOne (f : Format) : Nat :=
  pow2 (-f.minExponent).toNat

/-- The order of two numbers; an undefined number has none. -/
def compare? : Binary f → Binary f → Option Ordering
  | .nan, _ => none
  | _, .nan => none
  | .infinite a, .infinite b => some (compare b a)
  | .infinite a, .finite .. => some (if a then .lt else .gt)
  | .finite .., .infinite b => some (if b then .gt else .lt)
  | x, y => some (compare x.units y.units)

/-- Equality as numbers: both zeros agree, and an undefined number differs from itself. -/
instance : BEq (Binary f) where
  beq x y := x.compare? y == some .eq

/-- Whether the first number is less. -/
def lt (x y : Binary f) : Bool :=
  x.compare? y == some .lt

/-- Whether the first number is less or equal. -/
def le (x y : Binary f) : Bool :=
  x.lt y || x == y

/-- Whether the number is undefined. -/
def isNan : Binary f → Bool
  | .nan => true
  | _ => false

/-- The lesser of two numbers, the first where they are equal; an undefined number gives way. -/
def least (x y : Binary f) : Binary f :=
  if x.isNan || y.lt x then y else x

/-- The greater of two numbers, the first where they are equal; an undefined number gives way. -/
def greatest (x y : Binary f) : Binary f :=
  if x.isNan || x.lt y then y else x

/-- Looking at two numbers from the other side turns their order around. -/
theorem compare?_swap (x y : Binary f) : y.compare? x = (x.compare? y).map Ordering.swap := by
  cases x with
  | nan => cases y <;> rfl
  | infinite a =>
    cases y with
    | nan => rfl
    | infinite b => cases a <;> cases b <;> rfl
    | finite n m e h => cases a <;> rfl
  | finite n m e h =>
    cases y with
    | nan => rfl
    | infinite b => cases b <;> rfl
    | finite n' m' e' h' =>
      simp only [compare?, Option.map_some, Option.some.injEq]
      exact (Std.OrientedCmp.eq_swap)

end Binary

end TypedFilter
