import TypedFilter.Powers
import TypedFilter.Rounding

/-!
Decimal numbers: a sign, a mantissa below `2 ^ 96` and up to 28 places. The number of places is
part of a decimal (`1.50` is not `1.5`), but order and equality look at the number alone.
-/

namespace TypedFilter

/-- The decimal `± mantissa / 10 ^ scale`. -/
structure Decimal where
  negative : Bool
  mantissa : Nat
  scale : Nat
  mantissa_lt : mantissa < pow2 96
  scale_le : scale ≤ 28
  deriving DecidableEq

namespace Decimal

/-- The decimal with these parts, if they are within bounds. -/
def ofParts? (negative : Bool) (mantissa scale : Nat) : Option Decimal :=
  if h : mantissa < pow2 96 ∧ scale ≤ 28 then some ⟨negative, mantissa, scale, h.1, h.2⟩ else none

/-- The decimal with these parts, if they are within bounds; a zero has no sign. -/
def unsignedZero? (negative : Bool) (mantissa scale : Nat) : Option Decimal :=
  ofParts? (negative && mantissa != 0) mantissa scale

/-- The same decimal, but a zero has no sign. -/
def unsignZero (d : Decimal) : Decimal :=
  { d with negative := d.negative && d.mantissa != 0 }

/-- Zero without places. -/
def zero : Decimal := ⟨false, 0, 0, by decide, by decide⟩

instance : Inhabited Decimal := ⟨zero⟩

/-- A whole number without places. -/
def ofInt (n : Int) (h : n.natAbs < pow2 96) : Decimal :=
  ⟨n < 0, n.natAbs, 0, h, by decide⟩

/-- The mantissa with its sign. -/
def coefficient (d : Decimal) : Int :=
  if d.negative then -(d.mantissa : Int) else d.mantissa

/-- Whether the number is zero. -/
def isZero (d : Decimal) : Bool :=
  d.mantissa == 0

/-- The number with its sign turned; zero turns too. -/
def neg (d : Decimal) : Decimal :=
  { d with negative := !d.negative }

/-- The order of the numbers. -/
def compare (a b : Decimal) : Ordering :=
  Ord.compare (a.coefficient * pow10 b.scale) (b.coefficient * pow10 a.scale)

/-- Equality of the numbers, whatever their places. -/
instance : BEq Decimal where
  beq a b := a.compare b == .eq

/-- The whole part, cut off towards zero. -/
def truncate (d : Decimal) : Int :=
  d.coefficient.tdiv (pow10 d.scale)

/-- Whether nothing but zeros stands after the point. -/
def isWhole (d : Decimal) : Bool :=
  d.mantissa % pow10 d.scale == 0

/-- Mantissa and scale after dropping zeros at the end of the places. -/
def dropZeros (mantissa : Nat) : Nat → Nat × Nat
  | 0 => (mantissa, 0)
  | scale + 1 =>
    if mantissa % 10 = 0 then dropZeros (mantissa / 10) scale else (mantissa, scale + 1)

theorem dropZeros_le (mantissa scale : Nat) :
    (dropZeros mantissa scale).1 ≤ mantissa ∧ (dropZeros mantissa scale).2 ≤ scale := by
  induction scale generalizing mantissa with
  | zero => simp [dropZeros]
  | succ scale ih =>
    unfold dropZeros
    split
    · have := ih (mantissa / 10)
      omega
    · simp

/-- The same number without zeros at the end of its places. -/
def shorten (d : Decimal) : Decimal :=
  { d with
    mantissa := (dropZeros d.mantissa d.scale).1
    scale := (dropZeros d.mantissa d.scale).2
    mantissa_lt := Nat.lt_of_le_of_lt (dropZeros_le _ _).1 d.mantissa_lt
    scale_le := Nat.le_trans (dropZeros_le _ _).2 d.scale_le }

/-- The same number without a run of zeros at the end of its places, if it has that many. -/
def dropRun (count : Nat) (d : Decimal) : Decimal :=
  if count ≤ d.scale ∧ d.mantissa % pow10 count = 0 then
    { d with
      mantissa := d.mantissa / pow10 count
      scale := d.scale - count
      mantissa_lt := Nat.lt_of_le_of_lt (Nat.div_le_self _ _) d.mantissa_lt
      scale_le := Nat.le_trans (Nat.sub_le _ _) d.scale_le }
  else d

/-- The one form of each number: no zeros at the end of the places and no signed zero. -/
def normalize (d : Decimal) : Decimal :=
  if d.isZero then zero else d.shorten

/-- How many digits the mantissa has; zero has one. -/
def precision (d : Decimal) : Nat :=
  (Nat.toDigits 10 d.mantissa).length

/-- Looking at two decimals from the other side turns their order around. -/
theorem compare_swap (a b : Decimal) : b.compare a = (a.compare b).swap :=
  Std.OrientedOrd.eq_swap (α := Int)

end Decimal

end TypedFilter
