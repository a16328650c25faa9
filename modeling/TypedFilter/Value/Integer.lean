import TypedFilter.Decimal.Basic

/-!
Whole numbers of a fixed width.
-/

namespace TypedFilter

/-- The widths of whole numbers. -/
inductive IntWidth where
  /-- 16 bits. -/
  | short
  /-- 32 bits. -/
  | int
  /-- 64 bits. -/
  | long
  deriving DecidableEq, Repr

namespace IntWidth

/-- The number of bits besides the sign. -/
def bits : IntWidth → Nat
  | .short => 15
  | .int => 31
  | .long => 63

/-- Whether a number fits. -/
def Holds (w : IntWidth) (n : Int) : Prop :=
  -(pow2 w.bits : Int) ≤ n ∧ n < pow2 w.bits

instance (w : IntWidth) (n : Int) : Decidable (w.Holds n) :=
  inferInstanceAs (Decidable (_ ∧ _))

end IntWidth

/-- A whole number that fits its width. -/
structure SizedInt (w : IntWidth) where
  toInt : Int
  holds : w.Holds toInt
  deriving DecidableEq

namespace SizedInt

variable {w : IntWidth}

@[ext] theorem ext {a b : SizedInt w} (h : a.toInt = b.toInt) : a = b := by
  cases a; cases b; simp_all

/-- The number in a width that holds it. -/
def ofInt? (w : IntWidth) (n : Int) : Option (SizedInt w) :=
  if h : w.Holds n then some ⟨n, h⟩ else none

theorem ofInt?_eq_some_iff {n : Int} {a : SizedInt w} :
    ofInt? w n = some a ↔ a.toInt = n := by
  unfold ofInt?
  constructor
  · intro h
    split at h
    · cases h; rfl
    · cases h
  · rintro rfl
    simp [a.holds]

theorem natAbs_lt (a : SizedInt w) : a.toInt.natAbs < pow2 96 := by
  have h := a.holds
  have h₁ : pow2 w.bits ≤ pow2 95 := pow2_le_pow2 (by cases w <;> decide)
  have h₂ : pow2 96 = pow2 95 * 2 := pow2_succ 95
  have h₃ := pow2_pos 95
  unfold IntWidth.Holds at h
  omega

/-- The same number as a decimal. -/
def toDecimal (a : SizedInt w) : Decimal :=
  .ofInt a.toInt a.natAbs_lt

end SizedInt

end TypedFilter
