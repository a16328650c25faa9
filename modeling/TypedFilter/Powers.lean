/-!
Powers of two and of ten: what the places of binary and of decimal numbers are worth.
-/

namespace TypedFilter

/-- Two to a power. -/
def pow2 (k : Nat) : Nat :=
  Nat.pow 2 k

/-- Ten to a power. -/
def pow10 (k : Nat) : Nat :=
  Nat.pow 10 k

theorem pow2_succ (k : Nat) : pow2 (k + 1) = pow2 k * 2 := rfl

theorem pow10_succ (k : Nat) : pow10 (k + 1) = pow10 k * 10 := rfl

theorem pow2_pos (k : Nat) : 0 < pow2 k :=
  Nat.pow_pos (Nat.succ_pos 1)

theorem pow10_pos (k : Nat) : 0 < pow10 k :=
  Nat.pow_pos (Nat.succ_pos 9)

theorem pow10_add (j k : Nat) : pow10 (j + k) = pow10 j * pow10 k :=
  Nat.pow_add 10 j k

theorem pow2_le_pow2 {j k : Nat} (h : j ≤ k) : pow2 j ≤ pow2 k :=
  Nat.pow_le_pow_right (Nat.succ_pos 1) h

theorem pow10_le_pow10 {j k : Nat} (h : j ≤ k) : pow10 j ≤ pow10 k :=
  Nat.pow_le_pow_right (Nat.succ_pos 9) h

theorem pow10_mul_pow10_sub {j k : Nat} (h : j ≤ k) : pow10 j * pow10 (k - j) = pow10 k := by
  rw [← pow10_add, Nat.add_sub_cancel' h]

end TypedFilter
