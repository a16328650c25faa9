/-!
Rounding a quotient of natural numbers to the nearest whole number.
-/

namespace TypedFilter

/-- Where a quotient goes that lies halfway between two whole numbers. -/
inductive Tie where
  /-- To the even neighbour. -/
  | even
  /-- To the larger neighbour. -/
  | up
  deriving DecidableEq, Repr

/-- The whole number nearest to `num / den`. -/
def roundDiv (tie : Tie) (num den : Nat) : Nat :=
  let floor := num / den
  match compare (2 * (num % den)) den with
  | .lt => floor
  | .gt => floor + 1
  | .eq =>
    match tie with
    | .even => floor + floor % 2
    | .up => floor + 1

theorem roundDiv_exact (tie : Tie) (num den : Nat) (h : 0 < den) :
    roundDiv tie (num * den) den = num := by
  have h₁ : num * den % den = 0 := Nat.mul_mod_left num den
  have h₂ : compare (2 * (num * den % den)) den = .lt := by
    rw [h₁, Nat.mul_zero, Nat.compare_eq_lt]
    exact h
  simp only [roundDiv, h₂]
  exact Nat.mul_div_cancel num h

theorem le_roundDiv (tie : Tie) (num den : Nat) : num / den ≤ roundDiv tie num den := by
  unfold roundDiv
  cases compare (2 * (num % den)) den <;> cases tie <;> simp

theorem roundDiv_le (tie : Tie) (num den : Nat) : roundDiv tie num den ≤ num / den + 1 := by
  unfold roundDiv
  cases compare (2 * (num % den)) den <;> cases tie <;> simp
  exact Nat.le_of_lt_succ (Nat.mod_lt _ (by decide))

end TypedFilter
