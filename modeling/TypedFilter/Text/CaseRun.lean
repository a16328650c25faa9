/-!
Maps between letters of different case, kept as runs of evenly spaced code points that all move by
the same distance.
-/

namespace TypedFilter.Text

/-- The code points `first, first + step, …, last`; `first` goes to `image` and the others move
by the same distance. -/
structure CaseRun where
  first : Nat
  last : Nat
  step : Nat
  image : Nat

/-- Whether the run moves the code point. -/
def CaseRun.covers (r : CaseRun) (n : Nat) : Bool :=
  r.first ≤ n && n ≤ r.last && (n - r.first) % r.step == 0

/-- The image of a character under the first run that covers it; other characters stay. -/
def CaseRun.apply (runs : List CaseRun) (c : Char) : Char :=
  match runs.find? (·.covers c.toNat) with
  | some r => Char.ofNat (r.image + (c.toNat - r.first))
  | none => c

end TypedFilter.Text
