import TypedFilter.Binary.Arithmetic

/-!
The hypotenuse of a right triangle. The root of the sum of the squares comes within a unit in the
last place; one Newton step from there is nearly always the number closest to the hypotenuse. Legs
whose squares would leave the format are scaled by a power of two, which is exact.
-/

namespace TypedFilter.Binary

/-- The number `2 ^ k`. -/
def twoTo (k : Int) : Double :=
  pack .double false (pow2 52) (k - 52)

/-- The hypotenuse of a triangle whose squares the format holds, `long` not being the lesser leg.
The Newton step divides `root ^ 2 - long ^ 2 - short ^ 2` by twice the root; written with the
difference between the root and the leg that is nearer to it, this does not cancel. -/
def hypotOfOrdered (long short : Double) : Double :=
  let double (x : Double) : Double := (twoTo 1).mul x
  let root := ((long.mul long).add (short.mul short)).sqrt
  let excess :=
    if root.le (double short) then
      let rest := root.sub short
      (long.mul ((double rest).sub long)).add
        ((rest.sub (double (long.sub short))).mul rest)
    else
      let rest := root.sub long
      ((double rest).mul (long.sub (double short))).add
        (((((twoTo 2).mul rest).sub short).mul short).add (rest.mul rest))
  root.sub (excess.div (double root))

/-- The hypotenuse over two legs of either sign. Beside a leg that is `2 ^ 54` times as long, the
other does not matter. -/
def hypot (x y : Double) : Double :=
  let (long, short) := if x.abs.lt y.abs then (y.abs, x.abs) else (x.abs, y.abs)
  let scaled (k : Int) : Double :=
    (hypotOfOrdered (long.mul (twoTo k)) (short.mul (twoTo k))).mul (twoTo (-k))
  if x.abs == .infinite false || y.abs == .infinite false then .infinite false
  else if (short.mul (twoTo 54)).le long then long
  else if (twoTo 511).lt long then scaled (-600)
  else if short.lt (twoTo (-459)) then scaled 600
  else hypotOfOrdered long short

end TypedFilter.Binary
