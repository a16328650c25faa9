/-!
Decimal digits: numbers as rows of digits, rows of digits as numbers, and where a point stands in
them.
-/

namespace TypedFilter

/-- The decimal digits of a number, without leading zeros. -/
def natDigits (n : Nat) : List Char :=
  Nat.toDigits 10 n

/-- The number that a row of digits denotes. -/
def ofDigits (cs : List Char) : Nat :=
  Nat.ofDigitChars 10 cs 0

@[simp] theorem ofDigits_natDigits (n : Nat) : ofDigits (natDigits n) = n :=
  Nat.ofDigitChars_ten_toDigits

/-- A natural number as decimal text. -/
def natText (n : Nat) : String :=
  String.ofList (natDigits n)

/-- A whole number with its sign, as decimal text. -/
def intText (n : Int) : String :=
  String.ofList (if n < 0 then '-' :: natDigits n.natAbs else natDigits n.natAbs)

/-- The row filled up to `width` with zeros on the left. -/
def padLeft (width : Nat) (cs : List Char) : List Char :=
  List.replicate (width - cs.length) '0' ++ cs

theorem length_padLeft (width : Nat) (cs : List Char) :
    (padLeft width cs).length = max width cs.length := by
  simp only [padLeft, List.length_append, List.length_replicate]
  omega

/-- The longest row of digits at the start, and the rest. -/
def takeDigits (cs : List Char) : List Char × List Char :=
  (cs.takeWhile Char.isDigit, cs.dropWhile Char.isDigit)

/-- Digits with a point `places` from the right; a zero stands before a leading point. -/
def pointed (digits : List Char) (places : Nat) : List Char :=
  if places = 0 then digits
  else
    let digits := padLeft (places + 1) digits
    digits.take (digits.length - places) ++ '.' :: digits.drop (digits.length - places)

end TypedFilter
