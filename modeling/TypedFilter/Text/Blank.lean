import TypedFilter.Text.CodePoints

/-!
Blank characters, in the sense of the Unicode property `White_Space`, and cutting them off
the ends of a text.
-/

namespace TypedFilter.Text

/-- Code points from 128 up that have the property `White_Space`. -/
def blankRanges : Ranges := [
  (0x85, 0x85), (0xA0, 0xA0), (0x1680, 0x1680), (0x2000, 0x200A), (0x2028, 0x2029),
  (0x202F, 0x202F), (0x205F, 0x205F), (0x3000, 0x3000)]

/-- Blank characters: space, tab, line ends, no-break and typographic spaces. -/
def isBlank (c : Char) : Bool :=
  if c.toNat < 128 then (c.toNat == 0x20 || (9 ≤ c.toNat && c.toNat ≤ 13)) else blankRanges.contains c

/-- The text without the blanks at its start. -/
def trimStart (cs : List Char) : List Char :=
  cs.dropWhile isBlank

/-- The text without the blanks at its end. -/
def trimEnd (cs : List Char) : List Char :=
  (cs.reverse.dropWhile isBlank).reverse

/-- The text without the blanks at either end. -/
def trim (s : String) : String :=
  String.ofList (trimEnd (trimStart s.toList))

/-- Whether the text holds nothing but blanks. -/
def allBlank (s : String) : Bool :=
  s.toList.all isBlank

end TypedFilter.Text
