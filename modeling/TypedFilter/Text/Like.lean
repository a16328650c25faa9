import TypedFilter.Text.Caseless
import TypedFilter.Text.Regex

/-!
Patterns of LIKE: `%` stands for any run of characters, `_` for any one character, and every other
character for itself. A pattern is looked for as a regular expression for the whole text.
-/

namespace TypedFilter.Text

/-- The part of a regular expression that a character of a pattern stands for. -/
def likePart (p : Char) : RegexPart :=
  if p = '%' then .run else if p = '_' then .any else .char p

/-- The regular expression that a pattern stands for, from the start of a text to its end. -/
def likeRegex (pattern : List Char) : List RegexPart :=
  .start :: (pattern.map likePart ++ [.stop])

/-- Whether a text matches a pattern of LIKE. -/
def like (text pattern : String) (ignoreCase : Bool) : Bool :=
  RegexPart.search (if ignoreCase then sameIgnoringCase else (· == ·)) (likeRegex pattern.toList)
    text.toList

end TypedFilter.Text
