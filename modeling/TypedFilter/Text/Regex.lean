/-!
Regular expressions, as far as patterns need them: parts that follow one another. A search looks for
the parts anywhere in a text; it marks the places that a match can go on from, for the last part
first.
-/

namespace TypedFilter.Text

/-- A part of a regular expression. -/
inductive RegexPart where
  /-- The start of the text: `^`. -/
  | start
  /-- The end of the text: `$`. -/
  | stop
  /-- Any one character, a line break too: `.`. -/
  | any
  /-- Any run of characters: `.*`. -/
  | run
  /-- A character itself, escaped where it has another meaning. -/
  | char (c : Char)
  deriving DecidableEq, Repr

namespace RegexPart

/-- For each place, whether there is a true one there or later. -/
def trueFrom : List Bool → List Bool
  | [] => []
  | b :: rest =>
    let later := trueFrom rest
    (b || later.head?.getD false) :: later

/-- The places right before a character that is accepted and a place that is marked. -/
def stepBack (accepts : Char → Bool) (text : List Char) (marks : List Bool) : List Bool :=
  List.zipWith (fun c b => accepts c && b) text marks.tail ++ [false]

/-- For each place of a text, its end included, whether a match of the part from there can end at a
place that is marked; `same` tells which characters stand for each other. -/
def marksBefore (same : Char → Char → Bool) (text : List Char) (marks : List Bool) :
    RegexPart → List Bool
  | start => marks.take 1 ++ text.map fun _ => false
  | stop => (text.map fun _ => false) ++ marks.drop text.length
  | any => stepBack (fun _ => true) text marks
  | run => trueFrom marks
  | char p => stepBack (same p) text marks

/-- Whether the parts, one after the other, match anywhere in a text. -/
def search (same : Char → Char → Bool) (parts : List RegexPart) (text : List Char) : Bool :=
  let ends := text.map (fun _ => true) ++ [true]
  (parts.foldr (fun p marks => p.marksBefore same text marks) ends).any id

end RegexPart

end TypedFilter.Text
