/-!
Text between quotes. A quote inside is written twice, so that the text ends at the first quote that
stands alone. Main statement: what is written between quotes is read back.
-/

namespace TypedFilter.Text

/-- Writes each quote twice. -/
def doubleQuotes (quote : Char) : List Char → List Char
  | [] => []
  | c :: rest => if c = quote then quote :: quote :: doubleQuotes quote rest
    else c :: doubleQuotes quote rest

/-- The text between quotes. -/
def quoted (quote : Char) (s : String) : String :=
  String.ofList (quote :: doubleQuotes quote s.toList ++ [quote])

/-- Reads up to the quote that ends the text: the text, and what follows that quote. -/
def readQuoted? (quote : Char) : List Char → Option (List Char × List Char)
  | [] => none
  | [c] => if c = quote then some ([], []) else none
  | c :: d :: rest =>
    if c = quote then
      if d = quote then (readQuoted? quote rest).map fun (text, after) => (quote :: text, after)
      else some ([], d :: rest)
    else (readQuoted? quote (d :: rest)).map fun (text, after) => (c :: text, after)

theorem readQuoted?_doubleQuotes (quote : Char) (s after : List Char)
    (h : after.head? ≠ some quote) :
    readQuoted? quote (doubleQuotes quote s ++ quote :: after) = some (s, after) := by
  induction s with
  | nil =>
    cases after with
    | nil => simp [doubleQuotes, readQuoted?]
    | cons d rest =>
      have hd : d ≠ quote := fun hd => h (by rw [hd]; rfl)
      simp [doubleQuotes, readQuoted?, hd]
  | cons c s ih =>
    by_cases hc : c = quote
    · subst hc
      simp only [doubleQuotes, if_true, List.cons_append, readQuoted?, ih, Option.map_some]
    · obtain ⟨d, rest, hd⟩ : ∃ d rest, doubleQuotes quote s ++ quote :: after = d :: rest :=
        List.exists_cons_of_ne_nil (by simp)
      rw [hd] at ih
      simp only [doubleQuotes, hc, if_false, List.cons_append, hd, readQuoted?, ih,
        Option.map_some]

end TypedFilter.Text
