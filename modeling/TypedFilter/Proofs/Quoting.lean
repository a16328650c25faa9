import Mathlib.Tactic.SplitIfs
import TypedFilter.Proofs.Lexemes

/-!
Names and texts as they are written, inside longer texts. Main statement: whatever the name or the
text is, the text that it is written as is cut into one token for it, and what follows is cut as it
would be alone.
-/

namespace TypedFilter.Sql

/-! ### Errors further on in a text -/

/-- The error in a text that stands `k` characters further on. -/
def ReadError.moved (k : Nat) : ReadError → ReadError
  | .unexpectedChar c position => .unexpectedChar c (position + k)
  | .unclosedString start => .unclosedString (start + k)
  | .unclosedName start => .unclosedName (start + k)
  | .unquotedMoment start => .unquotedMoment (start + k)
  | .unclosedMoment start => .unclosedMoment (start + k)
  | .unknownMoment kind start => .unknownMoment kind (start + k)
  | e => e

section Moving

variable {total : Nat} {cs : List Char} (k : Nat)

theorem positionOf_add (h : cs.length ≤ total) :
    positionOf (total + k) cs = positionOf total cs + k := by
  unfold positionOf
  omega

/-- The position of the character before. -/
theorem positionOf_add_sub_one (h : cs.length < total) :
    positionOf (total + k) cs - 1 = positionOf total cs - 1 + k := by
  unfold positionOf
  omega

theorem lexString_add (h : cs.length < total) :
    lexString (total + k) cs = (lexString total cs).mapError (.moved k) := by
  unfold lexString
  rw [positionOf_add_sub_one k h]
  cases Text.readQuoted? '\'' cs <;> rfl

theorem lexName_add (h : cs.length < total) :
    lexName (total + k) cs = (lexName total cs).mapError (.moved k) := by
  unfold lexName
  rw [positionOf_add_sub_one k h]
  cases Text.readQuoted? '"' cs <;> rfl

theorem lexMoment_add (h : cs.length < total) :
    lexMoment (total + k) cs = (lexMoment total cs).mapError (.moved k) := by
  have h₁ := length_dropWhile_le Text.isBlank cs
  have h₂ := length_dropWhile_le isNamePart (Text.trimStart cs)
  have h₃ := length_dropWhile_le Text.isBlank ((Text.trimStart cs).dropWhile isNamePart)
  unfold lexMoment
  dsimp only
  rw [positionOf_add_sub_one k h]
  split
  · rename_i rest hquote
    have hrest : rest.length < total := by
      have := congrArg List.length hquote
      simp only [Text.trimStart, List.length_cons] at this h₁ h₂ h₃
      omega
    rw [lexString_add k hrest]
    cases lexString total rest with
    | error e => rfl
    | ok p =>
      simp only [Except.mapError, bind, Except.bind]
      split
      · split <;> rfl
      · rfl
  · rfl

theorem lexToken_add (c : Char) (h : cs.length < total) :
    lexToken (total + k) c cs = (lexToken total c cs).mapError (.moved k) := by
  unfold lexToken
  rw [positionOf_add_sub_one k h, positionOf_add k (Nat.le_of_lt h), lexMoment_add k h, lexString_add k h,
    lexName_add k h]
  cases lexSign? c cs with
  | some p => rfl
  | none =>
    dsimp only
    split_ifs
    · rfl
    · rfl
    · cases lexString total cs <;> rfl
    all_goals rfl

/-- Only the positions of errors depend on what stands before a text. -/
theorem tokensFrom_add (h : cs.length ≤ total) :
    tokensFrom (total + k) cs = (tokensFrom total cs).mapError (.moved k) := by
  have hle := length_skipIgnored_le false cs
  fun_induction tokensFrom total cs with
  | case1 cs hs =>
    rw [tokensFrom_eq, hs]
    rfl
  | case2 cs c rest hs e ht =>
    rw [hs, List.length_cons] at hle
    have htoken := lexToken_add k c (show rest.length < total by omega)
    rw [ht] at htoken
    rw [tokensFrom_eq, hs]
    simp only [htoken, Except.mapError, Except.bind]
  | case3 cs c rest hs t after ht hlt ih =>
    rw [hs, List.length_cons] at hle
    have htoken := lexToken_add k c (show rest.length < total by omega)
    rw [ht] at htoken
    rw [tokensFrom_cons hs htoken, ih (by omega) (length_skipIgnored_le false after)]
    cases tokensFrom total after <;> rfl

end Moving

/-! ### Names and texts in front -/

/-- Whether the text is empty or starts with a blank, a comma or a bracket. -/
def EndsBefore (s : String) : Prop :=
  ∀ c ∈ s.toList.head?, Text.isBlank c = true ∨ c = ',' ∨ c = '(' ∨ c = ')'

/-- A text in front that is cut into one token: the tokens of the other text come after it, and its
errors are further on. -/
theorem tokenize_append {a b : String} {t : Token}
    (h : ∀ total, tokensFrom total (a.toList ++ b.toList) =
      (tokensFrom total b.toList).map (t :: ·)) :
    tokenize (a ++ b) = ((tokenize b).map (t :: ·)).mapError (.moved a.length) := by
  have hlength : (a ++ b).toList.length = b.toList.length + a.length := by
    rw [String.length_toList, String.length_append, String.length_toList, Nat.add_comm]
  rw [tokenize, String.toList_append, h, ← String.toList_append, hlength,
    tokensFrom_add a.length (Nat.le_refl _), tokenize]
  cases tokensFrom b.toList.length b.toList <;> rfl

theorem not_isNamePart_of_endsBefore {s : String} (h : EndsBefore s) :
    ∀ c ∈ s.toList.head?, isNamePart c = false := by
  intro c hc
  rw [Bool.eq_false_iff]
  intro hpart
  have hplain := isPlainChar_of_isNamePart hpart
  rcases h c hc with hblank | rfl | rfl | rfl
  · rw [isBlank_of_isPlainChar hplain] at hblank
    cases hblank
  all_goals exact absurd hpart (by decide)

theorem head_ne_of_endsBefore {s : String} {c : Char} (h : EndsBefore s)
    (hc : ¬(Text.isBlank c = true ∨ c = ',' ∨ c = '(' ∨ c = ')') := by decide) :
    s.toList.head? ≠ some c :=
  fun hhead => hc (h c hhead)

/-- A name as statements have it is read as that name, never as a keyword, and a string as it is
shown is read as that string. What follows after a blank, a comma or a bracket has the tokens that
it has alone; where it cannot be read, the error is the same but for its position. -/
theorem quoting_is_inverted (n s b : String) (hb : EndsBefore b) :
    tokenize (quoteName n ++ b) =
        ((tokenize b).map (.identifier n :: ·)).mapError (.moved (quoteName n).length) ∧
      tokenize ((Value.string s).text ++ b) =
        ((tokenize b).map (.string s :: ·)).mapError (.moved (Value.string s).text.length) := by
  constructor
  · refine tokenize_append fun total => tokensFrom_quoteName n total fun c hc =>
      ⟨not_isNamePart_of_endsBefore hb c hc, ?_⟩
    rintro rfl
    exact head_ne_of_endsBefore hb (by decide) hc
  · exact tokenize_append fun total => tokensFrom_string s total (head_ne_of_endsBefore hb)

/-- A keyword as a name before a wide blank, and a text of quotes alone before another one that does
not end. -/
theorem quoting_is_inverted_keyword :
    let list : String := "\u2003(1)"
    let unclosed : String := "(1, 'it"
    EndsBefore list ∧ EndsBefore unclosed ∧
      tokenize ("\"sElect\"" ++ list) =
        .ok [.identifier "sElect", .sign .leftParen, .number "1", .sign .rightParen, .eof] ∧
      tokenize unclosed = .error (.unclosedString 4) ∧
      tokenize ("''''''" ++ unclosed) = .error (.unclosedString 10) := by
  intro list unclosed
  have hlist : EndsBefore list := by
    have hhead : list.toList.head? = some '\u2003' := by decide
    rw [EndsBefore, hhead]
    rintro c ⟨⟩
    exact .inl (by decide)
  have hunclosed : EndsBefore unclosed := by
    have hhead : unclosed.toList.head? = some '(' := by decide
    rw [EndsBefore, hhead]
    rintro c ⟨⟩
    exact .inr (.inr (.inl rfl))
  have htokens : tokenize list =
        .ok [.sign .leftParen, .number "1", .sign .rightParen, .eof] ∧
      tokenize unclosed = .error (.unclosedString 4) := by
    decide +kernel
  have hname := (quoting_is_inverted "sElect" "" list hlist).1
  have htext := (quoting_is_inverted "" "''" unclosed hunclosed).2
  rw [htokens.1] at hname
  rw [htokens.2] at htext
  exact ⟨hlist, hunclosed, hname, htokens.2, htext⟩

end TypedFilter.Sql
