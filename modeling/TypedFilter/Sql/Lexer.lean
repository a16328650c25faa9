import TypedFilter.Sql.Error
import TypedFilter.Text.Alphabetic
import TypedFilter.Text.Blank
import TypedFilter.Text.Lowercase
import TypedFilter.Text.Numeric
import TypedFilter.Text.Quoted

/-!
Cutting SQL text into tokens. A function that reads one token takes the characters after the first
one and returns what follows the token; `total` is the length of the whole text, from which
positions are counted. Main statement: a token and what is skipped before it leave a shorter text.
-/

namespace TypedFilter.Sql

/-- Characters that a name starts with. -/
def isNameStart (c : Char) : Bool :=
  Text.isAlphabetic c || c == '_'

/-- Characters that a name goes on with. -/
def isNamePart (c : Char) : Bool :=
  Text.isAlphabetic c || Text.isNumeric c || c == '_'

/-- Leaves out blanks, and comments from two dashes to the end of their line. -/
def skipIgnored (inComment : Bool) : List Char → List Char
  | [] => []
  | '-' :: '-' :: rest => skipIgnored true rest
  | c :: rest =>
    if inComment then skipIgnored (c != '\n') rest
    else if Text.isBlank c then skipIgnored false rest
    else c :: rest

/-- A token and the characters after it. -/
abbrev Lexeme := Token × List Char

/-- The position at which some characters are left. -/
def positionOf (total : Nat) (left : List Char) : Nat :=
  total - left.length

/-- Reads a keyword or a name. -/
def lexWord (c : Char) (rest : List Char) : Lexeme :=
  let word := String.ofList (c :: rest.takeWhile isNamePart)
  let token := match Keyword.ofWord? word with
    | some k => .keyword k
    | none => .identifier word
  (token, rest.dropWhile isNamePart)

/-- Reads a number: digits, and a point if a digit follows it. -/
def lexNumber (c : Char) (rest : List Char) : Lexeme :=
  let (whole, after) := takeDigits rest
  match after with
  | '.' :: after =>
    match takeDigits after with
    | ([], _) => (.number (String.ofList (c :: whole)), '.' :: after)
    | (fraction, after) => (.number (String.ofList (c :: whole ++ '.' :: fraction)), after)
  | after => (.number (String.ofList (c :: whole)), after)

/-- Reads a text after its opening quote. -/
def lexString (total : Nat) (rest : List Char) : Except ReadError (String × List Char) :=
  match Text.readQuoted? '\'' rest with
  | some (text, after) => .ok (String.ofList text, after)
  | none => .error (.unclosedString (positionOf total rest - 1))

/-- Reads a name after its opening quote; it is never a keyword. -/
def lexName (total : Nat) (rest : List Char) : Except ReadError Lexeme :=
  match Text.readQuoted? '"' rest with
  | some (name, after) => .ok (.identifier (String.ofList name), after)
  | none => .error (.unclosedName (positionOf total rest - 1))

/-- The kind of date or time that a word in lower case names. -/
def MomentKind.ofWord? : String → Option MomentKind
  | "d" => some .date
  | "t" => some .time
  | "ts" => some .timestamp
  | _ => none

/-- Reads a date or time after its opening brace. -/
def lexMoment (total : Nat) (rest : List Char) : Except ReadError Lexeme :=
  let start := positionOf total rest - 1
  let rest := Text.trimStart rest
  let word := Text.lowercase (String.ofList (rest.takeWhile isNamePart))
  match Text.trimStart (rest.dropWhile isNamePart) with
  | '\'' :: rest => do
    let (text, after) ← lexString total rest
    match Text.trimStart after with
    | '\x7d' :: after =>
      match MomentKind.ofWord? word with
      | some kind => .ok (.moment kind text, after)
      | none => .error (.unknownMoment word start)
    | _ => .error (.unclosedMoment start)
  | _ => .error (.unquotedMoment start)

/-- Reads a sign of one or two characters. -/
def lexSign? (c : Char) (rest : List Char) : Option (Sign × List Char) :=
  match c, rest with
  | '|', '|' :: rest => some (.concat, rest)
  | '<', '=' :: rest => some (.lessEqual, rest)
  | '<', '>' :: rest => some (.notEqual, rest)
  | '>', '=' :: rest => some (.greaterEqual, rest)
  | '!', '=' :: rest => some (.notEqual, rest)
  | '+', rest => some (.plus, rest)
  | '-', rest => some (.minus, rest)
  | '*', rest => some (.star, rest)
  | '/', rest => some (.slash, rest)
  | '%', rest => some (.percent, rest)
  | '=', rest => some (.equal, rest)
  | '<', rest => some (.less, rest)
  | '>', rest => some (.greater, rest)
  | '(', rest => some (.leftParen, rest)
  | ')', rest => some (.rightParen, rest)
  | ',', rest => some (.comma, rest)
  | ';', rest => some (.semicolon, rest)
  | '.', rest => some (.dot, rest)
  | _, _ => none

/-- Reads the token that starts with `c`. The first half of a sign alone is refused at the character
after it. -/
def lexToken (total : Nat) (c : Char) (rest : List Char) : Except ReadError Lexeme :=
  match lexSign? c rest with
  | some (sign, after) => .ok (.sign sign, after)
  | none =>
    if c = '|' ∨ c = '!' then .error (.unexpectedChar c (positionOf total rest))
    else if c = '\x7b' then lexMoment total rest
    else if c = '\'' then (lexString total rest).map fun (text, after) => (.string text, after)
    else if c = '"' then lexName total rest
    else if isNameStart c then .ok (lexWord c rest)
    else if c.isDigit then .ok (lexNumber c rest)
    else .error (.unexpectedChar c (positionOf total rest - 1))

/-! ### Nothing is read twice -/

theorem length_skipIgnored_le (inComment : Bool) (cs : List Char) :
    (skipIgnored inComment cs).length ≤ cs.length := by
  fun_induction skipIgnored inComment cs <;> grind

theorem length_dropWhile_le {α : Type} (p : α → Bool) (cs : List α) :
    (cs.dropWhile p).length ≤ cs.length :=
  List.Sublist.length_le (List.dropWhile_sublist p)

theorem length_readQuoted {quote : Char} {cs text after : List Char}
    (h : Text.readQuoted? quote cs = some (text, after)) : after.length ≤ cs.length := by
  fun_induction Text.readQuoted? quote cs generalizing text after
  all_goals grind [Option.map_eq_some_iff]

theorem length_lexString {total : Nat} {cs : List Char} {p : String × List Char}
    (h : lexString total cs = .ok p) : p.2.length ≤ cs.length := by
  unfold lexString at h
  split at h
  · rename_i hq
    have := length_readQuoted hq
    grind
  · cases h

theorem length_lexName {total : Nat} {cs after : List Char} {t : Token}
    (h : lexName total cs = .ok (t, after)) : after.length ≤ cs.length := by
  unfold lexName at h
  split at h
  · rename_i hq
    have := length_readQuoted hq
    grind
  · cases h

theorem length_lexNumber (c : Char) (rest : List Char) :
    (lexNumber c rest).2.length ≤ rest.length := by
  have h₁ := length_dropWhile_le Char.isDigit rest
  have h₂ := length_dropWhile_le Char.isDigit (rest.dropWhile Char.isDigit).tail
  unfold lexNumber takeDigits
  simp only
  split
  · split <;> grind
  · grind

theorem length_lexSign {c : Char} {rest after : List Char} {s : Sign}
    (h : lexSign? c rest = some (s, after)) : after.length ≤ rest.length := by
  unfold lexSign? at h
  split at h <;> grind

theorem length_lexMoment {total : Nat} {cs after : List Char} {t : Token}
    (h : lexMoment total cs = .ok (t, after)) : after.length ≤ cs.length := by
  have h₁ := length_dropWhile_le Text.isBlank cs
  have h₂ := length_dropWhile_le isNamePart (Text.trimStart cs)
  have h₃ := length_dropWhile_le Text.isBlank ((Text.trimStart cs).dropWhile isNamePart)
  unfold lexMoment at h
  simp only at h
  split at h
  · rename_i rest heq
    cases hs : lexString total rest with
    | error e => rw [hs] at h; cases h
    | ok p =>
      have h₄ := length_lexString hs
      have h₅ := length_dropWhile_le Text.isBlank p.2
      rw [hs] at h
      simp only [bind, Except.bind] at h
      split at h
      · rename_i heq'
        split at h
        · cases h
          simp_all [Text.trimStart]
          omega
        · cases h
      · cases h
  · cases h

/-- A token is at least one character long. -/
theorem length_lexToken {total : Nat} {c : Char} {rest after : List Char} {t : Token}
    (h : lexToken total c rest = .ok (t, after)) : after.length ≤ rest.length := by
  unfold lexToken at h
  split at h
  · rename_i hs
    cases h
    exact length_lexSign hs
  · split at h
    · cases h
    split at h
    · exact length_lexMoment h
    split at h
    · cases hs : lexString total rest with
      | error e => rw [hs] at h; cases h
      | ok p =>
        rw [hs] at h
        cases h
        exact length_lexString hs
    split at h
    · exact length_lexName h
    split at h
    · have hword : (lexWord c rest).2 = after := congrArg Prod.snd (Except.ok.inj h)
      rw [← hword]
      exact length_dropWhile_le isNamePart rest
    split at h
    · have hn := length_lexNumber c rest
      injection h with h
      rwa [h] at hn
    · cases h

theorem length_lt_of_lexToken {total : Nat} {c : Char} {cs rest after : List Char} {t : Token}
    (hs : skipIgnored false cs = c :: rest) (ht : lexToken total c rest = .ok (t, after)) :
    after.length < cs.length := by
  have h₁ := length_skipIgnored_le false cs
  have h₂ := length_lexToken ht
  rw [hs, List.length_cons] at h₁
  omega

/-- The tokens of some characters, with the end of the text after the last. -/
def tokensFrom (total : Nat) (cs : List Char) : Except ReadError (List Token) :=
  match hs : skipIgnored false cs with
  | [] => .ok [.eof]
  | c :: rest =>
    match ht : lexToken total c rest with
    | .error e => .error e
    | .ok (t, after) =>
      have : after.length < cs.length := length_lt_of_lexToken hs ht
      (tokensFrom total after).map (t :: ·)
termination_by cs.length

/-- Cuts a text into tokens, with the end of the text after the last. -/
def tokenize (text : String) : Except ReadError (List Token) :=
  tokensFrom text.toList.length text.toList

end TypedFilter.Sql
