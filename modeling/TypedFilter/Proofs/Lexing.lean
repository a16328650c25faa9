import TypedFilter.Sql.Lexer
import TypedFilter.Sql.Name

/-!
Cutting texts that are put together from smaller ones. A text that is cut into some tokens wherever
a token can end after it is cut into the same tokens inside a longer text. Main statements: words,
names, numbers, quoted texts and dates are such texts, and so is what blanks, commas and brackets
make of them.
-/

namespace TypedFilter

/-! ### Blanks and letters -/

namespace Text

/-- Whether no code point lies in ranges of both. -/
def Ranges.areApart (a b : Ranges) : Bool :=
  a.all fun r => b.all fun s => Nat.blt r.2 s.1 || Nat.blt s.2 r.1

theorem Ranges.contains_of_areApart {a b : Ranges} (h : a.areApart b = true) {c : Char}
    (hc : b.contains c = true) : a.contains c = false := by
  rw [Bool.eq_false_iff, Ne, Ranges.contains_iff]
  rintro ⟨r, hr, hlow, hhigh⟩
  obtain ⟨s, hs, hlow', hhigh'⟩ := Ranges.contains_iff.1 hc
  have hapart := List.all_eq_true.1 (List.all_eq_true.1 h r hr) s hs
  rw [Bool.or_eq_true, Nat.blt_eq, Nat.blt_eq] at hapart
  omega

/-- A property of characters below code point 128 is settled by trying them. -/
theorem isBlank_of_forall {p : Char → Bool}
    (h : ∀ n < 128, p (Char.ofNat n) = true → isBlank (Char.ofNat n) = false) {c : Char}
    (hc : c.toNat < 128) (hp : p c = true) : isBlank c = false := by
  have hblank := h c.toNat hc
  rw [Char.ofNat_toNat] at hblank
  exact hblank hp

theorem areApart_blankRanges : blankRanges.areApart alphabeticRanges = true ∧
    blankRanges.areApart numericRanges = true := by
  decide +kernel

theorem isBlank_of_isAlphabetic {c : Char} (h : isAlphabetic c = true) : isBlank c = false := by
  rw [isAlphabetic] at h
  split at h
  · rename_i hc
    exact isBlank_of_forall (by decide) hc h
  · rename_i hc
    rw [isBlank, if_neg hc]
    exact Ranges.contains_of_areApart areApart_blankRanges.1 h

theorem isBlank_of_isNumeric {c : Char} (h : isNumeric c = true) : isBlank c = false := by
  rw [isNumeric] at h
  split at h
  · rename_i hc
    exact isBlank_of_forall (by decide) hc h
  · rename_i hc
    rw [isBlank, if_neg hc]
    exact Ranges.contains_of_areApart areApart_blankRanges.2 h

end Text

namespace Sql

/-! ### One token after the other -/

theorem tokensFrom_eq (total : Nat) (cs : List Char) :
    tokensFrom total cs =
      match skipIgnored false cs with
      | [] => .ok [.eof]
      | c :: rest =>
        (lexToken total c rest).bind fun p => (tokensFrom total p.2).map (p.1 :: ·) := by
  rw [tokensFrom]
  split
  · rename_i hs
    rw [hs]
  · rename_i hs
    split
    · rename_i ht
      simp only [hs, ht, Except.bind]
    · rename_i ht
      simp only [hs, ht, Except.bind]

theorem tokensFrom_nil (total : Nat) : tokensFrom total [] = .ok [.eof] := by
  rw [tokensFrom_eq]
  rfl

theorem tokensFrom_of_skip {total : Nat} {cs ds : List Char}
    (h : skipIgnored false cs = skipIgnored false ds) :
    tokensFrom total cs = tokensFrom total ds := by
  rw [tokensFrom_eq, tokensFrom_eq total ds, h]

theorem tokensFrom_cons {total : Nat} {cs rest after : List Char} {c : Char} {t : Token}
    (hs : skipIgnored false cs = c :: rest) (ht : lexToken total c rest = .ok (t, after)) :
    tokensFrom total cs = (tokensFrom total after).map (t :: ·) := by
  rw [tokensFrom_eq, hs]
  simp only [ht, Except.bind]

theorem skipIgnored_space (cs : List Char) :
    skipIgnored false (' ' :: cs) = skipIgnored false cs := by
  rw [skipIgnored.eq_3 _ _ _ (by simp)]
  rfl

theorem skipIgnored_of_ne {c : Char} {rest : List Char} (hb : Text.isBlank c = false)
    (hc : c ≠ '-') : skipIgnored false (c :: rest) = c :: rest := by
  rw [skipIgnored.eq_3 _ _ _ (by simp [hc])]
  simp [hb]

theorem skipIgnored_minus {rest : List Char} (h : rest.head? ≠ some '-') :
    skipIgnored false ('-' :: rest) = '-' :: rest := by
  rw [skipIgnored.eq_3 _ _ _ (by rintro _ _ rfl; exact h rfl)]
  rfl

theorem tokensFrom_space (total : Nat) (cs : List Char) :
    tokensFrom total (' ' :: cs) = tokensFrom total cs :=
  tokensFrom_of_skip (skipIgnored_space cs)

/-! ### Texts that keep their tokens -/

/-- Whether a token that stands before the characters ends there: they are none, or start with a
blank, a comma or a closing bracket. -/
def endsToken : List Char → Bool
  | [] => true
  | c :: _ => c == ' ' || c == ',' || c == ')'

/-- The text is cut into the tokens, whatever follows it after the end of a token. -/
def Lexes (s : String) (ts : List Token) : Prop :=
  ∀ total after, endsToken after = true →
    tokensFrom total (s.toList ++ after) = (tokensFrom total after).map (ts ++ ·)

theorem Except.map_map {ε α β γ : Type} (f : α → β) (g : β → γ) (x : Except ε α) :
    (x.map f).map g = x.map fun a => g (f a) := by
  cases x <;> rfl

namespace Lexes

/-- A text of one token: reading the token leaves what follows the text. -/
theorem token {s : String} {c : Char} {cs : List Char} {t : Token} (hs : s.toList = c :: cs)
    (hb : Text.isBlank c = false) (hc : c ≠ '-')
    (h : ∀ total after, endsToken after = true →
      lexToken total c (cs ++ after) = .ok (t, after)) : Lexes s [t] := by
  intro total after ha
  rw [hs]
  exact tokensFrom_cons (skipIgnored_of_ne hb hc) (h total after ha)

/-- Two texts with a blank between them. -/
theorem spaced {a b : String} {ts us : List Token} (ha : Lexes a ts) (hb : Lexes b us) :
    Lexes (a ++ " " ++ b) (ts ++ us) := by
  intro total after hafter
  have h₁ : (a ++ " " ++ b).toList ++ after = a.toList ++ ' ' :: (b.toList ++ after) := by
    simp
  rw [h₁, ha total _ rfl, tokensFrom_space, hb total after hafter, Except.map_map]
  simp only [List.append_assoc]

/-- Two texts with a word or a sign between them that blanks stand around. -/
theorem around {a b w : String} {ts us : List Token} {t : Token} (ha : Lexes a ts)
    (hw : Lexes w [t]) (hb : Lexes b us) : Lexes (a ++ (" " ++ w ++ " ") ++ b) (ts ++ t :: us) := by
  have h := ha.spaced (hw.spaced hb)
  simpa only [String.append_assoc, List.singleton_append] using h

/-- Two texts with a comma between them. -/
theorem comma {a b : String} {ts us : List Token} (ha : Lexes a ts) (hb : Lexes b us) :
    Lexes (a ++ "," ++ b) (ts ++ .sign .comma :: us) := by
  intro total after hafter
  have h₁ : (a ++ "," ++ b).toList ++ after = a.toList ++ ',' :: (b.toList ++ after) := by
    simp
  have h₂ : tokensFrom total (',' :: (b.toList ++ after)) =
      (tokensFrom total (b.toList ++ after)).map (.sign .comma :: ·) :=
    tokensFrom_cons (skipIgnored_of_ne (by decide) (by decide)) rfl
  rw [h₁, ha total _ rfl, h₂, hb total after hafter, Except.map_map, Except.map_map]
  simp only [List.append_assoc, List.cons_append]

/-- A text with a blank before it. -/
theorem blank {b : String} {us : List Token} (hb : Lexes b us) : Lexes (" " ++ b) us := by
  intro total after hafter
  have h₁ : (" " ++ b).toList ++ after = ' ' :: (b.toList ++ after) := by simp
  rw [h₁, tokensFrom_space, hb total after hafter]

/-- A text after an opening bracket. -/
theorem opened {b : String} {us : List Token} (hb : Lexes b us) :
    Lexes ("(" ++ b) (.sign .leftParen :: us) := by
  intro total after hafter
  have h₁ : ("(" ++ b).toList ++ after = '(' :: (b.toList ++ after) := by simp
  have h₂ : tokensFrom total ('(' :: (b.toList ++ after)) =
      (tokensFrom total (b.toList ++ after)).map (.sign .leftParen :: ·) :=
    tokensFrom_cons (skipIgnored_of_ne (by decide) (by decide)) rfl
  rw [h₁, h₂, hb total after hafter, Except.map_map]
  rfl

/-- A text before a closing bracket. -/
theorem closed {a : String} {ts : List Token} (ha : Lexes a ts) :
    Lexes (a ++ ")") (ts ++ [.sign .rightParen]) := by
  intro total after _
  have h₁ : (a ++ ")").toList ++ after = a.toList ++ ')' :: after := by simp
  have h₂ : tokensFrom total (')' :: after) =
      (tokensFrom total after).map (.sign .rightParen :: ·) :=
    tokensFrom_cons (skipIgnored_of_ne (by decide) (by decide)) rfl
  rw [h₁, ha total _ rfl, h₂, Except.map_map]
  simp only [List.append_assoc, List.singleton_append]

end Lexes

/-! ### Words -/

/-- The characters that signs and quoted texts start with. -/
def signChars : List Char :=
  "|<>!+-*/%=(),;.\x7b\x7d'\"".toList

/-- Characters that start neither a sign nor anything quoted, and are no blanks. -/
def isPlainChar (c : Char) : Bool :=
  !Text.isBlank c && !signChars.contains c

/-- Neither a blank nor the start of a sign goes on with a name. -/
theorem isPlainChar_of_isNamePart {c : Char} (h : isNamePart c = true) : isPlainChar c = true := by
  have hblank : Text.isBlank c = false := by
    rw [isNamePart, Bool.or_eq_true, Bool.or_eq_true, beq_iff_eq] at h
    rcases h with (h | h) | rfl
    · exact Text.isBlank_of_isAlphabetic h
    · exact Text.isBlank_of_isNumeric h
    · decide
  have hsign : c ∉ signChars := by
    have hall : signChars.all (fun d => !isNamePart d) = true := by decide
    intro hc
    have hpart := List.all_eq_true.1 hall c hc
    rw [h] at hpart
    cases hpart
  simp only [isPlainChar, hblank, List.contains_eq_mem, hsign, decide_false, Bool.not_false,
    Bool.and_self]

theorem isPlainChar_of_isNameStart {c : Char} (h : isNameStart c = true) :
    isPlainChar c = true := by
  refine isPlainChar_of_isNamePart ?_
  rw [isNameStart, Bool.or_eq_true] at h
  rw [isNamePart, Bool.or_eq_true, Bool.or_eq_true]
  exact h.imp_left .inl

theorem isPlainChar_of_isDigit {c : Char} (h : c.isDigit = true) : isPlainChar c = true := by
  have hcode := (Char.isDigit_iff_toNat.1 h).2
  have hnine : '9'.toNat = 57 := rfl
  refine isPlainChar_of_isNamePart ?_
  rw [isNamePart, Text.isNumeric_of_isDigit h (by omega), Bool.or_true, Bool.true_or]

theorem isBlank_of_isPlainChar {c : Char} (h : isPlainChar c = true) : Text.isBlank c = false := by
  simp only [isPlainChar, Bool.and_eq_true, Bool.not_eq_true'] at h
  exact h.1

theorem ne_of_isPlainChar {c d : Char} (h : isPlainChar c = true)
    (hd : d ∈ signChars := by decide) : c ≠ d := by
  rintro rfl
  simp [isPlainChar, hd] at h

theorem lexSign?_of_isPlainChar {c : Char} (h : isPlainChar c = true) (rest : List Char) :
    lexSign? c rest = none := by
  unfold lexSign?
  split
  case h_19 => rfl
  all_goals exact absurd h (by decide)

/-- A plain character starts a word or a number. -/
theorem lexToken_of_isPlainChar {c : Char} (h : isPlainChar c = true) (total : Nat)
    (rest : List Char) :
    lexToken total c rest =
      if isNameStart c then .ok (lexWord c rest)
      else if c.isDigit then .ok (lexNumber c rest)
      else .error (.unexpectedChar c (positionOf total rest - 1)) := by
  rw [lexToken, lexSign?_of_isPlainChar h]
  simp only [ne_of_isPlainChar h (d := '|'), ne_of_isPlainChar h (d := '!'),
    ne_of_isPlainChar h (d := '\x7b'), ne_of_isPlainChar h (d := '\''),
    ne_of_isPlainChar h (d := '"'), or_self, if_false]

/-- Whether the characters are a word: a letter or an underscore, and after it letters, numerals
and underscores. -/
def isWordChars : List Char → Bool
  | [] => false
  | c :: cs => isNameStart c && cs.all isNamePart

/-- The token of a word. -/
def wordToken (s : String) : Token :=
  match Keyword.ofWord? s with
  | some k => .keyword k
  | none => .identifier s

theorem span_append {p : Char → Bool} {cs : List Char} (after : List Char)
    (hcs : cs.all p = true) (hafter : ∀ c ∈ after.head?, p c = false) :
    (cs ++ after).takeWhile p = cs ∧ (cs ++ after).dropWhile p = after := by
  have hall : ∀ c ∈ cs, p c = true := List.all_eq_true.1 hcs
  have htake : after.takeWhile p = [] ∧ after.dropWhile p = after := by
    cases after with
    | nil => exact ⟨rfl, rfl⟩
    | cons c after =>
      have hc := hafter c rfl
      simp [hc]
  rw [List.takeWhile_append_of_pos hall, List.dropWhile_append_of_pos hall, htake.1, htake.2,
    List.append_nil]
  exact ⟨rfl, rfl⟩

/-- A word stands before anything that cannot go on with it. -/
theorem tokensFrom_word {s : String} (h : isWordChars s.toList = true) (total : Nat)
    {after : List Char} (hafter : ∀ c ∈ after.head?, isNamePart c = false) :
    tokensFrom total (s.toList ++ after) = (tokensFrom total after).map (wordToken s :: ·) := by
  cases hs : s.toList with
  | nil =>
    rw [hs] at h
    cases h
  | cons c cs =>
    rw [hs, isWordChars, Bool.and_eq_true] at h
    have hc := isPlainChar_of_isNameStart h.1
    have hspan := span_append after h.2 hafter
    refine tokensFrom_cons (skipIgnored_of_ne (isBlank_of_isPlainChar hc) (ne_of_isPlainChar hc)) ?_
    have hofList : String.ofList (c :: cs) = s := by rw [← hs, String.ofList_toList]
    show lexToken total c (cs ++ after) = _
    rw [lexToken_of_isPlainChar hc, if_pos h.1, lexWord, hspan.1, hspan.2, hofList]
    rfl

theorem head_of_endsToken {after : List Char} (h : endsToken after = true) :
    ∀ c ∈ after.head?, c = ' ' ∨ c = ',' ∨ c = ')' := by
  intro c hc
  cases after with
  | nil => cases hc
  | cons d after =>
    cases hc
    simpa [endsToken, or_assoc] using h

theorem not_of_endsToken {p : Char → Bool} (hp : p ' ' = false ∧ p ',' = false ∧ p ')' = false)
    {after : List Char} (h : endsToken after = true) : ∀ c ∈ after.head?, p c = false := by
  intro c hc
  rcases head_of_endsToken h c hc with rfl | rfl | rfl
  · exact hp.1
  · exact hp.2.1
  · exact hp.2.2

theorem lexes_word {s : String} (h : isWordChars s.toList = true) : Lexes s [wordToken s] :=
  fun total _ hafter => tokensFrom_word h total (not_of_endsToken (by decide) hafter)

/-- A word and an opening bracket right after it. -/
theorem Lexes.call {w b : String} {us : List Token} (hw : isWordChars w.toList = true)
    (hb : Lexes b us) : Lexes (w ++ "(" ++ b) (wordToken w :: .sign .leftParen :: us) := by
  intro total after hafter
  have h₁ : (w ++ "(" ++ b).toList ++ after = w.toList ++ (("(" ++ b).toList ++ after) := by
    simp
  have h₂ : ("(" ++ b).toList ++ after = '(' :: (b.toList ++ after) := by simp
  rw [h₁, tokensFrom_word hw total (by rw [h₂]; rintro c ⟨⟩; decide), hb.opened total after hafter,
    Except.map_map]
  rfl

end Sql

end TypedFilter
