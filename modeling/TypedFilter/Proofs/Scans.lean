import TypedFilter.Proofs.Agreement
import TypedFilter.Proofs.Blanks

/-!
Cutting a text into tokens with loops that are given fuel. The search for a token starts over after
a comment, and tokens are taken until the end of the text is one of them. Main statements: fuel for
one more round than the text has characters is enough, and what comes out are the tokens of the
text; and the end of the text is the last of these, and none of the others.
-/

namespace TypedFilter.Sql

variable {total fuel : Nat} {c : Char} {cs rest after : List Char} {t : Token}

/-! ### Loops -/

/-- Leaves out the characters up to the end of a line, and the end of the line. -/
def skipLine : List Char → List Char
  | [] => []
  | c :: rest => if c = '\n' then rest else skipLine rest

/-- The first token of a text and what is left after it. After a comment the search starts over. -/
def scanToken (total : Nat) : Nat → List Char → Option (Except ReadError Lexeme)
  | 0, _ => none
  | fuel + 1, cs =>
    match Text.trimStart cs with
    | [] => some (.ok (.eof, []))
    | '-' :: '-' :: rest => scanToken total fuel (skipLine ('-' :: rest))
    | c :: rest => some (lexToken total c rest)

/-- The tokens of a text, until one of them is the end of the text. -/
def scanTokens (total : Nat) : Nat → List Char → Option (Except ReadError (List Token))
  | 0, _ => none
  | fuel + 1, cs =>
    match scanToken total (fuel + 1) cs with
    | none => none
    | some (.error e) => some (.error e)
    | some (.ok (t, after)) =>
      if t = .eof then some (.ok [t])
      else (scanTokens total fuel after).map fun ts => ts.map (t :: ·)

/-! ### Comments -/

theorem length_skipLine_le (cs : List Char) : (skipLine cs).length ≤ cs.length := by
  fun_induction skipLine cs <;> grind

theorem skipIgnored_dash (rest : List Char) :
    skipIgnored true ('-' :: rest) = skipIgnored true rest := by
  induction rest with
  | nil => rfl
  | cons d rest ih =>
    by_cases hd : d = '-'
    · subst hd
      rw [ih, skipIgnored.eq_2]
    · rw [skipIgnored.eq_3 _ _ _ fun _ _ heq => hd (List.cons.inj heq).1]
      rfl

/-- A comment goes on until its line ends. -/
theorem skipIgnored_comment (hc : c ≠ '\n') (rest : List Char) :
    skipIgnored true (c :: rest) = skipIgnored true rest := by
  by_cases hdash : c = '-'
  · subst hdash
    exact skipIgnored_dash rest
  · rw [skipIgnored.eq_3 _ _ _ fun _ heq => absurd heq hdash, if_pos rfl, bne_iff_ne.2 hc]

theorem skipIgnored_skipLine (cs : List Char) :
    skipIgnored false (skipLine cs) = skipIgnored true cs := by
  induction cs using skipLine.induct with
  | case1 => rfl
  | case2 rest =>
    rw [skipIgnored_newline]
    rfl
  | case3 c rest hc ih => rw [skipLine, if_neg hc, ih, skipIgnored_comment hc]

/-- Where a search comes to that is not about to skip a comment. -/
theorem skipIgnored_of_trimStart (h : Text.trimStart cs = c :: rest)
    (hdash : ∀ r, c = '-' → rest = '-' :: r → False) : skipIgnored false cs = c :: rest := by
  have hblank : Text.isBlank c = false := by
    have hhead := List.head?_dropWhile_not Text.isBlank cs
    rwa [← Text.trimStart, h] at hhead
  rw [← skipIgnored_trimStart, h, skipIgnored.eq_3 _ _ _ hdash, if_neg Bool.false_ne_true,
    if_neg (Bool.eq_false_iff.1 hblank)]

/-- More fuel than there are characters is enough to find the first token. -/
theorem scanToken_eq (h : cs.length < fuel) :
    scanToken total fuel cs = some (match skipIgnored false cs with
      | [] => .ok (.eof, [])
      | c :: rest => lexToken total c rest) := by
  induction fuel generalizing cs with
  | zero => exact absurd h (Nat.not_lt_zero _)
  | succ fuel ih =>
    have hlen := length_dropWhile_le Text.isBlank cs
    rw [scanToken]
    split
    · rename_i htrim
      rw [← skipIgnored_trimStart cs, htrim]
      rfl
    · rename_i rest htrim
      have hline := length_skipLine_le ('-' :: rest)
      rw [← Text.trimStart, htrim, List.length_cons] at hlen
      rw [ih (by omega), skipIgnored_skipLine, ← skipIgnored_trimStart cs, htrim,
        skipIgnored_dash, skipIgnored.eq_2]
    · rename_i c rest hdash htrim
      rw [skipIgnored_of_trimStart htrim hdash]

/-! ### Tokens -/

/-- No token of a text is taken for its end. -/
theorem ne_eof_of_lexToken (h : lexToken total c rest = .ok (t, after)) : t ≠ .eof := by
  cases lexToken_eq_ok_iff.1 h with
  | sign | string => simp
  | moment _ h =>
    obtain ⟨-, -, -, -, -, -, -, -, -, -, rfl⟩ := lexMoment_eq_ok_iff.1 h
    simp
  | name _ h =>
    rw [lexName] at h
    split at h
    · cases h
      simp
    · cases h
  | word =>
    rw [lexWord]
    dsimp only
    split <;> simp
  | number =>
    rw [lexNumber]
    dsimp only
    split
    · split <;> simp
    · simp

/-- More fuel than there are characters is enough to find all tokens. -/
theorem scanTokens_eq (h : cs.length < fuel) :
    scanTokens total fuel cs = some (tokensFrom total cs) := by
  induction fuel generalizing cs with
  | zero => exact absurd h (Nat.not_lt_zero _)
  | succ fuel ih =>
    rw [scanTokens, scanToken_eq h, tokensFrom_eq]
    cases hs : skipIgnored false cs with
    | nil => rfl
    | cons c rest =>
      dsimp only
      cases ht : lexToken total c rest with
      | error e => rfl
      | ok p =>
        obtain ⟨t, after⟩ := p
        have hlen := length_lt_of_lexToken hs ht
        dsimp only [Except.bind]
        rw [if_neg (ne_eof_of_lexToken ht), ih (by omega)]
        rfl

theorem endsOnce_tokensFrom {ts : List Token} (h : tokensFrom total cs = .ok ts) :
    EndsOnce ts := by
  fun_induction tokensFrom total cs generalizing ts with
  | case1 =>
    cases h
    exact ⟨[], rfl, List.not_mem_nil⟩
  | case2 => cases h
  | case3 cs c rest hs t after ht _ ih =>
    obtain ⟨ts', hts, rfl⟩ := exists_of_map_ok h
    obtain ⟨body, rfl, hbody⟩ := ih hts
    refine ⟨t :: body, rfl, ?_⟩
    rw [List.mem_cons]
    rintro (heq | hmem)
    · exact ne_eof_of_lexToken ht heq.symm
    · exact hbody hmem

end TypedFilter.Sql
