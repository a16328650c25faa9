import Mathlib.Data.List.TakeWhile
import TypedFilter.Proofs.Statements

/-!
Texts with blanks after them. No token reaches over a blank that does not stand inside it, and a
line break ends a comment. Main statements: the tokens of a text come first in any text that goes on
with a line break after it, and what comes after is cut by itself; and blanks at the ends of a text
make no difference to its tokens.
-/

namespace TypedFilter.Sql

variable {c : Char} {cs rest after more : List Char} {t : Token}

/-! ### Blanks -/

/-- Whether the characters are none or start with a blank. -/
def StartsBlank (cs : List Char) : Prop :=
  ∀ c ∈ cs.head?, Text.isBlank c = true

/-- Whether the characters are blanks. -/
def AreBlank (cs : List Char) : Prop :=
  ∀ c ∈ cs, Text.isBlank c = true

theorem startsBlank_newline (cs : List Char) : StartsBlank ('\n' :: cs) := by
  rintro c ⟨⟩
  decide

theorem AreBlank.startsBlank (h : AreBlank cs) : StartsBlank cs :=
  fun c hc => h c (List.mem_of_mem_head? hc)

/-- What does not hold of the blanks does not hold of the first character. -/
theorem StartsBlank.head_ne {d : Char} (h : StartsBlank (c :: cs)) (hd : Text.isBlank d = false) :
    c ≠ d := by
  rintro rfl
  have hblank := h c rfl
  rw [hd] at hblank
  cases hblank

theorem isNamePart_of_isBlank (h : Text.isBlank c = true) : isNamePart c = false := by
  rw [Bool.eq_false_iff]
  intro hpart
  rw [isBlank_of_isPlainChar (isPlainChar_of_isNamePart hpart)] at h
  cases h

theorem isDigit_of_isBlank (h : Text.isBlank c = true) : c.isDigit = false := by
  rw [Bool.eq_false_iff]
  intro hdigit
  rw [isBlank_of_isPlainChar (isPlainChar_of_isDigit hdigit)] at h
  cases h

/-! ### Reading up to a blank -/

/-- A blank is no second dash. -/
theorem not_dashes_append (hmore : StartsBlank more)
    (h : ∀ r, c = '-' → rest = '-' :: r → False) :
    ∀ r, c = '-' → rest ++ more = '-' :: r → False := by
  intro r hc hr
  cases rest with
  | nil =>
    cases more with
    | nil => cases hr
    | cons d more => exact hmore.head_ne (by decide) (List.cons.inj hr).1
  | cons d rest => exact h rest hc (by rw [(List.cons.inj hr).1])

/-- What is left of a text stays before what follows the text, which is skipped in the same way
after a comment and outside of one. -/
theorem skipIgnored_append (hmore : StartsBlank more) {left : List Char}
    (hleft : ∀ inComment, skipIgnored inComment more = left) (inComment : Bool) (cs : List Char) :
    skipIgnored inComment (cs ++ more) =
      match skipIgnored inComment cs with
      | [] => left
      | c :: rest => c :: rest ++ more := by
  fun_induction skipIgnored inComment cs with
  | case1 inComment => exact hleft inComment
  | case2 inComment rest ih => exact ih
  | case3 c rest hdash ih =>
    rw [List.cons_append, skipIgnored.eq_3 _ _ _ (not_dashes_append hmore hdash), if_pos rfl, ih]
  | case4 inComment c rest hdash hopen hblank ih =>
    rw [List.cons_append, skipIgnored.eq_3 _ _ _ (not_dashes_append hmore hdash), if_neg hopen,
      if_pos hblank, ih]
  | case5 inComment c rest hdash hopen hblank =>
    rw [List.cons_append, skipIgnored.eq_3 _ _ _ (not_dashes_append hmore hdash), if_neg hopen,
      if_neg hblank]
    rfl

theorem skipIgnored_newline (more : List Char) (inComment : Bool) :
    skipIgnored inComment ('\n' :: more) = skipIgnored false more := by
  rw [skipIgnored.eq_3 _ _ _ (by simp)]
  cases inComment <;> rfl

theorem skipIgnored_blanks (h : AreBlank cs) (inComment : Bool) :
    skipIgnored inComment cs = [] := by
  induction cs generalizing inComment with
  | nil => rfl
  | cons c cs ih =>
    obtain ⟨hc, hcs⟩ := List.forall_mem_cons.1 h
    rw [skipIgnored.eq_3 _ _ _ fun _ hdash _ => by
      rw [hdash] at hc
      exact absurd hc (by decide)]
    simp only [hc, ih hcs, if_true, ite_self]

theorem span_blank {p : Char → Bool} (hp : ∀ c, Text.isBlank c = true → p c = false)
    (hmore : StartsBlank more) (cs : List Char) :
    (cs ++ more).takeWhile p = cs.takeWhile p ∧
      (cs ++ more).dropWhile p = cs.dropWhile p ++ more := by
  induction cs with
  | nil =>
    cases more with
    | nil => exact ⟨rfl, rfl⟩
    | cons b more => simp [hp b (hmore b rfl)]
  | cons c cs ih =>
    rw [List.cons_append, List.takeWhile_cons, List.takeWhile_cons, List.dropWhile_cons,
      List.dropWhile_cons, ih.1, ih.2]
    split <;> exact ⟨rfl, rfl⟩

theorem trimStart_append (h : Text.trimStart cs = c :: rest) (more : List Char) :
    Text.trimStart (cs ++ more) = c :: (rest ++ more) := by
  rw [Text.trimStart] at h
  rw [Text.trimStart, List.dropWhile_append, h]
  rfl

/-- The quote that ends a text is not doubled by a blank. -/
theorem readQuoted_append {quote : Char} (hquote : Text.isBlank quote = false)
    (hmore : StartsBlank more) {text : List Char}
    (h : Text.readQuoted? quote cs = some (text, after)) :
    Text.readQuoted? quote (cs ++ more) = some (text, after ++ more) := by
  fun_induction Text.readQuoted? quote cs generalizing text after with
  | case1 => cases h
  | case2 =>
    cases h
    cases more with
    | nil => simp [Text.readQuoted?]
    | cons b more => simp [Text.readQuoted?, hmore.head_ne hquote]
  | case3 => cases h
  | case4 rest ih =>
    obtain ⟨⟨text', after'⟩, hread, ⟨⟩⟩ := Option.map_eq_some_iff.1 h
    simp only [List.cons_append, Text.readQuoted?, if_true, ih hread, Option.map_some]
  | case5 d rest hd =>
    cases h
    simp [Text.readQuoted?, hd]
  | case6 c d rest hc ih =>
    obtain ⟨⟨text', after'⟩, hread, ⟨⟩⟩ := Option.map_eq_some_iff.1 h
    have hmore := ih hread
    rw [List.cons_append] at hmore
    simp only [List.cons_append, Text.readQuoted?, hc, if_false, hmore, Option.map_some]

/-! ### How tokens are read -/

/-- The ways in which a token that starts with a character is read, with what is left after it. -/
inductive Cuts (total : Nat) (c : Char) (rest : List Char) : Token → List Char → Prop
  | sign {s : Sign} {after : List Char} (h : lexSign? c rest = some (s, after)) :
    Cuts total c rest (.sign s) after
  | moment {t : Token} {after : List Char} (hc : c = '\x7b')
    (h : lexMoment total rest = .ok (t, after)) : Cuts total c rest t after
  | string {p : String × List Char} (hc : c = '\'') (h : lexString total rest = .ok p) :
    Cuts total c rest (.string p.1) p.2
  | name {t : Token} {after : List Char} (hc : c = '"')
    (h : lexName total rest = .ok (t, after)) : Cuts total c rest t after
  | word (hc : isNameStart c = true) : Cuts total c rest (lexWord c rest).1 (lexWord c rest).2
  | number (hc : c.isDigit = true) :
    Cuts total c rest (lexNumber c rest).1 (lexNumber c rest).2

theorem lexToken_eq_ok_iff {total : Nat} :
    lexToken total c rest = .ok (t, after) ↔ Cuts total c rest t after := by
  constructor
  · intro h
    rw [lexToken] at h
    split at h
    · rename_i hsign
      cases h
      exact .sign hsign
    split at h
    · cases h
    split at h
    · exact .moment ‹_› h
    split at h
    · obtain ⟨p, hp, ⟨⟩⟩ := exists_of_map_ok h
      exact .string ‹_› hp
    split at h
    · exact .name ‹_› h
    split at h
    · injection h with h
      have hword : Cuts total c rest (lexWord c rest).1 (lexWord c rest).2 := .word ‹_›
      rwa [h] at hword
    split at h
    · injection h with h
      have hnumber : Cuts total c rest (lexNumber c rest).1 (lexNumber c rest).2 := .number ‹_›
      rwa [h] at hnumber
    · cases h
  · intro h
    cases h with
    | sign h => rw [lexToken, h]
    | moment hc h =>
      subst hc
      exact h
    | string hc h =>
      subst hc
      show (lexString total rest).map _ = _
      rw [h]
      rfl
    | name hc h =>
      subst hc
      exact h
    | word hc => rw [lexToken_of_isPlainChar (isPlainChar_of_isNameStart hc), if_pos hc]
    | number hc => exact lexToken_digit hc total rest

/-! ### Tokens before a blank -/

theorem lexSign?_append (hmore : StartsBlank more) (c : Char) (rest : List Char) :
    lexSign? c (rest ++ more) = (lexSign? c rest).map fun p => (p.1, p.2 ++ more) := by
  cases rest with
  | nil =>
    cases more with
    | nil => cases hsign : lexSign? c [] <;> simp [hsign]
    | cons b more =>
      have hbar := hmore.head_ne (d := '|') (by decide)
      have hequal := hmore.head_ne (d := '=') (by decide)
      have hgreater := hmore.head_ne (d := '>') (by decide)
      unfold lexSign?
      split <;> simp_all
  | cons d rest =>
    unfold lexSign?
    split <;> simp_all

theorem lexWord_append (hmore : StartsBlank more) (c : Char) (rest : List Char) :
    lexWord c (rest ++ more) = ((lexWord c rest).1, (lexWord c rest).2 ++ more) := by
  obtain ⟨htake, hdrop⟩ := span_blank (fun _ => isNamePart_of_isBlank) hmore rest
  rw [lexWord, htake, hdrop]
  rfl

theorem lexNumber_append (hmore : StartsBlank more) (c : Char) (rest : List Char) :
    lexNumber c (rest ++ more) = ((lexNumber c rest).1, (lexNumber c rest).2 ++ more) := by
  obtain ⟨htake, hdrop⟩ := span_blank (fun _ => isDigit_of_isBlank) hmore rest
  unfold lexNumber takeDigits
  simp only [htake, hdrop]
  cases rest.dropWhile Char.isDigit with
  | nil =>
    cases more with
    | nil => rfl
    | cons b more =>
      have hpoint := hmore.head_ne (d := '.') (by decide)
      simp_all
  | cons d after =>
    obtain ⟨htake', hdrop'⟩ := span_blank (fun _ => isDigit_of_isBlank) hmore after
    by_cases hd : d = '.'
    · subst hd
      simp only [List.cons_append, htake', hdrop']
      cases after.takeWhile Char.isDigit <;> rfl
    · simp_all

variable {total : Nat} (total' : Nat)

theorem lexString_append {p : String × List Char} (hmore : StartsBlank more)
    (h : lexString total cs = .ok p) : lexString total' (cs ++ more) = .ok (p.1, p.2 ++ more) := by
  rw [lexString] at h ⊢
  split at h
  · rename_i hread
    cases h
    rw [readQuoted_append (by decide) hmore hread]
  · cases h

theorem lexName_append (hmore : StartsBlank more) (h : lexName total cs = .ok (t, after)) :
    lexName total' (cs ++ more) = .ok (t, after ++ more) := by
  rw [lexName] at h ⊢
  split at h
  · rename_i hread
    cases h
    rw [readQuoted_append (by decide) hmore hread]
  · cases h

/-- The parts of a date or time between its braces. -/
theorem lexMoment_eq_ok_iff : lexMoment total cs = .ok (t, after) ↔
    ∃ c word quoted p kind, Text.trimStart cs = c :: word ∧
      Text.trimStart ((c :: word).dropWhile isNamePart) = '\'' :: quoted ∧
      lexString total quoted = .ok p ∧ Text.trimStart p.2 = '\x7d' :: after ∧
      MomentKind.ofWord? (Text.lowercase (String.ofList ((c :: word).takeWhile isNamePart))) =
        some kind ∧ t = .moment kind p.1 := by
  constructor
  · intro h
    rw [lexMoment] at h
    dsimp only at h
    cases hstart : Text.trimStart cs with
    | nil =>
      rw [hstart] at h
      cases h
    | cons c word =>
      rw [hstart] at h
      split at h
      · rename_i quoted hquote
        obtain ⟨p, hp, h⟩ := exists_of_bind_ok h
        split at h
        · rename_i hclose
          split at h
          · rename_i kind hkind
            cases h
            exact ⟨c, word, quoted, p, kind, rfl, hquote, hp, hclose, hkind, rfl⟩
          · cases h
        · cases h
      · cases h
  · rintro ⟨c, word, quoted, p, kind, hstart, hquote, hp, hclose, hkind, rfl⟩
    rw [lexMoment]
    simp only [hstart, hquote, hp, bind, Except.bind, hclose, hkind]

theorem lexMoment_append (hmore : StartsBlank more) (h : lexMoment total cs = .ok (t, after)) :
    lexMoment total' (cs ++ more) = .ok (t, after ++ more) := by
  obtain ⟨c, word, quoted, p, kind, hstart, hquote, hp, hclose, hkind, rfl⟩ :=
    lexMoment_eq_ok_iff.1 h
  obtain ⟨htake, hdrop⟩ := span_blank (fun _ => isNamePart_of_isBlank) hmore (c :: word)
  rw [List.cons_append] at htake hdrop
  exact lexMoment_eq_ok_iff.2 ⟨c, word ++ more, quoted ++ more, _, kind,
    trimStart_append hstart more, hdrop ▸ trimStart_append hquote more,
    lexString_append total' hmore hp, trimStart_append hclose more, htake ▸ hkind, rfl⟩

/-- A token that ends before a blank does not see what follows it. -/
theorem lexToken_append (hmore : StartsBlank more) (h : lexToken total c rest = .ok (t, after)) :
    lexToken total' c (rest ++ more) = .ok (t, after ++ more) := by
  rw [lexToken_eq_ok_iff] at h ⊢
  cases h with
  | sign h => exact .sign (by rw [lexSign?_append hmore, h]; rfl)
  | moment hc h => exact .moment hc (lexMoment_append total' hmore h)
  | string hc h => exact .string hc (lexString_append total' hmore h)
  | name hc h => exact .name hc (lexName_append total' hmore h)
  | word hc =>
    have hword : Cuts total' c (rest ++ more) _ _ := .word hc
    rwa [lexWord_append hmore] at hword
  | number hc =>
    have hnumber : Cuts total' c (rest ++ more) _ _ := .number hc
    rwa [lexNumber_append hmore] at hnumber

/-! ### Lines -/

/-- The tokens of a line are those that it has alone, and those of what follows it come after. -/
theorem exists_of_tokensFrom {us : List Token} (h : tokensFrom total cs = .ok us) :
    ∃ ts, us = ts ++ [.eof] ∧ ∀ total' more,
      tokensFrom total' (cs ++ '\n' :: more) = (tokensFrom total' more).map (ts ++ ·) := by
  have hskip (cs more : List Char) :=
    skipIgnored_append (startsBlank_newline more) (skipIgnored_newline more) false cs
  fun_induction tokensFrom total cs generalizing us with
  | case1 cs hs =>
    cases h
    refine ⟨[], rfl, fun total' more => ?_⟩
    have hrest : skipIgnored false (cs ++ '\n' :: more) = skipIgnored false more := by
      rw [hskip, hs]
    rw [tokensFrom_of_skip hrest]
    cases tokensFrom total' more <;> rfl
  | case2 => cases h
  | case3 cs c rest hs t after ht _ ih =>
    obtain ⟨us', hus, rfl⟩ := exists_of_map_ok h
    obtain ⟨ts, rfl, hts⟩ := ih hus
    refine ⟨t :: ts, rfl, fun total' more => ?_⟩
    have hs' : skipIgnored false (cs ++ '\n' :: more) = c :: (rest ++ '\n' :: more) := by
      rw [hskip, hs]
      rfl
    rw [tokensFrom_cons hs' (lexToken_append total' (startsBlank_newline more) ht), hts,
      Except.map_map]
    rfl

/-- A text that is cut without an error takes nothing from the lines below it: they are cut into the
tokens that they have alone, or cannot be cut if they cannot alone. -/
theorem toOption_tokenize_append {a : String} {ts : List Token}
    (h : tokenize a = .ok (ts ++ [.eof])) (b : String) :
    (tokenize (a ++ "\n" ++ b)).toOption = (tokenize b).toOption.map (ts ++ ·) := by
  obtain ⟨ts', heq, hts⟩ := exists_of_tokensFrom h
  cases List.append_cancel_right heq
  have hlines : (a ++ "\n" ++ b).toList = a.toList ++ '\n' :: b.toList := by simp
  rw [tokenize, hlines, hts, toOption_map _ (toOption_tokensFrom _ b.toList.length _)]
  show ((tokenize b).map _).toOption = _
  cases tokenize b <;> rfl

/-! ### Blanks at the ends -/

theorem readQuoted?_of_notMem {quote : Char} (h : quote ∉ cs) :
    Text.readQuoted? quote cs = none := by
  fun_induction Text.readQuoted? quote cs <;> simp_all

/-- Blanks after a text do not close its quotes. -/
theorem readQuoted_blanks {quote : Char} (hquote : Text.isBlank quote = false)
    (hmore : AreBlank more) (cs : List Char) :
    Text.readQuoted? quote (cs ++ more) =
      (Text.readQuoted? quote cs).map fun p => (p.1, p.2 ++ more) := by
  have hnone : Text.readQuoted? quote more = none := readQuoted?_of_notMem fun hmem => by
    rw [hmore quote hmem] at hquote
    cases hquote
  cases h : Text.readQuoted? quote cs with
  | some p => exact readQuoted_append hquote hmore.startsBlank h
  | none =>
    fun_induction Text.readQuoted? quote cs with
    | case1 => exact hnone
    | case2 => cases h
    | case3 c hc =>
      cases more with
      | nil => simp [Text.readQuoted?, hc]
      | cons b more => simp [Text.readQuoted?, hc, hnone]
    | case4 rest ih =>
      simp [Text.readQuoted?, ih (Option.map_eq_none_iff.1 h)]
    | case5 => cases h
    | case6 c d rest hc ih =>
      have hrest := ih (Option.map_eq_none_iff.1 h)
      rw [List.cons_append] at hrest
      simp [Text.readQuoted?, hc, hrest]

theorem trimStart_of_append (hmore : AreBlank more) (h : Text.trimStart (cs ++ more) = c :: rest) :
    ∃ left, Text.trimStart cs = c :: left := by
  rw [Text.trimStart, List.dropWhile_append] at h
  split at h
  · rw [List.dropWhile_eq_nil_iff.2 hmore] at h
    cases h
  · rename_i hne
    cases hcs : cs.dropWhile Text.isBlank with
    | nil => simp [hcs] at hne
    | cons d left =>
      rw [hcs] at h
      exact ⟨left, by rw [Text.trimStart, hcs, (List.cons.inj h).1]⟩

variable (total)

theorem exists_of_lexString_append (hmore : AreBlank more) {p : String × List Char}
    (h : lexString total' (cs ++ more) = .ok p) :
    ∃ q, lexString total cs = .ok q ∧ p = (q.1, q.2 ++ more) := by
  rw [lexString, readQuoted_blanks (by decide) hmore] at h
  rw [lexString]
  cases hread : Text.readQuoted? '\'' cs with
  | none =>
    rw [hread] at h
    cases h
  | some q =>
    rw [hread] at h
    cases h
    exact ⟨_, rfl, rfl⟩

theorem exists_of_lexName_append (hmore : AreBlank more)
    (h : lexName total' (cs ++ more) = .ok (t, after)) :
    ∃ left, lexName total cs = .ok (t, left) := by
  rw [lexName, readQuoted_blanks (by decide) hmore] at h
  rw [lexName]
  cases hread : Text.readQuoted? '"' cs with
  | none =>
    rw [hread] at h
    cases h
  | some q =>
    rw [hread] at h
    cases h
    exact ⟨_, rfl⟩

theorem exists_of_lexMoment_append (hmore : AreBlank more)
    (h : lexMoment total' (cs ++ more) = .ok (t, after)) :
    ∃ left, lexMoment total cs = .ok (t, left) := by
  obtain ⟨c, word', quoted', p', kind, hstart', hquote', hp', hclose', hkind, rfl⟩ :=
    lexMoment_eq_ok_iff.1 h
  obtain ⟨word, hstart⟩ := trimStart_of_append hmore hstart'
  obtain rfl : word ++ more = word' := by
    rw [trimStart_append hstart] at hstart'
    exact (List.cons.inj hstart').2
  obtain ⟨htake, hdrop⟩ :=
    span_blank (fun _ => isNamePart_of_isBlank) hmore.startsBlank (c :: word)
  rw [List.cons_append] at htake hdrop
  rw [hdrop] at hquote'
  obtain ⟨quoted, hquote⟩ := trimStart_of_append hmore hquote'
  obtain rfl : quoted ++ more = quoted' := by
    rw [trimStart_append hquote] at hquote'
    exact (List.cons.inj hquote').2
  obtain ⟨p, hp, rfl⟩ := exists_of_lexString_append total total' hmore hp'
  obtain ⟨left, hclose⟩ := trimStart_of_append hmore hclose'
  exact ⟨left, lexMoment_eq_ok_iff.2
    ⟨c, word, quoted, p, kind, hstart, hquote, hp, hclose, htake ▸ hkind, rfl⟩⟩

/-- Blanks after a text that is cut do not make a token of what is none. -/
theorem exists_of_lexToken_append (hmore : AreBlank more)
    (h : lexToken total' c (rest ++ more) = .ok (t, after)) :
    ∃ left, lexToken total c rest = .ok (t, left) := by
  simp only [lexToken_eq_ok_iff] at h ⊢
  have hstarts := hmore.startsBlank
  cases h with
  | sign h =>
    rw [lexSign?_append hstarts] at h
    obtain ⟨p, hp, ⟨⟩⟩ := Option.map_eq_some_iff.1 h
    exact ⟨p.2, .sign hp⟩
  | moment hc h =>
    obtain ⟨left, hleft⟩ := exists_of_lexMoment_append total total' hmore h
    exact ⟨left, .moment hc hleft⟩
  | string hc h =>
    obtain ⟨q, hq, rfl⟩ := exists_of_lexString_append total total' hmore h
    exact ⟨q.2, .string hc hq⟩
  | name hc h =>
    obtain ⟨left, hleft⟩ := exists_of_lexName_append total total' hmore h
    exact ⟨left, .name hc hleft⟩
  | word hc =>
    simp only [lexWord_append hstarts]
    exact ⟨(lexWord c rest).2, .word hc⟩
  | number hc =>
    simp only [lexNumber_append hstarts]
    exact ⟨(lexNumber c rest).2, .number hc⟩

theorem toOption_tokensFrom_blanks (hmore : AreBlank more) (cs : List Char) :
    (tokensFrom total' (cs ++ more)).toOption = (tokensFrom total cs).toOption := by
  have hskip (cs : List Char) :=
    skipIgnored_append hmore.startsBlank (skipIgnored_blanks hmore) false cs
  fun_induction tokensFrom total cs with
  | case1 cs hs =>
    rw [tokensFrom_eq, hskip, hs]
  | case2 cs c rest hs e ht =>
    rw [tokensFrom_eq, hskip, hs]
    cases hlex : lexToken total' c (rest ++ more) with
    | error e' =>
      simp only [List.cons_append, hlex, Except.bind]
      rfl
    | ok p =>
      obtain ⟨left, hleft⟩ := exists_of_lexToken_append total total' hmore hlex
      cases ht.symm.trans hleft
  | case3 cs c rest hs t after ht _ ih =>
    have hs' : skipIgnored false (cs ++ more) = c :: (rest ++ more) := by
      rw [hskip, hs]
      rfl
    rw [tokensFrom_cons hs' (lexToken_append total' hmore.startsBlank ht)]
    exact toOption_map _ ih

theorem skipIgnored_trimStart (cs : List Char) :
    skipIgnored false (Text.trimStart cs) = skipIgnored false cs := by
  induction cs with
  | nil => rfl
  | cons c cs ih =>
    rw [Text.trimStart, List.dropWhile_cons]
    split
    · rename_i hc
      rw [skipIgnored.eq_3 _ _ _ fun _ hdash _ => by
        rw [hdash] at hc
        exact absurd hc (by decide)]
      simp only [hc, if_true, Bool.false_eq_true, if_false]
      exact ih
    · rfl

theorem tokensFrom_trimStart (cs : List Char) :
    tokensFrom total (Text.trimStart cs) = tokensFrom total cs :=
  tokensFrom_of_skip (skipIgnored_trimStart cs)

theorem exists_trimEnd_append (cs : List Char) :
    ∃ more, AreBlank more ∧ Text.trimEnd cs ++ more = cs := by
  refine ⟨(cs.reverse.takeWhile Text.isBlank).reverse, fun c hc => ?_, ?_⟩
  · exact List.mem_takeWhile_imp (List.mem_reverse.1 hc)
  · rw [Text.trimEnd, ← List.reverse_append, List.takeWhile_append_dropWhile,
      List.reverse_reverse]

/-- Blanks at the ends of a text make no difference to its tokens, and none to whether it can be cut
at all. -/
theorem toOption_tokenize_trim (s : String) :
    (tokenize (Text.trim s)).toOption = (tokenize s).toOption := by
  obtain ⟨more, hmore, hcs⟩ := exists_trimEnd_append (Text.trimStart s.toList)
  have hends := toOption_tokensFrom_blanks (Text.trim s).toList.length s.toList.length hmore
    (Text.trimEnd (Text.trimStart s.toList))
  rw [hcs, tokensFrom_trimStart] at hends
  rw [tokenize, tokenize, hends, Text.trim, String.toList_ofList]

end TypedFilter.Sql
