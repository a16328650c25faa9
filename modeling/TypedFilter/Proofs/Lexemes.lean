import Mathlib.Data.List.Forall2
import TypedFilter.Digits
import TypedFilter.Expr.Operator
import TypedFilter.Value.Text
import TypedFilter.Proofs.Lexing

/-!
The texts that single tokens are written as. Main statements: the sign of an operator, a number, a
text between quotes, a name and a date in braces are each cut into the one token that they were
written for.
-/

namespace TypedFilter

/-! ### Signs -/

/-- The token that the operator is written as. -/
def CompareOp.token : CompareOp → Sql.Token
  | .equal => .sign .equal
  | .notEqual => .sign .notEqual
  | .less => .sign .less
  | .lessEqual => .sign .lessEqual
  | .greater => .sign .greater
  | .greaterEqual => .sign .greaterEqual
  | .like => .keyword .like

/-- The token that the operator is written as. -/
def ArithOp.token : ArithOp → Sql.Token
  | .add => .sign .plus
  | .subtract => .sign .minus
  | .multiply => .sign .star
  | .divide => .sign .slash
  | .modulo => .sign .percent

namespace Sql

/-- A sign that other signs start with ends where a token can end. -/
theorem lexSign?_of_endsToken {c : Char} {s : Sign} {after : List Char}
    (hnil : lexSign? c [] = some (s, []))
    (hspace : ∀ rest, lexSign? c (' ' :: rest) = some (s, ' ' :: rest))
    (hcomma : ∀ rest, lexSign? c (',' :: rest) = some (s, ',' :: rest))
    (hparen : ∀ rest, lexSign? c (')' :: rest) = some (s, ')' :: rest))
    (hafter : endsToken after = true) : lexSign? c after = some (s, after) := by
  cases after with
  | nil => exact hnil
  | cons d rest =>
    rcases head_of_endsToken hafter d rfl with rfl | rfl | rfl
    · exact hspace rest
    · exact hcomma rest
    · exact hparen rest

theorem lexes_less : Lexes "<" [.sign .less] := by
  refine .token (show "<".toList = ['<'] from rfl) (by decide) (by decide)
    fun total after hafter => ?_
  have hsign : lexSign? '<' after = some (.less, after) :=
    lexSign?_of_endsToken rfl (fun _ => rfl) (fun _ => rfl) (fun _ => rfl) hafter
  rw [List.nil_append, lexToken, hsign]

theorem lexes_greater : Lexes ">" [.sign .greater] := by
  refine .token (show ">".toList = ['>'] from rfl) (by decide) (by decide)
    fun total after hafter => ?_
  have hsign : lexSign? '>' after = some (.greater, after) :=
    lexSign?_of_endsToken rfl (fun _ => rfl) (fun _ => rfl) (fun _ => rfl) hafter
  rw [List.nil_append, lexToken, hsign]

theorem lexes_keyword {s : String} {k : Keyword} (h : isWordChars s.toList = true)
    (hk : Keyword.ofWord? s = some k) : Lexes s [.keyword k] := by
  have hs := lexes_word h
  rwa [wordToken, hk] at hs

theorem lexes_compareOp (op : CompareOp) : Lexes op.text [op.token] := by
  cases op with
  | less => exact lexes_less
  | greater => exact lexes_greater
  | like => exact lexes_keyword (by decide) (by decide)
  | equal | notEqual | lessEqual | greaterEqual =>
    exact .token rfl (by decide) (by decide) fun _ _ _ => rfl

/-- A minus sign before anything but another one. -/
theorem tokensFrom_minus (total : Nat) {cs : List Char} (h : cs.head? ≠ some '-') :
    tokensFrom total ('-' :: cs) = (tokensFrom total cs).map (.sign .minus :: ·) :=
  tokensFrom_cons (skipIgnored_minus h) rfl

theorem lexes_minus : Lexes "-" [.sign .minus] := by
  intro total after hafter
  refine tokensFrom_minus total ?_
  intro h
  have hc := head_of_endsToken hafter '-' h
  revert hc
  decide

theorem lexes_arithOp (op : ArithOp) : Lexes op.text [op.token] := by
  cases op with
  | subtract => exact lexes_minus
  | add | multiply | divide | modulo =>
    exact .token rfl (by decide) (by decide) fun _ _ _ => rfl

/-- A minus sign right before a text. -/
theorem Lexes.negative {cs : List Char} {ts : List Token} (hl : Lexes (String.ofList cs) ts)
    (h : cs.head? ≠ some '-') (hne : cs ≠ []) :
    Lexes (String.ofList ('-' :: cs)) (.sign .minus :: ts) := by
  intro total after hafter
  have hcs : (cs ++ after).head? ≠ some '-' := by
    obtain ⟨c, cs, rfl⟩ := List.exists_cons_of_ne_nil hne
    exact h
  have htail := hl total after hafter
  rw [String.toList_ofList] at htail
  rw [String.toList_ofList, List.cons_append, tokensFrom_minus total hcs, htail, Except.map_map]
  rfl

/-! ### Numbers -/

/-- The code points of the digits. -/
def digitCodes : List Nat :=
  List.range' 48 10

theorem toNat_mem_digitCodes {c : Char} (h : c.isDigit = true) : c.toNat ∈ digitCodes := by
  obtain ⟨h₁, h₂⟩ := Char.isDigit_iff_toNat.1 h
  have h₃ : '0'.toNat = 48 := rfl
  have h₄ : '9'.toNat = 57 := rfl
  rw [digitCodes, List.mem_range'_1]
  omega

theorem not_isNameStart_of_isDigit {c : Char} (h : c.isDigit = true) : isNameStart c = false := by
  have hall : ∀ n ∈ digitCodes, isNameStart (Char.ofNat n) = false := by decide
  have hc := hall _ (toNat_mem_digitCodes h)
  rwa [Char.ofNat_toNat] at hc

theorem lexToken_digit {c : Char} (h : c.isDigit = true) (total : Nat) (rest : List Char) :
    lexToken total c rest = .ok (lexNumber c rest) := by
  rw [lexToken_of_isPlainChar (isPlainChar_of_isDigit h), not_isNameStart_of_isDigit h, h]
  rfl

/-- Digits alone, before anything but a point. -/
theorem lexNumber_digits {c : Char} {cs after : List Char} (h : cs.all Char.isDigit = true)
    (hafter : endsToken after = true) :
    lexNumber c (cs ++ after) = (.number (String.ofList (c :: cs)), after) := by
  have hspan := span_append after h (not_of_endsToken (p := Char.isDigit) (by decide) hafter)
  rw [lexNumber, takeDigits]
  simp only [hspan.1, hspan.2]
  split
  · exact absurd (head_of_endsToken hafter '.' rfl) (by decide)
  · rfl

/-- Digits, a point and digits. -/
theorem lexNumber_pointed {c : Char} {cs ds after : List Char} (h : cs.all Char.isDigit = true)
    (hne : ds ≠ []) (hd : ds.all Char.isDigit = true) (hafter : endsToken after = true) :
    lexNumber c (cs ++ '.' :: (ds ++ after)) =
      (.number (String.ofList (c :: cs ++ '.' :: ds)), after) := by
  have hwhole := span_append ('.' :: (ds ++ after)) h (by rintro _ ⟨⟩; decide)
  have hplaces := span_append after hd (not_of_endsToken (p := Char.isDigit) (by decide) hafter)
  unfold lexNumber takeDigits
  simp only [hwhole.1, hwhole.2, hplaces.1, hplaces.2]

theorem lexes_digits {cs : List Char} (hne : cs ≠ []) (h : cs.all Char.isDigit = true) :
    Lexes (String.ofList cs) [.number (String.ofList cs)] := by
  obtain ⟨c, cs, rfl⟩ := List.exists_cons_of_ne_nil hne
  rw [List.all_cons, Bool.and_eq_true] at h
  have hc := isPlainChar_of_isDigit h.1
  refine .token String.toList_ofList (isBlank_of_isPlainChar hc) (ne_of_isPlainChar hc) ?_
  intro total after hafter
  rw [lexToken_digit h.1, lexNumber_digits h.2 hafter]

theorem lexes_pointed {cs ds : List Char} (hne : cs ≠ []) (h : cs.all Char.isDigit = true)
    (hne' : ds ≠ []) (h' : ds.all Char.isDigit = true) :
    Lexes (String.ofList (cs ++ '.' :: ds)) [.number (String.ofList (cs ++ '.' :: ds))] := by
  obtain ⟨c, cs, rfl⟩ := List.exists_cons_of_ne_nil hne
  rw [List.all_cons, Bool.and_eq_true] at h
  have hc := isPlainChar_of_isDigit h.1
  refine .token String.toList_ofList (isBlank_of_isPlainChar hc) (ne_of_isPlainChar hc) ?_
  intro total after hafter
  have happend : cs.append ('.' :: ds) ++ after = cs ++ '.' :: (ds ++ after) := by simp
  rw [happend, lexToken_digit h.1, lexNumber_pointed h.2 hne' h' hafter]

/-! ### Quoted texts -/

theorem toList_quoted (quote : Char) (s : String) :
    (Text.quoted quote s).toList = quote :: (Text.doubleQuotes quote s.toList ++ [quote]) := by
  rw [Text.quoted, String.toList_ofList]
  rfl

/-- A text between quotes is read to its end, before anything but another quote. -/
theorem readQuoted_quoted {quote : Char} {s : String} {after : List Char}
    (h : after.head? ≠ some quote) :
    Text.readQuoted? quote (Text.doubleQuotes quote s.toList ++ [quote] ++ after) =
      some (s.toList, after) := by
  rw [List.append_assoc, List.singleton_append]
  exact Text.readQuoted?_doubleQuotes quote s.toList after h

theorem head_ne_of_endsToken {c : Char} {after : List Char} (h : endsToken after = true)
    (hc : (c = ' ' ∨ c = ',' ∨ c = ')') → False := by decide) : after.head? ≠ some c :=
  fun hhead => hc (head_of_endsToken h c hhead)

theorem tokensFrom_string (s : String) (total : Nat) {after : List Char}
    (h : after.head? ≠ some '\'') :
    tokensFrom total ((Text.quoted '\'' s).toList ++ after) =
      (tokensFrom total after).map (.string s :: ·) := by
  have hread := readQuoted_quoted (s := s) h
  rw [toList_quoted, List.cons_append]
  refine tokensFrom_cons (skipIgnored_of_ne (by decide) (by decide)) ?_
  have hsign (rest : List Char) : lexSign? '\'' rest = none := rfl
  simp only [lexToken, hsign, lexString, hread, String.ofList_toList]
  rfl

theorem lexes_string (s : String) : Lexes (Text.quoted '\'' s) [.string s] :=
  fun total _ hafter => tokensFrom_string s total (head_ne_of_endsToken hafter)

theorem tokensFrom_quotedName (s : String) (total : Nat) {after : List Char}
    (h : after.head? ≠ some '"') :
    tokensFrom total ((Text.quoted '"' s).toList ++ after) =
      (tokensFrom total after).map (.identifier s :: ·) := by
  have hread := readQuoted_quoted (s := s) h
  rw [toList_quoted, List.cons_append]
  refine tokensFrom_cons (skipIgnored_of_ne (by decide) (by decide)) ?_
  have hsign (rest : List Char) : lexSign? '"' rest = none := rfl
  simp only [lexToken, hsign, lexName, hread, String.ofList_toList]
  rfl

theorem lexes_quotedName (s : String) : Lexes (Text.quoted '"' s) [.identifier s] :=
  fun total _ hafter => tokensFrom_quotedName s total (head_ne_of_endsToken hafter)

/-! ### Names -/

theorem toNat_lt_of_isAlphanum {c : Char} (h : c.isAlphanum = true) : c.toNat < 128 := by
  have hranges : ((decide (c.val ≥ 65 ∧ c.val ≤ 90) || (c.val ≥ 97 && c.val ≤ 122)) ||
      (c.val ≥ 48 && c.val ≤ 57)) = true := h
  simp only [Bool.or_eq_true, Bool.and_eq_true, decide_eq_true_eq, ge_iff_le,
    UInt32.le_iff_toNat_le] at hranges
  have h₁ : c.toNat = c.val.toNat := rfl
  simp at hranges
  omega

theorem isNameStart_of_isAlpha {c : Char} (h : (c.isAlpha || c == '_') = true) :
    isNameStart c = true := by
  rcases Bool.or_eq_true _ _ ▸ h with hc | hc
  · have hlt : c.toNat < 128 := toNat_lt_of_isAlphanum (by simp [Char.isAlphanum, hc])
    rw [isNameStart, Text.isAlphabetic_of_isAlpha hc hlt, Bool.true_or]
  · rw [isNameStart, hc, Bool.or_true]

theorem isNamePart_of_isAlphanum {c : Char} (h : (c.isAlphanum || c == '_') = true) :
    isNamePart c = true := by
  rcases Bool.or_eq_true _ _ ▸ h with hc | hc
  · have hlt := toNat_lt_of_isAlphanum hc
    rcases Bool.or_eq_true _ _ ▸ hc with ha | hd
    · rw [isNamePart, Text.isAlphabetic_of_isAlpha ha hlt, Bool.true_or, Bool.true_or]
    · rw [isNamePart, Text.isNumeric_of_isDigit hd hlt, Bool.or_true, Bool.true_or]
  · rw [isNamePart, hc, Bool.or_true]

/-- A name that can stand as it is is a word, and no keyword. -/
theorem isWordChars_of_isPlainName {name : String} (h : isPlainName name = true) :
    isWordChars name.toList = true ∧ Keyword.ofWord? name = none := by
  rw [isPlainName] at h
  split at h
  · cases h
  · rename_i c rest hname
    simp only [Bool.and_eq_true, Option.isNone_iff_eq_none] at h
    obtain ⟨⟨hstart, hrest⟩, hk⟩ := h
    refine ⟨?_, hk⟩
    rw [hname, isWordChars, Bool.and_eq_true]
    refine ⟨isNameStart_of_isAlpha hstart, List.all_eq_true.2 fun d hd => ?_⟩
    exact isNamePart_of_isAlphanum (List.all_eq_true.1 hrest d hd)

theorem isPlainChar_of_isWordChars {cs : List Char} (h : isWordChars cs = true) :
    ∀ c ∈ cs, isPlainChar c = true := by
  cases cs with
  | nil => cases h
  | cons d cs =>
    rw [isWordChars, Bool.and_eq_true] at h
    rintro c (_ | ⟨_, hc⟩)
    · exact isPlainChar_of_isNameStart h.1
    · exact isPlainChar_of_isNamePart (List.all_eq_true.1 h.2 c hc)

/-- A name in a statement stands before anything that goes on neither with a word nor with a name
between quotes. -/
theorem tokensFrom_quoteName (name : String) (total : Nat) {after : List Char}
    (h : ∀ c ∈ after.head?, isNamePart c = false ∧ c ≠ '"') :
    tokensFrom total ((quoteName name).toList ++ after) =
      (tokensFrom total after).map (.identifier name :: ·) := by
  rw [quoteName]
  split
  · rename_i hplain
    obtain ⟨hw, hk⟩ := isWordChars_of_isPlainName hplain
    rw [tokensFrom_word hw total fun c hc => (h c hc).1, wordToken, hk]
  · exact tokensFrom_quotedName name total fun hhead => (h '"' hhead).2 rfl

theorem lexes_quoteName (name : String) : Lexes (quoteName name) [.identifier name] := by
  intro total after hafter
  refine tokensFrom_quoteName name total fun c hc => ?_
  rcases head_of_endsToken hafter c hc with rfl | rfl | rfl <;> decide

/-! ### Dates and times -/

/-- The word that a date or time is marked with. -/
def MomentKind.word : MomentKind → String
  | .date => "d"
  | .time => "t"
  | .timestamp => "ts"

theorem MomentKind.word_chars (kind : MomentKind) :
    ∃ c cs, kind.word.toList = c :: cs ∧ Text.isBlank c = false ∧
      (c :: cs).all isNamePart = true := by
  cases kind <;> exact ⟨_, _, rfl, by decide, by decide⟩

theorem MomentKind.ofWord?_word (kind : MomentKind) :
    MomentKind.ofWord? (Text.lowercase kind.word) = some kind := by
  cases kind <;> decide

theorem doubleQuotes_of_notMem {quote : Char} {cs : List Char} (h : quote ∉ cs) :
    Text.doubleQuotes quote cs = cs := by
  induction cs with
  | nil => rfl
  | cons c cs ih =>
    rw [List.mem_cons, not_or] at h
    rw [Text.doubleQuotes, if_neg (Ne.symm h.1), ih h.2]

theorem trimStart_cons {c : Char} (h : Text.isBlank c = false) (cs : List Char) :
    Text.trimStart (c :: cs) = c :: cs := by
  rw [Text.trimStart, List.dropWhile_cons_of_neg (by rw [h]; decide)]

/-- What stands between the braces of a date or time. -/
theorem lexMoment_word (total : Nat) (kind : MomentKind) {cs : List Char} (h : '\'' ∉ cs)
    (after : List Char) :
    lexMoment total (kind.word.toList ++ ' ' :: '\'' :: (cs ++ '\'' :: '\x7d' :: after)) =
      .ok (.moment kind (String.ofList cs), after) := by
  obtain ⟨c, w, hword, hblank, hname⟩ := kind.word_chars
  have hspan := span_append (' ' :: '\'' :: (cs ++ '\'' :: '\x7d' :: after)) hname
    (by rintro _ ⟨⟩; decide)
  have hstart : Text.trimStart (c :: w ++ ' ' :: '\'' :: (cs ++ '\'' :: '\x7d' :: after)) =
      c :: w ++ ' ' :: '\'' :: (cs ++ '\'' :: '\x7d' :: after) :=
    trimStart_cons hblank _
  have hofList : String.ofList (c :: w) = kind.word := by rw [← hword, String.ofList_toList]
  have hquote : Text.trimStart (' ' :: '\'' :: (cs ++ '\'' :: '\x7d' :: after)) =
      '\'' :: (cs ++ '\'' :: '\x7d' :: after) := rfl
  have hread := Text.readQuoted?_doubleQuotes '\'' cs ('\x7d' :: after) (by simp)
  have hclose : Text.trimStart ('\x7d' :: after) = '\x7d' :: after := rfl
  rw [doubleQuotes_of_notMem h] at hread
  rw [lexMoment]
  simp only [hword, hstart, hspan.1, hspan.2, hofList, hquote, lexString, hread, bind, Except.bind,
    hclose, kind.ofWord?_word]

theorem lexes_moment (kind : MomentKind) {s : String} (h : '\'' ∉ s.toList) :
    Lexes (Value.escapeText kind.word s) [.moment kind s] := by
  have hs : (Value.escapeText kind.word s).toList =
      '\x7b' :: (kind.word.toList ++ ' ' :: '\'' :: (s.toList ++ ['\'', '\x7d'])) := by
    simp [Value.escapeText]
  refine .token hs (by decide) (by decide) fun total after _ => ?_
  have happend : kind.word.toList ++ ' ' :: '\'' :: (s.toList ++ ['\'', '\x7d']) ++ after =
      kind.word.toList ++ ' ' :: '\'' :: (s.toList ++ '\'' :: '\x7d' :: after) := by
    simp
  have hread := lexMoment_word total kind h after
  rw [happend, lexToken]
  rw [String.ofList_toList] at hread
  exact hread

/-! ### Rows -/

/-- A text that makes one token between two others. -/
def Separates (sep : String) (t : Token) : Prop :=
  ∀ {a b ts us}, Lexes a ts → Lexes b us → Lexes (a ++ sep ++ b) (ts ++ t :: us)

theorem separates_comma : Separates ", " (.sign .comma) := by
  intro a b ts us ha hb
  have hcomma : ", " = "," ++ " " := rfl
  have h := ha.comma hb.blank
  rwa [← String.append_assoc, @String.append_assoc a, ← hcomma] at h

theorem separates_and : Separates " AND " (.keyword .and) :=
  fun ha hb => ha.around (w := "AND") (lexes_keyword (by decide) (by decide)) hb

theorem separates_or : Separates " OR " (.keyword .or) :=
  fun ha hb => ha.around (w := "OR") (lexes_keyword (by decide) (by decide)) hb

/-- Texts in a row, with the same token between any two of them. -/
theorem lexes_intercalate {sep : String} {t : Token} (hsep : Separates sep t) {s : String}
    {ts : List Token} (h : Lexes s ts) {ss : List String} {tss : List (List Token)}
    (hs : List.Forall₂ Lexes ss tss) :
    Lexes (String.intercalate sep (s :: ss)) (ts ++ tss.flatMap (t :: ·)) := by
  induction hs generalizing s ts with
  | nil => rwa [String.intercalate_singleton, List.flatMap_nil, List.append_nil]
  | cons hhead _ ih =>
    rw [String.intercalate_cons_cons, List.flatMap_cons, List.cons_append]
    exact hsep h (ih hhead)

end Sql

end TypedFilter
