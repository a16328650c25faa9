import TypedFilter.Proofs.Levels
import TypedFilter.Proofs.Lexemes

/-!
The names of types that values are cast to. A type name is made of words and perhaps of numbers in
brackets. Main statement: such a name is read as it is written.
-/

namespace TypedFilter.Sql

/-- A number as the lexer reads it: digits, and perhaps a point and digits. -/
def IsNumeral (s : String) : Prop :=
  ∃ cs : List Char, cs ≠ [] ∧ cs.all Char.isDigit = true ∧
    (s = String.ofList cs ∨ ∃ ds : List Char, ds ≠ [] ∧ ds.all Char.isDigit = true ∧
      s = String.ofList (cs ++ '.' :: ds))

/-- A word that is no keyword. -/
def IsBareWord (s : String) : Prop :=
  isWordChars s.toList = true ∧ Keyword.ofWord? s = none

instance (s : String) : Decidable (IsBareWord s) :=
  inferInstanceAs (Decidable (_ ∧ _))

/-- The numbers of a type name in brackets; nothing if there are none. -/
def typeSuffix (numbers : List String) : String :=
  if numbers.isEmpty then "" else "(" ++ String.intercalate "," numbers ++ ")"

/-- Bare words with blanks between them, and perhaps numbers in brackets. -/
def IsTypeName (type : String) : Prop :=
  ∃ word words numbers, (∀ w ∈ word :: words, IsBareWord w) ∧ (∀ d ∈ numbers, IsNumeral d) ∧
    type = String.intercalate " " (word :: words) ++ typeSuffix numbers

/-! ### Tokens -/

theorem lexes_bareWord {s : String} (h : IsBareWord s) : Lexes s [.identifier s] := by
  have hs := lexes_word h.1
  rwa [wordToken, h.2] at hs

theorem lexes_numeral {s : String} (h : IsNumeral s) : Lexes s [.number s] := by
  obtain ⟨cs, hcs, hdigits, rfl | ⟨ds, hds, hdigits', rfl⟩⟩ := h
  · exact lexes_digits hcs hdigits
  · exact lexes_pointed hcs hdigits hds hdigits'

/-- The tokens of the numbers of a type name. -/
def suffixTokens : List String → List Token
  | [] => []
  | d :: ds =>
    .sign .leftParen :: (.number d :: ds.flatMap fun d => [.sign .comma, .number d]) ++
      [.sign .rightParen]

theorem separates_onlyComma : Separates "," (.sign .comma) :=
  fun ha hb => ha.comma hb

theorem lexes_numbers {d : String} {ds : List String} (h : ∀ e ∈ d :: ds, IsNumeral e) :
    Lexes (String.intercalate "," (d :: ds))
      (.number d :: ds.flatMap fun d => [.sign .comma, .number d]) := by
  have hd := lexes_numeral (h d (List.mem_cons_self ..))
  have hds : List.Forall₂ Lexes ds (ds.map fun d => [.number d]) := by
    rw [List.forall₂_map_right_iff, List.forall₂_same]
    exact fun d hd => lexes_numeral (h d (List.mem_cons_of_mem _ hd))
  have hs := lexes_intercalate separates_onlyComma hd hds
  rwa [List.flatMap_map] at hs

/-- One word and the numbers after it. -/
theorem lexes_wordSuffix {word : String} {numbers : List String} (hw : IsBareWord word)
    (hd : ∀ d ∈ numbers, IsNumeral d) :
    Lexes (word ++ typeSuffix numbers) (.identifier word :: suffixTokens numbers) := by
  cases numbers with
  | nil => simpa [typeSuffix, suffixTokens] using lexes_bareWord hw
  | cons d ds =>
    have hcall := (lexes_numbers hd).closed.call hw.1
    simp only [wordToken, hw.2] at hcall
    simpa [typeSuffix, suffixTokens, String.append_assoc] using hcall

theorem lexes_typeName {word : String} {words numbers : List String}
    (hw : ∀ w ∈ word :: words, IsBareWord w) (hd : ∀ d ∈ numbers, IsNumeral d) :
    Lexes (String.intercalate " " (word :: words) ++ typeSuffix numbers)
      ((word :: words).map .identifier ++ suffixTokens numbers) := by
  induction words generalizing word with
  | nil =>
    rw [String.intercalate_singleton]
    exact lexes_wordSuffix (hw word (List.mem_cons_self ..)) hd
  | cons next words ih =>
    have hword := lexes_bareWord (hw word (List.mem_cons_self ..))
    have hrest := ih fun w h => hw w (List.mem_cons_of_mem _ h)
    have hs := hword.spaced hrest
    rwa [← String.append_assoc, ← String.intercalate_cons_cons] at hs

/-! ### Reading -/

theorem identifiers_words (words : List String) {rest : List Token}
    (hrest : ∀ name, current rest ≠ .identifier name) {L : List Token}
    (hL : L = words.map .identifier ++ rest) :
    ∃ h, identifiers L = ⟨words, rest, h⟩ := by
  induction words generalizing L with
  | nil =>
    obtain rfl : rest = L := hL.symm
    refine ⟨length_le_self _, identifiers.eq_2 rest ?_⟩
    rintro name _ rfl
    exact hrest name rfl
  | cons word words ih =>
    obtain ⟨h, he⟩ := ih rfl
    subst hL
    refine ⟨Nat.le_succ_of_le h, ?_⟩
    show identifiers (.identifier word :: (words.map .identifier ++ rest)) = _
    rw [identifiers, he]
    rfl

theorem readsItem_number {n : Nat} (d : String) :
    ReadsItem (n := n) (fun ts _ => expectNumber ts) [.number d] d := by
  rintro rest _ rfl _ _
  exact ⟨length_lt_cons _ _, rfl⟩

theorem forall₂_readsItem_number {n : Nat} (ds : List String) :
    List.Forall₂ (ReadsItem (n := n) fun ts _ => expectNumber ts)
      (ds.map fun d => [Token.number d]) ds := by
  rw [List.forall₂_map_left_iff, List.forall₂_same]
  exact fun d _ => readsItem_number d

theorem leaves_typeArguments (numbers : List String) (rest : List Token) {L : List Token}
    (hL : L = suffixTokens numbers ++ .sign .rightParen :: rest) :
    Leaves (typeArguments L) (typeSuffix numbers) (.sign .rightParen :: rest) := by
  cases numbers with
  | nil =>
    obtain rfl := hL
    exact leaves_stay _ _
  | cons d ds =>
    have htokens : (ds.map fun d => [Token.number d]).flatMap (.sign .comma :: ·) =
        ds.flatMap fun d => [.sign .comma, .number d] :=
      List.flatMap_map ..
    have hL' : L = .sign .leftParen :: ([.number d] ++
        ((ds.map fun d => [Token.number d]).flatMap (.sign .comma :: ·) ++
          .sign .rightParen :: .sign .rightParen :: rest)) := by
      rw [hL, htokens, suffixTokens, List.append_assoc]
      rfl
    subst hL'
    obtain ⟨h₁, he₁⟩ := takes_items (readsItem_number d) (forall₂_readsItem_number ds)
      (.sign .rightParen :: rest) rfl (Nat.le_refl _)
    obtain ⟨h₂, he₂⟩ := takes_expect (.sign .rightParen) (.sign .rightParen :: rest)
    refine ⟨Nat.le_of_lt (Nat.lt_succ_of_lt (Nat.lt_trans h₂ h₁)), ?_⟩
    rw [typeArguments]
    simp only [he₁, expectSign, he₂, bind, Except.bind]
    rfl

theorem current_suffixTokens (numbers : List String) (rest : List Token) (name : String) :
    current (suffixTokens numbers ++ .sign .rightParen :: rest) ≠ .identifier name := by
  cases numbers <;> simp [suffixTokens, current]

/-- A type name is read as it is written, before a closing bracket. -/
theorem takes_typeName (word : String) (words numbers : List String) (rest : List Token)
    {L : List Token}
    (hL : L =
      (word :: words).map .identifier ++ suffixTokens numbers ++ .sign .rightParen :: rest) :
    Takes (typeName L) (String.intercalate " " (word :: words) ++ typeSuffix numbers)
      (.sign .rightParen :: rest) := by
  have hL' : L = .identifier word ::
      (words.map .identifier ++ (suffixTokens numbers ++ .sign .rightParen :: rest)) := by
    rw [hL, List.append_assoc]
    rfl
  subst hL'
  obtain ⟨h₁, he₁⟩ := identifiers_words words (current_suffixTokens numbers rest) rfl
  obtain ⟨h₂, he₂⟩ := leaves_typeArguments numbers rest rfl
  refine ⟨Nat.lt_succ_of_le (Nat.le_trans h₂ h₁), ?_⟩
  rw [typeName, expectIdentifier]
  simp only [bind, Except.bind]
  generalize identifiers _ = tail at he₁ ⊢
  subst he₁
  simp only [he₂]
  rfl

/-! ### Casts -/

/-- The tokens of a type name. -/
theorem exists_tokens_typeName {type : String} (h : IsTypeName type) :
    ∃ vs, Lexes type vs ∧ ∀ rest L, L = vs ++ .sign .rightParen :: rest →
      Takes (typeName L) type (.sign .rightParen :: rest) := by
  obtain ⟨word, words, numbers, hw, hd, rfl⟩ := h
  exact ⟨_, lexes_typeName hw hd, fun rest L hL => takes_typeName word words numbers rest hL⟩

/-- The cast of an expression to a type. -/
theorem Reads.cast {ts vs : List Token} {x : Expression} {type : String} (hx : Reads 1 ts x)
    (hv : ∀ rest L, L = vs ++ .sign .rightParen :: rest →
      Takes (typeName L) type (.sign .rightParen :: rest)) :
    Reads 7 (.keyword .cast :: .sign .leftParen ::
      (ts ++ .keyword .as :: (vs ++ [.sign .rightParen]))) (.cast x type) := by
  refine .ofPrimary (by simp) (by simp) (by simp) (by simp) (by simp) ?_
  rintro n rest _ rfl hn _
  have hL : ts ++ .keyword .as :: (vs ++ [.sign .rightParen]) ++ rest =
      ts ++ .keyword .as :: (vs ++ .sign .rightParen :: rest) := by
    rw [List.append_assoc, List.cons_append, List.append_assoc]
    rfl
  obtain ⟨h₀, he₀⟩ := takes_expect (.sign .leftParen)
    (ts ++ .keyword .as :: (vs ++ [.sign .rightParen]) ++ rest)
  obtain ⟨h₁, he₁⟩ := hx.below hL (Nat.lt_of_succ_lt hn) rfl
  obtain ⟨h₂, he₂⟩ := takes_expect (.keyword .as) (vs ++ .sign .rightParen :: rest)
  obtain ⟨h₃, he₃⟩ := hv rest _ rfl
  obtain ⟨h₄, he₄⟩ := takes_expect (.sign .rightParen) rest
  have hshort := Nat.lt_trans h₄ (Nat.lt_trans h₃ (Nat.lt_trans h₂ (Nat.lt_trans h₁ h₀)))
  refine ⟨Nat.lt_succ_of_lt hshort, ?_⟩
  show primary _ (.keyword .cast :: .sign .leftParen ::
    (ts ++ .keyword .as :: (vs ++ [.sign .rightParen]) ++ rest)) hn = _
  rw [primary, afterCast]
  simp only [expectSign, expectWord, he₀, he₁, he₂, he₃, he₄, bind, Except.bind]
  rfl

end TypedFilter.Sql
