import TypedFilter.Proofs.Regexes
import TypedFilter.Text.Like

/-!
Texts that patterns of LIKE describe. Main statement: a text matches a pattern if and only if it can
be cut into consecutive pieces, one for each character of the pattern.
-/

namespace TypedFilter.Text

variable {same : Char → Char → Bool} {p : Char} {pattern text : List Char}

/-! ### What a pattern describes -/

/-- A text that a pattern of LIKE describes: one piece for each character of the pattern. -/
inductive LikeMatch (same : Char → Char → Bool) : List Char → List Char → Prop where
  | done : LikeMatch same [] []
  | run (piece : List Char) {pattern text : List Char} (h : LikeMatch same pattern text) :
      LikeMatch same ('%' :: pattern) (piece ++ text)
  | any (c : Char) {pattern text : List Char} (h : LikeMatch same pattern text) :
      LikeMatch same ('_' :: pattern) (c :: text)
  | char {p c : Char} {pattern text : List Char} (hp : p ≠ '%') (hu : p ≠ '_')
      (hc : same p c = true) (h : LikeMatch same pattern text) :
      LikeMatch same (p :: pattern) (c :: text)

theorem likeMatch_nil_iff : LikeMatch same [] text ↔ text = [] := by
  constructor
  · intro h
    cases h
    rfl
  · rintro rfl
    exact .done

/-- Behind a run of any characters, the rest of the text is for the rest of the pattern. -/
theorem likeMatch_run_iff :
    LikeMatch same ('%' :: pattern) text ↔ ∃ rest, rest <:+ text ∧ LikeMatch same pattern rest := by
  constructor
  · intro h
    cases h with
    | run piece h => exact ⟨_, List.suffix_append _ _, h⟩
    | char hp => exact absurd rfl hp
  · rintro ⟨rest, ⟨piece, rfl⟩, h⟩
    exact .run piece h

/-- Any other character of a pattern is for one character of the text. -/
theorem likeMatch_one_iff (hp : p ≠ '%') :
    LikeMatch same (p :: pattern) text ↔
      ∃ c rest, text = c :: rest ∧ (p = '_' ∨ same p c = true) ∧ LikeMatch same pattern rest := by
  constructor
  · intro h
    cases h with
    | run => exact absurd rfl hp
    | any c h => exact ⟨c, _, rfl, .inl rfl, h⟩
    | char _ _ hc h => exact ⟨_, _, rfl, .inr hc, h⟩
  · rintro ⟨c, rest, rfl, hc, h⟩
    by_cases hu : p = '_'
    · subst hu
      exact .any c h
    · exact .char hp hu (hc.resolve_left hu) h

/-! ### The regular expression of a pattern -/

theorem likePart_percent : likePart '%' = .run := rfl

theorem likePart_underscore : likePart '_' = .any := rfl

theorem likePart_of_ne (hp : p ≠ '%') (hu : p ≠ '_') : likePart p = .char p := by
  rw [likePart, if_neg hp, if_neg hu]

/-- Where the parts for the characters of a pattern match up to the end of a text, the pattern
describes what is left of it. -/
theorem matchFrom_likeParts_iff {before : List Char} :
    RegexPart.MatchFrom same (pattern.map likePart ++ [.stop]) before text ↔
      LikeMatch same pattern text := by
  induction pattern generalizing before text with
  | nil =>
    rw [List.map_nil, List.nil_append, RegexPart.matchFrom_stop_iff, likeMatch_nil_iff]
    exact and_iff_left (.done before [])
  | cons p pattern ih =>
    rw [List.map_cons, List.cons_append]
    by_cases hp : p = '%'
    · subst hp
      rw [likePart_percent, RegexPart.matchFrom_run_iff, likeMatch_run_iff]
      simp only [ih]
      constructor
      · rintro ⟨taken, rest, rfl, h⟩
        exact ⟨rest, List.suffix_append _ _, h⟩
      · rintro ⟨rest, ⟨taken, rfl⟩, h⟩
        exact ⟨taken, rest, rfl, h⟩
    · rw [likeMatch_one_iff hp]
      by_cases hu : p = '_'
      · subst hu
        rw [likePart_underscore, RegexPart.matchFrom_any_iff]
        simp only [ih, true_or, true_and]
      · rw [likePart_of_ne hp hu, RegexPart.matchFrom_char_iff]
        simp only [ih, hu, false_or]

/-- The expression for a pattern occurs in a text if and only if the pattern describes all of it. -/
theorem occurs_likeRegex_iff :
    RegexPart.Occurs same (likeRegex pattern) text ↔ LikeMatch same pattern text := by
  constructor
  · rintro ⟨before, after, rfl, hfrom⟩
    obtain ⟨rfl, hparts⟩ := RegexPart.matchFrom_start_iff.1 hfrom
    exact matchFrom_likeParts_iff.1 hparts
  · intro h
    exact ⟨[], text, rfl, RegexPart.matchFrom_start_iff.2 ⟨rfl, matchFrom_likeParts_iff.2 h⟩⟩

theorem search_likeRegex_iff (same : Char → Char → Bool) (pattern text : List Char) :
    RegexPart.search same (likeRegex pattern) text = true ↔ LikeMatch same pattern text :=
  (RegexPart.search_iff same _ text).trans occurs_likeRegex_iff

/-! ### Pieces of a text -/

/-- The pieces of a text that a character of a pattern is for: any run of characters for `%`, any
one character for `_`, and for every other character that character itself. -/
inductive IsPiece : Char → List Char → Prop
  | run (piece : List Char) : IsPiece '%' piece
  | any (c : Char) : IsPiece '_' [c]
  | itself {p : Char} (hp : p ≠ '%') (hu : p ≠ '_') : IsPiece p [p]

/-- Whether a text consists of consecutive pieces for the characters of a pattern. -/
def IsCut (pattern text : List Char) : Prop :=
  ∃ pieces : List (List Char), text = pieces.flatten ∧ List.Forall₂ IsPiece pattern pieces

theorem isCut_nil_iff : IsCut [] text ↔ text = [] := by
  constructor
  · rintro ⟨_, rfl, _ | _⟩
    rfl
  · rintro rfl
    exact ⟨[], rfl, .nil⟩

theorem isCut_cons_iff : IsCut (p :: pattern) text ↔
    ∃ piece rest, text = piece ++ rest ∧ IsPiece p piece ∧ IsCut pattern rest := by
  constructor
  · rintro ⟨_, rfl, _ | ⟨hpiece, hpieces⟩⟩
    exact ⟨_, _, rfl, hpiece, _, rfl, hpieces⟩
  · rintro ⟨piece, _, rfl, hpiece, pieces, rfl, hpieces⟩
    exact ⟨piece :: pieces, rfl, .cons hpiece hpieces⟩

theorem LikeMatch.isCut (h : LikeMatch (· == ·) pattern text) : IsCut pattern text := by
  induction h with
  | done => exact isCut_nil_iff.2 rfl
  | run piece _ ih => exact isCut_cons_iff.2 ⟨piece, _, rfl, .run piece, ih⟩
  | any c _ ih => exact isCut_cons_iff.2 ⟨[c], _, rfl, .any c, ih⟩
  | char hp hu hc _ ih =>
    cases eq_of_beq hc
    exact isCut_cons_iff.2 ⟨[_], _, rfl, .itself hp hu, ih⟩

theorem IsCut.likeMatch (h : IsCut pattern text) : LikeMatch (· == ·) pattern text := by
  induction pattern generalizing text with
  | nil => exact likeMatch_nil_iff.2 (isCut_nil_iff.1 h)
  | cons p pattern ih =>
    obtain ⟨piece, rest, rfl, hpiece, hrest⟩ := isCut_cons_iff.1 h
    cases hpiece with
    | run => exact .run piece (ih hrest)
    | any c => exact .any c (ih hrest)
    | itself hp hu => exact .char hp hu (beq_self_eq_true p) (ih hrest)

/-- A search for the expression of a pattern decides whether the text can be cut for the pattern. -/
theorem like_exact_iff (text pattern : String) :
    like text pattern false = true ↔ IsCut pattern.toList text.toList := by
  rw [like, search_likeRegex_iff, if_neg Bool.false_ne_true]
  exact ⟨LikeMatch.isCut, IsCut.likeMatch⟩

/-- A pattern without `%` and `_` describes itself alone. -/
theorem isCut_plain_iff (h : ∀ p ∈ pattern, p ≠ '%' ∧ p ≠ '_') :
    IsCut pattern text ↔ text = pattern := by
  induction pattern generalizing text with
  | nil => exact isCut_nil_iff
  | cons p pattern ih =>
    obtain ⟨⟨hp, hu⟩, hrest⟩ := List.forall_mem_cons.1 h
    simp only [isCut_cons_iff, ih hrest]
    constructor
    · rintro ⟨_, _, rfl, _ | _ | _, rfl⟩
      · exact absurd rfl hp
      · exact absurd rfl hu
      · rfl
    · rintro rfl
      exact ⟨[p], pattern, rfl, .itself hp hu, rfl⟩

/-- A text matches a pattern if and only if it consists of consecutive pieces for the characters of
the pattern; so a pattern without `%` and `_`, whatever else is in it, matches itself alone. -/
theorem like_iff_isCut (text pattern : String) :
    (like text pattern false = true ↔
      ∃ pieces : List (List Char), text.toList = pieces.flatten ∧
        List.Forall₂ IsPiece pattern.toList pieces) ∧
    ((∀ p ∈ pattern.toList, p ≠ '%' ∧ p ≠ '_') →
      (like text pattern false = true ↔ text = pattern)) := by
  refine ⟨like_exact_iff text pattern, fun h => ?_⟩
  rw [like_exact_iff, isCut_plain_iff h, String.toList_inj]

/-- Two runs with one character between them, in a text of two lines that can be cut in more than
one way; and a pattern of characters that stand for something in other languages. -/
theorem like_iff_isCut_lines :
    like "x.y\n.*z" "%.%_z" false = true ∧
      (∀ p ∈ "^a.*[b]\\(c|d)$".toList, p ≠ '%' ∧ p ≠ '_') ∧
      like "^a.*[b]\\(c|d)$" "^a.*[b]\\(c|d)$" false = true ∧
      like "axx[b]\\(c|d)" "^a.*[b]\\(c|d)$" false = false := by
  have hall : ("^a.*[b]\\(c|d)$".toList.all fun p => p != '%' && p != '_') = true := by
    decide +kernel
  have hplain : ∀ p ∈ "^a.*[b]\\(c|d)$".toList, p ≠ '%' ∧ p ≠ '_' :=
    fun p hp => by simpa using List.all_eq_true.1 hall p hp
  have hpattern : "%.%_z".toList = ['%', '.', '%', '_', 'z'] := by decide +kernel
  have hpieces : "x.y\n.*z".toList = [['x', '.', 'y', '\n'], ['.'], [], ['*'], ['z']].flatten := by
    decide +kernel
  have hcut : List.Forall₂ IsPiece ['%', '.', '%', '_', 'z']
      [['x', '.', 'y', '\n'], ['.'], [], ['*'], ['z']] :=
    .cons (.run _) (.cons (.itself (by decide) (by decide)) (.cons (.run [])
      (.cons (.any '*') (.cons (.itself (by decide) (by decide)) .nil))))
  refine ⟨(like_iff_isCut _ _).1.2 ⟨_, hpieces, hpattern ▸ hcut⟩, hplain,
    ((like_iff_isCut _ _).2 hplain).2 rfl, ?_⟩
  exact Bool.eq_false_iff.2 (mt ((like_iff_isCut _ _).2 hplain).1 (by decide))

end TypedFilter.Text
