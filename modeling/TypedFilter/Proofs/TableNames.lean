import TypedFilter.Proofs.Blanks
import TypedFilter.Proofs.Written

/-!
Names of tables as they stand in statements. A name is read as the words in it with points between
them; what quotes and blanks there are is lost. Main statement: a name is read as it is written if
and only if it is made of bare words with points between them.
-/

namespace TypedFilter.Sql

/-- Whether the name is made of bare words with points between them. -/
def IsTableName (name : String) : Prop :=
  ∀ word ∈ name.toList.splitOn '.', IsBareWord (String.ofList word)

instance (name : String) : Decidable (IsTableName name) :=
  inferInstanceAs (Decidable (∀ _ ∈ _, _))

/-- The tokens of words with points before them. -/
def pointTokens : List String → List Token
  | [] => []
  | word :: words => .sign .dot :: .identifier word :: pointTokens words

/-- The tokens of words with points between them. -/
def nameTokens (word : String) (words : List String) : List Token :=
  .identifier word :: pointTokens words

theorem notMem_of_isBareWord {word : String} (h : IsBareWord word) : '.' ∉ word.toList :=
  fun hmem => absurd (isPlainChar_of_isWordChars h.1 '.' hmem) (by decide)

/-- A name with the words that it is made of. -/
theorem isTableName_iff {name : String} : IsTableName name ↔
    ∃ word words, (∀ w ∈ word :: words, IsBareWord w) ∧
      name = String.intercalate "." (word :: words) := by
  have hjoin : ∀ ws : List String,
      (String.intercalate "." ws).toList = ['.'].intercalate (ws.map String.toList) :=
    fun ws => String.toList_intercalate
  constructor
  · intro h
    obtain ⟨word, words, hsplit⟩ :=
      List.exists_cons_of_ne_nil (List.splitOn_ne_nil '.' name.toList)
    refine ⟨String.ofList word, words.map String.ofList, fun w hw => ?_, ?_⟩
    · rw [← List.map_cons, ← hsplit] at hw
      obtain ⟨cs, hcs, rfl⟩ := List.mem_map.1 hw
      exact h cs hcs
    · rw [← List.map_cons, ← hsplit]
      refine String.toList_injective ?_
      rw [hjoin, List.map_map]
      simp [Function.comp_def]
  · rintro ⟨word, words, hbare, rfl⟩ cs hcs
    rw [hjoin, List.splitOn_intercalate '.' _ (by simp)] at hcs
    · obtain ⟨w, hw, rfl⟩ := List.mem_map.1 hcs
      rw [String.ofList_toList]
      exact hbare w hw
    · intro l hl
      obtain ⟨w, hw, rfl⟩ := List.mem_map.1 hl
      exact notMem_of_isBareWord (hbare w hw)

theorem isTableName_append (a b : String) :
    IsTableName (a ++ "." ++ b) ↔ IsTableName a ∧ IsTableName b := by
  have hsplit : (a ++ "." ++ b).toList.splitOn '.' =
      a.toList.splitOn '.' ++ b.toList.splitOn '.' := by
    rw [String.toList_append, String.toList_append, List.append_assoc]
    exact List.splitOnP_append_cons _ _ (beq_self_eq_true '.')
  rw [IsTableName, hsplit]
  exact List.forall_mem_append

/-- Names with points between them, of which there is at least one. -/
theorem isTableName_intercalate (names : List String) :
    IsTableName (String.intercalate "." names) ↔ names ≠ [] ∧ ∀ name ∈ names, IsTableName name := by
  induction names with
  | nil => exact iff_of_false (by decide) (fun h => h.1 rfl)
  | cons name names ih =>
    cases names with
    | nil => simp
    | cons next names =>
      rw [String.intercalate_cons_cons, isTableName_append, ih]
      simp

/-! ### Tokens of names -/

/-- Bare words with points between them are cut at the points. -/
theorem tokensFrom_words (total : Nat) {word : String} {words : List String}
    (h : ∀ w ∈ word :: words, IsBareWord w) :
    tokensFrom total (String.intercalate "." (word :: words)).toList =
      .ok (nameTokens word words ++ [.eof]) := by
  induction words generalizing word with
  | nil =>
    have hword := h word (List.mem_cons_self ..)
    have hs : tokensFrom total (word.toList ++ []) = _ := tokensFrom_word hword.1 total (by simp)
    rw [String.intercalate_singleton, ← List.append_nil word.toList, hs, tokensFrom_nil, wordToken,
      hword.2]
    rfl
  | cons next words ih =>
    have hword := h word (List.mem_cons_self ..)
    have hrest := ih fun w hw => h w (List.mem_cons_of_mem word hw)
    have hsplit : (String.intercalate "." (word :: next :: words)).toList =
        word.toList ++ '.' :: (String.intercalate "." (next :: words)).toList := by
      simp [String.intercalate_cons_cons]
    have hdot : tokensFrom total ('.' :: (String.intercalate "." (next :: words)).toList) =
        (tokensFrom total (String.intercalate "." (next :: words)).toList).map
          (.sign .dot :: ·) :=
      tokensFrom_cons (skipIgnored_of_ne (by decide) (by decide)) rfl
    rw [hsplit, tokensFrom_word hword.1 total (by rintro c ⟨⟩; decide), hdot, hrest, wordToken,
      hword.2]
    rfl

/-- A quoted text is longer than what it says. -/
theorem length_lt_of_readQuoted {quote : Char} {cs text after : List Char}
    (h : Text.readQuoted? quote cs = some (text, after)) :
    text.length + after.length < cs.length := by
  fun_induction Text.readQuoted? quote cs generalizing text after
  all_goals grind [Option.map_eq_some_iff]

/-- What is cut off first, with what is left of it. -/
theorem exists_of_tokensFrom_cons {total : Nat} {cs : List Char} {t : Token} {ts : List Token}
    (h : tokensFrom total cs = .ok (t :: ts)) (ht : t ≠ .eof) :
    ∃ c rest after, (c :: rest).length ≤ cs.length ∧ Cuts total c rest t after ∧
      tokensFrom total after = .ok ts := by
  have hlen := length_skipIgnored_le false cs
  rw [tokensFrom_eq] at h
  cases hs : skipIgnored false cs with
  | nil =>
    rw [hs] at h
    cases h
    exact absurd rfl ht
  | cons c rest =>
    rw [hs] at h hlen
    obtain ⟨⟨t', after⟩, hcut, h⟩ := exists_of_bind_ok h
    obtain ⟨ts', hafter, heq⟩ := exists_of_map_ok h
    cases heq
    exact ⟨c, rest, after, hlen, lexToken_eq_ok_iff.1 hcut, hafter⟩

theorem exists_lexNumber (c : Char) (rest : List Char) :
    ∃ digits, (lexNumber c rest).1 = .number digits := by
  unfold lexNumber
  dsimp only
  split
  · split <;> exact ⟨_, rfl⟩
  · exact ⟨_, rfl⟩

/-- A name is cut off between quotes or as a bare word. -/
theorem cuts_identifier {total : Nat} {c : Char} {rest after : List Char} {name : String}
    (h : Cuts total c rest (.identifier name) after) :
    Text.readQuoted? '"' rest = some (name.toList, after) ∨
      c :: rest = name.toList ++ after ∧ IsBareWord name := by
  generalize ht : Token.identifier name = t at h
  cases h with
  | sign | string => cases ht
  | moment _ h =>
    obtain ⟨_, _, _, _, _, -, -, -, -, -, hmoment⟩ := lexMoment_eq_ok_iff.1 h
    cases ht.trans hmoment
  | name _ h =>
    rw [lexName] at h
    split at h
    · cases h
      cases ht
      rw [String.toList_ofList]
      exact .inl ‹_›
    · cases h
  | word hc =>
    have hspan : (c :: rest.takeWhile isNamePart) ++ rest.dropWhile isNamePart = c :: rest := by
      rw [List.cons_append, List.takeWhile_append_dropWhile]
    dsimp only [lexWord] at ht
    split at ht
    · cases ht
    · rename_i hword
      cases ht
      refine .inr ⟨?_, ?_, hword⟩
      · rw [String.toList_ofList]
        exact hspan.symm
      · rw [String.toList_ofList, isWordChars, hc, Bool.true_and]
        exact List.all_takeWhile
  | number =>
    obtain ⟨digits, hdigits⟩ := exists_lexNumber c rest
    rw [hdigits] at ht
    cases ht

theorem cuts_dot {total : Nat} {c : Char} {rest after : List Char}
    (h : Cuts total c rest (.sign .dot) after) : c = '.' ∧ rest = after := by
  generalize ht : Token.sign .dot = t at h
  cases h with
  | string => cases ht
  | sign h =>
    cases ht
    unfold lexSign? at h
    split at h <;> simp_all
  | moment _ h =>
    obtain ⟨_, _, _, _, _, -, -, -, -, -, hmoment⟩ := lexMoment_eq_ok_iff.1 h
    cases ht.trans hmoment
  | name _ h =>
    rw [lexName] at h
    split at h
    · cases h
      cases ht
    · cases h
  | word =>
    dsimp only [lexWord] at ht
    split at ht <;> cases ht
  | number =>
    obtain ⟨digits, hdigits⟩ := exists_lexNumber c rest
    rw [hdigits] at ht
    cases ht

/-- A name takes at least as many characters as it has; if it takes no more it is a bare word. -/
theorem exists_of_identifier {total : Nat} {cs : List Char} {name : String} {ts : List Token}
    (h : tokensFrom total cs = .ok (.identifier name :: ts)) :
    ∃ after, tokensFrom total after = .ok ts ∧ name.length + after.length ≤ cs.length ∧
      (cs.length ≤ name.length + after.length → IsBareWord name) := by
  obtain ⟨c, rest, after, hlen, hcut, hafter⟩ := exists_of_tokensFrom_cons h (by simp)
  rw [List.length_cons] at hlen
  refine ⟨after, hafter, ?_⟩
  rcases cuts_identifier hcut with hquoted | ⟨hword, hbare⟩
  · have hlt := length_lt_of_readQuoted hquoted
    rw [String.length_toList] at hlt
    omega
  · have heq := congrArg List.length hword
    rw [List.length_cons, List.length_append, String.length_toList] at heq
    exact ⟨by omega, fun _ => hbare⟩

theorem exists_of_dot {total : Nat} {cs : List Char} {ts : List Token}
    (h : tokensFrom total cs = .ok (.sign .dot :: ts)) :
    ∃ after, tokensFrom total after = .ok ts ∧ after.length < cs.length := by
  obtain ⟨c, rest, after, hlen, hcut, hafter⟩ := exists_of_tokensFrom_cons h (by simp)
  obtain ⟨-, rfl⟩ := cuts_dot hcut
  exact ⟨rest, hafter, hlen⟩

/-- Words with points between them take at least as many characters as they have; if they take no
more they are bare. -/
theorem areBareWords_of_tokensFrom {total : Nat} {cs : List Char} {word : String}
    {words : List String} {rest : List Token}
    (h : tokensFrom total cs = .ok (nameTokens word words ++ rest)) :
    (String.intercalate "." (word :: words)).length ≤ cs.length ∧
      (cs.length ≤ (String.intercalate "." (word :: words)).length →
        ∀ w ∈ word :: words, IsBareWord w) := by
  induction words generalizing word cs with
  | nil =>
    obtain ⟨after, -, hlen, hbare⟩ := exists_of_identifier h
    rw [String.intercalate_singleton]
    refine ⟨by omega, fun hle w hw => ?_⟩
    rw [List.mem_singleton.1 hw]
    exact hbare (by omega)
  | cons next words ih =>
    obtain ⟨after, hafter, hlen, hbare⟩ := exists_of_identifier h
    obtain ⟨more, hmore, hdot⟩ := exists_of_dot hafter
    obtain ⟨hlen', hbare'⟩ := ih hmore
    have hsize : (String.intercalate "." (word :: next :: words)).length =
        word.length + 1 + (String.intercalate "." (next :: words)).length := by
      rw [String.intercalate_cons_cons, String.length_append, String.length_append]
      rfl
    rw [hsize]
    refine ⟨by omega, fun hle w hw => ?_⟩
    rcases List.mem_cons.1 hw with rfl | hw
    · exact hbare (by omega)
    · exact hbare' (by omega) w hw

/-! ### Reading names -/

theorem intercalate_point (name word : String) (words : List String) :
    String.intercalate "." ((name ++ "." ++ word) :: words) =
      String.intercalate "." (name :: word :: words) := by
  rw [String.intercalate_cons_append, String.intercalate_cons_cons]

theorem dottedName_of_ne {k : Nat} {name : String} {ts : List Token} {hk : ts.length ≤ k}
    (h : current ts ≠ .sign .dot) : dottedName k name ts hk = .ok (.stay name ts) :=
  dottedName.eq_2 k name ts hk fun _ _ _ _ hts _ => h (hts ▸ rfl)

theorem leaves_dottedName {name : String} {words : List String} {rest : List Token}
    (hrest : current rest ≠ .sign .dot) {k : Nat}
    (hk : (pointTokens words ++ rest).length ≤ k) :
    Leaves (dottedName k name (pointTokens words ++ rest) hk)
      (String.intercalate "." (name :: words)) rest := by
  induction words generalizing name k with
  | nil =>
    rw [String.intercalate_singleton]
    exact ⟨Nat.le_refl _, dottedName_of_ne hrest⟩
  | cons word words ih =>
    cases k with
    | zero => exact absurd hk (Nat.not_succ_le_zero _)
    | succ k =>
      have hlen : (pointTokens words ++ rest).length ≤ k :=
        Nat.le_of_succ_le (Nat.le_of_succ_le_succ hk)
      obtain ⟨h, he⟩ : Leaves (dottedName k (name ++ "." ++ word) _ hlen) _ rest := ih hlen
      refine ⟨Nat.le_succ_of_le (Nat.le_succ_of_le h), ?_⟩
      refine (dottedName.eq_1 name k (.identifier word :: (pointTokens words ++ rest)) hk).trans ?_
      simp only [expectIdentifier, bind, Except.bind, he, intercalate_point]
      rfl

theorem takes_tableName (word : String) (words : List String) {rest : List Token}
    (hrest : current rest ≠ .sign .dot) :
    Takes (tableName (nameTokens word words ++ rest)) (String.intercalate "." (word :: words))
      rest := by
  obtain ⟨h, he⟩ : Leaves (dottedName _ word (pointTokens words ++ rest) (Nat.le_refl _)) _ rest :=
    leaves_dottedName hrest (Nat.le_refl _)
  refine ⟨Nat.lt_succ_of_le h, ?_⟩
  show tableName (.identifier word :: (pointTokens words ++ rest)) = _
  rw [tableName, expectIdentifier]
  simp only [bind, Except.bind, he]
  rfl

theorem exists_of_expectIdentifier {ts : List Token} {step : Step String ts}
    (h : expectIdentifier ts = .ok step) : ts = .identifier step.value :: step.rest := by
  unfold expectIdentifier at h
  split at h <;> cases h
  rfl

theorem exists_of_dottedName {k : Nat} {name : String} {ts : List Token} {hk : ts.length ≤ k}
    {tail : Tail String ts} (h : dottedName k name ts hk = .ok tail) :
    ∃ words, ts = pointTokens words ++ tail.rest ∧
      tail.value = String.intercalate "." (name :: words) := by
  fun_induction dottedName k name ts hk with
  | case1 name k rest hk hr ih =>
    obtain ⟨part, hpart, h⟩ := exists_of_bind_ok h
    obtain ⟨more, hmore, h⟩ := exists_of_bind_ok h
    obtain ⟨words, hrest, hvalue⟩ := ih part hmore
    have hts := exists_of_expectIdentifier hpart
    rw [hrest] at hts
    cases h
    exact ⟨part.value :: words, congrArg (Token.sign .dot :: ·) hts,
      hvalue.trans (intercalate_point name part.value words)⟩
  | case2 =>
    cases h
    exact ⟨[], rfl, String.intercalate_singleton.symm⟩

theorem exists_of_tableName {ts : List Token} {step : Step String ts}
    (h : tableName ts = .ok step) :
    ∃ word words, ts = nameTokens word words ++ step.rest ∧
      step.value = String.intercalate "." (word :: words) := by
  obtain ⟨first, hfirst, h⟩ := exists_of_bind_ok h
  obtain ⟨tail, htail, h⟩ := exists_of_bind_ok h
  cases h
  obtain ⟨words, hrest, hvalue⟩ := exists_of_dottedName htail
  have hts := exists_of_expectIdentifier hfirst
  rw [hrest] at hts
  exact ⟨first.value, words, hts, hvalue⟩

/-- A name is read as it is written if and only if it is made of bare words with points. -/
theorem tableName_iff (total : Nat) (name : String) :
    (∃ ts step, tokensFrom total name.toList = .ok ts ∧ tableName ts = .ok step ∧
      step.value = name) ↔ IsTableName name := by
  constructor
  · rintro ⟨ts, step, hts, hstep, hvalue⟩
    obtain ⟨word, words, heq, hname⟩ := exists_of_tableName hstep
    rw [heq] at hts
    have hbare := (areBareWords_of_tokensFrom hts).2
    rw [← hname, hvalue] at hbare
    exact isTableName_iff.2
      ⟨word, words, hbare (by rw [String.length_toList]), hvalue.symm.trans hname⟩
  · intro h
    obtain ⟨word, words, hbare, rfl⟩ := isTableName_iff.1 h
    obtain ⟨h, he⟩ := takes_tableName word words (show current [Token.eof] ≠ .sign .dot by decide)
    exact ⟨_, _, tokensFrom_words total hbare, he, rfl⟩

end TypedFilter.Sql
