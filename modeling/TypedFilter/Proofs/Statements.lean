import TypedFilter.Proofs.Derivations

/-!
The statements around clauses. Main statement: a clause that is accepted under one definition stands
for one expression, whatever the definition; the table that the statement names does not matter.
-/

namespace TypedFilter

namespace Sql

/-! ### Positions

The length of the whole text goes into errors alone. -/

theorem toOption_bind {ε α β : Type} {x y : Except ε α} {f g : α → Except ε β}
    (h : x.toOption = y.toOption) (hf : ∀ a, (f a).toOption = (g a).toOption) :
    (x >>= f).toOption = (y >>= g).toOption := by
  cases x with
  | error e =>
    cases y with
    | error e' => rfl
    | ok b => cases h
  | ok a =>
    cases y with
    | error e' => cases h
    | ok b =>
      cases h
      exact hf a

theorem toOption_map {ε α β : Type} {x y : Except ε α} (f : α → β)
    (h : x.toOption = y.toOption) : (x.map f).toOption = (y.map f).toOption :=
  toOption_bind (f := fun a => .ok (f a)) h fun _ => rfl

variable (total total' : Nat)

theorem toOption_lexString (cs : List Char) :
    (lexString total cs).toOption = (lexString total' cs).toOption := by
  unfold lexString
  split <;> rfl

theorem toOption_lexName (cs : List Char) :
    (lexName total cs).toOption = (lexName total' cs).toOption := by
  unfold lexName
  split <;> rfl

theorem toOption_lexMoment (cs : List Char) :
    (lexMoment total cs).toOption = (lexMoment total' cs).toOption := by
  unfold lexMoment
  dsimp only
  split
  · refine toOption_bind (toOption_lexString total total' _) fun p => ?_
    split
    · split <;> rfl
    · rfl
  · rfl

theorem toOption_lexToken (c : Char) (rest : List Char) :
    (lexToken total c rest).toOption = (lexToken total' c rest).toOption := by
  unfold lexToken
  split
  · rfl
  split
  · rfl
  split
  · exact toOption_lexMoment total total' rest
  split
  · exact toOption_map _ (toOption_lexString total total' rest)
  split
  · exact toOption_lexName total total' rest
  split
  · rfl
  split <;> rfl

theorem toOption_tokensFrom (cs : List Char) :
    (tokensFrom total cs).toOption = (tokensFrom total' cs).toOption := by
  fun_induction tokensFrom total cs with
  | case1 cs hs => rw [tokensFrom_eq total', hs]
  | case2 cs c rest hs e he =>
    rw [tokensFrom_eq total', hs]
    have htoken := toOption_lexToken total total' c rest
    rw [he] at htoken
    cases ht : lexToken total' c rest with
    | error e' =>
      simp only [ht]
      rfl
    | ok p =>
      rw [ht] at htoken
      cases htoken
  | case3 cs c rest hs t after ht _ ih =>
    have htoken := toOption_lexToken total total' c rest
    rw [ht] at htoken
    rw [tokensFrom_cons hs (eq_ok_of_toOption htoken.symm)]
    exact toOption_map _ ih

/-! ### Tables -/

/-- A statement that is read with one table is read with any other, and its condition is the
same. -/
theorem exists_condition_of_ofTokens {table : String} {L : List Token} {select : Select}
    (h : Select.ofTokens (headTokens table ++ L) = .ok select) :
    ∃ x, ∀ table', Select.ofTokens (headTokens table' ++ L) =
      .ok (.mk false [.all] (some table') (some x)) := by
  have hL : ∀ table', L.length < (headTokens table' ++ L).length := fun _ =>
    Nat.lt_add_of_pos_right (n := L.length) (k := 5) (by decide)
  rw [Select.ofTokens, readSelect, selectWith_headTokens _ _ (hL table)] at h
  obtain ⟨step, hstep, h⟩ := exists_of_bind_ok h
  obtain ⟨e, he, rfl⟩ := exists_of_map_ok hstep
  have he' : ∀ table', expressionBelow (headTokens table' ++ L).length L (hL table') = .ok e :=
    fun _ => he
  refine ⟨e.value, fun table' => ?_⟩
  rw [Select.ofTokens, readSelect, selectWith_headTokens _ _ (hL table'), he']
  simp only [Except.map, Bind.bind, Except.bind] at h ⊢
  -- The end of the statement may have a semicolon before it.
  split at h
  all_goals
    split at h
    · rename_i hend
      rw [if_pos hend]
    · cases h

/-- What a clause is read as does not depend on the table that its statement names. -/
theorem exists_condition_of_ofText {table clause : String} {select : Select}
    (h : Select.ofText ("SELECT * FROM " ++ Text.quoted '"' table ++ " WHERE " ++ clause) =
      .ok select) :
    ∃ x, ∀ table',
      Select.ofText ("SELECT * FROM " ++ Text.quoted '"' table' ++ " WHERE " ++ clause) =
        .ok (.mk false [.all] (some table') (some x)) := by
  rw [Select.ofText, tokenize, tokensFrom_statement] at h
  obtain ⟨ts, hts, hselect⟩ := exists_of_bind_ok h
  obtain ⟨L, hL, rfl⟩ := exists_of_map_ok hts
  obtain ⟨x, hx⟩ := exists_condition_of_ofTokens hselect
  refine ⟨x, fun table' => ?_⟩
  have hL' : ∀ total, tokensFrom total clause.toList = .ok L := fun total => by
    refine eq_ok_of_toOption ?_
    rw [toOption_tokensFrom total, hL]
    rfl
  rw [Select.ofText, tokenize, tokensFrom_statement, hL']
  exact hx table'

end Sql

namespace Expr

/-- A clause is blank, or cannot be read, or stands for one expression, whatever the definition. -/
theorem ofClause_cases (clause : String) :
    (∀ d, ofClause d clause = .ok .all) ∨
      (∀ d, ∃ message, ofClause d clause = .error (.malformed message)) ∨
      ∃ x, Sql.IsRead x ∧ ∀ d, ofClause d clause = ofExpression d x := by
  by_cases hblank : (Text.trim clause).isEmpty
  · exact .inl fun d => by rw [ofClause, if_pos hblank]
  cases hselect : Sql.Select.ofText (clauseStatement none (Text.trim clause)) with
  | error e =>
    refine .inr (.inl fun d => ?_)
    rw [ofClause, if_neg hblank]
    cases hother : Sql.Select.ofText (clauseStatement d (Text.trim clause)) with
    | error e' => exact ⟨e'.message, rfl⟩
    | ok select =>
      -- What is read with one table is read with any other.
      obtain ⟨x, hx⟩ := Sql.exists_condition_of_ofText hother
      cases hselect.symm.trans (hx "Unknown")
  | ok select =>
    obtain ⟨x, hx⟩ := Sql.exists_condition_of_ofText hselect
    refine .inr (.inr ⟨x, Sql.isRead_ofText (hx "") x rfl, fun d => ?_⟩)
    rw [ofClause, if_neg hblank, clauseStatement, hx]
    rfl

/-- A clause that is accepted under one definition, or without one, is blank or stands for one
expression. -/
theorem exists_expression_of_ofClause {d : Option Definition} {clause : String} {e : Expr}
    (h : ofClause d clause = .ok e) :
    (∀ d', ofClause d' clause = .ok .all) ∨
      ∃ x, Sql.IsRead x ∧ ∀ d', ofClause d' clause = ofExpression d' x := by
  rcases ofClause_cases clause with hall | hfails | hmeans
  · exact .inl hall
  · obtain ⟨message, hfails⟩ := hfails d
    cases hfails.symm.trans h
  · exact .inr hmeans

end Expr

end TypedFilter
