import TypedFilter.Proofs.Scans
import TypedFilter.Proofs.Walks

/-!
Progress of the readers of a text. Main statement: with more fuel than there are tokens every reader
of the grammar comes to an end, its position never passes the end of the text, and where it succeeds
the position has moved forward; so it has in every pass of a loop that another pass follows. A whole
text is cut and read in this way to the statement or the error that it has, and a statement is only
read when no token but the end of the text is left.
-/

namespace TypedFilter.Sql

namespace Walk

variable {α β γ σ : Type} {tokens left rest : List Token} {t : Token} {p q n fuel : Nat}

/-! ### Where readers come to -/

/-- The reader comes to an end at a position in the text and, where it succeeds, to a value and a
position with the property. -/
def Reaches (tokens : List Token) (w : Walk α) (p : Nat) (after : α → Nat → Prop) : Prop :=
  ∃ r q, w.run tokens p = some (r, q) ∧ q < tokens.length ∧ ∀ a, r = .ok a → after a q

namespace Reaches

variable {w : Walk α} {f : α → Walk β} {after : α → Nat → Prop} {after' : β → Nat → Prop}

theorem pure {a : α} (hp : p < tokens.length) (h : after a p) :
    Reaches tokens (Pure.pure a) p after := by
  refine ⟨.ok a, p, rfl, hp, ?_⟩
  rintro _ ⟨⟩
  exact h

theorem fail (hp : p < tokens.length) (e : ReadError) :
    Reaches tokens (Walk.fail e) p after := by
  refine ⟨.error e, p, rfl, hp, ?_⟩
  rintro _ ⟨⟩

theorem bind (h : Reaches tokens w p after)
    (hf : ∀ a q, q < tokens.length → after a q → Reaches tokens (f a) q after') :
    Reaches tokens (w >>= f) p after' := by
  obtain ⟨r, q, hrun, hq, hafter⟩ := h
  cases r with
  | error e => exact ⟨.error e, q, run_bind_error hrun f, hq, by rintro _ ⟨⟩⟩
  | ok a =>
    rw [Reaches, run_bind_ok hrun]
    exact hf a q hq (hafter a rfl)

theorem mono {after₂ : α → Nat → Prop} (h : Reaches tokens w p after)
    (hafter : ∀ a q, after a q → after₂ a q) : Reaches tokens w p after₂ := by
  obtain ⟨r, q, hrun, hq, ha⟩ := h
  exact ⟨r, q, hrun, hq, fun a hr => hafter a q (ha a hr)⟩

theorem of_run_eq {v : Walk α} (heq : w.run tokens p = v.run tokens q)
    (h : Reaches tokens v q after) : Reaches tokens w p after := by
  rwa [Reaches, heq]

/-- A step has taken a token at least, so that the position of what it leaves is a later one. -/
theorem of_matches {r : Read (Step α rest)} (h : IsAt tokens p left)
    (hlen : rest.length ≤ left.length) (hw : Matches Step.out tokens (w.run tokens p) r) :
    Reaches tokens w p fun _ q => p < q := by
  cases r with
  | error e =>
    obtain ⟨q, hrun, hq⟩ := hw
    exact ⟨.error e, q, hrun, hq, by rintro _ ⟨⟩⟩
  | ok s =>
    obtain ⟨q, hrun, hat⟩ := hw
    refine ⟨.ok s.value, q, hrun, hat.lt_length, fun _ _ => ?_⟩
    have hshorter := s.shorter
    have hfirst := h.length_eq
    have hlast : s.rest.length = tokens.length - q := hat.length_eq
    have := h.lt_length
    omega

/-- Where the token that has to stand first does not, nothing is read. -/
theorem of_expect (h : IsAt tokens p left) {wanted : Token} {f : Unit → Walk α}
    (hseen : ∀ rest, left = wanted :: rest → Reaches tokens (expect wanted >>= f) p after) :
    Reaches tokens (expect wanted >>= f) p after := by
  obtain ⟨t, rest, rfl⟩ := h.exists_cons
  by_cases ht : t = wanted
  · exact hseen rest (ht ▸ rfl)
  · have hrun : (expect wanted).run tokens p = some (.error (.expectedToken wanted t), p) := by
      rw [expect, run_if_unseen h ht, run_current h]
      rfl
    exact ⟨_, p, run_bind_error hrun f, h.lt_length, by rintro _ ⟨⟩⟩

end Reaches

/-- Wherever in the text it starts, the reader comes to an end in the text, and it has moved forward
where it succeeds. -/
def MovesOn (tokens : List Token) (w : Walk α) : Prop :=
  ∀ p < tokens.length, Reaches tokens w p fun _ q => p < q

/-- Wherever in the text it starts, a pass of the loop comes to an end in the text, and it has moved
forward where another pass is to follow. -/
def PassMovesOn (tokens : List Token) (pass : σ → Walk (Pass σ α)) : Prop :=
  ∀ s, ∀ p < tokens.length, Reaches tokens (pass s) p fun r q => ∀ s', r = .again s' → p < q

/-- A loop that leaves it to `advance` to move does not come to an end, however much fuel it has. -/
theorem run_loop_advance (s : σ) :
    (loop (fun s => do advance; return .again s) fuel s : Walk α).run tokens p = none := by
  induction fuel generalizing p with
  | zero => rfl
  | succ fuel ih =>
    rw [loop, bind_assoc]
    exact ih

theorem MovesOn.of_agreesWith {w : Walk α} {read : Level α n} (hends : EndsOnce tokens)
    (hn : tokens.length ≤ n) (hw : AgreesWith tokens w read) : MovesOn tokens w := by
  intro p hp
  have h := IsAt.of_lt hends hp
  have hlen : (tokens.drop p).length ≤ tokens.length := by
    rw [List.length_drop]
    omega
  exact .of_matches h (Nat.le_refl _) (hw h (Nat.le_trans hlen hn))

theorem MovesOn.of_agreesAfter {f : Unit → Walk α} {read : Below α (tokens.length + 1)}
    (hends : EndsOnce tokens) (hw : AgreesAfter tokens t (expect t >>= f) read) :
    MovesOn tokens (expect t >>= f) := by
  intro p hp
  have h := IsAt.of_lt hends hp
  refine .of_expect h fun rest hleft => ?_
  have hlen := h.length_le
  rw [hleft] at h hlen
  exact .of_matches h (Nat.le_succ _) (hw h (Nat.lt_succ_of_lt hlen))

theorem reaches_current (hp : p < tokens.length) :
    Reaches tokens current p fun _ q => q = p :=
  ⟨_, p, rfl, hp, fun _ _ => rfl⟩

theorem reaches_sees (t : Token) (hp : p < tokens.length) :
    Reaches tokens (sees t) p fun _ q => q = p :=
  ⟨_, p, rfl, hp, fun _ _ => rfl⟩

theorem reaches_advance (hp : p < tokens.length) :
    Reaches tokens advance p fun _ q => p ≤ q := by
  refine ⟨.ok (), if p + 1 < tokens.length then p + 1 else p, rfl, ?_, fun _ _ => ?_⟩
  · split <;> assumption
  · split <;> omega

theorem reaches_accept (t : Token) (hp : p < tokens.length) :
    Reaches tokens (accept t) p fun _ q => p ≤ q := by
  refine .bind (reaches_sees t hp) fun seen _ _ heq => ?_
  subst heq
  cases seen with
  | true => exact .bind (reaches_advance hp) fun _ _ hq hle => .pure hq hle
  | false => exact .pure hp (Nat.le_refl _)

/-! ### Passes of loops -/

section Passes

variable (hends : EndsOnce tokens)

include hends

theorem passMovesOn_link {operand : Walk Expression} {operator? : Token → Option BinaryOp}
    (hoperand : MovesOn tokens operand) (heof : operator? .eof = none) :
    PassMovesOn tokens (linkPass operand operator?) := by
  intro left p hp
  have h := IsAt.of_lt hends hp
  obtain ⟨t, rest, hleft⟩ := h.exists_cons
  rw [hleft] at h
  refine .of_run_eq (run_current h _) ?_
  rw [current_cons]
  cases hop : operator? t with
  | none => exact .pure hp (by rintro _ ⟨⟩)
  | some op =>
    have ht : t ≠ .eof := by
      rintro rfl
      rw [heof] at hop
      cases hop
    refine .of_run_eq (run_advance h ht _) ?_
    refine .bind (hoperand _ (h.next ht).lt_length) fun right q hq hlt => .pure hq fun _ _ => ?_
    omega

/-- A pass over a list has moved forward even when it is the last one. -/
theorem movesOn_itemPass {item : Walk α} (hitem : MovesOn tokens item) (before : List α) :
    MovesOn tokens (itemPass item before) := by
  intro p hp
  refine .bind (hitem p hp) fun a q hq hlt => ?_
  have h := IsAt.of_lt hends hq
  by_cases hcomma : Sql.current (tokens.drop q) = .sign .comma
  · obtain ⟨t, rest, hleft⟩ := h.exists_cons
    rw [hleft] at h hcomma
    obtain rfl : t = .sign .comma := hcomma
    have hnext := h.next (by simp)
    refine .of_run_eq (run_if_taken h (by simp) _ _) ?_
    exact .pure hnext.lt_length (Nat.lt_succ_of_lt hlt)
  · exact .of_run_eq (run_if_unseen h hcomma _ _) (.pure hq hlt)

/-- A pass that starts with a token of its own, and ends the loop where another token stands. -/
theorem reaches_after {w : Walk (Pass σ α)} (ht : t ≠ .eof) (a : α) (hp : p < tokens.length)
    (hw : p + 1 < tokens.length → Reaches tokens w (p + 1) fun _ q => p < q) :
    Reaches tokens (do if ← sees t then (do advance; w) else return .done a) p fun r q =>
      ∀ s, r = .again s → p < q := by
  have h := IsAt.of_lt hends hp
  by_cases hseen : Sql.current (tokens.drop p) = t
  · obtain ⟨u, rest, hleft⟩ := h.exists_cons
    rw [hleft] at h hseen
    subst hseen
    refine .of_run_eq (run_if_taken h ht _ _) ?_
    exact (hw (h.next ht).lt_length).mono fun _ _ hlt _ _ => hlt
  · exact .of_run_eq (run_if_unseen h hseen _ _) (.pure hp (by rintro _ ⟨⟩))

theorem movesOn_expect {wanted : Token} (hw : wanted ≠ .eof) : MovesOn tokens (expect wanted) :=
  .of_agreesWith hends (Nat.le_refl _) fun _ _ h _ => matches_expect h hw

theorem movesOn_expectIdentifier : MovesOn tokens expectIdentifier :=
  .of_agreesWith hends (Nat.le_refl _) fun _ _ h _ => matches_expectIdentifier h

theorem movesOn_expectNumber : MovesOn tokens expectNumber :=
  .of_agreesWith hends (Nat.le_refl _) fun _ _ h _ => matches_expectNumber h

theorem passMovesOn_part : PassMovesOn tokens partPass := by
  intro name p hp
  refine reaches_after hends (by simp) name hp fun hp' => ?_
  refine .bind (movesOn_expectIdentifier hends _ hp') fun part q hq hlt => .pure hq ?_
  exact Nat.lt_of_succ_lt hlt

theorem passMovesOn_number : PassMovesOn tokens numberPass := by
  intro before p hp
  refine reaches_after hends (by simp) before hp fun hp' => ?_
  refine .bind (movesOn_expectNumber hends _ hp') fun part q hq hlt => .pure hq ?_
  exact Nat.lt_of_succ_lt hlt

theorem passMovesOn_word : PassMovesOn tokens wordPass := by
  intro before p hp
  have h := IsAt.of_lt hends hp
  obtain ⟨t, rest, hleft⟩ := h.exists_cons
  rw [hleft] at h
  refine .of_run_eq (run_current h _) ?_
  rw [current_cons]
  cases t with
  | identifier word =>
    refine .of_run_eq (run_advance h (by simp) _) ?_
    exact .pure (h.next (by simp)).lt_length fun _ _ => Nat.lt_succ_self p
  | _ => exact .pure hp (by rintro _ ⟨⟩)

theorem passMovesOn_branch {expression : Walk Expression} (hx : MovesOn tokens expression) :
    PassMovesOn tokens (branchPass expression) := by
  intro before p hp
  refine reaches_after hends (by simp) before hp fun hp' => ?_
  refine .bind (hx _ hp') fun condition q hq hlt => ?_
  refine .bind (movesOn_expect hends (by simp) q hq) fun _ q' hq' hlt' => ?_
  refine .bind (hx q' hq') fun result q'' hq'' hlt'' => .pure hq'' ?_
  omega

end Passes

/-! ### The whole grammar -/

/-- Every reader of the grammar comes to an end in the text and moves forward where it succeeds;
`advance` alone may stay where it is. -/
structure ReadersMoveOn (fuel : Nat) (tokens : List Token) (x : Walk Expression) : Prop where
  advance : ∀ p < tokens.length, Reaches tokens Walk.advance p fun _ q => p ≤ q
  expect : ∀ wanted, wanted ≠ .eof → MovesOn tokens (Walk.expect wanted)
  expectIdentifier : MovesOn tokens Walk.expectIdentifier
  expectNumber : MovesOn tokens Walk.expectNumber
  select : MovesOn tokens (Walk.select fuel x)
  selectItem : MovesOn tokens (Walk.selectItem x)
  selectItems : MovesOn tokens (Walk.items fuel (Walk.selectItem x))
  tableName : MovesOn tokens (Walk.tableName fuel)
  expression : MovesOn tokens x
  disjunction : MovesOn tokens (Walk.disjunction fuel x)
  conjunction : MovesOn tokens (Walk.conjunction fuel x)
  negation : MovesOn tokens (Walk.negation fuel x fuel)
  comparison : MovesOn tokens (Walk.comparison fuel x)
  sum : MovesOn tokens (Walk.sum fuel x)
  product : MovesOn tokens (Walk.product fuel x)
  signed : MovesOn tokens (Walk.signed fuel x fuel)
  primary : MovesOn tokens (Walk.primary fuel x)
  caseExpression : MovesOn tokens (Walk.caseExpression fuel x)
  castExpression : MovesOn tokens (Walk.castExpression fuel x)
  typeName : MovesOn tokens (Walk.typeName fuel)
  expressionList : MovesOn tokens (Walk.items fuel x)

/-- Every loop of the grammar moves forward in each of its passes that another one follows, and the
loops over lists in the last one too. -/
structure PassesMoveOn (fuel : Nat) (tokens : List Token) (x : Walk Expression) : Prop where
  selectItems : ∀ before, MovesOn tokens (itemPass (selectItem x) before)
  tableName : PassMovesOn tokens partPass
  disjunction : PassMovesOn tokens (linkPass (conjunction fuel x) orOp?)
  conjunction : PassMovesOn tokens (linkPass (negation fuel x fuel) andOp?)
  sum : PassMovesOn tokens (linkPass (product fuel x) sumOp?)
  product : PassMovesOn tokens (linkPass (signed fuel x fuel) productOp?)
  branches : PassMovesOn tokens (branchPass x)
  typeWords : PassMovesOn tokens wordPass
  typeNumbers : PassMovesOn tokens numberPass
  expressionList : ∀ before, MovesOn tokens (itemPass x before)

section Whole

variable {x : Walk Expression} {read : Below Expression (tokens.length + 1)}
  (hends : EndsOnce tokens)

include hends

/-- A reader of token lists takes one token at least, so that one that agrees with it moves on. -/
theorem readersMoveOn (h : ReadersAgree fuel tokens x read) : ReadersMoveOn fuel tokens x := by
  have hn := Nat.le_refl tokens.length
  have hn' := Nat.le_succ tokens.length
  constructor
  case advance => exact fun p hp => reaches_advance hp
  case expect => exact fun wanted hw => movesOn_expect hends hw
  case expectIdentifier => exact movesOn_expectIdentifier hends
  case expectNumber => exact movesOn_expectNumber hends
  case select => exact .of_agreesWith hends hn' h.select
  case selectItem => exact .of_agreesWith hends hn h.selectItem
  case selectItems => exact .of_agreesWith hends hn h.selectItems
  case tableName => exact .of_agreesWith hends hn h.tableName
  case expression => exact .of_agreesWith hends hn h.expression.level
  case disjunction => exact .of_agreesWith hends hn' h.disjunction
  case conjunction => exact .of_agreesWith hends hn' h.conjunction
  case negation => exact .of_agreesWith hends hn' h.negation
  case comparison => exact .of_agreesWith hends hn' h.comparison
  case sum => exact .of_agreesWith hends hn' h.sum
  case product => exact .of_agreesWith hends hn' h.product
  case signed => exact .of_agreesWith hends hn' h.signed
  case primary => exact .of_agreesWith hends hn' h.primary
  case caseExpression => exact .of_agreesAfter hends h.caseExpression
  case castExpression => exact .of_agreesAfter hends h.castExpression
  case typeName => exact .of_agreesWith hends hn h.typeName
  case expressionList => exact .of_agreesWith hends hn h.expressionList

theorem passesMoveOn (h : ReadersMoveOn fuel tokens x) : PassesMoveOn fuel tokens x := by
  constructor
  case selectItems => exact movesOn_itemPass hends h.selectItem
  case tableName => exact passMovesOn_part hends
  case disjunction => exact passMovesOn_link hends h.conjunction rfl
  case conjunction => exact passMovesOn_link hends h.negation rfl
  case sum => exact passMovesOn_link hends h.product rfl
  case product => exact passMovesOn_link hends h.signed rfl
  case branches => exact passMovesOn_branch hends h.expression
  case typeWords => exact passMovesOn_word hends
  case typeNumbers => exact passMovesOn_number hends
  case expressionList => exact movesOn_itemPass hends h.expression

end Whole

/-! ### Whole texts -/

theorem movesOn_statement (hselect : MovesOn tokens (select fuel (expression fuel))) :
    MovesOn tokens (statement fuel) := by
  intro p hp
  refine .bind (hselect p hp) fun query q hq hlt => ?_
  refine .bind (reaches_accept _ hq) fun _ q' hq' hle => ?_
  refine .bind (reaches_sees _ hq') fun ends _ _ heq => ?_
  subst heq
  cases ends with
  | true => exact .pure hq' (Nat.lt_of_lt_of_le hlt hle)
  | false => exact .bind (reaches_current hq') fun t _ _ heq => heq ▸ .fail hq' _

theorem matches_end (h : IsAt tokens p left) (query : Select) :
    Matches (fun query => (query, [Token.eof])) tokens
      ((do if ← sees .eof then return query
           else fail (.unexpectedToken (← current)) : Walk Select).run tokens p)
      (if Sql.current left = .eof then .ok query
       else .error (.unexpectedToken (Sql.current left))) := by
  by_cases heof : Sql.current left = .eof
  · obtain ⟨t, rest, rfl⟩ := h.exists_cons
    cases heof
    obtain rfl := h.ends.eq_nil
    rw [run_if_seen h, current_cons, if_pos rfl]
    exact .ok h rfl
  · rw [run_if_unseen h heof, if_neg heof, run_current h]
    exact .fail h _

/-- A statement is read as the one that the tokens are, and then no token but the end of the text is
left. -/
theorem matches_statement (hends : EndsOnce tokens) (hfuel : tokens.length ≤ fuel) :
    Matches (fun query => (query, [Token.eof])) tokens ((statement fuel).run tokens 0)
      (Select.ofTokens tokens) := by
  have hx := agreesBelow_expression tokens hfuel
  rw [statement, Select.ofTokens, readSelect]
  refine .bind (matches_select hx hfuel ⟨List.drop_zero, hends⟩ _) fun query q hq => ?_
  obtain ⟨query, left, hshorter⟩ := query
  dsimp only
  split
  · exact .bindOk (accept_seen hq (by simp)) fun q hq => matches_end hq query
  · rename_i hother
    exact .bindOk (accept_unseen hq (hq.current_ne hother)) fun q hq => matches_end hq query

end Walk

/-- A text is cut into tokens with more fuel than it has characters, and the end of the text is the
last of them and none of the others. With more fuel than there are tokens every reader of the
grammar reads what the tokens from its position on are and comes to an end at a position in the
text; where it succeeds it has moved forward, and so has every pass of a loop that another one
follows. A whole text is read as the statement that its tokens are, or with the error that they
have; no token but the end of the text is then left behind a statement. -/
theorem readers_make_progress (text : String) :
    (∀ fuel, text.toList.length < fuel →
      scanTokens text.toList.length fuel text.toList = some (tokenize text)) ∧
    ∀ tokens, tokenize text = .ok tokens →
      EndsOnce tokens ∧
      ∀ fuel, tokens.length < fuel →
        Walk.ReadersAgree fuel tokens (Walk.expression fuel)
          (expressionBelow (tokens.length + 1)) ∧
        Walk.ReadersMoveOn fuel tokens (Walk.expression fuel) ∧
        Walk.PassesMoveOn fuel tokens (Walk.expression fuel) ∧
        Walk.MovesOn tokens (Walk.statement fuel) ∧
        ∃ q < tokens.length,
          (Walk.statement fuel).run tokens 0 = some (Select.ofTokens tokens, q) ∧
          ∀ query, Select.ofTokens tokens = .ok query → tokens.drop q = [.eof] := by
  refine ⟨fun fuel hfuel => scanTokens_eq hfuel, fun tokens htokens => ?_⟩
  have hends := endsOnce_tokensFrom htokens
  refine ⟨hends, fun fuel hfuel => ?_⟩
  have hagree := Walk.readersAgree hfuel
  have hreaders := Walk.readersMoveOn hends hagree
  have hpasses := Walk.passesMoveOn hends hreaders
  refine ⟨hagree, hreaders, hpasses, Walk.movesOn_statement hreaders.select, ?_⟩
  have hstatement := Walk.matches_statement hends (Nat.le_of_lt hfuel)
  cases hread : Select.ofTokens tokens with
  | error e =>
    rw [hread] at hstatement
    obtain ⟨q, hrun, hq⟩ := hstatement
    exact ⟨q, hq, hrun, by rintro _ ⟨⟩⟩
  | ok query =>
    rw [hread] at hstatement
    obtain ⟨q, hrun, hat⟩ := hstatement
    exact ⟨q, hat.lt_length, hrun, fun _ _ => hat.drop_eq⟩

/-- A statement with a comment before its semicolon is read to its end. -/
theorem commented_statement_makes_progress :
    ∃ tokens, tokenize "SELECT (a) FROM t -- all\n;" = .ok tokens ∧ tokens.length = 8 ∧
      EndsOnce tokens ∧
      scanTokens 26 27 "SELECT (a) FROM t -- all\n;".toList = some (.ok tokens) ∧
      Walk.ReadersMoveOn 9 tokens (Walk.expression 9) ∧
      Walk.PassesMoveOn 9 tokens (Walk.expression 9) ∧
      (Walk.statement 9).run tokens 0 =
        some (.ok (.mk false [.expression (.column "a") none] (some "t") none), 7) := by
  let tokens : List Token := [.keyword .select, .sign .leftParen, .identifier "a",
    .sign .rightParen, .keyword .from, .identifier "t", .sign .semicolon, .eof]
  have htokens : tokenize "SELECT (a) FROM t -- all\n;" = .ok tokens :=
    eq_ok_of_toOption (by decide +kernel)
  have hquery : Select.ofTokens tokens =
      .ok (.mk false [.expression (.column "a") none] (some "t") none) := rfl
  obtain ⟨hscan, hread⟩ := readers_make_progress "SELECT (a) FROM t -- all\n;"
  obtain ⟨hends, hfuel⟩ := hread tokens htokens
  obtain ⟨-, hreaders, hpasses, -, q, hq, hrun, hlast⟩ := hfuel 9 (by decide)
  have hlength : (tokens.drop q).length = 1 := congrArg List.length (hlast _ hquery)
  have hq7 : q = 7 := by
    rw [List.length_drop] at hlength
    change 8 - q = 1 at hlength
    omega
  rw [hquery, hq7] at hrun
  refine ⟨tokens, htokens, rfl, hends, ?_, hreaders, hpasses, hrun⟩
  rw [← htokens]
  exact hscan 27 (by decide)

end TypedFilter.Sql
