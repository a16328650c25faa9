import TypedFilter.Proofs.Agreement

/-!
The grammar with a position agrees with the grammar of token lists, level by level. Main statement:
an expression or a statement is read with the same value or the same error, and the position is then
at the first of the tokens that are left.
-/

namespace TypedFilter.Sql

namespace Walk

variable {tokens left rest : List Token} {t : Token} {p n fuel : Nat}

/-! ### Statements -/

section Grammar

variable {expression : Walk Expression} {read : Below Expression n}

theorem matches_aliasName (h : IsAt tokens p left) :
    Matches Tail.out tokens (aliasName.run tokens p) (Sql.aliasName left) := by
  unfold aliasName Sql.aliasName
  split
  · rw [run_if_taken h (by simp)]
    exact .bind (matches_expectIdentifier (h.next (by simp))) fun name q hq => .ok hq rfl
  · rw [run_if_unseen h (by simp), run_current h, current_cons]
    dsimp only
    rw [run_advance h (by simp)]
    exact .ok (h.next (by simp)) rfl
  · rename_i has hname
    rw [run_if_unseen h (h.current_ne has), run_current h]
    obtain ⟨t, rest, rfl⟩ := h.exists_cons
    split
    · rename_i name heq
      exact absurd (congrArg (· :: rest) heq) (hname name rest)
    · exact .ok h rfl

theorem agreesBelow_selectItem (hx : AgreesBelow tokens expression read) :
    AgreesBelow tokens (selectItem expression) (Sql.selectItem read) := by
  intro p left h hlen
  unfold selectItem Sql.selectItem
  split
  · rw [run_if_taken h (by simp)]
    exact .ok (h.next (by simp)) rfl
  · rename_i hother
    rw [run_if_unseen h (h.current_ne_of_fits (·.length < n) hlen hother)]
    refine .bind (hx h hlen) fun e q hq => ?_
    exact .bind (matches_aliasName hq) fun name q hq => .ok hq rfl

theorem matches_fromPart (h : IsAt tokens p left) (hfuel : left.length ≤ fuel) :
    Matches Tail.out tokens ((after? (.keyword .from) (tableName fuel)).run tokens p)
      (fromPart left) := by
  unfold fromPart
  split
  · exact after?_seen h (by simp) fun h => matches_tableName h (Nat.le_of_succ_le hfuel)
  · rename_i hother
    exact after?_unseen h _ (h.current_ne hother)

theorem matches_wherePart (hx : AgreesBelow tokens expression read) (h : IsAt tokens p left)
    (hlen : left.length ≤ n) :
    Matches Tail.out tokens ((after? (.keyword .where) expression).run tokens p)
      (wherePart read left hlen) := by
  unfold wherePart
  split
  · exact after?_seen h (by simp) fun h => hx h _
  · rename_i hother
    exact after?_unseen h _ (h.current_ne_of_fits (·.length ≤ n) hlen hother)

theorem matches_distinctPart (h : IsAt tokens p left) :
    Matches Tail.out tokens ((accept (.keyword .distinct)).run tokens p)
      (.ok (distinctPart left)) := by
  unfold distinctPart
  split
  · exact accept_seen h (by simp)
  · rename_i hother
    exact accept_unseen h (h.current_ne hother)

theorem matches_select (hx : AgreesBelow tokens expression read) (hn : n ≤ fuel)
    (h : IsAt tokens p left) (hlen : left.length ≤ n) :
    Matches Step.out tokens ((select fuel expression).run tokens p)
      (selectWith read left hlen) := by
  rw [select, selectWith]
  refine .bind (matches_expect h (by simp)) fun start q hq => ?_
  have hlen₁ := start.fits hlen
  refine .bindOk (matches_distinctPart hq) fun q hq => ?_
  have hlen₂ := Nat.le_trans (distinctPart start.rest).noLonger hlen₁
  refine .bind (agreesWith_items (fun _ _ h _ => agreesBelow_selectItem hx h _)
    (Nat.le_trans hlen₂ hn) hq _) fun selected q hq => ?_
  have hlen₃ := Nat.le_trans (selected.fits hlen₂) hn
  refine .bind (matches_fromPart hq hlen₃) fun table q hq => ?_
  exact .bind (matches_wherePart hx hq _) fun condition q hq => .ok hq rfl

/-! ### Expressions that stand by themselves -/

theorem matches_listToParen (hx : AgreesBelow tokens expression read) (hn : n ≤ fuel)
    (h : IsAt tokens p left) (hlen : left.length < n) :
    Matches Step.out tokens ((listToParen fuel expression).run tokens p)
      (Sql.listToParen read left hlen) := by
  rw [listToParen, Sql.listToParen]
  refine .bind (agreesWith_items (fun _ _ h _ => hx h _)
    (Nat.le_trans (Nat.le_of_lt hlen) hn) h _) fun list q hq => ?_
  exact .bind (matches_expect hq (by simp)) fun close q hq => .ok hq rfl

theorem matches_selectToParen (hx : AgreesBelow tokens expression read) (hn : n ≤ fuel)
    (h : IsAt tokens p left) (hlen : left.length ≤ n) :
    Matches Step.out tokens ((selectToParen fuel expression).run tokens p)
      (Sql.selectToParen read left hlen) := by
  rw [selectToParen, Sql.selectToParen]
  refine .bind (matches_select hx hn h hlen) fun query q hq => ?_
  exact .bind (matches_expect hq (by simp)) fun close q hq => .ok hq rfl

theorem matches_afterName (hx : AgreesBelow tokens expression read) (hn : n ≤ fuel) (name : String)
    (h : IsAt tokens p left) (hlen : left.length < n) :
    Matches Tail.out tokens ((afterName fuel expression name).run tokens p)
      (Sql.afterName read name left hlen) := by
  unfold afterName Sql.afterName
  split
  · rw [run_if_taken h (by simp)]
    exact .bind (matches_expectIdentifier (h.next (by simp))) fun column q hq => .ok hq rfl
  · have hnext := h.next (by simp)
    rw [run_if_unseen h (by simp), run_if_taken h (by simp), run_if_taken hnext (by simp)]
    exact .ok (hnext.next (by simp)) rfl
  · rename_i rest _ hclose
    have hnext := h.next (by simp)
    have hother : Sql.current rest ≠ .sign .rightParen := by
      refine hnext.current_ne fun after heq => ?_
      subst heq
      exact hclose after _ .rfl rfl
    rw [run_if_unseen h (by simp), run_if_taken h (by simp), run_if_unseen hnext hother]
    exact .bind (matches_listToParen hx hn hnext _) fun arguments q hq => .ok hq rfl
  · rename_i hdot _ hparen
    rw [run_if_unseen h (h.current_ne_of_fits (·.length < n) hlen hdot),
      run_if_unseen h (h.current_ne_of_fits (·.length < n) hlen hparen)]
    exact .ok h rfl

theorem matches_afterParen (hx : AgreesBelow tokens expression read) (hn : n ≤ fuel)
    (h : IsAt tokens p left) (hlen : left.length < n) :
    Matches Step.out tokens ((afterParen fuel expression).run tokens p)
      (Sql.afterParen read left hlen) := by
  rw [afterParen, Sql.afterParen]
  by_cases hselect : Sql.current left = .keyword .select
  · rw [run_if_current h hselect, if_pos hselect]
    exact .bind (matches_selectToParen hx hn h _) fun query q hq => .ok hq rfl
  · rw [run_if_unseen h hselect, if_neg hselect]
    exact .bind (matches_listToParen hx hn h _) fun list q hq => .ok hq rfl

theorem matches_branchLoop (hx : AgreesBelow tokens expression read) {k : Nat}
    (before : List (Expression × Expression)) (h : IsAt tokens p left)
    (hfuel : left.length ≤ fuel) (hk : left.length ≤ k) (hn : k < n) :
    Matches (fun s : Tail (List (Expression × Expression)) left => (before ++ s.value, s.rest))
      tokens ((loop (branchPass expression) fuel before).run tokens p)
      (branches read k left hk hn) := by
  induction fuel generalizing k before left p with
  | zero => exact absurd hfuel (Nat.not_le_of_lt h.length_pos)
  | succ fuel ih =>
    obtain ⟨t, rest, rfl⟩ := h.exists_cons
    obtain ⟨k, rfl⟩ := h.exists_bound hk
    by_cases ht : t = .keyword .when
    · subst ht
      rw [run_loop_seen h (by simp) rfl, branches]
      simp only [bind_assoc, pure_bind]
      refine .bind (hx (h.next (by simp)) _) fun condition q hq => ?_
      refine .bind (matches_expect hq (by simp)) fun word q hq => ?_
      refine .bind (hx hq _) fun result q hq => ?_
      have hlen := result.fits (word.fits (condition.fits (Nat.le_of_succ_le_succ hfuel)))
      refine .mapOk (ih _ hq hlen _ _) fun s => ?_
      rw [List.append_assoc]
      rfl
    · rw [run_loop_unseen h ht rfl, branches]
      · exact .ok h (List.append_nil before)
      · intro _ _ _ _ _ heq _ _
        exact ht (List.cons.inj heq).1

theorem matches_caseOperand (hx : AgreesBelow tokens expression read) (h : IsAt tokens p left)
    (hlen : left.length < n) :
    Matches Tail.out tokens ((caseOperand expression).run tokens p)
      (Sql.caseOperand read left hlen) := by
  rw [caseOperand, Sql.caseOperand]
  by_cases hwhen : Sql.current left = .keyword .when
  · rw [run_if_current h hwhen, if_pos hwhen]
    exact .ok h rfl
  · rw [run_if_unseen h hwhen, if_neg hwhen]
    exact .bind (hx h _) fun e q hq => .ok hq rfl

theorem matches_caseElse (hx : AgreesBelow tokens expression read) (h : IsAt tokens p left)
    (hlen : left.length < n) :
    Matches Tail.out tokens ((after? (.keyword .else) expression).run tokens p)
      (caseElse read left hlen) := by
  unfold caseElse
  split
  · exact after?_seen h (by simp) fun h => hx h _
  · rename_i hother
    exact after?_unseen h _ (h.current_ne_of_fits (·.length < n) hlen hother)

theorem agreesAfter_caseExpression (hx : AgreesBelow tokens expression read) (hn : n ≤ fuel) :
    AgreesAfter tokens (.keyword .case) (caseExpression fuel expression) (Sql.afterCase read) := by
  intro p rest h hlen
  rw [caseExpression, Sql.afterCase]
  refine .bindOk (matches_expect h (by simp)) fun q hq => ?_
  refine .bind (matches_caseOperand hx hq _) fun operand q hq => ?_
  have hlen₁ := Nat.le_trans operand.noLonger (Nat.le_trans (Nat.le_of_lt hlen) hn)
  refine .bind (matches_branchLoop hx [] hq hlen₁ _ _) fun whens q hq => ?_
  refine .bind (matches_caseElse hx hq _) fun otherwise q hq => ?_
  exact .bind (matches_expect hq (by simp)) fun close q hq => .ok hq rfl

theorem agreesAfter_castExpression (hx : AgreesBelow tokens expression read) (hn : n ≤ fuel) :
    AgreesAfter tokens (.keyword .cast) (castExpression fuel expression) (Sql.afterCast read) := by
  intro p rest h hlen
  rw [castExpression, Sql.afterCast]
  refine .bindOk (matches_expect h (by simp)) fun q hq => ?_
  refine .bind (matches_expect hq (by simp)) fun start q hq => ?_
  refine .bind (hx hq _) fun e q hq => ?_
  refine .bind (matches_expect hq (by simp)) fun word q hq => ?_
  have hlen₁ := word.fits (e.fits (start.fits (Nat.le_trans (Nat.le_of_lt hlen) hn)))
  refine .bind (matches_typeName hq hlen₁) fun type q hq => ?_
  exact .bind (matches_expect hq (by simp)) fun close q hq => .ok hq rfl

theorem agreesWith_primary (hx : AgreesBelow tokens expression read) (hn : n ≤ fuel) :
    AgreesWith tokens (primary fuel expression) (Sql.primary read) := by
  intro p left h hlen
  obtain ⟨t, rest, rfl⟩ := h.exists_cons
  rw [primary, run_current h, current_cons]
  cases t with
  | number digits =>
    have hnext := h.next (by simp)
    dsimp only
    rw [run_advance h (by simp), Sql.primary]
    exact .bindRead hnext fun v => .ok hnext rfl
  | string text =>
    dsimp only
    rw [run_advance h (by simp)]
    exact .ok (h.next (by simp)) rfl
  | moment kind text =>
    have hnext := h.next (by simp)
    dsimp only
    rw [run_advance h (by simp), Sql.primary]
    exact .bindRead hnext fun v => .ok hnext rfl
  | identifier name =>
    dsimp only
    rw [run_advance h (by simp), Sql.primary]
    exact .mapOk (matches_afterName hx hn name (h.next (by simp)) _) fun _ => rfl
  | sign s =>
    cases s with
    | leftParen =>
      dsimp only
      rw [run_advance h (by simp), Sql.primary]
      exact .mapOk (matches_afterParen hx hn (h.next (by simp)) _) fun _ => rfl
    | _ => exact .fail h _
  | keyword k =>
    cases k with
    | true | false | null =>
      dsimp only
      rw [run_advance h (by simp)]
      exact .ok (h.next (by simp)) rfl
    | «exists» =>
      dsimp only
      rw [run_advance h (by simp), Sql.primary, Sql.afterExists, bind_assoc]
      refine .bind (matches_expect (h.next (by simp)) (by simp)) fun start q hq => ?_
      rw [bind_assoc]
      exact .bind (matches_selectToParen hx hn hq _) fun query q hq => .ok hq rfl
    | case =>
      rw [Sql.primary]
      exact .mapOk (agreesAfter_caseExpression hx hn h _) fun _ => rfl
    | cast =>
      rw [Sql.primary]
      exact .mapOk (agreesAfter_castExpression hx hn h _) fun _ => rfl
    | _ => exact .fail h _
  | eof => exact .fail h _

/-! ### Operators -/

theorem matches_signed (hx : AgreesBelow tokens expression read) (hn : n ≤ fuel) (k : Nat)
    (h : IsAt tokens p left) (hk : left.length ≤ k) (hlen : left.length ≤ n) :
    Matches Step.out tokens ((signed fuel expression k).run tokens p)
      (Sql.signed read left hlen) := by
  induction k generalizing left p with
  | zero => exact absurd hk (Nat.not_le_of_lt h.length_pos)
  | succ k ih =>
    obtain ⟨t, rest, rfl⟩ := h.exists_cons
    have hrest := Nat.le_of_succ_le_succ hk
    rw [signed, run_current h, current_cons]
    cases t with
    | sign s =>
      cases s with
      | plus | minus =>
        dsimp only
        rw [run_advance h (by simp), Sql.signed]
        exact .bind (ih (h.next (by simp)) hrest _) fun e q hq => .ok hq rfl
      | _ => exact agreesWith_primary hx hn h hlen
    | _ => exact agreesWith_primary hx hn h hlen

theorem agreesWith_signed (hx : AgreesBelow tokens expression read) (hn : n ≤ fuel) :
    AgreesWith tokens (signed fuel expression fuel) (Sql.signed read) := fun _ _ h hlen =>
  matches_signed hx hn fuel h (Nat.le_trans hlen hn) hlen

theorem agreesWith_product (hx : AgreesBelow tokens expression read) (hn : n ≤ fuel) :
    AgreesWith tokens (product fuel expression) (Sql.product read) :=
  agreesWith_chain (agreesWith_signed hx hn) rfl hn

theorem agreesWith_sum (hx : AgreesBelow tokens expression read) (hn : n ≤ fuel) :
    AgreesWith tokens (sum fuel expression) (Sql.sum read) :=
  agreesWith_chain (agreesWith_product hx hn) rfl hn

variable {x : Expression} {negated : Bool}

theorem matches_afterIn (hx : AgreesBelow tokens expression read) (hn : n ≤ fuel)
    (h : IsAt tokens p left) (hlen : left.length < n) :
    Matches Step.out tokens ((afterIn fuel expression x negated).run tokens p)
      (Sql.afterIn read x negated left hlen) := by
  rw [afterIn, Sql.afterIn]
  refine .bind (matches_expect h (by simp)) fun start q hq => ?_
  by_cases hselect : Sql.current start.rest = .keyword .select
  · rw [run_if_current hq hselect, if_pos hselect]
    exact .bind (matches_selectToParen hx hn hq _) fun query q hq => .ok hq rfl
  · rw [run_if_unseen hq hselect, if_neg hselect]
    exact .bind (matches_listToParen hx hn hq _) fun list q hq => .ok hq rfl

theorem matches_afterBetween (hx : AgreesBelow tokens expression read) (hn : n ≤ fuel)
    (h : IsAt tokens p left) (hlen : left.length < n) :
    Matches Step.out tokens ((afterBetween fuel expression x negated).run tokens p)
      (Sql.afterBetween read x negated left hlen) := by
  rw [afterBetween, Sql.afterBetween]
  refine .bind (agreesWith_sum hx hn h _) fun low q hq => ?_
  refine .bind (matches_expect hq (by simp)) fun word q hq => ?_
  exact .bind (agreesWith_sum hx hn hq _) fun high q hq => .ok hq rfl

theorem matches_escapePart (hx : AgreesBelow tokens expression read) (hn : n ≤ fuel)
    (h : IsAt tokens p left) (hlen : left.length < n) :
    Matches Tail.out tokens ((after? (.keyword .escape) (sum fuel expression)).run tokens p)
      (escapePart read left hlen) := by
  unfold escapePart
  split
  · exact after?_seen h (by simp) fun h => agreesWith_sum hx hn h _
  · rename_i hother
    exact after?_unseen h _ (h.current_ne_of_fits (·.length < n) hlen hother)

theorem matches_afterLike (hx : AgreesBelow tokens expression read) (hn : n ≤ fuel)
    (h : IsAt tokens p left) (hlen : left.length < n) :
    Matches Step.out tokens ((afterLike fuel expression x negated).run tokens p)
      (Sql.afterLike read x negated left hlen) := by
  rw [afterLike, Sql.afterLike]
  refine .bind (agreesWith_sum hx hn h _) fun pattern q hq => ?_
  exact .bind (matches_escapePart hx hn hq _) fun escape q hq => .ok hq rfl

theorem plainTest_in (hx : AgreesBelow tokens expression read) (hn : n ≤ fuel)
    (h : IsAt tokens p (.keyword .in :: rest)) (hlen : rest.length < n) :
    Matches Step.out tokens ((plainTest fuel expression x negated).run tokens p)
      (Sql.afterIn read x negated rest hlen) := by
  rw [plainTest, run_if_taken h (by simp)]
  exact matches_afterIn hx hn (h.next (by simp)) hlen

theorem plainTest_between (hx : AgreesBelow tokens expression read) (hn : n ≤ fuel)
    (h : IsAt tokens p (.keyword .between :: rest)) (hlen : rest.length < n) :
    Matches Step.out tokens ((plainTest fuel expression x negated).run tokens p)
      (Sql.afterBetween read x negated rest hlen) := by
  rw [plainTest, run_if_unseen h (by simp), run_if_taken h (by simp)]
  exact matches_afterBetween hx hn (h.next (by simp)) hlen

theorem plainTest_like (hx : AgreesBelow tokens expression read) (hn : n ≤ fuel)
    (h : IsAt tokens p (.keyword .like :: rest)) (hlen : rest.length < n) :
    Matches Step.out tokens ((plainTest fuel expression x negated).run tokens p)
      (Sql.afterLike read x negated rest hlen) := by
  rw [plainTest, run_if_unseen h (by simp), run_if_unseen h (by simp), run_if_taken h (by simp)]
  exact matches_afterLike hx hn (h.next (by simp)) hlen

theorem run_if_negates (h : IsAt tokens p (.keyword .not :: t :: rest)) (ht : startsTest t = true)
    (x y : Walk α) :
    (do if ← negatesTest then x else y : Walk α).run tokens p = x.run tokens p := by
  have hrun : negatesTest.run tokens p = some (.ok true, p) := by
    rw [negatesTest, run_if_seen h, run_next h, current_cons, ht]
    rfl
  exact run_bind_ok hrun _

theorem run_if_plain (h : IsAt tokens p left)
    (hplain : ∀ t rest, left = .keyword .not :: t :: rest → startsTest t = false)
    (x y : Walk α) :
    (do if ← negatesTest then x else y : Walk α).run tokens p = y.run tokens p := by
  have hrun : negatesTest.run tokens p = some (.ok false, p) := by
    rw [negatesTest]
    by_cases hnot : Sql.current left = .keyword .not
    · obtain ⟨t, rest, rfl⟩ := h.exists_cons
      cases hnot
      obtain ⟨u, rest, rfl⟩ := (h.next (by simp)).exists_cons
      rw [run_if_seen h, run_next h, current_cons, hplain u rest rfl]
      rfl
    · rw [run_if_unseen h hnot]
      rfl
  exact run_bind_ok hrun _

theorem matches_test (hx : AgreesBelow tokens expression read) (hn : n ≤ fuel)
    (h : IsAt tokens p left) (hlen : left.length ≤ n) :
    Matches Tail.out tokens ((test fuel expression x).run tokens p)
      (Sql.test read x left hlen) := by
  unfold Sql.test
  split
  case h_1 =>
    rw [test, run_if_taken h (by simp), afterIs]
    refine .bindOk (accept_seen (h.next (by simp)) (by simp)) fun q hq => ?_
    exact .bind (matches_expect hq (by simp)) fun word q hq => .ok hq rfl
  case h_2 rest _ hnot =>
    have hnext := h.next (by simp)
    have hother : Sql.current rest ≠ .keyword .not := by
      refine hnext.current_ne fun after heq => ?_
      subst heq
      exact hnot after _ .rfl rfl
    rw [test, run_if_taken h (by simp), afterIs]
    refine .bindOk (accept_unseen hnext hother) fun q hq => ?_
    exact .bind (matches_expect hq (by simp)) fun word q hq => .ok hq rfl
  case h_3 =>
    rw [test, run_if_unseen h (by simp), run_if_negates h rfl, run_advance h (by simp)]
    exact .mapOk (plainTest_in hx hn (h.next (by simp)) _) fun _ => rfl
  case h_4 =>
    rw [test, run_if_unseen h (by simp), run_if_negates h rfl, run_advance h (by simp)]
    exact .mapOk (plainTest_between hx hn (h.next (by simp)) _) fun _ => rfl
  case h_5 =>
    rw [test, run_if_unseen h (by simp), run_if_negates h rfl, run_advance h (by simp)]
    exact .mapOk (plainTest_like hx hn (h.next (by simp)) _) fun _ => rfl
  case h_6 =>
    rw [test, run_if_unseen h (by simp), run_if_plain h (by simp)]
    exact .mapOk (plainTest_in hx hn h _) fun _ => rfl
  case h_7 =>
    rw [test, run_if_unseen h (by simp), run_if_plain h (by simp)]
    exact .mapOk (plainTest_between hx hn h _) fun _ => rfl
  case h_8 =>
    rw [test, run_if_unseen h (by simp), run_if_plain h (by simp)]
    exact .mapOk (plainTest_like hx hn h _) fun _ => rfl
  case h_9 => exact absurd rfl h.ends.ne_nil
  case h_10 t rest _ _ his hnotIn hnotBetween hnotLike hin hbetween hlike =>
    have hplain : ∀ u after, t :: rest = .keyword .not :: u :: after → startsTest u = false := by
      rintro u after ⟨⟩
      unfold startsTest
      split
      · exact absurd rfl (hnotIn after _ .rfl rfl)
      · exact absurd rfl (hnotBetween after _ .rfl rfl)
      · exact absurd rfl (hnotLike after _ .rfl rfl)
      · rfl
    rw [test, run_if_unseen h his, run_if_plain h hplain, plainTest, run_if_unseen h hin,
      run_if_unseen h hbetween, run_if_unseen h hlike, run_current h, current_cons]
    cases hop : comparisonOp? t with
    | none => exact .ok h rfl
    | some op =>
      have ht : t ≠ .eof := by
        rintro rfl
        cases hop
      dsimp only
      rw [run_advance h ht]
      exact .bind (agreesWith_sum hx hn (h.next ht) _) fun right q hq => .ok hq rfl

theorem agreesWith_comparison (hx : AgreesBelow tokens expression read) (hn : n ≤ fuel) :
    AgreesWith tokens (comparison fuel expression) (Sql.comparison read) := by
  intro p left h hlen
  rw [comparison, Sql.comparison]
  refine .bind (agreesWith_sum hx hn h _) fun first q hq => ?_
  exact .mapOk (matches_test hx hn hq _) fun _ => rfl

theorem matches_negation (hx : AgreesBelow tokens expression read) (hn : n ≤ fuel) (k : Nat)
    (h : IsAt tokens p left) (hk : left.length ≤ k) (hlen : left.length ≤ n) :
    Matches Step.out tokens ((negation fuel expression k).run tokens p)
      (Sql.negation read left hlen) := by
  induction k generalizing left p with
  | zero => exact absurd hk (Nat.not_le_of_lt h.length_pos)
  | succ k ih =>
    unfold negation Sql.negation
    split
    · rw [run_if_taken h (by simp)]
      exact .bind (ih (h.next (by simp)) (Nat.le_of_succ_le_succ hk) _) fun e q hq => .ok hq rfl
    · rename_i hother
      rw [run_if_unseen h (h.current_ne_of_fits (·.length ≤ n) hlen hother)]
      exact agreesWith_comparison hx hn h hlen

theorem agreesWith_negation (hx : AgreesBelow tokens expression read) (hn : n ≤ fuel) :
    AgreesWith tokens (negation fuel expression fuel) (Sql.negation read) := fun _ _ h hlen =>
  matches_negation hx hn fuel h (Nat.le_trans hlen hn) hlen

theorem agreesWith_conjunction (hx : AgreesBelow tokens expression read) (hn : n ≤ fuel) :
    AgreesWith tokens (conjunction fuel expression) (Sql.conjunction read) :=
  agreesWith_chain (agreesWith_negation hx hn) rfl hn

theorem agreesWith_disjunction (hx : AgreesBelow tokens expression read) (hn : n ≤ fuel) :
    AgreesWith tokens (disjunction fuel expression) (Sql.disjunction read) :=
  agreesWith_chain (agreesWith_conjunction hx hn) rfl hn

end Grammar

/-! ### The whole grammar -/

/-- An expression is read as the one that the tokens from the position on are. -/
theorem agreesBelow_expression (tokens : List Token) (hn : n ≤ fuel) :
    AgreesBelow tokens (expression fuel) (expressionBelow n) := by
  induction n generalizing fuel with
  | zero => exact fun _ _ _ h => absurd h (Nat.not_lt_zero _)
  | succ n ih =>
    cases fuel with
    | zero => cases hn
    | succ fuel =>
      have hn' := Nat.le_of_succ_le_succ hn
      exact fun _ _ h hlen => agreesWith_disjunction (ih hn') hn' h (Nat.le_of_lt_succ hlen)

/-- Every reader that moves a position agrees with the reader of token lists that it is named
after. -/
structure ReadersAgree (fuel : Nat) (tokens : List Token) (x : Walk Expression)
    (read : Below Expression (tokens.length + 1)) : Prop where
  expect : ∀ wanted, wanted ≠ .eof →
    AgreesWith (n := tokens.length) tokens (Walk.expect wanted) fun ts _ => Sql.expect wanted ts
  expectIdentifier :
    AgreesWith (n := tokens.length) tokens Walk.expectIdentifier fun ts _ => Sql.expectIdentifier ts
  expectNumber :
    AgreesWith (n := tokens.length) tokens Walk.expectNumber fun ts _ => Sql.expectNumber ts
  select : AgreesWith tokens (Walk.select fuel x) (selectWith read)
  selectItem : AgreesWith tokens (Walk.selectItem x) (Below.level (Sql.selectItem read))
  selectItems :
    AgreesWith tokens (Walk.items fuel (Walk.selectItem x)) (Sql.items (Sql.selectItem read).level)
  tableName :
    AgreesWith (n := tokens.length) tokens (Walk.tableName fuel) fun ts _ => Sql.tableName ts
  expression : AgreesBelow tokens x read
  disjunction : AgreesWith tokens (Walk.disjunction fuel x) (Sql.disjunction read)
  conjunction : AgreesWith tokens (Walk.conjunction fuel x) (Sql.conjunction read)
  negation : AgreesWith tokens (Walk.negation fuel x fuel) (Sql.negation read)
  comparison : AgreesWith tokens (Walk.comparison fuel x) (Sql.comparison read)
  sum : AgreesWith tokens (Walk.sum fuel x) (Sql.sum read)
  product : AgreesWith tokens (Walk.product fuel x) (Sql.product read)
  signed : AgreesWith tokens (Walk.signed fuel x fuel) (Sql.signed read)
  primary : AgreesWith tokens (Walk.primary fuel x) (Sql.primary read)
  caseExpression :
    AgreesAfter tokens (.keyword .case) (Walk.caseExpression fuel x) (Sql.afterCase read)
  castExpression :
    AgreesAfter tokens (.keyword .cast) (Walk.castExpression fuel x) (Sql.afterCast read)
  typeName :
    AgreesWith (n := tokens.length) tokens (Walk.typeName fuel) fun ts _ => Sql.typeName ts
  expressionList : AgreesWith tokens (Walk.items fuel x) (Sql.items read.level)

theorem readersAgree (hfuel : tokens.length < fuel) :
    ReadersAgree fuel tokens (expression fuel) (expressionBelow (tokens.length + 1)) := by
  have hx := agreesBelow_expression tokens (n := tokens.length + 1) hfuel
  have hle := Nat.le_of_lt hfuel
  constructor
  case expect => exact fun wanted hw _ _ h _ => matches_expect h hw
  case expectIdentifier => exact fun _ _ h _ => matches_expectIdentifier h
  case expectNumber => exact fun _ _ h _ => matches_expectNumber h
  case select => exact fun _ _ h hlen => matches_select hx hfuel h hlen
  case selectItem => exact (agreesBelow_selectItem hx).level
  case selectItems => exact agreesWith_items (agreesBelow_selectItem hx).level hle
  case tableName => exact fun _ _ h hlen => matches_tableName h (Nat.le_trans hlen hle)
  case expression => exact hx
  case disjunction => exact agreesWith_disjunction hx hfuel
  case conjunction => exact agreesWith_conjunction hx hfuel
  case negation => exact agreesWith_negation hx hfuel
  case comparison => exact agreesWith_comparison hx hfuel
  case sum => exact agreesWith_sum hx hfuel
  case product => exact agreesWith_product hx hfuel
  case signed => exact agreesWith_signed hx hfuel
  case primary => exact agreesWith_primary hx hfuel
  case caseExpression => exact agreesAfter_caseExpression hx hfuel
  case castExpression => exact agreesAfter_castExpression hx hfuel
  case typeName => exact fun _ _ h hlen => matches_typeName h (Nat.le_trans hlen hle)
  case expressionList => exact agreesWith_items hx.level hle

end Walk

end TypedFilter.Sql
