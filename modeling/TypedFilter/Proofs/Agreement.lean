import TypedFilter.Proofs.Positions

/-!
When a reader that moves a position agrees with a reader of token lists, on tokens that end with the
end of the text. Main statements: agreement goes through binds, and the loops over chains, lists and
names agree with the recursions that read them from token lists.
-/

namespace TypedFilter.Sql

/-! ### Positions in a text -/

/-- The end of the text stands last, and nowhere else. -/
def EndsOnce (ts : List Token) : Prop :=
  ∃ body, ts = body ++ [.eof] ∧ .eof ∉ body

namespace EndsOnce

variable {t : Token} {ts : List Token}

theorem ne_nil (h : EndsOnce ts) : ts ≠ [] := by
  obtain ⟨body, rfl, -⟩ := h
  simp

theorem tail (h : EndsOnce (t :: ts)) (ht : t ≠ .eof) : EndsOnce ts := by
  obtain ⟨body, hbody, hmem⟩ := h
  cases body with
  | nil =>
    cases hbody
    exact absurd rfl ht
  | cons u body =>
    cases hbody
    exact ⟨body, rfl, fun hm => hmem (List.mem_cons_of_mem _ hm)⟩

theorem eq_nil (h : EndsOnce (.eof :: ts)) : ts = [] := by
  obtain ⟨body, hbody, hmem⟩ := h
  cases body with
  | nil =>
    cases hbody
    rfl
  | cons u body =>
    cases hbody
    exact absurd (List.mem_cons_self ..) hmem

theorem drop (h : EndsOnce ts) {p : Nat} (hp : p < ts.length) : EndsOnce (ts.drop p) := by
  obtain ⟨body, rfl, hmem⟩ := h
  have hp' : p ≤ body.length := by
    rw [List.length_append, List.length_singleton] at hp
    omega
  exact ⟨body.drop p, List.drop_append_of_le_length hp', fun hm => hmem (List.mem_of_mem_drop hm)⟩

end EndsOnce

/-- The tokens that are left at a position before or at the end of the text. -/
structure IsAt (tokens : List Token) (p : Nat) (left : List Token) : Prop where
  drop_eq : tokens.drop p = left
  ends : EndsOnce left

@[simp]
theorem current_cons (t : Token) (ts : List Token) : current (t :: ts) = t :=
  rfl

namespace IsAt

variable {tokens left rest : List Token} {t : Token} {p : Nat}

theorem of_lt (h : EndsOnce tokens) (hp : p < tokens.length) : IsAt tokens p (tokens.drop p) :=
  ⟨rfl, h.drop hp⟩

theorem length_eq (h : IsAt tokens p left) : left.length = tokens.length - p := by
  rw [← h.drop_eq, List.length_drop]

theorem length_le (h : IsAt tokens p left) : left.length ≤ tokens.length := by
  rw [h.length_eq]
  exact Nat.sub_le _ _

theorem length_pos (h : IsAt tokens p left) : 0 < left.length :=
  List.length_pos_iff.2 h.ends.ne_nil

theorem lt_length (h : IsAt tokens p left) : p < tokens.length := by
  have := h.length_eq
  have := h.length_pos
  omega

theorem exists_bound (h : IsAt tokens p left) {k : Nat} (hk : left.length ≤ k) :
    ∃ m, k = m + 1 :=
  Nat.exists_eq_add_one_of_ne_zero (Nat.ne_of_gt (Nat.lt_of_lt_of_le h.length_pos hk))

theorem exists_cons (h : IsAt tokens p left) : ∃ t rest, left = t :: rest :=
  List.exists_cons_of_ne_nil h.ends.ne_nil

theorem current_ne (h : IsAt tokens p left) (ht : ∀ rest, left = t :: rest → False) :
    current left ≠ t := by
  obtain ⟨u, rest, rfl⟩ := h.exists_cons
  rintro rfl
  exact ht rest rfl

/-- The same where the tokens also have to fit somewhere. -/
theorem current_ne_of_fits (h : IsAt tokens p left) (fits : List Token → Prop) (hleft : fits left)
    (ht : ∀ rest (hrest : fits (t :: rest)), left = t :: rest → hleft ≍ hrest → False) :
    current left ≠ t := by
  refine h.current_ne fun rest heq => ?_
  subst heq
  exact ht rest hleft rfl .rfl

theorem getElem?_eq (h : IsAt tokens p left) (k : Nat) : tokens[p + k]? = left[k]? := by
  rw [← h.drop_eq, List.getElem?_drop]

/-- Past a token that does not end the text. -/
theorem next (h : IsAt tokens p (t :: rest)) (ht : t ≠ .eof) : IsAt tokens (p + 1) rest := by
  refine ⟨?_, h.ends.tail ht⟩
  rw [← List.drop_drop, h.drop_eq, List.drop_one, List.tail_cons]

end IsAt

theorem ok_bind {α β : Type} (a : α) (f : α → Read β) : ((.ok a : Read α) >>= f) = f a :=
  rfl

namespace Walk

variable {α β γ δ σ : Type} {tokens left rest : List Token} {t : Token} {p q : Nat}

/-- Errors and missing results are passed on, so that the order in which binds are nested is
irrelevant. -/
instance : LawfulMonad Walk :=
  .mk' Walk
    (fun w => by
      ext1
      funext ts p
      show (match w.run ts p with | some (.ok a, q) => _ | some (.error e, q) => _ | none => _) = _
      rcases w.run ts p with _ | ⟨_ | a, q⟩ <;> rfl)
    (fun _ _ => rfl)
    (fun w f g => by
      ext1
      funext ts p
      simp only [bind]
      rcases w.run ts p with _ | ⟨_ | a, q⟩ <;> rfl)

theorem run_bind_ok {w : Walk α} {a : α} (h : w.run tokens p = some (.ok a, q))
    (f : α → Walk β) : (w >>= f).run tokens p = (f a).run tokens q := by
  show (match w.run tokens p with | some (.ok a, q) => _ | some (.error e, q) => _ | none => _) = _
  rw [h]

theorem run_bind_error {w : Walk α} {e : ReadError} (h : w.run tokens p = some (.error e, q))
    (f : α → Walk β) : (w >>= f).run tokens p = some (.error e, q) := by
  show (match w.run tokens p with | some (.ok a, q) => _ | some (.error e, q) => _ | none => _) = _
  rw [h]

theorem run_current (h : IsAt tokens p left) (f : Token → Walk α) :
    (current >>= f).run tokens p = (f (Sql.current left)).run tokens p := by
  show (f (tokens[p]?.getD .eof)).run tokens p = _
  rw [← Nat.add_zero p, h.getElem?_eq 0, ← List.head?_eq_getElem?]
  rfl

theorem run_next (h : IsAt tokens p (t :: rest)) (f : Token → Walk α) :
    (next >>= f).run tokens p = (f (Sql.current rest)).run tokens p := by
  show (f (tokens[p + 1]?.getD .eof)).run tokens p = _
  rw [h.getElem?_eq 1, List.getElem?_cons_succ, ← List.head?_eq_getElem?]
  rfl

theorem run_sees (h : IsAt tokens p left) (t : Token) (f : Bool → Walk α) :
    (sees t >>= f).run tokens p = (f (decide (Sql.current left = t))).run tokens p := by
  rw [sees, bind_assoc, run_current h]
  rfl

/-- The last token is the end of the text, so that the position moves past every other one. -/
theorem run_advance (h : IsAt tokens p (t :: rest)) (ht : t ≠ .eof) (f : Unit → Walk α) :
    (advance >>= f).run tokens p = (f ()).run tokens (p + 1) := by
  have hp := (h.next ht).lt_length
  show (f ()).run tokens (if p + 1 < tokens.length then p + 1 else p) = _
  rw [if_pos hp]

theorem run_if_current (h : IsAt tokens p left) (ht : Sql.current left = t) (x y : Walk α) :
    (do if ← sees t then x else y : Walk α).run tokens p = x.run tokens p := by
  rw [run_sees h, decide_eq_true ht]
  rfl

theorem run_if_seen (h : IsAt tokens p (t :: rest)) (x y : Walk α) :
    (do if ← sees t then x else y : Walk α).run tokens p = x.run tokens p :=
  run_if_current h rfl x y

theorem run_if_taken (h : IsAt tokens p (t :: rest)) (ht : t ≠ .eof) (f : Unit → Walk α)
    (y : Walk α) :
    (do if ← sees t then advance >>= f else y : Walk α).run tokens p = (f ()).run tokens (p + 1) :=
  (run_if_seen h _ _).trans (run_advance h ht f)

theorem run_if_unseen (h : IsAt tokens p left) (ht : Sql.current left ≠ t) (x y : Walk α) :
    (do if ← sees t then x else y : Walk α).run tokens p = y.run tokens p := by
  rw [run_sees h, decide_eq_false ht]
  rfl

theorem run_bind_congr {v w : Walk α} (h : w.run tokens p = v.run tokens q) (f : α → Walk β) :
    (w >>= f).run tokens p = (v >>= f).run tokens q := by
  show (match w.run tokens p with | some (.ok a, q) => _ | some (.error e, q) => _ | none => _) = _
  rw [h]
  rfl

section Loops

variable {pass : σ → Walk (Pass σ α)} {s : σ} {fuel : Nat} {x : Walk (Pass σ α)}

/-- A pass that starts with a token of its own goes on after the token. -/
theorem run_loop_seen {y : Walk (Pass σ α)} (h : IsAt tokens p (t :: rest)) (ht : t ≠ .eof)
    (hpass : pass s = do if ← sees t then (do advance; x) else y) :
    (loop pass (fuel + 1) s).run tokens p =
      (do match ← x with
          | .again s => loop pass fuel s
          | .done a => return a : Walk α).run tokens (p + 1) := by
  rw [loop, hpass]
  exact run_bind_congr (run_if_taken h ht _ _) _

theorem run_loop_unseen {a : α} (h : IsAt tokens p left) (ht : Sql.current left ≠ t)
    (hpass : pass s = do if ← sees t then x else return .done a) :
    (loop pass (fuel + 1) s).run tokens p = (pure a : Walk α).run tokens p := by
  rw [loop, hpass, run_bind_congr (run_if_unseen h ht _ _), pure_bind]

end Loops

end Walk

/-! ### Agreement -/

/-- What is read and what is left of the tokens. -/
def Step.out {α : Type} {ts : List Token} (s : Step α ts) : α × List Token :=
  (s.value, s.rest)

/-- What is read and what is left of the tokens. -/
def Tail.out {α : Type} {ts : List Token} (s : Tail α ts) : α × List Token :=
  (s.value, s.rest)

/-- A reader that moves a position comes to what the reader of a token list returns: to the same
value, at the position of what is left, or to the same error, at a position in the text. -/
def Matches {α γ : Type} (out : γ → α × List Token) (tokens : List Token)
    (o : Option (Read α × Nat)) : Read γ → Prop
  | .ok s => ∃ q, o = some (.ok (out s).1, q) ∧ IsAt tokens q (out s).2
  | .error e => ∃ q, o = some (.error e, q) ∧ q < tokens.length

namespace Matches

variable {α β γ δ : Type} {out : γ → α × List Token} {out' : δ → β × List Token}
  {tokens left : List Token} {p : Nat} {w : Walk α} {r : Read γ}

theorem ok {a : α} {s : γ} (h : IsAt tokens p (out s).2) (ha : (out s).1 = a) :
    Matches out tokens ((pure a : Walk α).run tokens p) (.ok s) := by
  subst ha
  exact ⟨p, rfl, h⟩

theorem fail (h : IsAt tokens p left) (e : ReadError) :
    Matches out tokens ((Walk.fail e).run tokens p) (.error e) :=
  ⟨p, rfl, h.lt_length⟩

theorem bind {f : α → Walk β} {g : γ → Read δ} (h : Matches out tokens (w.run tokens p) r)
    (hf : ∀ s q, IsAt tokens q (out s).2 → Matches out' tokens ((f (out s).1).run tokens q) (g s)) :
    Matches out' tokens ((w >>= f).run tokens p) (r >>= g) := by
  cases r with
  | error e =>
    obtain ⟨q, hq, hlt⟩ := h
    exact ⟨q, Walk.run_bind_error hq f, hlt⟩
  | ok s =>
    obtain ⟨q, hq, hat⟩ := h
    rw [Walk.run_bind_ok hq]
    exact hf s q hat

/-- The list reader goes on after something that it does not fail at. -/
theorem bindOk {f : α → Walk β} {s : γ} {r : Read δ}
    (h : Matches out tokens (w.run tokens p) (.ok s))
    (hf : ∀ q, IsAt tokens q (out s).2 → Matches out' tokens ((f (out s).1).run tokens q) r) :
    Matches out' tokens ((w >>= f).run tokens p) r := by
  obtain ⟨q, hq, hat⟩ := h
  rw [Walk.run_bind_ok hq]
  exact hf q hat

theorem bindRead {α β γ : Type} {out : γ → α × List Token} {tokens left : List Token} {p : Nat}
    {r : Read β} {f : β → Walk α} {g : β → Read γ} (h : IsAt tokens p left)
    (hf : ∀ b, Matches out tokens ((f b).run tokens p) (g b)) :
    Matches out tokens ((Walk.ofRead r >>= f).run tokens p) (r >>= g) := by
  cases r with
  | error e => exact ⟨p, rfl, h.lt_length⟩
  | ok b => exact hf b

/-- The list reader makes something else of what it has read. -/
theorem mapOk {out' : δ → α × List Token} {o : Option (Read α × Nat)} {g : γ → δ}
    (h : Matches out tokens o r) (hg : ∀ s, out' (g s) = out s) :
    Matches out' tokens o (r >>= fun s => .ok (g s)) := by
  cases r with
  | error e => exact h
  | ok s =>
    show ∃ q, o = some (.ok (out' (g s)).1, q) ∧ IsAt tokens q (out' (g s)).2
    rw [hg s]
    exact h

end Matches

namespace Walk

variable {α σ : Type} {tokens left rest : List Token} {t : Token} {p n fuel : Nat}

/-! ### Single tokens -/

theorem matches_expect (h : IsAt tokens p left) {wanted : Token} (hw : wanted ≠ .eof) :
    Matches Step.out tokens ((expect wanted).run tokens p) (Sql.expect wanted left) := by
  obtain ⟨t, rest, rfl⟩ := h.exists_cons
  rw [expect, Sql.expect]
  by_cases ht : t = wanted
  · subst ht
    rw [run_if_seen h, if_pos rfl, ← bind_pure advance, run_advance h hw]
    exact .ok (h.next hw) rfl
  · rw [run_if_unseen h ht, if_neg ht, run_current h]
    exact .fail h _

theorem matches_expectIdentifier (h : IsAt tokens p left) :
    Matches Step.out tokens (expectIdentifier.run tokens p) (Sql.expectIdentifier left) := by
  obtain ⟨t, rest, rfl⟩ := h.exists_cons
  rw [expectIdentifier, run_current h, current_cons]
  cases t with
  | identifier name =>
    dsimp only
    rw [run_advance h (by simp)]
    exact .ok (h.next (by simp)) rfl
  | _ => exact .fail h _

theorem matches_expectNumber (h : IsAt tokens p left) :
    Matches Step.out tokens (expectNumber.run tokens p) (Sql.expectNumber left) := by
  obtain ⟨t, rest, rfl⟩ := h.exists_cons
  rw [expectNumber, run_current h, current_cons]
  cases t with
  | number digits =>
    dsimp only
    rw [run_advance h (by simp)]
    exact .ok (h.next (by simp)) rfl
  | _ => exact .fail h _

theorem after?_seen {w : Walk α} {r : Read (Step α rest)} (h : IsAt tokens p (t :: rest))
    (ht : t ≠ .eof)
    (hw : IsAt tokens (p + 1) rest → Matches Step.out tokens (w.run tokens (p + 1)) r) :
    Matches Tail.out tokens ((after? t w).run tokens p)
      (r >>= fun e => .ok ((e.map some).cons t).toTail) := by
  rw [after?, run_if_taken h ht]
  exact .bind (hw (h.next ht)) fun e q hq => .ok hq rfl

theorem after?_unseen (h : IsAt tokens p left) (w : Walk α) (ht : Sql.current left ≠ t) :
    Matches Tail.out tokens ((after? t w).run tokens p) (.ok (.stay none left)) := by
  rw [after?, run_if_unseen h ht]
  exact .ok h rfl

theorem accept_seen (h : IsAt tokens p (t :: rest)) (ht : t ≠ .eof) :
    Matches Tail.out tokens ((accept t).run tokens p)
      (.ok (⟨true, rest, Nat.le_succ _⟩ : Tail Bool (t :: rest))) := by
  rw [accept, run_if_taken h ht]
  exact .ok (h.next ht) rfl

theorem accept_unseen (h : IsAt tokens p left) (ht : Sql.current left ≠ t) :
    Matches Tail.out tokens ((accept t).run tokens p) (.ok (.stay false left)) := by
  rw [accept, run_if_unseen h ht]
  exact .ok h rfl

/-! ### Loops -/

/-- The reader agrees with one of token lists that are no longer than `n`. -/
def AgreesWith (tokens : List Token) (w : Walk α) (read : Level α n) : Prop :=
  ∀ ⦃p left⦄, IsAt tokens p left → ∀ h : left.length ≤ n,
    Matches Step.out tokens (w.run tokens p) (read left h)

/-- The reader agrees with one of token lists that are shorter than `n`. -/
def AgreesBelow (tokens : List Token) (w : Walk α) (read : Below α n) : Prop :=
  ∀ ⦃p left⦄, IsAt tokens p left → ∀ h : left.length < n,
    Matches Step.out tokens (w.run tokens p) (read left h)

/-- The reader agrees with one that goes on after its first token, from token lists that are shorter
than `n`. -/
def AgreesAfter (tokens : List Token) (t : Token) (w : Walk α) (read : Below α n) : Prop :=
  ∀ ⦃p rest⦄, IsAt tokens p (t :: rest) → ∀ h : rest.length < n,
    Matches Step.out tokens (w.run tokens p) (read rest h)

theorem AgreesBelow.level {w : Walk α} {read : Below α (n + 1)} (h : AgreesBelow tokens w read) :
    AgreesWith tokens w read.level :=
  fun _ _ hat hlen => h hat (Nat.lt_succ_of_le hlen)

section Chains

variable {operand : Walk Expression} {read : Level Expression n}
  {operator? : Token → Option BinaryOp}

theorem matches_linkLoop (hoperand : AgreesWith tokens operand read)
    (heof : operator? .eof = none) {k : Nat} (x : Expression) (h : IsAt tokens p left)
    (hfuel : left.length ≤ fuel) (hk : left.length ≤ k) (hn : k ≤ n) :
    Matches Tail.out tokens ((loop (linkPass operand operator?) fuel x).run tokens p)
      (chainRest read operator? k x left hk hn) := by
  induction fuel generalizing k x left p with
  | zero => exact absurd hfuel (Nat.not_le_of_lt h.length_pos)
  | succ fuel ih =>
    obtain ⟨t, rest, rfl⟩ := h.exists_cons
    obtain ⟨k, rfl⟩ := h.exists_bound hk
    rw [loop, linkPass, bind_assoc, run_current h, current_cons, chainRest]
    cases hop : operator? t with
    | none => exact .ok h rfl
    | some op =>
      have ht : t ≠ .eof := by
        rintro rfl
        rw [heof] at hop
        cases hop
      simp only [bind_assoc, pure_bind]
      rw [run_advance h ht]
      refine .bind (hoperand (h.next ht) _) fun right q hq => ?_
      refine .mapOk (ih _ hq ?_ _ _) fun _ => rfl
      exact right.fits (Nat.le_of_succ_le_succ hfuel)

theorem agreesWith_chain (hoperand : AgreesWith tokens operand read)
    (heof : operator? .eof = none) (hn : n ≤ fuel) :
    AgreesWith tokens (chain fuel operand operator?) (Sql.chain read operator?) := by
  intro p left h hlen
  rw [chain, Sql.chain]
  refine .bind (hoperand h hlen) fun first q hq => ?_
  exact .mapOk (matches_linkLoop hoperand heof _ hq (first.fits (Nat.le_trans hlen hn)) _ _)
    fun _ => rfl

end Chains

section Lists

variable {item : Walk α} {read : Level α n}

/-- Reads one or more items, with a bound for the repetitions. -/
def itemsWithin (read : Level α n) (k : Nat) (ts : List Token) (hk : ts.length ≤ k) (hn : k ≤ n) :
    Read (Step (List α) ts) := do
  let first ← read ts (Nat.le_trans hk hn)
  let tail ← itemsRest read k first.rest (first.fits hk) hn
  .ok ((first.andTail tail).map (first.value :: ·))

theorem itemsRest_comma {k : Nat} (hk : (Token.sign .comma :: rest).length ≤ k + 1)
    (hn : k + 1 ≤ n) :
    itemsRest read (k + 1) (.sign .comma :: rest) hk hn =
      itemsWithin read k rest (Nat.le_of_succ_le_succ hk) (Nat.le_of_succ_le hn) >>= fun s =>
        .ok (s.cons (.sign .comma)).toTail := by
  rw [itemsRest, if_pos rfl, itemsWithin, bind_assoc]
  simp only [bind_assoc]
  rfl

theorem itemsRest_other {k : Nat} (hk : (t :: rest).length ≤ k) (hn : k ≤ n)
    (ht : t ≠ .sign .comma) :
    itemsRest read k (t :: rest) hk hn = .ok (.stay [] (t :: rest)) := by
  cases k with
  | zero => cases hk
  | succ k => rw [itemsRest, if_neg ht]

theorem matches_itemLoop (hitem : AgreesWith tokens item read) {k : Nat} (before : List α)
    (h : IsAt tokens p left) (hfuel : left.length ≤ fuel) (hk : left.length ≤ k) (hn : k ≤ n) :
    Matches (fun s : Step (List α) left => (before ++ s.value, s.rest)) tokens
      ((loop (itemPass item) fuel before).run tokens p) (itemsWithin read k left hk hn) := by
  induction fuel generalizing k before left p with
  | zero => exact absurd hfuel (Nat.not_le_of_lt h.length_pos)
  | succ fuel ih =>
    rw [loop, itemPass, bind_assoc, itemsWithin]
    refine .bind (hitem h _) fun first q hq => ?_
    obtain ⟨a, after, hshorter⟩ := first
    obtain ⟨t, rest, rfl⟩ := hq.exists_cons
    have hlen : rest.length < fuel := by
      rw [List.length_cons] at hshorter
      omega
    obtain ⟨k, rfl⟩ := h.exists_bound hk
    by_cases ht : t = .sign .comma
    · subst ht
      rw [run_bind_congr (run_if_taken hq (by simp) _ _), pure_bind, itemsRest_comma, bind_assoc]
      have hrest := ih (k := k) (before ++ [a]) (hq.next (by simp)) (Nat.le_of_lt hlen)
        (by simp only [List.length_cons] at hshorter; omega) (Nat.le_of_succ_le hn)
      refine .mapOk hrest fun s => ?_
      rw [List.append_assoc]
      rfl
    · rw [run_bind_congr (run_if_unseen hq ht _ _), pure_bind, itemsRest_other _ _ ht]
      exact .ok hq rfl

theorem agreesWith_items (hitem : AgreesWith tokens item read) (hn : n ≤ fuel) :
    AgreesWith tokens (items fuel item) (Sql.items read) := fun _ _ h hlen =>
  matches_itemLoop hitem [] h (Nat.le_trans hlen hn) hlen (Nat.le_refl n)

end Lists

/-! ### Names -/

theorem matches_wordLoop (before : List String) (h : IsAt tokens p left)
    (hfuel : left.length ≤ fuel) :
    Matches (fun s : Tail (List String) left => (before ++ s.value, s.rest)) tokens
      ((loop wordPass fuel before).run tokens p) (.ok (identifiers left)) := by
  induction fuel generalizing before left p with
  | zero => exact absurd hfuel (Nat.not_le_of_lt h.length_pos)
  | succ fuel ih =>
    obtain ⟨t, rest, rfl⟩ := h.exists_cons
    rw [loop, wordPass, bind_assoc, run_current h, current_cons]
    cases t with
    | identifier word =>
      simp only [bind_assoc, pure_bind]
      rw [run_advance h (by simp)]
      have hrest := ih (before ++ [word]) (h.next (by simp)) (Nat.le_of_succ_le_succ hfuel)
      show Matches _ tokens _ ((.ok (identifiers rest) : Read _) >>= fun words =>
        .ok ((words.map (word :: ·)).cons (.identifier word)).toTail)
      refine .mapOk hrest fun s => ?_
      rw [List.append_assoc]
      rfl
    | _ => exact .ok h (List.append_nil before)

theorem matches_numberLoop {k : Nat} (before : List String) (h : IsAt tokens p left)
    (hfuel : left.length ≤ fuel) (hk : left.length ≤ k) (hn : k ≤ n) :
    Matches (fun s : Tail (List String) left => (before ++ s.value, s.rest)) tokens
      ((loop numberPass fuel before).run tokens p)
      (itemsRest (n := n) (fun ts _ => Sql.expectNumber ts) k left hk hn) := by
  induction fuel generalizing k before left p with
  | zero => exact absurd hfuel (Nat.not_le_of_lt h.length_pos)
  | succ fuel ih =>
    obtain ⟨t, rest, rfl⟩ := h.exists_cons
    obtain ⟨k, rfl⟩ := h.exists_bound hk
    by_cases ht : t = .sign .comma
    · subst ht
      rw [run_loop_seen h (by simp) rfl, itemsRest, if_pos rfl]
      simp only [bind_assoc, pure_bind]
      refine .bind (matches_expectNumber (h.next (by simp))) fun number q hq => ?_
      refine .mapOk (ih _ hq (number.fits (Nat.le_of_succ_le_succ hfuel)) _ _) fun s => ?_
      rw [List.append_assoc]
      rfl
    · rw [run_loop_unseen h ht rfl, itemsRest_other _ _ ht]
      exact .ok h (List.append_nil before)

theorem matches_partLoop {k : Nat} (name : String) (h : IsAt tokens p left)
    (hfuel : left.length ≤ fuel) (hk : left.length ≤ k) :
    Matches Tail.out tokens ((loop partPass fuel name).run tokens p)
      (dottedName k name left hk) := by
  induction fuel generalizing k name left p with
  | zero => exact absurd hfuel (Nat.not_le_of_lt h.length_pos)
  | succ fuel ih =>
    obtain ⟨t, rest, rfl⟩ := h.exists_cons
    obtain ⟨k, rfl⟩ := h.exists_bound hk
    by_cases ht : t = .sign .dot
    · subst ht
      rw [run_loop_seen h (by simp) rfl, dottedName]
      simp only [bind_assoc, pure_bind]
      refine .bind (matches_expectIdentifier (h.next (by simp))) fun part q hq => ?_
      exact .mapOk (ih _ hq (part.fits (Nat.le_of_succ_le_succ hfuel)) _) fun _ => rfl
    · rw [run_loop_unseen h ht rfl, dottedName]
      · exact .ok h rfl
      · intro _ _ _ _ heq _
        exact ht (List.cons.inj heq).1

theorem matches_tableName (h : IsAt tokens p left) (hfuel : left.length ≤ fuel) :
    Matches Step.out tokens ((tableName fuel).run tokens p) (Sql.tableName left) := by
  rw [tableName, Sql.tableName]
  refine .bind (matches_expectIdentifier h) fun first q hq => ?_
  exact .mapOk (matches_partLoop _ hq (first.fits hfuel) _) fun _ => rfl

theorem matches_typeArguments (h : IsAt tokens p left) (hfuel : left.length ≤ fuel) :
    Matches Tail.out tokens ((typeArguments fuel).run tokens p) (Sql.typeArguments left) := by
  unfold typeArguments Sql.typeArguments
  split
  · rename_i rest
    have hnext := h.next (by simp)
    rw [run_if_taken h (by simp), Sql.items]
    simp only [bind_assoc, ok_bind]
    refine .bind (matches_expectNumber hnext) fun first q hq => ?_
    refine .bind (matches_numberLoop _ hq (first.fits (Nat.le_of_succ_le hfuel)) _ _)
      fun numbers q hq => ?_
    exact .bind (matches_expect hq (by simp)) fun close q hq => .ok hq rfl
  · rename_i hother
    rw [run_if_unseen h (h.current_ne hother)]
    exact .ok h rfl

theorem matches_typeName (h : IsAt tokens p left) (hfuel : left.length ≤ fuel) :
    Matches Step.out tokens ((typeName fuel).run tokens p) (Sql.typeName left) := by
  rw [typeName, Sql.typeName]
  refine .bind (matches_expectIdentifier h) fun first q hq => ?_
  have hlen := first.fits hfuel
  refine .bindOk (matches_wordLoop [first.value] hq hlen) fun q hq => ?_
  refine .bind (matches_typeArguments hq ?_) fun arguments q hq => .ok hq rfl
  exact Nat.le_trans (identifiers first.rest).noLonger hlen

end Walk

end TypedFilter.Sql
