import Mathlib.Data.List.Forall2
import TypedFilter.Sql.Grammar

/-!
How the levels of the grammar read tokens. `Reads p ts x` says that the reader of level `p` takes
the tokens `ts` as the expression `x` wherever nothing follows that would go on with it. Main
statements: what a level reads, each looser level reads as the same expression; and each form of
expression is read at its level from parts that are read at theirs.
-/

namespace TypedFilter.Sql

variable {α : Type} {n p : Nat} {ts us rest : List Token} {t : Token} {x y : Expression}

/-! ### What readers return -/

/-- The reader succeeds with a value and leaves the rest of the tokens. -/
def Takes (r : Read (Step α ts)) (a : α) (rest : List Token) : Prop :=
  ∃ h, r = .ok ⟨a, rest, h⟩

/-- The reader, which may take no token, succeeds with a value and leaves the rest. -/
def Leaves (r : Read (Tail α ts)) (a : α) (rest : List Token) : Prop :=
  ∃ h, r = .ok ⟨a, rest, h⟩

theorem leaves_stay (a : α) (ts : List Token) : Leaves (.ok (.stay a ts)) a ts :=
  ⟨_, rfl⟩

theorem takes_expect (wanted : Token) (rest : List Token) :
    Takes (expect wanted (wanted :: rest)) () rest := by
  refine ⟨length_lt_cons _ _, ?_⟩
  rw [expect, if_pos rfl]

/-! ### Levels -/

/-- The level at which a token goes on with the expression before it; 0 if it does at none. -/
def binds : Token → Nat
  | .keyword .or => 1
  | .keyword .and => 2
  | .keyword .is | .keyword .not | .keyword .in | .keyword .between | .keyword .like
  | .keyword .escape => 4
  | .sign .equal | .sign .notEqual | .sign .less | .sign .lessEqual | .sign .greater
  | .sign .greaterEqual => 4
  | .sign .plus | .sign .minus | .sign .concat => 5
  | .sign .star | .sign .slash | .sign .percent => 6
  | .sign .leftParen | .sign .dot => 7
  | _ => 0

/-- The operators that chains of a level are made with. -/
def chainOp? : Nat → Token → Option BinaryOp
  | 1, t => if t = .keyword .or then some .or else none
  | 2, t => if t = .keyword .and then some .and else none
  | 5, t => sumOp? t
  | 6, t => productOp? t
  | _, _ => none

/-- The levels whose expressions are chains. -/
def isChained (p : Nat) : Bool :=
  p == 1 || p == 2 || p == 5 || p == 6

/-- The reader of a level: from 1 for the loosest to 7 for signs and what stands by itself. -/
def levelReader (n : Nat) : Nat → Level Expression n
  | 0 | 1 => disjunction (expressionBelow n)
  | 2 => conjunction (expressionBelow n)
  | 3 => negation (expressionBelow n)
  | 4 => comparison (expressionBelow n)
  | 5 => sum (expressionBelow n)
  | 6 => product (expressionBelow n)
  | _ => signed (expressionBelow n)

theorem levelReader_of_isChained (h : isChained p = true) (n : Nat) :
    levelReader n p = chain (levelReader n (p + 1)) (chainOp? p) := by
  simp only [isChained, Bool.or_eq_true, beq_iff_eq] at h
  rcases h with ((rfl | rfl) | rfl) | rfl <;> rfl

theorem chainOp?_of_binds_lt (h : binds t < p) : chainOp? p t = none := by
  unfold chainOp?
  split
  all_goals unfold binds at h
  · split at h <;> simp_all
  · split at h <;> simp_all
  · split at h <;> simp_all [sumOp?]
  · split at h <;> simp_all [productOp?]
  · rfl

theorem binds_of_chainOp? {op : BinaryOp} (h : chainOp? p t = some op) : binds t = p := by
  unfold chainOp? at h
  split at h
  · split at h <;> simp_all [binds]
  · split at h <;> simp_all [binds]
  · unfold sumOp? at h
    split at h <;> simp_all [binds]
  · unfold productOp? at h
    split at h <;> simp_all [binds]
  · cases h

/-! ### Chains -/

theorem chainRest_stop {operand : Level Expression n} {operator? : Token → Option BinaryOp}
    {k : Nat}
    (left : Expression) (hk : ts.length ≤ k) (hn : k ≤ n) (h : operator? (current ts) = none) :
    Leaves (chainRest operand operator? k left ts hk hn) left ts := by
  cases ts with
  | nil =>
    rw [chainRest]
    exact leaves_stay left []
  | cons t rest =>
    cases k with
    | zero => exact absurd hk (by simp)
    | succ k =>
      have ht : operator? t = none := h
      rw [chainRest]
      simp only [ht]
      exact leaves_stay left _

theorem chainRest_cons {operand : Level Expression n} {operator? : Token → Option BinaryOp}
    {k : Nat}
    {left right z : Expression} {L rest' : List Token} {op : BinaryOp} (hk : (t :: L).length ≤ k)
    (hn : k ≤ n) (hop : operator? t = some op)
    (hright : ∀ h, Takes (operand L h) right rest)
    (hrest : ∀ k hk hn, Leaves (chainRest operand operator? k (.binary op left right) rest hk hn)
      z rest') :
    Leaves (chainRest operand operator? k left (t :: L) hk hn) z rest' := by
  cases k with
  | zero => exact absurd hk (by simp)
  | succ k =>
    have hL : L.length ≤ k := Nat.le_of_succ_le_succ hk
    obtain ⟨h₁, he₁⟩ := hright (Nat.le_trans hL (Nat.le_of_succ_le hn))
    obtain ⟨h₂, he₂⟩ := hrest k (Nat.le_trans (Nat.le_of_lt h₁) hL) (Nat.le_of_succ_le hn)
    refine ⟨Nat.le_trans h₂ (Nat.le_of_lt (Nat.lt_succ_of_lt h₁)), ?_⟩
    rw [chainRest]
    simp only [hop, he₁, he₂, bind, Except.bind]
    rfl

/-- The expression that a chain of a level goes on to, from a part of it that has been read. -/
def GoesOn (n p : Nat) (x : Expression) (rest : List Token) (z : Expression)
    (rest' : List Token) : Prop :=
  ∀ k hk hn, Leaves (chainRest (levelReader n (p + 1)) (chainOp? p) k x rest hk hn) z rest'

theorem goesOn_stop (n : Nat) (x : Expression) (h : binds (current rest) < p) :
    GoesOn n p x rest x rest :=
  fun _ hk hn => chainRest_stop x hk hn (chainOp?_of_binds_lt h)

theorem takes_chain (hp : isChained p = true) {L : List Token} (h : L.length ≤ n) {z : Expression}
    {rest' : List Token} (hfirst : Takes (levelReader n (p + 1) L h) x rest)
    (hrest : GoesOn n p x rest z rest') : Takes (levelReader n p L h) z rest' := by
  obtain ⟨h₁, he₁⟩ := hfirst
  obtain ⟨h₂, he₂⟩ := hrest n (Nat.le_trans (Nat.le_of_lt h₁) h) (Nat.le_refl n)
  refine ⟨Nat.lt_of_le_of_lt h₂ h₁, ?_⟩
  rw [levelReader_of_isChained hp]
  rw [chain]
  simp only [he₁, he₂, bind, Except.bind]
  rfl

/-! ### Reading at a level -/

/-- Whether the tokens can stand at the start of an expression of a level: they start neither a
statement nor end a row and, in a comparison or below, do not start with NOT. -/
def Opens (p : Nat) (ts : List Token) : Prop :=
  ∃ t us, ts = t :: us ∧ t ≠ .keyword .select ∧ t ≠ .sign .rightParen ∧
    (4 ≤ p → t ≠ .keyword .not)

theorem Opens.append (h : Opens p ts) (us : List Token) : Opens p (ts ++ us) := by
  obtain ⟨t, rest, rfl, ht⟩ := h
  exact ⟨t, rest ++ us, rfl, ht⟩

theorem Opens.loosen (h : Opens (p + 1) ts) : Opens p ts := by
  obtain ⟨t, us, hts, hselect, hclose, hnot⟩ := h
  exact ⟨t, us, hts, hselect, hclose, fun hp => hnot (Nat.le_succ_of_le hp)⟩

/-- The tokens are read as the expression by a level. They may stand at the start of any others
that do not go on with the expression; a chain of the level may also go on with it. -/
structure Reads (p : Nat) (ts : List Token) (x : Expression) : Prop where
  opens : Opens p ts
  takes : ∀ {n rest L} (_ : L = ts ++ rest) (h : L.length ≤ n), binds (current rest) < p →
    Takes (levelReader n p L h) x rest
  chains : isChained p = true → ∀ {n rest L z rest'} (_ : L = ts ++ rest) (h : L.length ≤ n),
    binds (current rest) ≤ p → GoesOn n p x rest z rest' → Takes (levelReader n p L h) z rest'

namespace Reads

/-- A level that makes no chains reads no further than what it reads. -/
theorem ofTakes (ho : Opens p ts) (hp : isChained p = false)
    (h : ∀ {n rest L} (_ : L = ts ++ rest) (h : L.length ≤ n), binds (current rest) < p →
      Takes (levelReader n p L h) x rest) : Reads p ts x :=
  ⟨ho, h, fun hc => absurd (hp.symm.trans hc) Bool.false_ne_true⟩

/-- A chain is read once it is known how it goes on. -/
theorem ofChains (ho : Opens p ts)
    (h : ∀ {n rest L z rest'} (_ : L = ts ++ rest) (h : L.length ≤ n), binds (current rest) ≤ p →
      GoesOn n p x rest z rest' → Takes (levelReader n p L h) z rest') : Reads p ts x :=
  ⟨ho, fun hL hn hrest => h hL hn (Nat.le_of_lt hrest) (goesOn_stop _ x hrest), fun _ => h⟩

/-- The first link of a chain. -/
theorem link (hp : isChained p = true) (h : Reads (p + 1) ts x) : Reads p ts x :=
  .ofChains h.opens.loosen fun hL hn hrest hz =>
    takes_chain hp hn (h.takes hL hn (Nat.lt_succ_of_le hrest)) hz

/-- One more link of a chain. -/
theorem binary {op : BinaryOp} (hp : isChained p = true) (hop : chainOp? p t = some op)
    (hx : Reads p ts x) (hy : Reads (p + 1) us y) : Reads p (ts ++ t :: us) (.binary op x y) := by
  refine .ofChains (hx.opens.append _) fun {n rest L z rest'} hL hn hrest hz => ?_
  have hL' : L = ts ++ t :: (us ++ rest) := by rw [hL, List.append_assoc]; rfl
  refine hx.chains hp hL' hn (Nat.le_of_eq (binds_of_chainOp? hop)) ?_
  intro k hk hkn
  refine chainRest_cons hk hkn hop (fun h => ?_) hz
  exact hy.takes rfl h (Nat.lt_succ_of_le hrest)

/-- Any number of links with one operator between them. -/
theorem foldl {op : BinaryOp} (hp : isChained p = true) (hop : chainOp? p t = some op)
    (hx : Reads p ts x) {tss : List (List Token)} {xs : List Expression}
    (h : List.Forall₂ (Reads (p + 1)) tss xs) :
    Reads p (ts ++ tss.flatMap (t :: ·)) (xs.foldl (.binary op) x) := by
  induction h generalizing ts x with
  | nil => rwa [List.flatMap_nil, List.append_nil]
  | cons hhead _ ih =>
    have hnext := ih (hx.binary hp hop hhead)
    rwa [List.append_assoc] at hnext

end Reads

/-! ### Looser levels -/

theorem comparisonOp?_of_binds_lt (h : binds t < 4) : comparisonOp? t = none := by
  unfold comparisonOp?
  split
  all_goals first | rfl | exact absurd h (by decide)

/-- Nothing is tested where no test follows. -/
theorem leaves_test (left : Expression) (h : ts.length ≤ n) (hts : binds (current ts) < 4) :
    Leaves (test (expressionBelow n) left ts h) left ts := by
  unfold test
  split
  case h_9 => exact leaves_stay left []
  case h_10 =>
    have hop := comparisonOp?_of_binds_lt hts
    simp only [current, List.head?_cons, Option.getD_some] at hop
    simp only [hop]
    exact leaves_stay left _
  all_goals simp [current, binds] at hts

/-- A sum and what it is tested for. -/
theorem takes_comparison {L rest' : List Token} (h : L.length ≤ n)
    (hleft : Takes (levelReader n 5 L h) x rest)
    (htest : ∀ h, Leaves (test (expressionBelow n) x rest h) y rest') :
    Takes (levelReader n 4 L h) y rest' := by
  obtain ⟨h₁, he₁⟩ := hleft
  obtain ⟨h₂, he₂⟩ := htest (Nat.le_trans (Nat.le_of_lt h₁) h)
  refine ⟨Nat.lt_of_le_of_lt h₂ h₁, ?_⟩
  show comparison (expressionBelow n) L h = _
  have he₁' : sum (expressionBelow n) L h = _ := he₁
  rw [comparison]
  simp only [he₁', he₂, bind, Except.bind]
  rfl

theorem negation_of_ne {L : List Token} (h : (t :: L).length ≤ n) (ht : t ≠ .keyword .not) :
    negation (expressionBelow n) (t :: L) h = comparison (expressionBelow n) (t :: L) h := by
  refine negation.eq_2 _ _ h ?_
  intro _ _ heq
  exact absurd (List.cons.inj heq).1 ht

namespace Reads

theorem loosen_comparison (h : Reads 5 ts x) : Reads 4 ts x := by
  refine .ofTakes h.opens.loosen rfl fun hL hn hrest => ?_
  have hleft := h.takes hL hn (Nat.lt_succ_of_lt hrest)
  exact takes_comparison hn hleft fun h => leaves_test x h hrest

theorem loosen_negation (h : Reads 4 ts x) : Reads 3 ts x := by
  obtain ⟨t, us, rfl, hselect, hclose, hnot⟩ := h.opens
  refine .ofTakes ⟨t, us, rfl, hselect, hclose, fun hp => absurd hp (by decide)⟩ rfl
    fun {n rest L} hL hn hrest => ?_
  subst hL
  have hneg := negation_of_ne (L := us ++ rest) hn (hnot (by decide))
  show Takes (negation (expressionBelow n) (t :: (us ++ rest)) hn) x rest
  rw [hneg]
  exact h.takes rfl hn (Nat.lt_succ_of_lt hrest)

/-- What a level reads, the next looser one reads too. -/
theorem loosen (hp : 1 ≤ p) (hp' : p ≤ 6) (h : Reads (p + 1) ts x) : Reads p ts x := by
  rcases Nat.eq_or_lt_of_le hp with rfl | hp
  · exact h.link rfl
  rcases Nat.lt_or_ge p 5 with hlt | hge
  · obtain rfl | rfl | rfl : p = 2 ∨ p = 3 ∨ p = 4 := by omega
    · exact h.link rfl
    · exact h.loosen_negation
    · exact h.loosen_comparison
  · obtain rfl | rfl : p = 5 ∨ p = 6 := by omega
    · exact h.link rfl
    · exact h.link rfl

/-- What a level reads, every looser one reads too. -/
theorem mono {q : Nat} (hq : 1 ≤ q) (hqp : q ≤ p) (hp : p ≤ 7) (h : Reads p ts x) :
    Reads q ts x := by
  induction p with
  | zero => omega
  | succ p ih =>
    rcases Nat.eq_or_lt_of_le hqp with rfl | hlt
    · exact h
    · exact ih (by omega) (by omega) (h.loosen (by omega) (by omega))

end Reads

/-! ### What stands by itself -/

theorem signed_of_ne {L : List Token} (h : (t :: L).length ≤ n) (hp : t ≠ .sign .plus)
    (hm : t ≠ .sign .minus) :
    signed (expressionBelow n) (t :: L) h = primary (expressionBelow n) (t :: L) h := by
  refine signed.eq_3 _ _ h ?_ ?_
  · intro _ _ heq
    exact absurd (List.cons.inj heq).1 hp
  · intro _ _ heq
    exact absurd (List.cons.inj heq).1 hm

/-- Tokens that the reader of what stands by itself takes. -/
theorem Reads.ofPrimary (hs : t ≠ .keyword .select) (hc : t ≠ .sign .rightParen)
    (hn : t ≠ .keyword .not) (hp : t ≠ .sign .plus) (hm : t ≠ .sign .minus)
    (h : ∀ {n rest L} (_ : L = us ++ rest) (h : (t :: L).length ≤ n), binds (current rest) < 7 →
      Takes (primary (expressionBelow n) (t :: L) h) x rest) :
    Reads 7 (t :: us) x := by
  refine .ofTakes ⟨t, us, rfl, hs, hc, fun _ => hn⟩ rfl fun {n rest L} hL hlen hrest => ?_
  subst hL
  have hsigned := signed_of_ne (L := us ++ rest) hlen hp hm
  show Takes (signed (expressionBelow n) (t :: (us ++ rest)) hlen) x rest
  rw [hsigned]
  exact h rfl hlen hrest

theorem reads_number {digits : String} {v : Value} (h : numberValue digits = .ok v) :
    Reads 7 [.number digits] (.literal v) := by
  refine .ofPrimary (by simp) (by simp) (by simp) (by simp) (by simp) ?_
  rintro n rest _ rfl _ _
  refine ⟨length_lt_cons _ _, ?_⟩
  rw [primary]
  simp only [h, bind, Except.bind]

theorem reads_moment {kind : MomentKind} {text : String} {v : Value}
    (h : momentValue kind text = .ok v) : Reads 7 [.moment kind text] (.literal v) := by
  refine .ofPrimary (by simp) (by simp) (by simp) (by simp) (by simp) ?_
  rintro n rest _ rfl _ _
  refine ⟨length_lt_cons _ _, ?_⟩
  rw [primary]
  simp only [h, bind, Except.bind]

theorem reads_string (s : String) : Reads 7 [.string s] (.literal (.string s)) :=
  .ofPrimary (by simp) (by simp) (by simp) (by simp) (by simp) <| by
    rintro n rest _ rfl _ _
    exact ⟨length_lt_cons _ _, rfl⟩

theorem reads_true : Reads 7 [.keyword .true] (.literal (.boolean true)) :=
  .ofPrimary (by simp) (by simp) (by simp) (by simp) (by simp) <| by
    rintro n rest _ rfl _ _
    exact ⟨length_lt_cons _ _, rfl⟩

theorem reads_false : Reads 7 [.keyword .false] (.literal (.boolean false)) :=
  .ofPrimary (by simp) (by simp) (by simp) (by simp) (by simp) <| by
    rintro n rest _ rfl _ _
    exact ⟨length_lt_cons _ _, rfl⟩

theorem reads_null : Reads 7 [.keyword .null] .null :=
  .ofPrimary (by simp) (by simp) (by simp) (by simp) (by simp) <| by
    rintro n rest _ rfl _ _
    exact ⟨length_lt_cons _ _, rfl⟩

/-- A name that neither a point nor a bracket follows is a column. -/
theorem leaves_afterName (name : String) (h : ts.length < n) (hts : binds (current ts) < 7) :
    Leaves (afterName (expressionBelow n) name ts h) (.column name) ts := by
  unfold afterName
  split
  case h_4 => exact leaves_stay _ _
  all_goals simp [current, binds] at hts

theorem reads_column (name : String) : Reads 7 [.identifier name] (.column name) := by
  refine .ofPrimary (by simp) (by simp) (by simp) (by simp) (by simp) ?_
  rintro n _ rest rfl hn hrest
  have hlen : rest.length < n := hn
  obtain ⟨h, he⟩ := leaves_afterName name hlen hrest
  refine ⟨Nat.lt_succ_of_le h, ?_⟩
  show primary _ (.identifier name :: rest) hn = _
  rw [primary]
  simp only [he, bind, Except.bind]
  rfl

/-- A minus sign before what is read with its sign. -/
theorem Reads.minus (h : Reads 7 ts x) : Reads 7 (.sign .minus :: ts) (.unary .minus x) := by
  refine .ofTakes ⟨_, ts, rfl, by simp, by simp, by simp⟩ rfl fun {n rest L} hL hn hrest => ?_
  subst hL
  obtain ⟨h₁, he₁⟩ := h.takes rfl (Nat.le_of_succ_le hn) hrest
  refine ⟨Nat.lt_succ_of_lt h₁, ?_⟩
  have he₁' : signed (expressionBelow n) (ts ++ rest) (Nat.le_of_succ_le hn) = _ := he₁
  show signed (expressionBelow n) (.sign .minus :: (ts ++ rest)) hn = _
  rw [signed]
  simp only [he₁', bind, Except.bind]
  rfl

/-! ### Rows -/

/-- The tokens are read as one item, before a comma or the token that all items end at. -/
def ReadsItemBefore (stop : Token) (item : Level α n) (ts : List Token) (a : α) : Prop :=
  ∀ ⦃rest L⦄, L = ts ++ rest → current rest = .sign .comma ∨ current rest = stop →
    ∀ h, Takes (item L h) a rest

/-- The tokens are read as one item of a row, before a comma or the end of the row. -/
def ReadsItem (item : Level α n) (ts : List Token) (a : α) : Prop :=
  ReadsItemBefore (.sign .rightParen) item ts a

variable {item : Level α n} {a : α} {as : List α} {tss : List (List Token)} {stop : Token}

/-- What follows an item: a comma before the next, or the token that all items end at. -/
theorem current_items (tss : List (List Token)) (stop : Token) (rest : List Token) :
    current (tss.flatMap (.sign .comma :: ·) ++ stop :: rest) = .sign .comma ∨
      current (tss.flatMap (.sign .comma :: ·) ++ stop :: rest) = stop := by
  cases tss with
  | nil => exact .inr rfl
  | cons => exact .inl rfl

theorem leaves_itemsRest (hstop : stop ≠ .sign .comma)
    (hs : List.Forall₂ (ReadsItemBefore stop item) tss as) (rest : List Token)
    {L : List Token} (hL : L = tss.flatMap (.sign .comma :: ·) ++ stop :: rest) {k : Nat}
    (hk : L.length ≤ k) (hn : k ≤ n) :
    Leaves (itemsRest item k L hk hn) as (stop :: rest) := by
  induction hs generalizing L k with
  | nil =>
    subst hL
    cases k with
    | zero => exact absurd hk (by simp)
    | succ k =>
      refine ⟨length_le_self _, ?_⟩
      show itemsRest item (k + 1) (stop :: rest) hk hn = _
      rw [itemsRest]
      exact if_neg hstop
  | @cons ts a tss as hhead htail ih =>
    have hL' : L = .sign .comma ::
        (ts ++ (tss.flatMap (.sign .comma :: ·) ++ stop :: rest)) := by
      rw [hL, List.flatMap_cons, List.append_assoc]
      rfl
    subst hL'
    cases k with
    | zero => exact absurd hk (by simp)
    | succ k =>
      have hlen := Nat.le_of_succ_le_succ hk
      obtain ⟨h₁, he₁⟩ :=
        hhead rfl (current_items tss stop rest) (Nat.le_trans hlen (Nat.le_of_succ_le hn))
      obtain ⟨h₂, he₂⟩ := ih rfl (Nat.le_trans (Nat.le_of_lt h₁) hlen) (Nat.le_of_succ_le hn)
      refine ⟨Nat.le_trans h₂ (Nat.le_of_lt (Nat.lt_succ_of_lt h₁)), ?_⟩
      rw [itemsRest]
      simp only [if_true, he₁, he₂, bind, Except.bind]
      rfl

/-- Items with commas between them, before a token that is no comma. -/
theorem takes_itemsBefore (hstop : stop ≠ .sign .comma) (ha : ReadsItemBefore stop item ts a)
    (has : List.Forall₂ (ReadsItemBefore stop item) tss as) (rest : List Token) {L : List Token}
    (hL : L = ts ++ (tss.flatMap (.sign .comma :: ·) ++ stop :: rest)) (h : L.length ≤ n) :
    Takes (items item L h) (a :: as) (stop :: rest) := by
  obtain ⟨h₁, he₁⟩ := ha hL (current_items tss stop rest) h
  obtain ⟨h₂, he₂⟩ := leaves_itemsRest hstop has rest rfl (Nat.le_trans (Nat.le_of_lt h₁) h)
    (Nat.le_refl n)
  refine ⟨Nat.lt_of_le_of_lt h₂ h₁, ?_⟩
  rw [items]
  simp only [he₁, he₂, bind, Except.bind]
  rfl

/-- A row of items before a closing bracket. -/
theorem takes_items (ha : ReadsItem item ts a) (has : List.Forall₂ (ReadsItem item) tss as)
    (rest : List Token) {L : List Token}
    (hL : L = ts ++ (tss.flatMap (.sign .comma :: ·) ++ .sign .rightParen :: rest))
    (h : L.length ≤ n) : Takes (items item L h) (a :: as) (.sign .rightParen :: rest) :=
  takes_itemsBefore (by simp) ha has rest hL h

/-! ### Expressions inside others -/

/-- An expression inside another is read at the loosest level. -/
theorem Reads.below (hx : Reads 1 ts x) {L : List Token} (hL : L = ts ++ rest) (h : L.length < n)
    (hrest : binds (current rest) = 0) : Takes (expressionBelow n L h) x rest := by
  cases n with
  | zero => exact absurd h (Nat.not_lt_zero _)
  | succ n => exact hx.takes hL (Nat.le_of_lt_succ h) (by rw [hrest]; exact Nat.one_pos)

theorem Reads.asItem (hx : Reads 1 ts x) {m : Nat} (hm : m < n) :
    ReadsItem (n := m) (fun ts h => expressionBelow n ts (Nat.lt_of_le_of_lt h hm)) ts x := by
  intro rest L hL hrest h
  refine hx.below hL _ ?_
  rcases hrest with hrest | hrest <;> rw [hrest] <;> rfl

/-- The tokens of a row: those of its items with commas between them. -/
def rowTokens (ts : List Token) (tss : List (List Token)) : List Token :=
  ts ++ tss.flatMap (.sign .comma :: ·)

variable {xs : List Expression} {L : List Token}

theorem takes_listToParen (hx : Reads 1 ts x) (hxs : List.Forall₂ (Reads 1) tss xs)
    (rest : List Token) (hL : L = rowTokens ts tss ++ .sign .rightParen :: rest)
    (h : L.length < n) :
    Takes (listToParen (expressionBelow n) L h) (x :: xs) rest := by
  have hL' : L = ts ++ (tss.flatMap (.sign .comma :: ·) ++ .sign .rightParen :: rest) := by
    rw [hL, rowTokens, List.append_assoc]
  have hitems : List.Forall₂ (ReadsItem _) tss xs := hxs.imp fun _ _ hx => hx.asItem h
  obtain ⟨h₁, he₁⟩ := takes_items (hx.asItem h) hitems rest hL' (Nat.le_refl _)
  obtain ⟨h₂, he₂⟩ := takes_expect (.sign .rightParen) rest
  refine ⟨Nat.lt_trans h₂ h₁, ?_⟩
  rw [listToParen]
  simp only [he₁, expectSign, he₂, bind, Except.bind]
  rfl

/-- What opens an expression neither starts a statement nor ends a row. -/
theorem Opens.current_ne (h : Opens p ts) (hL : L = ts ++ us) :
    current L ≠ .keyword .select ∧ current L ≠ .sign .rightParen := by
  obtain ⟨t, rest, rfl, hselect, hclose, _⟩ := h
  rw [hL]
  exact ⟨hselect, hclose⟩

/-- An expression and the bracket that closes it. -/
theorem takes_afterParen (hx : Reads 1 ts x) (rest : List Token)
    (hL : L = ts ++ .sign .rightParen :: rest) (h : L.length < n) :
    Takes (afterParen (expressionBelow n) L h) x rest := by
  have hrow : L = rowTokens ts [] ++ .sign .rightParen :: rest := by
    rw [hL, rowTokens, List.flatMap_nil, List.append_nil]
  obtain ⟨h₁, he₁⟩ := takes_listToParen hx .nil rest hrow h
  refine ⟨h₁, ?_⟩
  rw [afterParen]
  simp only [he₁, (hx.opens.current_ne hL).1, if_false, bind, Except.bind]
  rfl

/-- Brackets around an expression change nothing. -/
theorem Reads.bracketed (hx : Reads 1 ts x) :
    Reads 7 (.sign .leftParen :: (ts ++ [.sign .rightParen])) x := by
  refine .ofPrimary (by simp) (by simp) (by simp) (by simp) (by simp) fun {n rest L} hL hn _ => ?_
  rw [List.append_assoc] at hL
  obtain ⟨h, he⟩ := takes_afterParen hx rest hL hn
  refine ⟨Nat.lt_succ_of_lt h, ?_⟩
  rw [primary]
  simp only [he, bind, Except.bind]
  rfl

/-- Brackets with a row between them, after a name. -/
theorem leaves_arguments (name : String) (hx : Reads 1 ts x)
    (hxs : List.Forall₂ (Reads 1) tss xs) (rest : List Token)
    (hL : L = rowTokens ts tss ++ .sign .rightParen :: rest)
    (h : (Token.sign .leftParen :: L).length < n) (hopen : current L ≠ .sign .rightParen) :
    Leaves (afterName (expressionBelow n) name (.sign .leftParen :: L) h)
      (.function name (x :: xs)) rest := by
  obtain ⟨h₁, he₁⟩ := takes_listToParen hx hxs rest hL (Nat.lt_of_succ_lt h)
  refine ⟨Nat.le_succ_of_le (Nat.le_of_lt h₁), ?_⟩
  rw [afterName.eq_3]
  · simp only [he₁, bind, Except.bind]
    rfl
  · rintro _ _ _ rfl
    exact hopen rfl

/-- The call of a function. -/
theorem Reads.call (name : String) (hx : Reads 1 ts x) (hxs : List.Forall₂ (Reads 1) tss xs) :
    Reads 7 (.identifier name :: .sign .leftParen :: (rowTokens ts tss ++ [.sign .rightParen]))
      (.function name (x :: xs)) := by
  refine .ofPrimary (by simp) (by simp) (by simp) (by simp) (by simp) ?_
  rintro n rest _ rfl hn _
  have hL : rowTokens ts tss ++ [.sign .rightParen] ++ rest =
      rowTokens ts tss ++ .sign .rightParen :: rest := List.append_assoc ..
  have hopen := (hx.opens.append (tss.flatMap (.sign .comma :: ·))).current_ne hL
  obtain ⟨h, he⟩ := leaves_arguments name hx hxs rest hL hn hopen.2
  refine ⟨Nat.lt_succ_of_le h, ?_⟩
  rw [primary]
  simp only [List.cons_append, he, bind, Except.bind]
  rfl

/-! ### Tests -/

/-- An expression and a test of it, which some token of the level starts. -/
theorem Reads.tested (hx : Reads 5 ts x) (ht : binds t = 4)
    (h : ∀ {n rest L} (_ : L = us ++ rest) (h : (t :: L).length ≤ n), binds (current rest) < 4 →
      Leaves (test (expressionBelow n) x (t :: L) h) y rest) : Reads 4 (ts ++ t :: us) y := by
  refine .ofTakes (hx.opens.loosen.append _) rfl fun {n rest L} hL hn hrest => ?_
  have hL' : L = ts ++ t :: (us ++ rest) := by rw [hL, List.append_assoc]; rfl
  have hleft := hx.takes hL' hn (by rw [current, List.head?_cons, Option.getD_some, ht]; decide)
  exact takes_comparison hn hleft fun hlen => h rfl hlen hrest

/-- A comparison. -/
theorem Reads.compare {op : BinaryOp} (hop : comparisonOp? t = some op) (hx : Reads 5 ts x)
    (hy : Reads 5 us y) : Reads 4 (ts ++ t :: us) (.binary op x y) := by
  have ht : binds t = 4 := by
    unfold comparisonOp? at hop
    split at hop
    case h_7 => cases hop
    all_goals rfl
  refine hx.tested ht fun {n rest L} hL hn hrest => ?_
  obtain ⟨h, he⟩ := hy.takes hL (Nat.le_of_succ_le hn) (Nat.lt_succ_of_lt hrest)
  have he' : sum (expressionBelow n) L _ = _ := he
  refine ⟨Nat.le_of_lt (Nat.lt_succ_of_lt h), ?_⟩
  unfold comparisonOp? at hop
  split at hop
  case h_7 => cases hop
  all_goals
    cases hop
    unfold test
    simp only [comparisonOp?, he', bind, Except.bind]
    rfl

theorem Reads.isNull (hx : Reads 5 ts x) :
    Reads 4 (ts ++ [.keyword .is, .keyword .null]) (.isNull x false) := by
  refine hx.tested rfl ?_
  rintro n rest _ rfl hn _
  exact ⟨Nat.le_succ_of_le (Nat.le_succ _), rfl⟩

theorem Reads.isNotNull (hx : Reads 5 ts x) :
    Reads 4 (ts ++ [.keyword .is, .keyword .not, .keyword .null]) (.isNull x true) := by
  refine hx.tested rfl ?_
  rintro n rest _ rfl hn _
  exact ⟨Nat.le_succ_of_le (Nat.le_succ_of_le (Nat.le_succ _)), rfl⟩

/-- A pattern, after which no other character escapes. -/
theorem Reads.like (hx : Reads 5 ts x) (hy : Reads 5 us y) :
    Reads 4 (ts ++ .keyword .like :: us) (.like x y none false) := by
  refine hx.tested rfl fun {n rest L} hL hn hrest => ?_
  obtain ⟨h, he⟩ := hy.takes hL (Nat.le_of_lt hn) (Nat.lt_succ_of_lt hrest)
  have he' : sum (expressionBelow n) L _ = _ := he
  refine ⟨Nat.le_of_lt (Nat.lt_succ_of_lt h), ?_⟩
  have hescape : ∀ h, escapePart (expressionBelow n) rest h = .ok (.stay none rest) := by
    intro h
    unfold escapePart
    split
    · exact absurd hrest (by simp [current, binds])
    · rfl
  rw [test, afterLike]
  simp only [he', hescape, bind, Except.bind]
  rfl

/-- An interval, with AND between its ends. -/
theorem Reads.between {vs : List Token} {z : Expression} (hx : Reads 5 ts x) (hy : Reads 5 us y)
    (hz : Reads 5 vs z) :
    Reads 4 (ts ++ .keyword .between :: (us ++ .keyword .and :: vs)) (.between x y z false) := by
  refine hx.tested rfl fun {n rest L} hL hn hrest => ?_
  have hL' : L = us ++ .keyword .and :: (vs ++ rest) := by rw [hL, List.append_assoc]; rfl
  obtain ⟨h₁, he₁⟩ := hy.takes hL' (Nat.le_of_lt hn) (by simp [current, binds])
  have hlen := Nat.lt_trans (Nat.lt_of_succ_lt h₁) hn
  obtain ⟨h₂, he₂⟩ := hz.takes rfl (Nat.le_of_lt hlen) (Nat.lt_succ_of_lt hrest)
  have he₁' : sum (expressionBelow n) L _ = _ := he₁
  have he₂' : sum (expressionBelow n) (vs ++ rest) _ = _ := he₂
  obtain ⟨h₃, he₃⟩ := takes_expect (.keyword .and) (vs ++ rest)
  have hshort := Nat.lt_trans h₂ (Nat.lt_trans h₃ h₁)
  refine ⟨Nat.le_of_lt (Nat.lt_succ_of_lt hshort), ?_⟩
  rw [test, afterBetween]
  simp only [he₁', expectWord, he₃, he₂', bind, Except.bind]
  rfl

/-- A search among the items of a row. -/
theorem Reads.inList (hx : Reads 5 ts x) (hy : Reads 1 us y)
    (hxs : List.Forall₂ (Reads 1) tss xs) :
    Reads 4 (ts ++ .keyword .in :: .sign .leftParen :: (rowTokens us tss ++ [.sign .rightParen]))
      (.inList x (y :: xs) false) := by
  refine hx.tested rfl ?_
  rintro n rest _ rfl hn _
  have hL : rowTokens us tss ++ [.sign .rightParen] ++ rest =
      rowTokens us tss ++ .sign .rightParen :: rest := List.append_assoc ..
  have hopen := (hy.opens.append (tss.flatMap (.sign .comma :: ·))).current_ne hL
  obtain ⟨h₁, he₁⟩ := takes_listToParen hy hxs rest hL (Nat.lt_of_succ_lt hn)
  obtain ⟨h₂, he₂⟩ := takes_expect (.sign .leftParen)
    (rowTokens us tss ++ [.sign .rightParen] ++ rest)
  refine ⟨Nat.le_of_lt (Nat.lt_succ_of_lt (Nat.lt_trans h₁ h₂)), ?_⟩
  rw [test, afterIn]
  simp only [List.cons_append, expectSign, he₂, hopen.1, if_false, he₁, bind, Except.bind]
  rfl

/-- The word NOT before a condition. -/
theorem Reads.not (hx : Reads 3 ts x) : Reads 3 (.keyword .not :: ts) (.unary .not x) := by
  refine .ofTakes ⟨_, ts, rfl, by simp, by simp, by simp⟩ rfl fun {n rest L} hL hn hrest => ?_
  subst hL
  obtain ⟨h, he⟩ := hx.takes rfl (Nat.le_of_succ_le hn) hrest
  refine ⟨Nat.lt_succ_of_lt h, ?_⟩
  have he' : negation (expressionBelow n) (ts ++ rest) (Nat.le_of_succ_le hn) = _ := he
  show negation (expressionBelow n) (.keyword .not :: (ts ++ rest)) hn = _
  rw [negation]
  simp only [he', bind, Except.bind]
  rfl

end TypedFilter.Sql
