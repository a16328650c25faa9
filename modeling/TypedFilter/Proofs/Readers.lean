import TypedFilter.Proofs.Conversions

/-!
What readers return, whatever the tokens are. Main statement: in an expression that is read from the
tokens of a text, each literal is the value that its own text is read as, and no list to look a
value up in is empty.
-/

namespace TypedFilter.Sql

/-! ### Results -/

/-- Whatever the reader returns has the property. -/
def Gives {β : Type} (p : β → Prop) (r : Read β) : Prop :=
  ∀ b, r = .ok b → p b

namespace Gives

variable {β γ : Type} {p : β → Prop} {q : γ → Prop} {r : Read β} {f : β → Read γ}

theorem ok {b : β} (h : p b) : Gives p (.ok b) := by
  rintro _ ⟨⟩
  exact h

theorem error (e : ReadError) : Gives p (.error e) := by
  rintro _ ⟨⟩

theorem bind (h : Gives p r) (hf : ∀ b, p b → Gives q (f b)) : Gives q (r >>= f) := by
  intro c hc
  cases r with
  | error e => cases hc
  | ok b => exact hf b (h b rfl) c hc

theorem ofEq (h : ∀ b, r = .ok b → p b) : Gives p r :=
  h

end Gives

/-! ### Tokens -/

/-- Whether the token can come out of a text: a number is written with digits. -/
def Token.IsSound : Token → Prop
  | .number digits => IsNumeral digits
  | _ => True

/-- Whether every token can come out of a text. -/
def AreSound (ts : List Token) : Prop :=
  ∀ t ∈ ts, t.IsSound

theorem AreSound.rest {t : Token} {ts : List Token} (h : AreSound (t :: ts)) : AreSound ts :=
  fun u hu => h u (List.mem_cons_of_mem t hu)

theorem AreSound.first {t : Token} {ts : List Token} (h : AreSound (t :: ts)) : t.IsSound :=
  h t (List.mem_cons_self ..)

/-- What is read has the property, and the tokens after it can come out of a text. -/
def Step.Keeps {α : Type} {ts : List Token} (p : α → Prop) (s : Step α ts) : Prop :=
  p s.value ∧ AreSound s.rest

/-- What is read has the property, and the tokens after it can come out of a text. -/
def Tail.Keeps {α : Type} {ts : List Token} (p : α → Prop) (s : Tail α ts) : Prop :=
  p s.value ∧ AreSound s.rest

/-! ### Numbers and moments -/

theorem ne_neg_pow2 (n k : Nat) : (n : Int) ≠ -pow2 k := by
  have := pow2_pos k
  omega

/-- A whole number that is read in the narrowest width can be read again. -/
theorem isFresh_whole {n : Nat} {v : Value}
    (h : (Value.ofInt? .int n <|> Value.ofInt? .long n) = some v) : v.IsFresh := by
  simp only [Value.ofInt?, SizedInt.ofInt?] at h
  by_cases hint : IntWidth.int.Holds n
  · rw [dif_pos hint] at h
    cases h
    exact ⟨trivial, SizedInt.reread_int ⟨n, hint⟩ (ne_neg_pow2 n 31)⟩
  · by_cases hlong : IntWidth.long.Holds n
    · rw [dif_neg hint, dif_pos hlong] at h
      cases h
      exact ⟨trivial, SizedInt.reread_long ⟨n, hlong⟩ hint (ne_neg_pow2 n 63)⟩
    · rw [dif_neg hint, dif_neg hlong] at h
      cases h

/-- A whole number that is not read in any width is a large one. -/
theorem le_of_whole_none {n : Nat}
    (h : (Value.ofInt? .int n <|> Value.ofInt? .long n) = none) : pow2 63 ≤ n := by
  simp only [Value.ofInt?, SizedInt.ofInt?] at h
  by_cases hint : IntWidth.int.Holds n
  · rw [dif_pos hint] at h
    cases h
  · by_cases hlong : IntWidth.long.Holds n
    · rw [dif_neg hint, dif_pos hlong] at h
      cases h
    · rw [IntWidth.Holds] at hlong
      simp only [IntWidth.bits] at hlong
      omega

/-- A number that is read can be read again. -/
theorem isFresh_numberValue {digits : String} {v : Value} (h : IsNumeral digits)
    (hv : numberValue digits = .ok v) : v.IsFresh := by
  obtain ⟨cs, hne, hcs, hdigits⟩ := h
  have hparts : ∃ ds, digits.toList = cs ++ ds ∧
      (ds = [] ∨ ∃ es, ds = '.' :: es ∧ es ≠ [] ∧ es.all Char.isDigit = true) := by
    rcases hdigits with rfl | ⟨es, hes, hall, rfl⟩
    · exact ⟨[], by simp, .inl rfl⟩
    · exact ⟨'.' :: es, by simp, .inr ⟨es, rfl, hes, hall⟩⟩
  obtain ⟨ds, hlist, hds⟩ := hparts
  have hdecimal : ∀ d, Decimal.ofChars? (cs ++ ds) = some d →
      (ds = [] → pow2 63 ≤ ofDigits cs) → (Value.decimal d).IsFresh := by
    intro d hd hsize
    obtain ⟨hneg, hlarge⟩ := Decimal.ofChars?_numeral hne hcs hds hd
    refine ⟨trivial, d.reread_of_isLarge hneg ?_⟩
    rcases hlarge with ⟨hnil, -, hm⟩ | hlarge
    · exact fun _ => hm ▸ hsize hnil
    · exact hlarge
  simp only [numberValue, hlist] at hv
  rcases hds with rfl | ⟨es, rfl, hes, hall⟩
  · have hpoint : cs.contains '.' = false := by
      rw [Bool.eq_false_iff]
      intro hmem
      exact absurd (List.all_eq_true.1 hcs '.' (List.contains_iff_mem.1 hmem)) (by decide)
    rw [List.append_nil] at hv hdecimal
    simp only [hpoint, Bool.false_eq_true, if_false] at hv
    cases hw : (Value.ofInt? .int (ofDigits cs) <|> Value.ofInt? .long (ofDigits cs)) with
    | some w =>
      rw [hw] at hv
      cases hv
      exact isFresh_whole hw
    | none =>
      rw [hw] at hv
      cases hd : Decimal.ofChars? cs with
      | none =>
        rw [hd] at hv
        cases hv
      | some d =>
        rw [hd] at hv
        cases hv
        exact hdecimal d hd fun _ => le_of_whole_none hw
  · have hpoint : (cs ++ '.' :: es).contains '.' = true := by simp
    simp only [hpoint, if_true] at hv
    cases hd : Decimal.ofChars? (cs ++ '.' :: es) with
    | none =>
      rw [hd] at hv
      cases hv
    | some d =>
      rw [hd] at hv
      cases hv
      exact hdecimal d hd fun h => by cases h

/-- A date or time that is read can be read again. -/
theorem isFresh_momentValue {kind : MomentKind} {text : String} {v : Value}
    (h : momentValue kind text = .ok v) : v.IsFresh := by
  rw [momentValue] at h
  cases hc : kind.type.convert (.string text) with
  | error e =>
    rw [hc] at h
    cases h
  | ok w =>
    rw [hc] at h
    cases h
    have hscalar : kind.type.IsScalar := by cases kind <;> trivial
    rcases Value.dataType?_of_convert hscalar hc with rfl | htype
    · exact ⟨trivial, rfl⟩
    · refine ⟨Value.isPlain_of_dataType? hscalar htype, ?_⟩
      cases v with
      | integer | decimal => cases kind <;> cases htype
      | _ => rfl

/-! ### Single tokens and names -/

variable {α : Type} {ts : List Token} {n : Nat}

/-- A property that asks for nothing. -/
def any (_ : α) : Prop := True

theorem gives_expect (wanted : Token) (h : AreSound ts) :
    Gives (Step.Keeps any) (expect wanted ts) := by
  unfold expect
  split
  · exact .error _
  · split
    · exact .ok ⟨trivial, h.rest⟩
    · exact .error _

theorem gives_expectIdentifier (h : AreSound ts) :
    Gives (Step.Keeps any) (expectIdentifier ts) := by
  unfold expectIdentifier
  split
  · exact .ok ⟨trivial, h.rest⟩
  · exact .error _

theorem gives_expectNumber (h : AreSound ts) : Gives (Step.Keeps any) (expectNumber ts) := by
  unfold expectNumber
  split
  · exact .ok ⟨trivial, h.rest⟩
  · exact .error _

theorem keeps_identifiers (h : AreSound ts) : (identifiers ts).Keeps any := by
  fun_induction identifiers ts with
  | case1 name rest ih => exact ⟨trivial, (ih h.rest).2⟩
  | case2 ts => exact ⟨trivial, h⟩

/-! ### Repetition -/

/-- A reader that returns nothing but values with the property. -/
def Level.IsSound (p : α → Prop) (read : Level α n) : Prop :=
  ∀ ts h, AreSound ts → Gives (Step.Keeps p) (read ts h)

/-- A reader that returns nothing but values with the property. -/
def Below.IsSound (p : α → Prop) (read : Below α n) : Prop :=
  ∀ ts h, AreSound ts → Gives (Step.Keeps p) (read ts h)

theorem gives_itemsRest {p : α → Prop} {item : Level α n} (hitem : item.IsSound p) (k : Nat)
    (hk : ts.length ≤ k) (hn : k ≤ n) (h : AreSound ts) :
    Gives (Tail.Keeps fun as => ∀ a ∈ as, p a) (itemsRest item k ts hk hn) := by
  induction k generalizing ts with
  | zero =>
    cases ts with
    | nil =>
      rw [itemsRest]
      exact .ok ⟨by simp [Tail.stay], h⟩
    | cons t ts => cases hk
  | succ k ih =>
    cases ts with
    | nil =>
      rw [itemsRest]
      exact .ok ⟨by simp [Tail.stay], h⟩
    | cons t ts =>
      rw [itemsRest]
      split
      · refine .bind (hitem _ _ h.rest) fun first hfirst => ?_
        refine .bind (ih _ _ hfirst.2) fun tail htail => ?_
        refine .ok ⟨?_, htail.2⟩
        rintro a (_ | ⟨_, ha⟩)
        · exact hfirst.1
        · exact htail.1 a ha
      · exact .ok ⟨by simp [Tail.stay], h⟩

/-- Items in a row: there is at least one. -/
theorem gives_items {p : α → Prop} {item : Level α n} (hitem : item.IsSound p)
    (hn : ts.length ≤ n) (h : AreSound ts) :
    Gives (Step.Keeps fun as => as ≠ [] ∧ ∀ a ∈ as, p a) (items item ts hn) := by
  rw [items]
  refine .bind (hitem _ _ h) fun first hfirst => ?_
  refine .bind (gives_itemsRest hitem n _ _ hfirst.2) fun tail htail => ?_
  refine .ok ⟨⟨List.cons_ne_nil _ _, ?_⟩, htail.2⟩
  rintro a (_ | ⟨_, ha⟩)
  · exact hfirst.1
  · exact htail.1 a ha

section Chains

variable {p : Expression → Prop} {operand : Level Expression n}
  {operator? : Token → Option BinaryOp}

theorem gives_chainRest (hbinary : ∀ op l r, p l → p r → p (.binary op l r))
    (hoperand : operand.IsSound p) (k : Nat) {left : Expression} (hleft : p left)
    (hk : ts.length ≤ k) (hn : k ≤ n) (h : AreSound ts) :
    Gives (Tail.Keeps p) (chainRest operand operator? k left ts hk hn) := by
  induction k generalizing ts left with
  | zero =>
    cases ts with
    | nil =>
      rw [chainRest]
      exact .ok ⟨hleft, h⟩
    | cons t ts => cases hk
  | succ k ih =>
    cases ts with
    | nil =>
      rw [chainRest]
      exact .ok ⟨hleft, h⟩
    | cons t ts =>
      rw [chainRest]
      split
      · exact .ok ⟨hleft, h⟩
      · rename_i op _
        refine .bind (hoperand _ _ h.rest) fun right hright => ?_
        refine .bind (ih (hbinary op left right.value hleft hright.1) _ _ hright.2)
          fun tail htail => ?_
        exact .ok htail

theorem isSound_chain (hbinary : ∀ op l r, p l → p r → p (.binary op l r))
    (hoperand : operand.IsSound p) : Level.IsSound p (chain operand operator?) := by
  intro ts hn h
  rw [chain]
  refine .bind (hoperand _ _ h) fun first hfirst => ?_
  refine .bind (gives_chainRest hbinary hoperand n hfirst.1 _ _ hfirst.2) fun tail htail => ?_
  exact .ok htail

end Chains

/-! ### Names of types and tables -/

theorem gives_typeArguments (h : AreSound ts) : Gives (Tail.Keeps any) (typeArguments ts) := by
  unfold typeArguments
  split
  · refine .bind (gives_items (p := any) (fun _ _ hs => gives_expectNumber hs) _ h.rest)
      fun numbers hnumbers => ?_
    exact .bind (gives_expect _ hnumbers.2) fun close hclose => .ok hclose
  · exact .ok ⟨trivial, h⟩

theorem gives_typeName (h : AreSound ts) : Gives (Step.Keeps any) (typeName ts) := by
  rw [typeName]
  refine .bind (gives_expectIdentifier h) fun first hfirst => ?_
  exact .bind (gives_typeArguments (keeps_identifiers hfirst.2).2) fun arguments harguments =>
    .ok ⟨trivial, harguments.2⟩

theorem gives_dottedName (k : Nat) (name : String) (hk : ts.length ≤ k) (h : AreSound ts) :
    Gives (Tail.Keeps any) (dottedName k name ts hk) := by
  fun_induction dottedName k name ts hk with
  | case1 name k rest hk hr ih =>
    refine .bind (gives_expectIdentifier h.rest) fun part hpart => ?_
    exact .bind (ih part hpart.2) fun tail htail => .ok htail
  | case2 => exact .ok ⟨trivial, h⟩

theorem gives_tableName (h : AreSound ts) : Gives (Step.Keeps any) (tableName ts) := by
  rw [tableName]
  refine .bind (gives_expectIdentifier h) fun first hfirst => ?_
  exact .bind (gives_dottedName _ _ _ hfirst.2) fun tail htail => .ok htail

theorem gives_aliasName (h : AreSound ts) : Gives (Tail.Keeps any) (aliasName ts) := by
  unfold aliasName
  split
  · exact .bind (gives_expectIdentifier h.rest) fun name hname => .ok ⟨trivial, hname.2⟩
  · exact .ok ⟨trivial, h.rest⟩
  · exact .ok ⟨trivial, h⟩

theorem gives_fromPart (h : AreSound ts) : Gives (Tail.Keeps any) (fromPart ts) := by
  unfold fromPart
  split
  · exact .bind (gives_tableName h.rest) fun name hname => .ok ⟨trivial, hname.2⟩
  · exact .ok ⟨trivial, h⟩

theorem keeps_distinctPart (h : AreSound ts) : (distinctPart ts).Keeps any := by
  unfold distinctPart
  split
  · exact ⟨trivial, h.rest⟩
  · exact ⟨trivial, h⟩

/-! ### Expressions -/

/-- Whether the literals of the expression can be read again and no list in it is empty. What can
not be translated is left out. -/
inductive IsRead : Expression → Prop
  | literal {v : Value} (fresh : v.IsFresh) : IsRead (.literal v)
  | null : IsRead .null
  | column (name : String) : IsRead (.column name)
  | qualified (table name : String) : IsRead (.qualified table name)
  | binary (op : BinaryOp) {l r : Expression} (left : IsRead l) (right : IsRead r) :
    IsRead (.binary op l r)
  | unary (op : UnaryOp) {e : Expression} (operand : IsRead e) : IsRead (.unary op e)
  | function (name : String) {es : List Expression} (arguments : ∀ e ∈ es, IsRead e) :
    IsRead (.function name es)
  | case (e : Option Expression) (whens : List (Expression × Expression))
    (otherwise : Option Expression) : IsRead (.case e whens otherwise)
  | cast {e : Expression} (type : String) (operand : IsRead e) : IsRead (.cast e type)
  | inList {e : Expression} {es : List Expression} (negated : Bool) (operand : IsRead e)
    (nonempty : es ≠ []) (items : ∀ x ∈ es, IsRead x) : IsRead (.inList e es negated)
  | between {e low high : Expression} (negated : Bool) (operand : IsRead e) (lower : IsRead low)
    (upper : IsRead high) : IsRead (.between e low high negated)
  | like {e pattern : Expression} (escape : Option Expression) (negated : Bool)
    (operand : IsRead e) (matched : IsRead pattern) : IsRead (.like e pattern escape negated)
  | isNull {e : Expression} (negated : Bool) (operand : IsRead e) : IsRead (.isNull e negated)
  | row {es : List Expression} (items : ∀ e ∈ es, IsRead e) : IsRead (.row es)
  | exists (query : Select) (negated : Bool) : IsRead (.exists query negated)
  | subquery (query : Select) : IsRead (.subquery query)

/-- A statement whose condition is read from tokens. -/
def Select.IsRead (select : Select) : Prop :=
  ∀ e ∈ select.condition, Sql.IsRead e

variable {expression : Below Expression n}

theorem gives_selectItem (hx : expression.IsSound IsRead) (hn : ts.length < n) (h : AreSound ts) :
    Gives (Step.Keeps any) (selectItem expression ts hn) := by
  unfold selectItem
  split
  · exact .ok ⟨trivial, h.rest⟩
  · refine .bind (hx _ _ h) fun e he => ?_
    exact .bind (gives_aliasName he.2) fun name hname => .ok ⟨trivial, hname.2⟩

theorem gives_wherePart (hx : expression.IsSound IsRead) (hn : ts.length ≤ n) (h : AreSound ts) :
    Gives (Tail.Keeps fun condition => ∀ e ∈ condition, IsRead e) (wherePart expression ts hn) := by
  unfold wherePart
  split
  · refine .bind (hx _ _ h.rest) fun e he => .ok ⟨?_, he.2⟩
    rintro x ⟨⟩
    exact he.1
  · exact .ok ⟨by simp [Tail.stay], h⟩

theorem gives_selectWith (hx : expression.IsSound IsRead) (hn : ts.length ≤ n) (h : AreSound ts) :
    Gives (Step.Keeps Select.IsRead) (selectWith expression ts hn) := by
  rw [selectWith]
  refine .bind (gives_expect _ h) fun start hstart => ?_
  have hdistinct := keeps_distinctPart hstart.2
  refine .bind (gives_items (p := any) (fun _ _ hs => gives_selectItem hx _ hs) _ hdistinct.2)
    fun selected hselected => ?_
  refine .bind (gives_fromPart hselected.2) fun table htable => ?_
  exact .bind (gives_wherePart hx _ htable.2) fun condition hcondition => .ok hcondition

theorem gives_listToParen (hx : expression.IsSound IsRead) (hn : ts.length < n) (h : AreSound ts) :
    Gives (Step.Keeps fun es => es ≠ [] ∧ ∀ e ∈ es, IsRead e) (listToParen expression ts hn) := by
  rw [listToParen]
  refine .bind (gives_items (fun _ _ hs => hx _ _ hs) _ h) fun list hlist => ?_
  exact .bind (gives_expect _ hlist.2) fun close hclose => .ok ⟨hlist.1, hclose.2⟩

theorem gives_selectToParen (hx : expression.IsSound IsRead) (hn : ts.length ≤ n)
    (h : AreSound ts) : Gives (Step.Keeps any) (selectToParen expression ts hn) := by
  rw [selectToParen]
  refine .bind (gives_selectWith hx _ h) fun query hquery => ?_
  exact .bind (gives_expect _ hquery.2) fun close hclose => .ok ⟨trivial, hclose.2⟩

/-! ### What stands by itself -/

theorem gives_afterName (hx : expression.IsSound IsRead) (name : String) (hn : ts.length < n)
    (h : AreSound ts) : Gives (Tail.Keeps IsRead) (afterName expression name ts hn) := by
  unfold afterName
  split
  · exact .bind (gives_expectIdentifier h.rest) fun column hcolumn =>
      .ok ⟨.qualified name column.value, hcolumn.2⟩
  · exact .ok ⟨.function name (by simp), h.rest.rest⟩
  · exact .bind (gives_listToParen hx _ h.rest) fun arguments harguments =>
      .ok ⟨.function name harguments.1.2, harguments.2⟩
  · exact .ok ⟨.column name, h⟩

theorem gives_afterParen (hx : expression.IsSound IsRead) (hn : ts.length < n) (h : AreSound ts) :
    Gives (Step.Keeps IsRead) (afterParen expression ts hn) := by
  rw [afterParen]
  split
  · exact .bind (gives_selectToParen hx _ h) fun query hquery =>
      .ok ⟨.subquery query.value, hquery.2⟩
  · refine .bind (gives_listToParen hx _ h) fun list hlist => .ok ⟨?_, hlist.2⟩
    rw [Step.map]
    split
    · rename_i e he
      exact hlist.1.2 e (by simp [he])
    · exact .row hlist.1.2

theorem gives_branches (hx : expression.IsSound IsRead) (k : Nat) (hk : ts.length ≤ k) (hn : k < n)
    (h : AreSound ts) : Gives (Tail.Keeps any) (branches expression k ts hk hn) := by
  fun_induction branches expression k ts hk hn with
  | case1 k rest hk hn hr ih =>
    refine .bind (hx _ _ h.rest) fun condition hcondition => ?_
    refine .bind (gives_expect _ hcondition.2) fun word hword => ?_
    refine .bind (hx _ _ hword.2) fun result hresult => ?_
    exact .bind (ih _ _ _ hresult.2) fun tail htail => .ok ⟨trivial, htail.2⟩
  | case2 => exact .ok ⟨trivial, h⟩

theorem gives_caseOperand (hx : expression.IsSound IsRead) (hn : ts.length < n) (h : AreSound ts) :
    Gives (Tail.Keeps any) (caseOperand expression ts hn) := by
  rw [caseOperand]
  split
  · exact .ok ⟨trivial, h⟩
  · exact .bind (hx _ _ h) fun e he => .ok ⟨trivial, he.2⟩

theorem gives_caseElse (hx : expression.IsSound IsRead) (hn : ts.length < n) (h : AreSound ts) :
    Gives (Tail.Keeps any) (caseElse expression ts hn) := by
  unfold caseElse
  split
  · exact .bind (hx _ _ h.rest) fun e he => .ok ⟨trivial, he.2⟩
  · exact .ok ⟨trivial, h⟩

theorem gives_afterCase (hx : expression.IsSound IsRead) (hn : ts.length < n) (h : AreSound ts) :
    Gives (Step.Keeps IsRead) (afterCase expression ts hn) := by
  rw [afterCase]
  refine .bind (gives_caseOperand hx _ h) fun operand hoperand => ?_
  refine .bind (gives_branches hx _ _ _ hoperand.2) fun whens hwhens => ?_
  refine .bind (gives_caseElse hx _ hwhens.2) fun otherwise hotherwise => ?_
  exact .bind (gives_expect _ hotherwise.2) fun close hclose => .ok ⟨.case _ _ _, hclose.2⟩

theorem gives_afterCast (hx : expression.IsSound IsRead) (hn : ts.length < n) (h : AreSound ts) :
    Gives (Step.Keeps IsRead) (afterCast expression ts hn) := by
  rw [afterCast]
  refine .bind (gives_expect _ h) fun start hstart => ?_
  refine .bind (hx _ _ hstart.2) fun e he => ?_
  refine .bind (gives_expect _ he.2) fun word hword => ?_
  refine .bind (gives_typeName hword.2) fun type htype => ?_
  exact .bind (gives_expect _ htype.2) fun close hclose => .ok ⟨.cast type.value he.1, hclose.2⟩

theorem gives_afterExists (hx : expression.IsSound IsRead) (hn : ts.length < n) (h : AreSound ts) :
    Gives (Step.Keeps IsRead) (afterExists expression ts hn) := by
  rw [afterExists]
  refine .bind (gives_expect _ h) fun start hstart => ?_
  exact .bind (gives_selectToParen hx _ hstart.2) fun query hquery =>
    .ok ⟨.exists query.value false, hquery.2⟩

theorem isSound_primary (hx : expression.IsSound IsRead) :
    Level.IsSound IsRead (primary expression) := by
  intro ts hn h
  unfold primary
  split
  · exact .bind (.ofEq fun v hv => isFresh_numberValue h.first hv) fun v hv =>
      .ok ⟨.literal hv, h.rest⟩
  · exact .ok ⟨.literal ⟨trivial, rfl⟩, h.rest⟩
  · exact .bind (.ofEq fun v hv => isFresh_momentValue hv) fun v hv => .ok ⟨.literal hv, h.rest⟩
  · exact .ok ⟨.literal ⟨trivial, rfl⟩, h.rest⟩
  · exact .ok ⟨.literal ⟨trivial, rfl⟩, h.rest⟩
  · exact .ok ⟨.null, h.rest⟩
  · exact .bind (gives_afterName hx _ _ h.rest) fun e he => .ok he
  · exact .bind (gives_afterParen hx _ h.rest) fun e he => .ok he
  · exact .bind (gives_afterExists hx _ h.rest) fun e he => .ok he
  · exact .bind (gives_afterCase hx _ h.rest) fun e he => .ok he
  · exact .bind (gives_afterCast hx _ h.rest) fun e he => .ok he
  · exact .error _

/-! ### Operators -/

theorem isSound_signed (hx : expression.IsSound IsRead) :
    Level.IsSound IsRead (signed expression) := by
  intro ts hn h
  fun_induction signed expression ts hn with
  | case1 rest hn ih => exact .bind (ih h.rest) fun e he => .ok ⟨.unary .plus he.1, he.2⟩
  | case2 rest hn ih => exact .bind (ih h.rest) fun e he => .ok ⟨.unary .minus he.1, he.2⟩
  | case3 ts hn => exact isSound_primary hx ts hn h

theorem isSound_sum (hx : expression.IsSound IsRead) : Level.IsSound IsRead (sum expression) :=
  isSound_chain (fun op _ _ => .binary op) (isSound_chain (fun op _ _ => .binary op)
    (isSound_signed hx))

variable {left : Expression}

theorem gives_afterIn (hx : expression.IsSound IsRead) (hleft : IsRead left) (negated : Bool)
    (hn : ts.length < n) (h : AreSound ts) :
    Gives (Step.Keeps IsRead) (afterIn expression left negated ts hn) := by
  rw [afterIn]
  refine .bind (gives_expect _ h) fun start hstart => ?_
  split
  · refine .bind (gives_selectToParen hx _ hstart.2) fun query hquery => .ok ⟨?_, hquery.2⟩
    refine .inList negated hleft (List.cons_ne_nil _ _) fun x hx => ?_
    rw [List.mem_singleton.1 hx]
    exact .subquery query.value
  · exact .bind (gives_listToParen hx _ hstart.2) fun list hlist =>
      .ok ⟨.inList negated hleft hlist.1.1 hlist.1.2, hlist.2⟩

theorem gives_afterBetween (hx : expression.IsSound IsRead) (hleft : IsRead left) (negated : Bool)
    (hn : ts.length < n) (h : AreSound ts) :
    Gives (Step.Keeps IsRead) (afterBetween expression left negated ts hn) := by
  rw [afterBetween]
  refine .bind (isSound_sum hx _ _ h) fun low hlow => ?_
  refine .bind (gives_expect _ hlow.2) fun word hword => ?_
  exact .bind (isSound_sum hx _ _ hword.2) fun high hhigh =>
    .ok ⟨.between negated hleft hlow.1 hhigh.1, hhigh.2⟩

theorem gives_escapePart (hx : expression.IsSound IsRead) (hn : ts.length < n) (h : AreSound ts) :
    Gives (Tail.Keeps any) (escapePart expression ts hn) := by
  unfold escapePart
  split
  · exact .bind (isSound_sum hx _ _ h.rest) fun e he => .ok ⟨trivial, he.2⟩
  · exact .ok ⟨trivial, h⟩

theorem gives_afterLike (hx : expression.IsSound IsRead) (hleft : IsRead left) (negated : Bool)
    (hn : ts.length < n) (h : AreSound ts) :
    Gives (Step.Keeps IsRead) (afterLike expression left negated ts hn) := by
  rw [afterLike]
  refine .bind (isSound_sum hx _ _ h) fun pattern hpattern => ?_
  exact .bind (gives_escapePart hx _ hpattern.2) fun escape hescape =>
    .ok ⟨.like escape.value negated hleft hpattern.1, hescape.2⟩

theorem gives_test (hx : expression.IsSound IsRead) (hleft : IsRead left) (hn : ts.length ≤ n)
    (h : AreSound ts) : Gives (Tail.Keeps IsRead) (test expression left ts hn) := by
  unfold test
  split
  · exact .bind (gives_expect _ h.rest.rest) fun word hword =>
      .ok ⟨.isNull true hleft, hword.2⟩
  · exact .bind (gives_expect _ h.rest) fun word hword => .ok ⟨.isNull false hleft, hword.2⟩
  · exact .bind (gives_afterIn hx hleft true _ h.rest.rest) fun e he => .ok he
  · exact .bind (gives_afterBetween hx hleft true _ h.rest.rest) fun e he => .ok he
  · exact .bind (gives_afterLike hx hleft true _ h.rest.rest) fun e he => .ok he
  · exact .bind (gives_afterIn hx hleft false _ h.rest) fun e he => .ok he
  · exact .bind (gives_afterBetween hx hleft false _ h.rest) fun e he => .ok he
  · exact .bind (gives_afterLike hx hleft false _ h.rest) fun e he => .ok he
  · exact .ok ⟨hleft, h⟩
  · split
    · exact .ok ⟨hleft, h⟩
    · rename_i op _
      exact .bind (isSound_sum hx _ _ h.rest) fun right hright =>
        .ok ⟨.binary op hleft hright.1, hright.2⟩

theorem isSound_comparison (hx : expression.IsSound IsRead) :
    Level.IsSound IsRead (comparison expression) := by
  intro ts hn h
  rw [comparison]
  refine .bind (isSound_sum hx _ _ h) fun left hleft => ?_
  exact .bind (gives_test hx hleft.1 _ hleft.2) fun tail htail => .ok htail

theorem isSound_negation (hx : expression.IsSound IsRead) :
    Level.IsSound IsRead (negation expression) := by
  intro ts hn h
  fun_induction negation expression ts hn with
  | case1 rest hn ih => exact .bind (ih h.rest) fun e he => .ok ⟨.unary .not he.1, he.2⟩
  | case2 ts hn => exact isSound_comparison hx ts hn h

theorem isSound_disjunction (hx : expression.IsSound IsRead) :
    Level.IsSound IsRead (disjunction expression) :=
  isSound_chain (fun op _ _ => .binary op) (isSound_chain (fun op _ _ => .binary op)
    (isSound_negation hx))

theorem isSound_expressionBelow (n : Nat) : (expressionBelow n).IsSound IsRead := by
  induction n with
  | zero => exact fun ts hn => absurd hn (Nat.not_lt_zero _)
  | succ n ih => exact fun ts hn h => isSound_disjunction ih ts (Nat.le_of_lt_succ hn) h

/-! ### Texts -/

theorem isSound_lexWord (c : Char) (rest : List Char) : (lexWord c rest).1.IsSound := by
  rw [lexWord]
  simp only
  split
  · trivial
  · trivial

theorem isSound_lexNumber {c : Char} (hc : c.isDigit = true) (rest : List Char) :
    (lexNumber c rest).1.IsSound := by
  have hdigits : ∀ cs : List Char, (cs.takeWhile Char.isDigit).all Char.isDigit = true := by
    intro cs
    exact List.all_takeWhile
  have hwhole : (c :: rest.takeWhile Char.isDigit).all Char.isDigit = true := by
    rw [List.all_cons, hc, hdigits rest]
    rfl
  rw [lexNumber, takeDigits]
  simp only
  split
  · rename_i after _
    split
    · exact ⟨_, List.cons_ne_nil _ _, hwhole, .inl rfl⟩
    · rename_i fraction _ hne heq
      cases heq
      exact ⟨_, List.cons_ne_nil _ _, hwhole, .inr ⟨_, hne, hdigits after, rfl⟩⟩
  · exact ⟨_, List.cons_ne_nil _ _, hwhole, .inl rfl⟩

theorem isSound_lexMoment {total : Nat} {cs after : List Char} {t : Token}
    (h : lexMoment total cs = .ok (t, after)) : t.IsSound := by
  rw [lexMoment] at h
  simp only at h
  split at h
  · rename_i rest _
    cases hs : lexString total rest with
    | error e =>
      rw [hs] at h
      cases h
    | ok p =>
      rw [hs] at h
      simp only [Bind.bind, Except.bind] at h
      split at h
      · split at h
        · cases h
          trivial
        · cases h
      · cases h
  · cases h

theorem isSound_lexName {total : Nat} {cs after : List Char} {t : Token}
    (h : lexName total cs = .ok (t, after)) : t.IsSound := by
  rw [lexName] at h
  split at h
  · cases h
    trivial
  · cases h

theorem isSound_lexToken {total : Nat} {c : Char} {rest after : List Char} {t : Token}
    (h : lexToken total c rest = .ok (t, after)) : t.IsSound := by
  rw [lexToken] at h
  split at h
  · cases h
    trivial
  split at h
  · cases h
  split at h
  · exact isSound_lexMoment h
  split at h
  · cases hs : lexString total rest with
    | error e =>
      rw [hs] at h
      cases h
    | ok p =>
      rw [hs] at h
      cases h
      trivial
  split at h
  · exact isSound_lexName h
  split at h
  · have hword := isSound_lexWord c rest
    rwa [Except.ok.inj h] at hword
  split at h
  · rename_i hc
    have hnumber := isSound_lexNumber hc rest
    rwa [Except.ok.inj h] at hnumber
  · cases h

/-- The tokens of a text can come out of a text. -/
theorem areSound_tokensFrom {total : Nat} {cs : List Char} {ts : List Token}
    (h : tokensFrom total cs = .ok ts) : AreSound ts := by
  fun_induction tokensFrom total cs generalizing ts with
  | case1 cs hs =>
    cases h
    intro t ht
    rw [List.mem_singleton.1 ht]
    trivial
  | case2 => cases h
  | case3 cs c rest hs t after ht _ ih =>
    cases hrest : tokensFrom total after with
    | error e =>
      rw [hrest] at h
      cases h
    | ok us =>
      rw [hrest] at h
      cases h
      intro u hu
      rcases List.mem_cons.1 hu with rfl | hu
      · exact isSound_lexToken ht
      · exact ih hrest u hu

/-- The condition of a statement that is read from a text. -/
theorem isRead_ofText {text : String} {select : Select} (h : Select.ofText text = .ok select) :
    select.IsRead := by
  rw [Select.ofText, tokenize] at h
  cases hts : tokensFrom text.toList.length text.toList with
  | error e =>
    rw [hts] at h
    cases h
  | ok ts =>
    rw [hts] at h
    have hselect : Gives Select.IsRead (Select.ofTokens ts) := by
      rw [Select.ofTokens, readSelect]
      refine .bind (gives_selectWith (isSound_expressionBelow _) _ (areSound_tokensFrom hts))
        fun query hquery => ?_
      have hend : ∀ rest, Gives Select.IsRead (if current rest = .eof then .ok query.value
          else .error (.unexpectedToken (current rest))) := by
        intro rest
        split
        · exact .ok hquery.1
        · exact .error _
      exact hend _
    exact hselect select h

end TypedFilter.Sql
