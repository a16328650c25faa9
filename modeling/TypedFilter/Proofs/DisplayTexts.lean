import TypedFilter.Proofs.CodeLookups
import TypedFilter.Proofs.Meaning
import TypedFilter.Proofs.Placeholders
import TypedFilter.Proofs.StoredForms

/-!
Display values in clauses. Main statement: where each code of a field shows a text of its own, a
clause that compares the field with such texts means the identifiers and is shown as the clause, if
and only if no colon, which separates the parts of display values, is in the texts.
-/

namespace TypedFilter

/-! ### Pieces of texts -/

theorem notMem_of_mem_splitOn {c : Char} {cs piece : List Char} (h : piece ∈ cs.splitOn c) :
    c ∉ piece := by
  rw [List.splitOn_eq_splitOnP] at h
  induction cs generalizing piece with
  | nil =>
    rw [List.splitOnP_nil, List.mem_singleton] at h
    simp [h]
  | cons a cs ih =>
    rw [List.splitOnP_cons_eq_if_modifyHead] at h
    split at h
    · rcases List.mem_cons.1 h with rfl | h
      · exact List.not_mem_nil
      · exact ih h
    · rename_i hne
      obtain ⟨first, rest, hsplit⟩ := List.exists_cons_of_ne_nil (List.splitOnP_ne_nil (· == c) cs)
      rw [hsplit, List.modifyHead_cons] at h
      rcases List.mem_cons.1 h with rfl | h
      · have hfirst := ih (hsplit ▸ List.mem_cons_self ..)
        rw [List.mem_cons, not_or]
        exact ⟨fun heq => hne (beq_iff_eq.2 heq.symm), hfirst⟩
      · exact ih (hsplit ▸ List.mem_cons_of_mem first h)

/-- A text that contains a character is split by it into several pieces. -/
theorem length_splitOn_ne_one {c : Char} {cs : List Char} (h : c ∈ cs) :
    (cs.splitOn c).length ≠ 1 := by
  intro hlen
  obtain ⟨piece, hpiece⟩ := List.length_eq_one_iff.1 hlen
  have hjoin : [c].intercalate (cs.splitOn c) = cs := List.intercalate_splitOn c
  rw [hpiece, List.intercalate_singleton] at hjoin
  exact notMem_of_mem_splitOn (hpiece ▸ List.mem_singleton_self piece) (hjoin ▸ h)

theorem mem_intercalate {c : Char} {sep : String} {ss : List String}
    (h : c ∈ (String.intercalate sep ss).toList) : c ∈ sep.toList ∨ ∃ s ∈ ss, c ∈ s.toList := by
  induction ss with
  | nil => cases h
  | cons s ss ih =>
    cases ss with
    | nil =>
      rw [String.intercalate_singleton] at h
      exact .inr ⟨s, List.mem_singleton_self s, h⟩
    | cons s' ss =>
      rw [String.intercalate_cons_cons, String.toList_append, String.toList_append,
        List.mem_append, List.mem_append] at h
      rcases h with (h | h) | h
      · exact .inr ⟨s, List.mem_cons_self .., h⟩
      · exact .inl h
      · rcases ih h with h | ⟨t, ht, h⟩
        · exact .inl h
        · exact .inr ⟨t, List.mem_cons_of_mem s ht, h⟩

namespace CodeTable

/-! ### Codes that show one text each -/

variable {name : String} {codes : List (Value × List Value)} {type : DataType}
  {texts : List (Value × String)} {c : Value × String}

/-- Codes with identifiers that are all different stand in the table as they were added. -/
theorem codes_ofCodes (h : (codes.map fun c => key [c.1]).Nodup) :
    (ofCodes name codes).codes = codes := by
  induction codes using List.reverseRecOn with
  | nil => rfl
  | append_singleton codes c ih =>
    rw [List.map_append, List.nodup_append] at h
    have hcodes := ih h.1
    have hnone : (ofCodes name codes).byId.get? (key [c.1]) = none := by
      rw [Option.eq_none_iff_forall_ne_some]
      intro place hplace
      obtain ⟨id, values, hcode, hkey⟩ := (isIndexed_ofCodes name codes).byId.1 hplace
      rw [hcodes] at hcode
      exact h.2.2 _ (List.mem_map_of_mem (List.mem_of_getElem? hcode)) _
        (List.mem_singleton_self _) hkey
    rw [ofCodes_concat]
    simp only [add, hnone, hcodes]

/-- The table of codes that show one text each. -/
def ofTexts (name : String) (texts : List (Value × String)) : CodeTable :=
  ofCodes name (texts.map fun c => (c.1, [.string c.2]))

/-- Whether the identifiers are of the type and different, and each text is found by a key of its
own, which is not that of an identifier either. -/
structure AreDistinct (type : DataType) (texts : List (Value × String)) : Prop where
  typed : ∀ c ∈ texts, type.holds c.1 = true
  once : (texts.map fun c => key [c.1]).Nodup
  distinct : (texts.map fun c => key [.string c.2]).Nodup
  apart : ∀ c ∈ texts, ∀ c' ∈ texts, key [.string c.2] ≠ key [c'.1]

theorem codes_ofTexts (h : AreDistinct type texts) :
    (ofTexts name texts).codes = texts.map fun c => (c.1, [.string c.2]) :=
  codes_ofCodes (by rw [List.map_map]; exact h.once)

theorem isIndexed_ofTexts (name : String) (texts : List (Value × String)) :
    (ofTexts name texts).IsIndexed :=
  isIndexed_ofCodes name _

/-- The keys of a code lead to the place where it stands. -/
theorem exists_place (name : String) (h : AreDistinct type texts) (hc : c ∈ texts) :
    ∃ place, (ofTexts name texts).codes[place]? = some (c.1, [.string c.2]) ∧
      (ofTexts name texts).byId.get? (key [c.1]) = some place ∧
      (ofTexts name texts).byValues.get? (key [.string c.2]) = some place := by
  have hmem : (c.1, [Value.string c.2]) ∈ (ofTexts name texts).codes := by
    rw [codes_ofTexts h]
    exact List.mem_map_of_mem hc
  obtain ⟨place, hcode⟩ := List.mem_iff_getElem?.1 hmem
  have hfinds : (ofTexts name texts).FindsAll _ :=
    findsAll_ofCodes name (by rw [List.map_map]; exact h.distinct)
  exact ⟨place, hcode, (isIndexed_ofTexts name texts).byId.2 ⟨_, _, hcode, rfl⟩,
    (hfinds place _ _ hcode).2⟩

theorem mem_of_code (h : AreDistinct type texts) {place : Nat} {id : Value} {values : List Value}
    (hcode : (ofTexts name texts).codes[place]? = some (id, values)) :
    ∃ s, (id, s) ∈ texts ∧ values = [.string s] := by
  rw [codes_ofTexts h] at hcode
  obtain ⟨c, hc, heq⟩ := List.mem_map.1 (List.mem_of_getElem? hcode)
  cases heq
  exact ⟨c.2, hc, rfl⟩

theorem identifier?_text (h : AreDistinct type texts) (hc : c ∈ texts) :
    (ofTexts name texts).identifier? [.string c.2] = some c.1 := by
  obtain ⟨place, hcode, -, hvalues⟩ := exists_place name h hc
  have hnotId : ∀ v, [Value.string c.2] = [v] →
      ∀ id ∈ (ofTexts name texts).identifiers, ¬Agree id v := by
    rintro v hv id hid hagree
    cases hv
    rw [identifiers, codes_ofTexts h, List.map_map] at hid
    obtain ⟨c', hc', rfl⟩ := List.mem_map.1 hid
    exact h.apart c hc c' hc' (key_singleton_eq_iff.2 hagree).symm
  rw [identifier?_of_not_identifier (isIndexed_ofTexts name texts) rfl hnotId, hvalues,
    Option.bind_some, identifierAt?, hcode, Option.map_some]

theorem displayOf?_identifier (h : AreDistinct type texts) (hc : c ∈ texts) :
    Literal.displayOf? (ofTexts name texts) c.1 = some (.string c.2) := by
  obtain ⟨place, hcode, hplace, -⟩ := exists_place name h hc
  have hvalues := (isIndexed_ofTexts name texts).values?_eq_some_iff.2 ⟨place, c.1, hplace, hcode⟩
  rw [Literal.displayOf?, hvalues]

/-- An identifier stands for itself. -/
theorem identifierFor?_identifier (h : AreDistinct type texts) (hc : c ∈ texts) :
    (ofTexts name texts).identifierFor? c.1 = some c.1 := by
  obtain ⟨place, hcode, -, -⟩ := exists_place name h hc
  exact (isIndexed_ofTexts name texts).identifierFor?_self
    (DataType.isNull_of_holds (h.typed c hc)) hcode

/-- A code is the only one with its identifier. -/
theorem AreDistinct.eq_of_identifier (h : AreDistinct type texts) {s : String} (hc : c ∈ texts)
    (hs : (c.1, s) ∈ texts) : s = c.2 :=
  congrArg Prod.snd (List.inj_on_of_nodup_map h.once hs hc rfl)

/-- The pieces of a text with a colon are not found as a display value of its code. -/
theorem identifier?_pieces_ne (h : AreDistinct type texts) (hc : c ∈ texts)
    (hcolon : ':' ∈ c.2.toList) :
    (ofTexts name texts).identifier?
      ((c.2.toList.splitOn ':').map fun piece => .string (String.ofList piece)) ≠ some c.1 := by
  intro hfound
  have hlen := length_splitOn_ne_one hcolon
  have hnotId : ∀ v, (c.2.toList.splitOn ':').map (fun piece => .string (String.ofList piece)) =
      [v] → ∀ id ∈ (ofTexts name texts).identifiers, ¬Agree id v := by
    intro v hv
    have hone := congrArg List.length hv
    rw [List.length_map] at hone
    exact absurd hone hlen
  have hnull : ((c.2.toList.splitOn ':').map fun piece =>
      Value.string (String.ofList piece)).all Value.isNull = false := by
    obtain ⟨piece, rest, hsplit⟩ :=
      List.exists_cons_of_ne_nil (List.splitOn_ne_nil ':' c.2.toList)
    rw [hsplit]
    rfl
  rw [identifier?_of_not_identifier (isIndexed_ofTexts name texts) hnull hnotId] at hfound
  obtain ⟨place, hplace, hat⟩ := Option.bind_eq_some_iff.1 hfound
  obtain ⟨id, values, hcode, hkey⟩ := (isIndexed_ofTexts name texts).byValues hplace
  rw [identifierAt?, hcode, Option.map_some, Option.some.injEq] at hat
  obtain ⟨s, hs, rfl⟩ := mem_of_code h hcode
  obtain rfl : id = c.1 := hat
  rw [h.eq_of_identifier hc hs] at hkey
  -- the key of the text has the colon, and none of the keys of its pieces does
  have hkept : ':' ∈ (key [Value.string c.2]).toList := by
    rw [key, List.map_singleton, String.intercalate_singleton]
    exact (Text.mem_lowercase (by decide)).2 hcolon
  rw [hkey, key] at hkept
  rcases mem_intercalate hkept with hmem | ⟨k, hk, hmem⟩
  · exact absurd hmem (by decide)
  · obtain ⟨v, hv, rfl⟩ := List.mem_map.1 hk
    obtain ⟨piece, hpiece, rfl⟩ := List.mem_map.1 hv
    have hcolon' := (Text.mem_lowercase (by decide)).1 hmem
    rw [Value.plainText, String.toList_ofList] at hcolon'
    exact notMem_of_mem_splitOn hpiece hcolon'

end CodeTable

/-! ### Literals -/

/-- The literal that holds the identifier of a code, shows its text and is bound to a field. -/
def Literal.ofCode (f : Field) (c : Value × String) : Literal :=
  ⟨c.1, some (.string c.2), some f⟩

namespace Expr

variable {d : Definition} {f : Field} {name : String} {texts cs : List (Value × String)}
  {c : Value × String} {op : String}

/-- The field stores an identifier as it is. -/
theorem storeLenient_identifier (htable : f.codeTable = some (.ofTexts name texts))
    (h : CodeTable.AreDistinct f.type texts) (hc : c ∈ texts) : f.storeLenient c.1 = c.1 := by
  refine Field.storeLenient_of_store
    ((Field.store_eq_ok_iff (DataType.isNull_of_holds (h.typed c hc))).2 ?_)
  rw [htable, Option.bind_some, CodeTable.identifierFor?_identifier h hc, Option.getD_some]
  exact DataType.convert_of_holds (h.typed c hc)

theorem forFieldStrict_of_identifier? {table : CodeTable} {v : Value}
    (htable : f.codeTable = some table) (hnull : v.isNull = false)
    (hid : Literal.identifier? table v = some c.1) (ht : f.type.holds c.1 = true)
    (hdisplay : Literal.displayOf? table c.1 = some (.string c.2)) :
    Literal.forFieldStrict f v = .ok (.ofCode f c) := by
  refine forFieldStrict_eq_ok_iff.2
    (.inr ⟨table, c.1, c.1, htable, hnull, hid, DataType.convert_of_holds ht, ?_⟩)
  rw [hdisplay, Literal.ofCode]

theorem operandValue_string (s : String) (h : ':' ∉ s.toList) :
    operandValue f (.string s) = .string s := by
  have hcontains : s.toList.contains ':' = false := by simpa using h
  rw [operandValue, hcontains, Bool.and_false, if_neg Bool.false_ne_true]

/-- A text without a colon becomes the literal of its code. -/
theorem coerceLiteral_text (htable : f.codeTable = some (.ofTexts name texts))
    (h : CodeTable.AreDistinct f.type texts) (hc : c ∈ texts) (hcolon : ':' ∉ c.2.toList) :
    coerceLiteral f op { value := .string c.2 } = .ok (.literal (.ofCode f c)) := by
  refine coerceLiteral_eq_ok_iff.2 ⟨rfl, _, ?_, DataType.isNull_of_holds (h.typed c hc), rfl⟩
  rw [operandValue_string c.2 hcolon]
  exact forFieldStrict_of_identifier? htable rfl (CodeTable.identifier?_text h hc) (h.typed c hc)
    (CodeTable.displayOf?_identifier h hc)

/-- A text with a colon does not become its identifier. -/
theorem notMem_of_coerceLiteral (htable : f.codeTable = some (.ofTexts name texts))
    (h : CodeTable.AreDistinct f.type texts) (hc : c ∈ texts) {l : Literal}
    (hl : coerceLiteral f op { value := .string c.2 } = .ok (.literal l))
    (hbound : l.bound = c.1) : ':' ∉ c.2.toList := by
  intro hcolon
  obtain ⟨-, bound, hstrict, -, heq⟩ := coerceLiteral_eq_ok_iff.1 hl
  obtain rfl : l = bound := Expr.literal.inj heq
  have hcontains : c.2.toList.contains ':' = true := by simpa using hcolon
  have hpieces : operandValue f (.string c.2) =
      .list ((c.2.toList.splitOn ':').map fun piece => .string (String.ofList piece)) := by
    simp only [operandValue, htable, hcontains, Option.isSome_some, Bool.and_self, if_true]
  simp only [hpieces, Literal.forFieldStrict, htable, Value.isNull, Literal.identifier?,
    Bool.false_eq_true, if_false] at hstrict
  split at hstrict
  · cases hstrict
  · rename_i id hid
    obtain ⟨place, values, hcode⟩ := CodeTable.exists_code_of_identifier? hid
    obtain ⟨s, hs, -⟩ := CodeTable.mem_of_code h hcode
    rw [DataType.convert_of_holds (h.typed _ hs)] at hstrict
    cases hstrict
    have hsame : f.storeLenient id = id := storeLenient_identifier htable h hs
    obtain rfl : id = c.1 := hsame.symm.trans hbound
    exact CodeTable.identifier?_pieces_ne h hc hcolon hid

/-! ### Clauses -/

/-- Whether a clause means a condition with some parameters that is shown as the clause. -/
def Resolves (d : Definition) (clause : String) (ids : List Value) : Prop :=
  ∃ e, ofClause (some d) clause = .ok e ∧ e.parameters = ids ∧ e.text = clause

theorem every_isLegible_ofCode (f : Field) (c : Value × String) :
    (literal (.ofCode f c)).Every IsLegible :=
  .leaf trivial rfl

theorem every_isLegible_ofField (f : Field) : (ofField f).Every IsLegible :=
  .leaf (fun x hx => by cases hx) rfl

/-- What texts beside a field mean. -/
theorem ofExpressions_texts {es : List Expr} :
    ofExpressions (some d) (coerceOperand (some f) op)
        (cs.map fun c => .literal (.string c.2)) = .ok es ↔
      List.Forall₂ (fun c e => coerceLiteral f op { value := .string c.2 } = .ok e) cs es := by
  rw [ofExpressions_eq_ok_iff, List.forall₂_map_left_iff]
  have hone : ∀ c : Value × String, ∀ e, (∃ a, ofExpression (some d) (.literal (.string c.2)) =
      .ok a ∧ coerceOperand (some f) op a = .ok e) ↔
        coerceLiteral f op { value := .string c.2 } = .ok e := by
    intro c e
    exact ⟨fun ⟨_, ha, he⟩ => (by cases ha; exact he), fun he => ⟨_, rfl, he⟩⟩
  simp only [hone]

/-- The parameters of literals that texts became are identifiers of the texts only if no text has a
colon. -/
theorem notMem_of_parameters (htable : f.codeTable = some (.ofTexts name texts))
    (h : CodeTable.AreDistinct f.type texts) {es : List Expr}
    (hes : List.Forall₂ (fun c e => coerceLiteral f op { value := .string c.2 } = .ok e) cs es)
    (hcs : ∀ c ∈ cs, c ∈ texts) (hids : (literalsOf es).map Literal.bound = cs.map Prod.fst) :
    ∀ c ∈ cs, ':' ∉ c.2.toList := by
  induction hes with
  | nil => simp
  | @cons c e cs es he _ ih =>
    obtain ⟨hc, hcs⟩ := List.forall_mem_cons.1 hcs
    obtain ⟨-, l, -, -, rfl⟩ := coerceLiteral_eq_ok_iff.1 he
    obtain ⟨hbound, hids⟩ := List.cons.inj hids
    exact List.forall_mem_cons.2 ⟨notMem_of_coerceLiteral htable h hc he hbound, ih hcs hids⟩

theorem literalsOf_ofCode (f : Field) (cs : List (Value × String)) :
    literalsOf (cs.map fun c => literal (.ofCode f c)) = cs.map (.ofCode f) := by
  induction cs with
  | nil => rfl
  | cons c cs ih =>
    rw [List.map_cons, literalsOf, ih, List.map_cons, literals, List.singleton_append]

theorem map_bound_ofCode (htable : f.codeTable = some (.ofTexts name texts))
    (h : CodeTable.AreDistinct f.type texts) (hcs : ∀ c ∈ cs, c ∈ texts) :
    (cs.map (Literal.ofCode f)).map Literal.bound = cs.map Prod.fst := by
  rw [List.map_map]
  exact List.map_congr_left fun c hc => storeLenient_identifier htable h (hcs c hc)

/-- What a comparison with a text means. -/
theorem ofClause_equal (hf : d.field? f.name = some f) (c : Value × String) :
    ofClause (some d) (equal (ofField f) (.literal (.ofCode f c))).text =
      (coerceLiteral f "=" { value := .string c.2 }).map (.compare .equal (ofField f)) := by
  have hlegible : (equal (ofField f) (.literal (.ofCode f c))).Every IsLegible :=
    .two (List.forall_mem_cons.2 ⟨rfl, List.forall_mem_singleton.2 rfl⟩) rfl
      (every_isLegible_ofField f) (every_isLegible_ofCode f c)
  have hflat : (equal (ofField f) (.literal (.ofCode f c))).Every IsFlat :=
    .two trivial rfl (.leaf trivial rfl) (.leaf trivial rfl)
  rw [ofClause_text (some d) hlegible hflat rfl]
  show ofExpression (some d) (.binary .equal (.column f.name) (.literal (.string c.2))) = _
  simp only [ofExpression, resolveColumn, hf, Bind.bind, Except.bind]
  rfl

/-- What a list of texts means. -/
theorem ofClause_inList (hf : d.field? f.name = some f) (hne : cs ≠ []) :
    ofClause (some d) (inList (ofField f) (cs.map fun c => .literal (.ofCode f c))).text =
      (ofExpressions (some d) (coerceOperand (some f) "IN")
        (cs.map fun c => .literal (.string c.2))).map (inList (ofField f)) := by
  have hitems : ∀ {p : Expr → Prop}, (∀ c, (literal (.ofCode f c)).Every p) →
      ∀ x ∈ cs.map (fun c => literal (.ofCode f c)), x.Every p := by
    intro p hp x hx
    obtain ⟨c, -, rfl⟩ := List.mem_map.1 hx
    exact hp c
  have hlegible :
      (inList (ofField f) (cs.map fun c => .literal (.ofCode f c))).Every IsLegible := by
    have hcollection : (collection (cs.map fun c => literal (.ofCode f c))).IsLegible := by
      refine ⟨by simpa using hne, fun x hx => ?_⟩
      obtain ⟨c, -, rfl⟩ := List.mem_map.1 hx
      rfl
    exact .two ⟨rfl, rfl⟩ rfl (every_isLegible_ofField f)
      ⟨_, hcollection, hitems (every_isLegible_ofCode f)⟩
  have hflat : (inList (ofField f) (cs.map fun c => .literal (.ofCode f c))).Every IsFlat :=
    .two trivial rfl (.leaf trivial rfl) ⟨_, trivial, hitems fun c => .leaf trivial rfl⟩
  have hreading : readingAll (cs.map fun c => literal (.ofCode f c)) =
      cs.map fun c => .literal (.string c.2) := by
    rw [readingAll_eq_map, List.map_map]
    rfl
  have hcoerce : coerceOperand (ofField f).columnField? "IN" = coerceOperand (some f) "IN" := rfl
  rw [ofClause_text (some d) hlegible hflat rfl]
  show ofExpression (some d) (.inList (.column f.name) (readingAll _) false) = _
  simp only [hreading, ofExpression, resolveColumn, hf, hcoerce, Bind.bind, Except.bind]
  cases ofExpressions (some d) (coerceOperand (some f) "IN")
    (cs.map fun c => .literal (.string c.2)) <;> rfl

/-- What two texts as bounds mean. -/
theorem ofClause_between (hf : d.field? f.name = some f) (low high : Value × String) :
    ofClause (some d)
        (between (ofField f) (.literal (.ofCode f low)) (.literal (.ofCode f high))).text =
      (coerceLiteral f "BETWEEN" { value := .string low.2 } >>= fun l =>
        (coerceLiteral f "BETWEEN" { value := .string high.2 }).map (.between (ofField f) l)) := by
  let e := between (ofField f) (.literal (.ofCode f low)) (.literal (.ofCode f high))
  have hparts : ∀ {p : Expr → Prop}, (ofField f).Every p → (∀ c, (literal (.ofCode f c)).Every p) →
      ∀ x ∈ e.operands, x.Every p :=
    fun hx hl => List.forall_mem_cons.2 ⟨hx, List.forall_mem_cons.2
      ⟨hl low, List.forall_mem_singleton.2 (hl high)⟩⟩
  have hlegible : e.Every IsLegible :=
    ⟨_, List.forall_mem_cons.2 ⟨rfl, List.forall_mem_cons.2 ⟨rfl, List.forall_mem_singleton.2 rfl⟩⟩,
      hparts (every_isLegible_ofField f) (every_isLegible_ofCode f)⟩
  have hflat : e.Every IsFlat :=
    ⟨_, trivial, hparts (.leaf trivial rfl) fun c => .leaf trivial rfl⟩
  have hcoerce : ∀ v, coerceOperand (Column.ofField f).field "BETWEEN" (ofValue v) =
      coerceLiteral f "BETWEEN" { value := v } := fun _ => rfl
  rw [ofClause_text (some d) hlegible hflat rfl]
  show ofExpression (some d) (.between (.column f.name) (.literal (.string low.2))
    (.literal (.string high.2)) false) = _
  simp only [ofExpression, resolveColumn, hf, ofField, hcoerce, Bind.bind, Except.bind]
  cases coerceLiteral f "BETWEEN" { value := .string low.2 } with
  | error => rfl
  | ok l => cases coerceLiteral f "BETWEEN" { value := .string high.2 } <;> rfl

/-- A comparison with a text resolves if and only if the text has no colon. -/
theorem resolves_equal_iff (hf : d.field? f.name = some f)
    (htable : f.codeTable = some (.ofTexts name texts))
    (h : CodeTable.AreDistinct f.type texts) (hc : c ∈ texts) :
    Resolves d (Sql.quoteName f.name ++ " = " ++ (Value.string c.2).text) [c.1] ↔
      ':' ∉ c.2.toList := by
  have htext : Sql.quoteName f.name ++ " = " ++ (Value.string c.2).text =
      (equal (ofField f) (.literal (.ofCode f c))).text := by
    show _ = Sql.quoteName f.name ++ " " ++ "=" ++ " " ++ (Value.string c.2).text
    rw [show " = " = " " ++ "=" ++ " " from rfl]
    simp only [String.append_assoc]
  rw [htext]
  constructor
  · rintro ⟨e, he, hids, -⟩
    rw [ofClause_equal hf] at he
    obtain ⟨x, hx, rfl⟩ := exists_of_map_ok he
    obtain ⟨-, l, -, -, rfl⟩ := coerceLiteral_eq_ok_iff.1 hx
    rw [parameters_eq] at hids
    exact notMem_of_coerceLiteral htable h hc hx (List.cons.inj hids).1
  · intro hcolon
    refine ⟨_, ?_, ?_, rfl⟩
    · rw [ofClause_equal hf, coerceLiteral_text htable h hc hcolon]
      rfl
    · rw [parameters_eq]
      exact congrArg (· :: []) (storeLenient_identifier htable h hc)

/-- A list of texts resolves if and only if none of them has a colon. -/
theorem resolves_inList_iff (hf : d.field? f.name = some f)
    (htable : f.codeTable = some (.ofTexts name texts))
    (h : CodeTable.AreDistinct f.type texts) (hne : cs ≠ []) (hcs : ∀ c ∈ cs, c ∈ texts) :
    Resolves d (Sql.quoteName f.name ++ " IN (" ++
        String.intercalate ", " (cs.map fun c => (Value.string c.2).text) ++ ")")
        (cs.map Prod.fst) ↔
      ∀ c ∈ cs, ':' ∉ c.2.toList := by
  have htext : Sql.quoteName f.name ++ " IN (" ++
      String.intercalate ", " (cs.map fun c => (Value.string c.2).text) ++ ")" =
      (inList (ofField f) (cs.map fun c => .literal (.ofCode f c))).text := by
    have hitems : writeAll (fun l => l.displayed.text) 0 (cs.map fun c => literal (.ofCode f c)) =
        cs.map fun c => (Value.string c.2).text := by
      rw [writeAll_eq_map, List.map_map]
      rfl
    show _ = Sql.quoteName f.name ++ " IN " ++ ("(" ++ String.intercalate ", "
      (writeAll (fun l => l.displayed.text) 0 _) ++ ")")
    rw [hitems, show " IN (" = " IN " ++ "(" from rfl]
    simp only [String.append_assoc]
  rw [htext]
  constructor
  · rintro ⟨e, he, hids, -⟩
    rw [ofClause_inList hf hne] at he
    obtain ⟨es, hes, rfl⟩ := exists_of_map_ok he
    rw [parameters_eq] at hids
    exact notMem_of_parameters htable h (ofExpressions_texts.1 hes) hcs hids
  · intro hcolon
    have hes : List.Forall₂ (fun c e => coerceLiteral f "IN" { value := .string c.2 } = .ok e) cs
        (cs.map fun c => .literal (.ofCode f c)) := by
      rw [List.forall₂_map_right_iff, List.forall₂_same]
      exact fun c hc => coerceLiteral_text htable h (hcs c hc) (hcolon c hc)
    refine ⟨_, ?_, ?_, rfl⟩
    · rw [ofClause_inList hf hne, ofExpressions_texts.2 hes]
      rfl
    · rw [parameters_eq]
      show (literalsOf _).map Literal.bound = _
      rw [literalsOf_ofCode, map_bound_ofCode htable h hcs]

/-- Two bounds resolve if and only if neither text has a colon. -/
theorem resolves_between_iff (hf : d.field? f.name = some f)
    (htable : f.codeTable = some (.ofTexts name texts))
    (h : CodeTable.AreDistinct f.type texts) {low high : Value × String} (hlow : low ∈ texts)
    (hhigh : high ∈ texts) :
    Resolves d (Sql.quoteName f.name ++ " BETWEEN " ++ (Value.string low.2).text ++ " AND " ++
        (Value.string high.2).text) [low.1, high.1] ↔
      ':' ∉ low.2.toList ∧ ':' ∉ high.2.toList := by
  have htext : Sql.quoteName f.name ++ " BETWEEN " ++ (Value.string low.2).text ++ " AND " ++
      (Value.string high.2).text =
      (between (ofField f) (.literal (.ofCode f low)) (.literal (.ofCode f high))).text := rfl
  rw [htext]
  constructor
  · rintro ⟨e, he, hids, -⟩
    rw [ofClause_between hf] at he
    obtain ⟨x, hx, he⟩ := exists_of_bind_ok he
    obtain ⟨y, hy, rfl⟩ := exists_of_map_ok he
    obtain ⟨-, l, -, -, rfl⟩ := coerceLiteral_eq_ok_iff.1 hx
    obtain ⟨-, r, -, -, rfl⟩ := coerceLiteral_eq_ok_iff.1 hy
    rw [parameters_eq] at hids
    obtain ⟨hl, hids⟩ := List.cons.inj hids
    exact ⟨notMem_of_coerceLiteral htable h hlow hx hl,
      notMem_of_coerceLiteral htable h hhigh hy (List.cons.inj hids).1⟩
  · rintro ⟨hl, hh⟩
    refine ⟨_, ?_, ?_, rfl⟩
    · rw [ofClause_between hf, coerceLiteral_text htable h hlow hl,
        coerceLiteral_text htable h hhigh hh]
      rfl
    · rw [parameters_eq]
      have hmem : ∀ c ∈ [low, high], c ∈ texts :=
        List.forall_mem_cons.2 ⟨hlow, List.forall_mem_singleton.2 hhigh⟩
      exact map_bound_ofCode htable h hmem

/-- A clause that compares a field with texts of its codes means their identifiers, and is shown as
the clause, if and only if none of the texts has a colon: beside `=`, in a list and as bounds. -/
theorem display_texts_resolve {d : Definition} (hd : d.IsBuilt) {f : Field} (hf : f ∈ d.fields)
    {name : String} {texts : List (Value × String)}
    (htable : f.codeTable = some (.ofTexts name texts))
    (h : CodeTable.AreDistinct f.type texts) :
    (∀ c ∈ texts,
      Resolves d (Sql.quoteName f.name ++ " = " ++ (Value.string c.2).text) [c.1] ↔
        ':' ∉ c.2.toList) ∧
    (∀ cs, cs ≠ [] → (∀ c ∈ cs, c ∈ texts) →
      (Resolves d (Sql.quoteName f.name ++ " IN (" ++
          String.intercalate ", " (cs.map fun c => (Value.string c.2).text) ++ ")")
          (cs.map Prod.fst) ↔ ∀ c ∈ cs, ':' ∉ c.2.toList)) ∧
    ∀ low ∈ texts, ∀ high ∈ texts,
      Resolves d (Sql.quoteName f.name ++ " BETWEEN " ++ (Value.string low.2).text ++ " AND " ++
          (Value.string high.2).text) [low.1, high.1] ↔
        ':' ∉ low.2.toList ∧ ':' ∉ high.2.toList := by
  obtain ⟨i, hi⟩ := List.mem_iff_getElem?.1 hf
  have hfield := Definition.field?_of_getElem? hd hi
  exact ⟨fun c hc => resolves_equal_iff hfield htable h hc,
    fun cs hne hcs => resolves_inList_iff hfield htable h hne hcs,
    fun low hlow high hhigh => resolves_between_iff hfield htable h hlow hhigh⟩

/-- Texts with a quote and without a character, a quoted name, and a text with a colon. -/
theorem display_texts_resolve_states :
    let one : Value := .integer .int ⟨1, by decide⟩
    let two : Value := .integer .int ⟨2, by decide⟩
    let three : Value := .integer .int ⟨3, by decide⟩
    let four : Value := .integer .int ⟨4, by decide⟩
    let texts : List (Value × String) :=
      [(one, "Sold out"), (two, "it's"), (three, ""), (four, "a:b")]
    let state : Field :=
      { name := "Order State", title := "State", type := .integer .int,
        codeTable := some (.ofTexts "states" texts) }
    let d : Definition := .ofFields "/shop" 0 [state]
    (d.IsBuilt ∧ state ∈ d.fields ∧ CodeTable.AreDistinct (.integer .int) texts) ∧
      Resolves d "\"Order State\" = 'it''s'" [two] ∧
      Resolves d "\"Order State\" IN ('', 'Sold out')" [three, one] ∧
      Resolves d "\"Order State\" BETWEEN 'Sold out' AND ''" [one, three] ∧
      ¬Resolves d "\"Order State\" = 'a:b'" [four] := by
  intro one two three four texts state d
  obtain ⟨hd, -⟩ := Definition.isBuilt_ofFields "/shop" 0
    (List.forall_mem_singleton.2 (show state.IsProper from fun v hv => by cases hv))
  have hf : state ∈ d.fields := by decide +kernel
  have hdistinct : CodeTable.AreDistinct (.integer .int) texts :=
    ⟨by decide +kernel, by decide +kernel, by decide +kernel, by decide +kernel⟩
  have hone : (one, "Sold out") ∈ texts := by simp [texts]
  have htwo : (two, "it's") ∈ texts := by simp [texts]
  have hthree : (three, "") ∈ texts := by simp [texts]
  have hfour : (four, "a:b") ∈ texts := by simp [texts]
  obtain ⟨hequal, hlist, hbetween⟩ := display_texts_resolve hd hf rfl hdistinct
  have hquote : Sql.quoteName state.name ++ " = " ++ (Value.string "it's").text =
      "\"Order State\" = 'it''s'" := by decide +kernel
  have hitems : Sql.quoteName state.name ++ " IN (" ++
      String.intercalate ", " [(Value.string "").text, (Value.string "Sold out").text] ++ ")" =
      "\"Order State\" IN ('', 'Sold out')" := by decide +kernel
  have hbounds : Sql.quoteName state.name ++ " BETWEEN " ++ (Value.string "Sold out").text ++
      " AND " ++ (Value.string "").text = "\"Order State\" BETWEEN 'Sold out' AND ''" := by
    decide +kernel
  have hcolon : Sql.quoteName state.name ++ " = " ++ (Value.string "a:b").text =
      "\"Order State\" = 'a:b'" := by decide +kernel
  have hmem : ∀ c ∈ [(three, ""), (one, "Sold out")], c ∈ texts :=
    List.forall_mem_cons.2 ⟨hthree, List.forall_mem_singleton.2 hone⟩
  refine ⟨⟨hd, hf, hdistinct⟩, ?_, ?_, ?_, ?_⟩
  · rw [← hquote]
    exact (hequal _ htwo).2 (by decide)
  · rw [← hitems]
    exact (hlist _ (List.cons_ne_nil _ _) hmem).2 (by decide)
  · rw [← hbounds]
    exact (hbetween _ hone _ hthree).2 (by decide)
  · rw [← hcolon]
    exact mt (hequal _ hfour).1 (by decide)

/-- A text with a colon is looked up as a display value of two parts, which is not there; outside of
clauses it leads to its identifier. -/
theorem text_with_colon_is_rejected :
    let one : Value := .integer .int ⟨1, by decide⟩
    let state : Field :=
      { name := "state", title := "State", type := .integer .int,
        codeTable := some (.ofTexts "states" [(one, "a:b")]) }
    let d : Definition := .ofFields "/shop" 0 [state]
    state ∈ d.fields ∧ CodeTable.AreDistinct (.integer .int) [(one, "a:b")] ∧
      (ofClause (some d) "state = 'a:b'").toOption = none ∧
      Literal.forField state (.string "a:b") = .ofCode state (one, "a:b") := by
  intro one state d
  exact ⟨by decide +kernel, ⟨by decide +kernel, by decide +kernel, by decide +kernel,
    by decide +kernel⟩, by decide +kernel, by decide +kernel⟩

end Expr

end TypedFilter
