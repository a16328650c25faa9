import TypedFilter.Proofs.Connectives
import TypedFilter.Proofs.Written

/-!
What the text of a tree is read as. Main statement: the text of a legible tree, in which no AND
stands directly inside an AND and no OR inside an OR, is read as the tree itself, at the level that
the tree has.
-/

namespace TypedFilter

/-- The operator of expressions for one of trees. -/
def ArithOp.binary : ArithOp → Sql.BinaryOp
  | .add => .plus
  | .subtract => .minus
  | .multiply => .multiply
  | .divide => .divide
  | .modulo => .modulo

/-- The expression that a comparison is read as. -/
def CompareOp.reading : CompareOp → Sql.Expression → Sql.Expression → Sql.Expression
  | .equal, l, r => .binary .equal l r
  | .notEqual, l, r => .binary .notEqual l r
  | .less, l, r => .binary .less l r
  | .lessEqual, l, r => .binary .lessEqual l r
  | .greater, l, r => .binary .greater l r
  | .greaterEqual, l, r => .binary .greaterEqual l r
  | .like, l, r => .like l r none false

namespace Expr

/-! ### The expression of a tree -/

/-- The number one. -/
def oneValue : Value :=
  .integer .int ⟨1, by decide⟩

/-- What the text of the condition that is always true is read as. -/
def trueReading : Sql.Expression :=
  .binary .equal (.literal oneValue) (.literal oneValue)

/-- Expressions with one operator between them, which binds to the left. -/
def chainReading (op : Sql.BinaryOp) : List Sql.Expression → Sql.Expression
  | [] => trueReading
  | x :: xs => xs.foldl (.binary op) x

/-- The items of a row. -/
def rowItems : Sql.Expression → List Sql.Expression
  | .row items => items
  | x => [x]

mutual

/-- The expression that the text of the tree is read as. -/
def reading : Expr → Sql.Expression
  | .literal l => l.displayed.reading
  | .column c => .column c.name
  | .collection es => .row (readingAll es)
  | .cast e type => .cast (reading e) type
  | .arithmetic op l r => .binary op.binary (reading l) (reading r)
  | .call f es => .function f.name (readingAll es)
  | .all => trueReading
  | .and es => chainReading .and (readingAll es)
  | .or es => chainReading .or (readingAll es)
  | .not e => .unary .not (reading e)
  | .between e low high => .between (reading e) (reading low) (reading high) false
  | .isIn e values => .inList (reading e) (rowItems (reading values)) false
  | .isNull e => .isNull (reading e) false
  | .isNotNull e => .isNull (reading e) true
  | .compare op l r => op.reading (reading l) (reading r)
  | .paren e => reading e

/-- The expressions of trees. -/
def readingAll : List Expr → List Sql.Expression
  | [] => []
  | e :: es => reading e :: readingAll es

end

theorem readingAll_eq_map (es : List Expr) : readingAll es = es.map reading := by
  induction es with
  | nil => rfl
  | cons e es ih => rw [readingAll, ih, List.map_cons]

theorem writeAll_eq_map (shown : Literal → String) (least : Nat) (es : List Expr) :
    writeAll shown least es = es.map fun e => enclosed least e (e.write shown) := by
  induction es with
  | nil => rfl
  | cons e es ih => rw [writeAll, ih, List.map_cons]

/-! ### Legible trees -/

/-- Whether the tree is a collection of values. -/
def isCollection : Expr → Bool
  | .collection _ => true
  | _ => false

/-- What can be read of a tree besides its operands. -/
def IsLegible : Expr → Prop
  | .literal l => l.displayed.IsPlain
  | .cast e type => e.isCollection = false ∧ Sql.IsTypeName type
  | .call _ es | .collection es => es ≠ [] ∧ ∀ x ∈ es, x.isCollection = false
  | .isIn e values => e.isCollection = false ∧ values.isCollection = true
  | e => ∀ x ∈ e.operands, x.isCollection = false

/-- Whether no AND stands directly inside the AND and no OR directly inside the OR. -/
def IsFlat : Expr → Prop
  | .and es => ∀ x ∈ es, x.isConjunction = false
  | .or es => ∀ x ∈ es, x.isDisjunction = false
  | _ => True

theorem reading_node (c : Connective) (es : List Expr) :
    (c.node es).reading = chainReading c.binary (readingAll es) := by
  cases c <;> rfl

theorem isLegible_node (c : Connective) {es : List Expr} :
    (c.node es).IsLegible ↔ ∀ x ∈ es, x.isCollection = false := by
  cases c <;> rfl

theorem isFlat_node (c : Connective) {es : List Expr} :
    (c.node es).IsFlat ↔ ∀ x ∈ es, c.isJoined x = false := by
  cases c <;> rfl

/-! ### Levels -/

theorem precedence_bounds (e : Expr) : 1 ≤ e.precedence ∧ e.precedence ≤ 7 := by
  cases e with
  | or es | and es =>
    rw [precedence]
    split <;> decide
  | arithmetic op => cases op <;> simp [precedence, ArithOp.precedence]
  | _ => simp [precedence]

/-- An operand can be read wherever its place asks for. -/
theorem written_enclosed {e : Expr} {s : String} {x : Sql.Expression} {least : Nat}
    (h : Sql.Written e.precedence s x) (hpos : 1 ≤ least) (hle : least ≤ 7) :
    Sql.Written least (enclosed least e s) x := by
  rw [enclosed]
  split
  · have hloose := h.mono (by decide) e.precedence_bounds.1 e.precedence_bounds.2
    exact hloose.bracketed.mono hpos hle (by decide)
  · exact h.mono hpos (by omega) e.precedence_bounds.2

/-- An operand that is not of the level that its place asks for is read one level below. -/
theorem written_link {e : Expr} {s : String} {x : Sql.Expression} {least : Nat}
    (h : Sql.Written e.precedence s x) (hne : e.precedence ≠ least) (hle : least ≤ 6) :
    Sql.Written (least + 1) (enclosed least e s) x := by
  rw [enclosed]
  split
  · exact (h.mono (by decide) e.precedence_bounds.1 e.precedence_bounds.2).bracketed.mono (by omega)
      (by omega) (by decide)
  · exact h.mono (by omega) (by omega) e.precedence_bounds.2

/-! ### Texts of trees -/

/-- The text of the condition that is always true is read as a comparison. -/
theorem written_trueText : Sql.Written 4 trueText trueReading := by
  have hdigits : Sql.Written 7 "1" (.literal oneValue) :=
    ⟨⟨⟨'1', rfl, rfl⟩, ⟨'1', rfl, rfl⟩⟩, _, Sql.lexes_digits (List.cons_ne_nil '1' []) rfl,
      Sql.reads_number rfl⟩
  have hone : Sql.Written 5 "1" (.literal oneValue) :=
    hdigits.mono (by decide) (by decide) (by decide)
  exact hone.compare rfl (Sql.lexes_compareOp .equal) hone

/-- What the text of a tree is read as; of a collection, the texts of its items. -/
def IsPrinted : Expr → Prop
  | .collection es => ∀ x ∈ es, Sql.Written x.precedence x.text x.reading
  | e => Sql.Written e.precedence e.text e.reading

theorem isPrinted_iff {e : Expr} (h : e.isCollection = false) :
    e.IsPrinted ↔ Sql.Written e.precedence e.text e.reading := by
  cases e with
  | collection => cases h
  | _ => rfl

theorem forall₂_written {p least : Nat} {es : List Expr}
    (h : ∀ x ∈ es, Sql.Written p (enclosed least x x.text) x.reading) :
    List.Forall₂ (Sql.Written p) (es.map fun x => enclosed least x x.text) (es.map reading) := by
  rw [List.forall₂_map_left_iff, List.forall₂_map_right_iff, List.forall₂_same]
  exact h

/-- The text of conditions with AND or OR between them. -/
theorem written_chain {op : Sql.BinaryOp} {p : Nat} {t : Sql.Token} {sep : String}
    (hp : Sql.isChained p = true) (hop : Sql.chainOp? p t = some op) (hle : p ≤ 6)
    (hsep : Sql.Separates sep t) {e : Expr} {es : List Expr}
    (h : ∀ x ∈ e :: es, Sql.Written x.precedence x.text x.reading ∧ x.precedence ≠ p) :
    Sql.Written p (String.intercalate sep (writeAll (fun l => l.displayed.text) p (e :: es)))
      (chainReading op (readingAll (e :: es))) := by
  have hpos : 1 ≤ p := by
    cases p with
    | zero => cases hp
    | succ p => omega
  have hlink : ∀ x ∈ e :: es, Sql.Written (p + 1) (enclosed p x x.text) x.reading :=
    fun x hx => written_link (h x hx).1 (h x hx).2 hle
  have hhead := (hlink e (List.mem_cons_self ..)).mono hpos (Nat.le_succ p) (by omega)
  have htail := forall₂_written fun x hx => hlink x (List.mem_cons_of_mem e hx)
  rw [writeAll_eq_map, readingAll_eq_map]
  exact hhead.foldl hp hop hsep htail

/-- Operands of comparisons are sums. -/
theorem written_operand {e : Expr} {s : String} {x : Sql.Expression}
    (h : Sql.Written e.precedence s x) : Sql.Written 5 (enclosed 5 e s) x :=
  written_enclosed h (by decide) (by decide)

theorem written_arithmetic {op : ArithOp} {l r : Expr}
    (hl : Sql.Written l.precedence l.text l.reading)
    (hr : Sql.Written r.precedence r.text r.reading) :
    Sql.Written (arithmetic op l r).precedence (arithmetic op l r).text
      (arithmetic op l r).reading := by
  have hp : Sql.isChained op.precedence = true := by cases op <;> rfl
  have hop : Sql.chainOp? op.precedence op.token = some op.binary := by cases op <;> rfl
  have hbounds : 1 ≤ op.precedence ∧ op.precedence ≤ 6 := by cases op <;> decide
  have hleft := written_enclosed hl hbounds.1 (by omega)
  have hright := written_enclosed hr (Nat.succ_pos op.precedence) (by omega)
  have h := hleft.binary hp hop (Sql.lexes_arithOp op) hright
  simpa only [text, write, precedence, reading, String.append_assoc] using h

theorem written_compare {op : CompareOp} {l r : Expr}
    (hl : Sql.Written l.precedence l.text l.reading)
    (hr : Sql.Written r.precedence r.text r.reading) :
    Sql.Written 4 (compare op l r).text (compare op l r).reading := by
  have hleft := written_operand hl
  have hright := written_operand hr
  have hop : Sql.Lexes op.text [op.token] := Sql.lexes_compareOp op
  have h : Sql.Written 4 (enclosed 5 l l.text ++ (" " ++ op.text ++ " ") ++ enclosed 5 r r.text)
      (op.reading l.reading r.reading) := by
    cases op with
    | like => exact hleft.like hop hright
    | equal | notEqual | less | lessEqual | greater | greaterEqual =>
      exact hleft.compare rfl hop hright
  simpa only [text, write, reading, String.append_assoc] using h

/-- A row of trees in places that ask for nothing. -/
theorem forall₂_row {es : List Expr} (h : ∀ x ∈ es, Sql.Written x.precedence x.text x.reading) :
    List.Forall₂ (Sql.Written 1) (writeAll (fun l => l.displayed.text) 0 es) (readingAll es) := by
  rw [writeAll_eq_map, readingAll_eq_map]
  refine forall₂_written fun x hx => ?_
  have hx' := (h x hx).mono (by decide) x.precedence_bounds.1 x.precedence_bounds.2
  rwa [enclosed, if_neg (Nat.not_lt_zero _)]

theorem isBareWord_name (f : Builtin) : Sql.IsBareWord f.name := by
  cases f <;> exact ⟨by decide, by decide⟩

theorem bordered_name (f : Builtin) : Text.Bordered f.name := by
  cases f <;> exact ⟨⟨_, rfl, rfl⟩, ⟨_, rfl, rfl⟩⟩

theorem written_call {f : Builtin} {es : List Expr} (hne : es ≠ [])
    (h : ∀ x ∈ es, Sql.Written x.precedence x.text x.reading) :
    Sql.Written 7 (call f es).text (call f es).reading := by
  have hrow := forall₂_row h
  obtain ⟨e, es, rfl⟩ := List.exists_cons_of_ne_nil hne
  rw [text, write, reading]
  rw [writeAll, readingAll] at hrow ⊢
  obtain ⟨hhead, htail⟩ := List.forall₂_cons.1 hrow
  exact hhead.call (isBareWord_name f) (bordered_name f) htail

theorem written_isIn {e : Expr} {es : List Expr} (hne : es ≠ [])
    (he : Sql.Written e.precedence e.text e.reading)
    (h : ∀ x ∈ es, Sql.Written x.precedence x.text x.reading) :
    Sql.Written 4 (isIn e (collection es)).text (isIn e (collection es)).reading := by
  have hrow := forall₂_row h
  obtain ⟨x, es, rfl⟩ := List.exists_cons_of_ne_nil hne
  rw [text, write, write, reading, reading]
  rw [writeAll, readingAll] at hrow ⊢
  obtain ⟨hhead, htail⟩ := List.forall₂_cons.1 hrow
  exact (written_operand he).inList hhead htail

theorem written_column (c : Column) : Sql.Written 7 (column c).text (column c).reading :=
  ⟨Sql.bordered_quoteName c.name, _, Sql.lexes_quoteName c.name, Sql.reads_column c.name⟩

theorem written_node {c : Connective} {es : List Expr}
    (h : ∀ x ∈ es, Sql.Written x.precedence x.text x.reading)
    (hflat : ∀ x ∈ es, c.isJoined x = false) :
    Sql.Written (c.node es).precedence (c.node es).text (c.node es).reading := by
  rw [text, Connective.write_node, Connective.precedence_node, reading_node]
  cases es with
  | nil => exact written_trueText
  | cons e es =>
    have hlink : ∀ x ∈ e :: es,
        Sql.Written x.precedence x.text x.reading ∧ x.precedence ≠ c.level :=
      fun x hx => ⟨h x hx, Connective.precedence_ne_level (hflat x hx)⟩
    cases c with
    | and => exact written_chain (p := 2) rfl rfl (by decide) Sql.separates_and hlink
    | or => exact written_chain (p := 1) rfl rfl (by decide) Sql.separates_or hlink

/-- The text of a legible tree is read as the tree. -/
theorem isPrinted_of_legible {e : Expr} (h : e.Every IsLegible) (hf : e.Every IsFlat) :
    e.IsPrinted := by
  induction h with
  | intro e hl hparts ih =>
    have ho : ∀ x ∈ e.operands, x.IsPrinted := fun x hx => ih x hx (hf.operand hx)
    have hw : ∀ x ∈ e.operands, x.isCollection = false →
        Sql.Written x.precedence x.text x.reading :=
      fun x hx hc => (isPrinted_iff hc).1 (ho x hx)
    cases e with
    | literal l => exact l.displayed.written hl
    | column c => exact written_column c
    | collection es => exact fun x hx => hw x hx (hl.2 x hx)
    | cast e type =>
      have he := hw e (List.mem_singleton_self e) hl.1
      exact (he.mono (by decide) e.precedence_bounds.1 e.precedence_bounds.2).cast hl.2
    | arithmetic op l r =>
      exact written_arithmetic (hw l (by simp [operands]) (hl l (by simp [operands])))
        (hw r (by simp [operands]) (hl r (by simp [operands])))
    | call f es => exact written_call hl.1 fun x hx => hw x hx (hl.2 x hx)
    | all => exact written_trueText
    | and es => exact written_node (c := .and) (fun x hx => hw x hx (hl x hx)) hf.node
    | or es => exact written_node (c := .or) (fun x hx => hw x hx (hl x hx)) hf.node
    | not e =>
      have he := hw e (List.mem_singleton_self e) (hl e (List.mem_singleton_self e))
      exact (written_enclosed he (by decide) (by decide)).not
    | between e low high =>
      have hin : ∀ x ∈ (between e low high).operands, Sql.Written x.precedence x.text x.reading :=
        fun x hx => hw x hx (hl x hx)
      exact (written_operand (hin e (by simp [operands]))).between
        (written_operand (hin low (by simp [operands])))
        (written_operand (hin high (by simp [operands])))
    | isIn e values =>
      have he := hw e (by simp [operands]) hl.1
      have hvalues : values ∈ (isIn e values).operands := by simp [operands]
      have hitems := ho values hvalues
      have hlegible := (hparts values hvalues).node
      cases values with
      | collection es => exact written_isIn hlegible.1 he hitems
      | _ => exact absurd hl.2 Bool.false_ne_true
    | isNull e =>
      have he := hw e (List.mem_singleton_self e) (hl e (List.mem_singleton_self e))
      exact (written_operand he).isNull
    | isNotNull e =>
      have he := hw e (List.mem_singleton_self e) (hl e (List.mem_singleton_self e))
      exact (written_operand he).isNotNull
    | compare op l r =>
      exact written_compare (hw l (by simp [operands]) (hl l (by simp [operands])))
        (hw r (by simp [operands]) (hl r (by simp [operands])))
    | paren e =>
      have he := hw e (List.mem_singleton_self e) (hl e (List.mem_singleton_self e))
      exact (he.mono (by decide) e.precedence_bounds.1 e.precedence_bounds.2).bracketed

end Expr

end TypedFilter
