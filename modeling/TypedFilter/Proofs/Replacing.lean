import TypedFilter.Expr.Revision
import TypedFilter.Proofs.Binding
import TypedFilter.Proofs.Placeholders

/-!
Another value at the place of one literal. The literals are counted while the tree is made anew, so
the place of a literal is the number that the count has reached there. Main statement: the literal
that is replaced is the one whose place the statement has under that number, and nothing else
changes.
-/

namespace TypedFilter.Expr

variable {change again : Nat → Literal → Literal}

/-! ### Counting the literals -/

mutual

/-- Counting goes from one operand to the next, so it reaches every literal with the number of the
literals before it. -/
theorem replaceLiteral_eq (index : Nat) (v : Value) (place : Nat) (e : Expr) :
    e.replaceLiteral index v place =
      (e.mapLiterals (fun i l => if i = index then l.withValue v else l) place,
        place + e.parameterCount) := by
  cases e <;>
    simp only [replaceLiteral, mapLiterals, parameterCount, replaceLiteral_eq, replaceLiterals_eq,
      Nat.add_assoc, Nat.add_zero]

theorem replaceLiterals_eq (index : Nat) (v : Value) (place : Nat) (es : List Expr) :
    replaceLiterals index v place es =
      (mapLiteralsOf (fun i l => if i = index then l.withValue v else l) place es,
        place + parameterCountOf es) := by
  cases es <;>
    simp only [replaceLiterals, mapLiteralsOf, parameterCountOf, replaceLiteral_eq,
      replaceLiterals_eq, Nat.add_assoc, Nat.add_zero]

end

theorem setValue_eq (index : Nat) (v : Value) (e : Expr) :
    e.setValue index v = e.mapLiterals (fun i l => if i = index then l.withValue v else l) 0 := by
  rw [setValue, replaceLiteral_eq]

/-! ### Changed literals -/

theorem parameterCount_mapLiterals (change : Nat → Literal → Literal) (start : Nat) (e : Expr) :
    (e.mapLiterals change start).parameterCount = e.parameterCount := by
  rw [← length_literals, literals_mapLiterals, List.length_mapIdx, length_literals]

mutual

/-- Literals that are changed twice are changed by both changes, one after the other. -/
theorem mapLiterals_mapLiterals (start : Nat) (e : Expr) :
    (e.mapLiterals change start).mapLiterals again start =
      e.mapLiterals (fun i l => again i (change i l)) start := by
  cases e <;>
    simp only [mapLiterals, mapLiterals_mapLiterals, mapLiteralsOf_mapLiteralsOf,
      parameterCount_mapLiterals]

theorem mapLiteralsOf_mapLiteralsOf (start : Nat) (es : List Expr) :
    mapLiteralsOf again start (mapLiteralsOf change start es) =
      mapLiteralsOf (fun i l => again i (change i l)) start es := by
  cases es <;>
    simp only [mapLiteralsOf, mapLiterals_mapLiterals, mapLiteralsOf_mapLiteralsOf,
      parameterCount_mapLiterals]

end

mutual

/-- A tree stays as it is when none of its literals changes. -/
theorem mapLiterals_eq_self (start : Nat) (e : Expr)
    (h : ∀ i l, i < start + e.parameterCount → change i l = l) :
    e.mapLiterals change start = e := by
  cases e with
  | literal l => rw [mapLiterals, h start l (by simp [parameterCount])]
  | column | all => rfl
  | collection es | call f es | and es | or es => rw [mapLiterals, mapLiteralsOf_eq_self start es h]
  | cast e | not e | isNull e | isNotNull e | paren e =>
    rw [mapLiterals, mapLiterals_eq_self start e h]
  | arithmetic op l r | compare op l r | isIn l r =>
    simp only [parameterCount] at h
    rw [mapLiterals, mapLiterals_eq_self start l fun i x hi => h i x (by omega),
      mapLiterals_eq_self _ r fun i x hi => h i x (by omega)]
  | between e low high =>
    simp only [parameterCount] at h
    simp only [mapLiterals]
    rw [mapLiterals_eq_self start e fun i x hi => h i x (by omega),
      mapLiterals_eq_self _ low fun i x hi => h i x (by omega),
      mapLiterals_eq_self _ high fun i x hi => h i x (by omega)]

theorem mapLiteralsOf_eq_self (start : Nat) (es : List Expr)
    (h : ∀ i l, i < start + parameterCountOf es → change i l = l) :
    mapLiteralsOf change start es = es := by
  cases es with
  | nil => rfl
  | cons e es =>
    simp only [parameterCountOf] at h
    rw [mapLiteralsOf, mapLiterals_eq_self start e fun i x hi => h i x (by omega),
      mapLiteralsOf_eq_self _ es fun i x hi => h i x (by omega)]

end

/-! ### One literal replaced -/

theorem literals_setValue (index : Nat) (v : Value) (e : Expr) :
    (e.setValue index v).literals = e.literals.modify index (·.withValue v) := by
  rw [setValue_eq, literals_mapLiterals]
  refine List.ext_getElem? fun i => ?_
  simp only [List.getElem?_mapIdx, List.getElem?_modify, Nat.zero_add, eq_comm (a := i)]
  rfl

/-- Past the last literal there is nothing to replace. -/
theorem setValue_of_le {index : Nat} {e : Expr} (h : e.parameterCount ≤ index) (v : Value) :
    e.setValue index v = e := by
  rw [setValue_eq]
  exact mapLiterals_eq_self 0 e fun i l hi => if_neg (by omega)

theorem spared_of_le {index : Nat} (start : Nat) (es : List Expr)
    (h : start + parameterCountOf es ≤ index) :
    Revision.spared index start es = es.map fun _ => true := by
  induction es generalizing start with
  | nil => rfl
  | cons e es ih =>
    rw [parameterCountOf] at h
    have hbefore : start + e.parameterCount ≤ index := by omega
    rw [Revision.spared, ih _ (by omega), decide_eq_true hbefore, Bool.or_true, List.map_cons]

theorem parameterCountOf_operands_le (e : Expr) :
    parameterCountOf e.operands ≤ e.parameterCount := by
  cases e <;> simp [operands, parameterCount, parameterCountOf, Nat.add_assoc]

theorem revision_setValue_of_le {index : Nat} {e : Expr} (h : e.parameterCount ≤ index)
    (v : Value) : Revision.setValue index v e = .unchanged e := by
  have hoperands := parameterCountOf_operands_le e
  rw [Revision.setValue, setValue_of_le h, spared_of_le 0 _ (by omega), decide_eq_true h,
    Revision.unchanged]

/-- The value is put at the place that the statement has under the number: the literal there becomes
one with the new value, bound to the field that it was bound to before, and no other literal,
parameter or part of the tree changes. A number without a place changes nothing, and makes nothing
anew. -/
theorem setValue_replaces_literal (index : Nat) (v : Value) (e : Expr) :
    (index < e.parameterCount → ∃ l w, e.literals[index]? = some l ∧
      (e.setValue index v).literals = e.literals.set index w ∧
      (e.setValue index v).parameters = e.parameters.set index w.bound ∧
      w.field = l.field ∧ (∀ f, l.field = some f → w = .forField f v) ∧
      (l.field = none → w = { value := v })) ∧
    (e.setValue index v).sql = e.sql ∧
    (∀ blank : Literal, (e.setValue index v).mapLiterals (fun _ _ => blank) 0 =
      e.mapLiterals (fun _ _ => blank) 0) ∧
    (e.parameterCount ≤ index →
      e.setValue index v = e ∧ Revision.setValue index v e = .unchanged e) := by
  refine ⟨fun h => ?_, ?_, fun blank => ?_, fun h => ?_⟩
  · rw [← length_literals] at h
    have hl := List.getElem?_eq_getElem h
    have hliterals : (e.setValue index v).literals =
        e.literals.set index (e.literals[index].withValue v) := by
      rw [literals_setValue, List.modify_eq_set_getElem?, hl]
      rfl
    refine ⟨_, _, hl, hliterals, ?_, ?_, fun f hf => ?_, fun hf => ?_⟩
    · rw [parameters_eq, parameters_eq, hliterals, List.map_set]
    · rw [Literal.withValue]
      split
      · rename_i f hf
        rw [field_forField, hf]
      · rename_i hf
        exact hf.symm
    · rw [Literal.withValue, hf]
    · rw [Literal.withValue, hf]
  · rw [setValue_eq, sql_mapLiterals]
  · rw [setValue_eq, mapLiterals_mapLiterals]
  · exact ⟨setValue_of_le h v, revision_setValue_of_le h v⟩

/-- The fourth of five literals, which is a code: the last item of a list behind an interval and
conditions that say nothing. A sixth one there is not. -/
theorem setValue_replaces_literal_code :
    let number (n : Int) (h : IntWidth.int.Holds n) : Value := .integer .int ⟨n, h⟩
    let one := number 1 (by decide)
    let nine := number 9 (by decide)
    let codes : List (Value × List Value) := [(one, [.string "Open"]), (nine, [.string "Shut"])]
    let state : Field :=
      { Field.ofType "state" (.integer .int) with codeTable := some (.ofCodes "states" codes) }
    let e : Expr := .and [
      .all, .between (.ofName "size") (.ofValue one) (.ofValue nine), .or [],
      .isIn (.ofField state) (.collection [
        .ofFieldValue state (.string "Open"), .ofFieldValue state (.string "Shut")]),
      .compare .like (.call .upper [.cast (.ofName "name") "text"])
        (.call .upper [.ofValue (.string "x")])]
    let shown := e.setValue 3 (.string "OPEN")
    3 < e.parameterCount ∧ e.parameters = [one, nine, one, nine, .string "x"] ∧
      shown.parameters = [one, nine, one, one, .string "x"] ∧ shown.sql = e.sql ∧
      shown.literals[3]? = some (.forField state (.string "OPEN")) ∧
      e.parameterCount ≤ 5 ∧ Revision.setValue 5 (.string "OPEN") e = .unchanged e := by
  intro number one nine codes state e shown
  have hcount : e.parameterCount = 5 := by decide +kernel
  have hparameters : e.parameters = [one, nine, one, nine, .string "x"] := by decide +kernel
  have hshut : e.literals[3]? = some (.forField state (.string "Shut")) := by decide +kernel
  obtain ⟨hreplace, hsql, -, -⟩ := setValue_replaces_literal 3 (.string "OPEN") e
  obtain ⟨l, w, hl, hliterals, hnew, -, hbound, -⟩ := hreplace (by omega)
  obtain rfl : Literal.forField state (.string "Shut") = l := Option.some.inj (hshut.symm.trans hl)
  obtain rfl := hbound state (field_forField state _)
  refine ⟨by omega, hparameters, ?_, hsql, ?_, by omega, ?_⟩
  · rw [hnew, hparameters]
    decide +kernel
  · rw [hliterals, List.getElem?_set_self (by rw [length_literals, hcount]; omega)]
  · exact ((setValue_replaces_literal 5 (.string "OPEN") e).2.2.2 (by omega)).2

end TypedFilter.Expr
