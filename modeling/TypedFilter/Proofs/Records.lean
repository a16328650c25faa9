import TypedFilter.Schema.Record

/-!
Values of records by place. Main statements: a record that is made of values holds in each place
what the field there makes of the value that is given for it, and each value of a valid record is
one that its field takes.
-/

namespace TypedFilter.Record

variable {d : Definition} {r : Record} {f : Field} {i j : Nat} {v : Value}

/-! ### Setting values -/

@[simp] theorem definition_setAt (r : Record) (i : Nat) (v : Value) :
    (r.setAt i v).definition = r.definition := by
  rw [setAt]
  split <;> rfl

@[simp] theorem definition_setFrom (r : Record) (i : Nat) (values : List Value) :
    (r.setFrom i values).definition = r.definition := by
  induction values generalizing r i with
  | nil => rfl
  | cons v rest ih => exact (ih _ _).trans (definition_setAt r i v)

@[simp] theorem definition_ofValues (d : Definition) (values : List Value) :
    (ofValues d values).definition = d :=
  definition_setFrom _ 0 values

/-- Whether there is one value for each field. -/
def IsComplete (r : Record) : Prop :=
  r.values.length = r.definition.fields.length

theorem isComplete_ofDefaults (d : Definition) : (ofDefaults d).IsComplete :=
  List.length_map _

theorem IsComplete.setAt (h : r.IsComplete) (i : Nat) (v : Value) : (r.setAt i v).IsComplete := by
  rw [IsComplete, definition_setAt, ← h, Record.setAt]
  split
  · exact List.length_set
  · rfl

theorem valueAt_setAt (h : r.IsComplete) (j : Nat) (v : Value)
    (hf : r.definition.fields[i]? = some f) :
    (r.setAt j v).valueAt i = if j = i then f.storeLenient v else r.valueAt i := by
  have hlt : i < r.values.length := h.symm ▸ (List.getElem?_eq_some_iff.1 hf).1
  rw [setAt]
  by_cases hj : j = i
  · subst hj
    rw [hf, if_pos rfl]
    simp [valueAt, hlt]
  · rw [if_neg hj]
    split
    · simp [valueAt, List.getElem?_set_ne hj]
    · rfl

theorem getElem?_values (h : r.IsComplete)
    (hf : r.definition.fields[i]? = some f) : r.values[i]? = some (r.valueAt i) := by
  have hlt : i < r.values.length := h.symm ▸ (List.getElem?_eq_some_iff.1 hf).1
  rw [valueAt, List.getElem?_eq_getElem hlt]
  rfl

/-! ### Values in order -/

/-- Values that come later leave a place as it is. -/
theorem valueAt_setFrom_of_lt (h : r.IsComplete)
    (hf : r.definition.fields[i]? = some f) (hij : i < j) (values : List Value) :
    (r.setFrom j values).valueAt i = r.valueAt i := by
  induction values generalizing r j with
  | nil => rfl
  | cons v rest ih =>
    rw [setFrom, ih (h.setAt j v) (by rwa [definition_setAt]) (Nat.lt_succ_of_lt hij),
      valueAt_setAt h j v hf, if_neg (Nat.ne_of_gt hij)]

theorem valueAt_setFrom (h : r.IsComplete)
    (hf : r.definition.fields[j + i]? = some f) {values : List Value} (hv : values[i]? = some v) :
    (r.setFrom j values).valueAt (j + i) = f.storeLenient v := by
  induction values generalizing r i j with
  | nil => cases hv
  | cons u rest ih =>
    rw [setFrom]
    cases i with
    | zero =>
      cases hv
      rw [Nat.add_zero] at hf
      show ((r.setAt j v).setFrom (j + 1) rest).valueAt j = f.storeLenient v
      have hlater := valueAt_setFrom_of_lt (h.setAt j v) (by rwa [definition_setAt])
        (Nat.lt_succ_self j) rest
      rw [hlater, valueAt_setAt h j v hf, if_pos rfl]
    | succ i =>
      have hplace : j + (i + 1) = j + 1 + i := by omega
      rw [hplace] at hf ⊢
      exact ih (h.setAt j u) (by rwa [definition_setAt]) hv

/-- The value at a place is what the field makes of the one that is given for it. -/
theorem valueAt_ofValues (hf : d.fields[i]? = some f) {values : List Value}
    (hv : values[i]? = some v) : (ofValues d values).valueAt i = f.storeLenient v := by
  have h := valueAt_setFrom (r := ofDefaults d) (j := 0) (i := i) (isComplete_ofDefaults d)
    (by rwa [Nat.zero_add]) hv
  rwa [Nat.zero_add] at h

/-! ### Valid records -/

/-- Each value of a valid record is one that its field takes. -/
theorem exists_validate_of_checkAll {fields : List Field} {values : List Value}
    (h : checkAll fields values = .ok ()) (hf : fields[i]? = some f) (hv : values[i]? = some v) :
    ∃ w, f.validate v = .ok w := by
  induction fields generalizing values i with
  | nil => cases hf
  | cons g fields ih =>
    cases values with
    | nil => cases hv
    | cons u values =>
      rw [checkAll] at h
      split at h
      · rename_i w hw
        cases i with
        | zero =>
          cases hf
          cases hv
          exact ⟨w, hw⟩
        | succ i => exact ih h hf hv
      · cases h

theorem exists_validate (h : r.IsComplete) (hr : r.validate = .ok ())
    (hf : r.definition.fields[i]? = some f) : ∃ w, f.validate (r.valueAt i) = .ok w :=
  exists_validate_of_checkAll hr hf (getElem?_values h hf)

end TypedFilter.Record
