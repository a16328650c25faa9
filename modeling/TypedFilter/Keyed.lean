/-!
Tables of values by name, as lists of pairs that hold each name once. Main statements: what is put
under a name is found there, and nothing else changes.
-/

namespace TypedFilter

/-- Values by name. -/
abbrev Keyed (α : Type) := List (String × α)

namespace Keyed

variable {α : Type}

/-- The value under a name. -/
def get? (table : Keyed α) (name : String) : Option α :=
  List.lookup name table

/-- Puts a value under a name, in the place of the one that is there. -/
def put (name : String) (a : α) : Keyed α → Keyed α
  | [] => [(name, a)]
  | (n, b) :: rest => if n = name then (name, a) :: rest else (n, b) :: put name a rest

/-- Takes away what is under a name. -/
def erase (name : String) (table : Keyed α) : Keyed α :=
  table.filter (·.1 != name)

@[simp] theorem get?_nil (name : String) : get? ([] : Keyed α) name = none := rfl

theorem get?_cons (n name : String) (b : α) (table : Keyed α) :
    get? ((n, b) :: table) name = if name = n then some b else get? table name := by
  unfold get?
  rw [List.lookup_cons]
  by_cases h : name = n
  · simp [h]
  · have hb : (name == n) = false := by simp [h]
    simp only [hb, h, if_false]

@[simp] theorem get?_put (name other : String) (a : α) (table : Keyed α) :
    get? (put name a table) other = if other = name then some a else get? table other := by
  induction table with
  | nil => simp [put, get?_cons]
  | cons entry rest ih =>
    obtain ⟨n, b⟩ := entry
    unfold put
    by_cases h : n = name
    · subst h
      simp only [if_true, get?_cons]
      split <;> rfl
    · simp only [h, if_false, get?_cons, ih]
      by_cases h' : other = n
      · subst h'
        simp [h]
      · simp [h']

/-- A name that is not there comes last. -/
theorem put_of_get?_eq_none {name : String} (a : α) {table : Keyed α}
    (h : get? table name = none) : put name a table = table ++ [(name, a)] := by
  induction table with
  | nil => rfl
  | cons entry rest ih =>
    obtain ⟨n, b⟩ := entry
    rw [get?_cons] at h
    split at h
    · cases h
    · rename_i hne
      rw [put, if_neg (Ne.symm hne), ih h, List.cons_append]

@[simp] theorem get?_erase (name other : String) (table : Keyed α) :
    get? (erase name table) other = if other = name then none else get? table other := by
  induction table with
  | nil => simp [erase]
  | cons entry rest ih =>
    obtain ⟨n, b⟩ := entry
    unfold erase at ih ⊢
    by_cases h : n = name
    · subst h
      simp only [List.filter_cons, bne_self_eq_false, Bool.false_eq_true, if_false, ih, get?_cons]
      by_cases h' : other = n
      · simp [h']
      · simp [h']
    · simp only [List.filter_cons, bne_iff_ne, ne_eq, h, not_false_eq_true, if_true, get?_cons, ih]
      by_cases h' : other = n
      · subst h'
        simp [h]
      · simp [h']

end Keyed

end TypedFilter
