import TypedFilter.Expr.Basic

/-!
One-to-one code tables: every display value is one text and leads to its own identifier. Main
statement: whatever an identifier was looked up by, what is shown for it leads to it again.
-/

namespace TypedFilter.CodeTable

/-- Whether codes pair each identifier, which is of the type, with one text. No two texts are found
by the same key, and none is found by the key of an identifier; colons, which separate the parts of
display values, are not in the texts. -/
structure AreOneToOne (type : DataType) (codes : List (Value × List Value)) : Prop where
  typed : ∀ c ∈ codes, c.1.dataType? = some type
  single : ∀ c ∈ codes, ∃ s : String, c.2 = [.string s] ∧ ':' ∉ s.toList
  distinct : (codes.map fun c => key c.2).Nodup
  apart : ∀ c ∈ codes, ∀ c' ∈ codes, key c.2 ≠ key [c'.1]

/-! ### Adding codes -/

/-- What holds of every table: the key of an identifier leads to the one code that has it, and a key
of display values leads to a code that has them. -/
structure IsIndexed (t : CodeTable) : Prop where
  byId : ∀ {k place}, t.byId.get? k = some place ↔
    ∃ id values, t.codes[place]? = some (id, values) ∧ key [id] = k
  byValues : ∀ {k place}, t.byValues.get? k = some place →
    ∃ id values, t.codes[place]? = some (id, values) ∧ key values = k

/-- What adding a code does: it stands at the place of the code with its identifier, or at a new
one, and its keys lead there. The display values of the code that it replaces lead nowhere. -/
structure AddsAt (t : CodeTable) (id : Value) (values : List Value) (place : Nat)
    (t' : CodeTable) : Prop where
  free : t.byId.get? (key [id]) = some place ∨
    t.byId.get? (key [id]) = none ∧ t.codes[place]? = none
  codes : ∀ p, t'.codes[p]? = if p = place then some (id, values) else t.codes[p]?
  byId : ∀ k, t'.byId.get? k = if k = key [id] then some place else t.byId.get? k
  byValues : ∀ k, t'.byValues.get? k = if k = key values then some place
    else if (t.codes[place]?.map fun c => key c.2) = some k then none else t.byValues.get? k

variable {t t' : CodeTable} {id : Value} {values : List Value} {place : Nat}

theorem isIndexed_empty (name : String) : IsIndexed { name := name } where
  byId {k place} := by simp
  byValues {k place} h := by cases h

theorem IsIndexed.exists_addsAt (h : t.IsIndexed) (id : Value) (values : List Value) :
    ∃ place, t.AddsAt id values place (t.add id values) := by
  cases hi : t.byId.get? (key [id]) with
  | some i =>
    obtain ⟨id₀, values₀, hcode, -⟩ := h.byId.1 hi
    have hlt := (List.getElem?_eq_some_iff.1 hcode).1
    refine ⟨i, .inl hi, fun p => ?_, fun k => ?_, fun k => ?_⟩
    · simp only [add, hi, List.getElem?_set, hlt, if_true, eq_comm]
    · simp only [add, hi, Keyed.get?_put]
    · simp only [add, hi, valuesAt, hcode, Keyed.get?_put, Keyed.get?_erase, Option.map_some,
        Option.some.injEq, eq_comm]
  | none =>
    refine ⟨t.codes.length, .inr ⟨hi, List.getElem?_eq_none (Nat.le_refl _)⟩, fun p => ?_,
      fun k => ?_, fun k => ?_⟩
    · simp only [add, hi]
      rcases Nat.lt_trichotomy p t.codes.length with hlt | rfl | hgt
      · rw [List.getElem?_append_left hlt, if_neg (Nat.ne_of_lt hlt)]
      · rw [List.getElem?_concat_length, if_pos rfl]
      · rw [if_neg (Nat.ne_of_gt hgt), List.getElem?_eq_none (Nat.le_of_lt hgt),
          List.getElem?_eq_none (by simp; omega)]
    · simp only [add, hi, Keyed.get?_put]
    · simp [add, hi, Keyed.get?_put]

/-- Only the code that is added has its identifier. -/
theorem AddsAt.key_ne (hadd : t.AddsAt id values place t') (h : t.IsIndexed) {p : Nat}
    (hp : p ≠ place) {id₁ : Value} {values₁ : List Value}
    (hcode : t.codes[p]? = some (id₁, values₁)) : key [id₁] ≠ key [id] := by
  intro heq
  have hfound := h.byId.2 ⟨id₁, values₁, hcode, heq⟩
  rcases hadd.free with hplace | ⟨hnone, -⟩
  · exact hp (Option.some.inj (hfound.symm.trans hplace))
  · cases hnone.symm.trans hfound

theorem AddsAt.isIndexed (hadd : t.AddsAt id values place t') (h : t.IsIndexed) :
    t'.IsIndexed where
  byId {k p} := by
    rw [hadd.byId]
    by_cases hp : p = place
    · subst hp
      simp only [hadd.codes, if_true, Option.some.injEq, Prod.mk.injEq]
      constructor
      · intro hk
        split at hk
        · rename_i heq
          exact ⟨id, values, ⟨rfl, rfl⟩, heq.symm⟩
        · rename_i hne
          obtain ⟨id₁, values₁, hcode, hkey⟩ := h.byId.1 hk
          rcases hadd.free with hplace | ⟨-, hnone⟩
          · obtain ⟨id₂, values₂, hcode', hkey'⟩ := h.byId.1 hplace
            cases hcode.symm.trans hcode'
            exact absurd (hkey.symm.trans hkey') hne
          · cases hnone.symm.trans hcode
      · rintro ⟨_, _, ⟨rfl, rfl⟩, rfl⟩
        rw [if_pos rfl]
    · simp only [hadd.codes, hp, if_false]
      by_cases hk : k = key [id]
      · rw [if_pos hk]
        refine ⟨fun hplace => absurd (Option.some.inj hplace).symm hp, ?_⟩
        rintro ⟨id₁, values₁, hcode, hkey⟩
        exact absurd (hkey.trans hk) (hadd.key_ne h hp hcode)
      · rw [if_neg hk, h.byId]
  byValues {k p} hk := by
    rw [hadd.byValues] at hk
    split at hk
    · rename_i heq
      cases hk
      exact ⟨id, values, by rw [hadd.codes, if_pos rfl], heq.symm⟩
    · split at hk
      · cases hk
      · rename_i hold
        obtain ⟨id₁, values₁, hcode, hkey⟩ := h.byValues hk
        have hp : p ≠ place := by
          rintro rfl
          rw [hcode] at hold
          exact hold (congrArg some hkey)
        exact ⟨id₁, values₁, by rw [hadd.codes, if_neg hp]; exact hcode, hkey⟩

theorem isIndexed_foldl (h : t.IsIndexed) (codes : List (Value × List Value)) :
    (codes.foldl (fun t code => t.add code.1 code.2) t).IsIndexed := by
  induction codes generalizing t with
  | nil => exact h
  | cons c codes ih =>
    obtain ⟨place, hadd⟩ := h.exists_addsAt c.1 c.2
    exact ih (hadd.isIndexed h)

theorem isIndexed_ofCodes (name : String) (codes : List (Value × List Value)) :
    (ofCodes name codes).IsIndexed :=
  isIndexed_foldl (isIndexed_empty name) codes

/-! ### Adding codes with distinct display values -/

/-- Whether each code of the table is one of those that were added and is found by its display
values. -/
def FindsAll (t : CodeTable) (added : List (Value × List Value)) : Prop :=
  ∀ place id values, t.codes[place]? = some (id, values) →
    (id, values) ∈ added ∧ t.byValues.get? (key values) = some place

variable {added : List (Value × List Value)}

theorem FindsAll.add (hfinds : t.FindsAll added) (hadd : t.AddsAt id values place t')
    (hnew : ∀ c ∈ added, key c.2 ≠ key values) : t'.FindsAll (added ++ [(id, values)]) := by
  intro p id₁ values₁ hcode
  rw [hadd.codes] at hcode
  split at hcode
  · rename_i hp
    cases hcode
    exact ⟨by simp, by rw [hadd.byValues, if_pos rfl, hp]⟩
  · rename_i hp
    obtain ⟨hmem, hvalues⟩ := hfinds p id₁ values₁ hcode
    have hold : (t.codes[place]?.map fun c => key c.2) ≠ some (key values₁) := by
      intro hold
      obtain ⟨⟨id₀, values₀⟩, hcode₀, hkey₀⟩ := Option.map_eq_some_iff.1 hold
      have hvalues₀ := (hfinds place id₀ values₀ hcode₀).2
      rw [show key values₀ = key values₁ from hkey₀, hvalues] at hvalues₀
      exact hp (Option.some.inj hvalues₀)
    exact ⟨List.mem_append_left _ hmem,
      by rw [hadd.byValues, if_neg (hnew _ hmem), if_neg hold, hvalues]⟩

theorem FindsAll.foldl (hfinds : t.FindsAll added) (h : t.IsIndexed)
    {codes : List (Value × List Value)}
    (hdistinct : ((added ++ codes).map fun c => key c.2).Nodup) :
    (codes.foldl (fun t code => t.add code.1 code.2) t).FindsAll (added ++ codes) := by
  induction codes generalizing t added with
  | nil => rwa [List.append_nil]
  | cons c codes ih =>
    have hnew : ∀ c' ∈ added, key c'.2 ≠ key c.2 := by
      intro c' hc' heq
      rw [List.map_append, List.nodup_append] at hdistinct
      exact hdistinct.2.2 _ (List.mem_map_of_mem hc') _
        (List.mem_map_of_mem (List.mem_cons_self ..)) heq
    obtain ⟨place, hadd⟩ := h.exists_addsAt c.1 c.2
    rw [List.append_cons] at hdistinct ⊢
    exact ih (hfinds.add hadd hnew) (hadd.isIndexed h) hdistinct

/-- A table that codes with distinct display values were added to finds them all. -/
theorem findsAll_ofCodes (name : String) {codes : List (Value × List Value)}
    (h : (codes.map fun c => key c.2).Nodup) : (ofCodes name codes).FindsAll codes := by
  have hempty : FindsAll { name := name } [] := by
    intro place id values hcode
    cases hcode
  exact hempty.foldl (isIndexed_empty name) h

/-! ### Looking codes up -/

theorem exists_code_of_identifier? {parts : List Value} (h : t.identifier? parts = some id) :
    ∃ (place : Nat) (values : List Value), t.codes[place]? = some (id, values) := by
  rw [identifier?] at h
  split at h
  · cases h
  · obtain ⟨place, -, hplace⟩ := Option.bind_eq_some_iff.1 h
    obtain ⟨⟨id', values⟩, hcode, rfl⟩ := Option.map_eq_some_iff.1 hplace
    exact ⟨place, values, hcode⟩

theorem mem_identifiers_iff : id ∈ t.identifiers ↔
    ∃ (place : Nat) (values : List Value), t.codes[place]? = some (id, values) := by
  rw [identifiers, List.mem_map]
  constructor
  · rintro ⟨⟨id', values⟩, hmem, rfl⟩
    obtain ⟨place, hcode⟩ := List.mem_iff_getElem?.1 hmem
    exact ⟨place, values, hcode⟩
  · rintro ⟨place, values, hcode⟩
    exact ⟨(id, values), List.mem_of_getElem? hcode, rfl⟩

/-- What a value of a clause stands for is the identifier of a code. -/
theorem exists_code_of_lookup {v : Value} (h : Literal.identifier? t v = some id) :
    ∃ (place : Nat) (values : List Value), t.codes[place]? = some (id, values) := by
  unfold Literal.identifier? at h
  split at h
  · exact exists_code_of_identifier? h
  · exact exists_code_of_identifier? h

/-- A value with the key of an identifier stands for it. -/
theorem identifierFor?_of_byId {v : Value} (hnull : v.isNull = false)
    (hplace : t.byId.get? (key [v]) = some place)
    (hcode : t.codes[place]? = some (id, values)) : t.identifierFor? v = some id := by
  simp [identifierFor?, identifier?, hnull, hplace, identifierAt?, hcode]

/-- An identifier stands for itself. -/
theorem IsIndexed.identifierFor?_self (h : t.IsIndexed) (hnull : id.isNull = false)
    (hcode : t.codes[place]? = some (id, values)) : t.identifierFor? id = some id :=
  identifierFor?_of_byId hnull (h.byId.2 ⟨_, _, hcode, rfl⟩) hcode

/-- What is shown for an identifier that was found leads to that identifier. -/
theorem identifier?_displayOf? {name : String} {codes : List (Value × List Value)}
    {type : DataType} (h : AreOneToOne type codes) {v : Value}
    (hid : Literal.identifier? (ofCodes name codes) v = some id) :
    id.dataType? = some type ∧ ∃ s : String, ':' ∉ s.toList ∧
      Literal.displayOf? (ofCodes name codes) id = some (.string s) ∧
      Literal.identifier? (ofCodes name codes) (.string s) = some id := by
  have hindexed := isIndexed_ofCodes name codes
  have hfinds := findsAll_ofCodes name h.distinct
  obtain ⟨place, values, hcode⟩ := exists_code_of_lookup hid
  obtain ⟨hmem, hbyValues⟩ := hfinds _ _ _ hcode
  have hbyId := hindexed.byId.2 ⟨_, _, hcode, rfl⟩
  obtain ⟨s, hs, hcolon⟩ := h.single _ hmem
  obtain rfl : values = [.string s] := hs
  refine ⟨h.typed _ hmem, s, hcolon, ?_, ?_⟩
  · have hvalues : (ofCodes name codes).values? id = some [.string s] := by
      rw [values?, hbyId, Option.map_some, valuesAt, hcode]
    rw [Literal.displayOf?, hvalues]
  · have hnone : (ofCodes name codes).byId.get? (key [.string s]) = none := by
      rw [Option.eq_none_iff_forall_ne_some]
      intro place' hplace'
      obtain ⟨id', values', hcode', hkey'⟩ := hindexed.byId.1 hplace'
      exact h.apart _ hmem _ (hfinds _ _ _ hcode').1 hkey'.symm
    have hat : (ofCodes name codes).identifierAt? place = some id := by
      rw [identifierAt?, hcode, Option.map_some]
    show identifier? _ [.string s] = some id
    rw [identifier?]
    simp [Value.isNull, hnone, hbyValues, hat]

end TypedFilter.CodeTable
