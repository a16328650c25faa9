import TypedFilter.Proofs.CodeLookups

/-!
Code tables as maps from identifiers. Main statement: whatever codes were added, the table lists the
keys of identifiers in the order in which they came first, and for each of them it has the code that
was added last.
-/

namespace TypedFilter.CodeTable

variable {t : CodeTable} {id : Value} {codes : List (Value × List Value)} {c : Value × List Value}

/-! ### What was added last -/

/-- The code that was added last for an identifier. -/
def lastCode? (codes : List (Value × List Value)) (id : Value) : Option (Value × List Value) :=
  (codes.filter fun c => key [c.1] = key [id]).getLast?

theorem lastCode?_concat (codes : List (Value × List Value)) (c : Value × List Value)
    (id : Value) :
    lastCode? (codes ++ [c]) id =
      if key [c.1] = key [id] then some c else lastCode? codes id := by
  rw [lastCode?, List.filter_append]
  split
  · rename_i h
    rw [List.filter_cons_of_pos (by simpa using h)]
    exact List.getLast?_concat
  · rename_i h
    rw [List.filter_cons_of_neg (by simpa using h), List.filter_nil, List.append_nil, lastCode?]

theorem mem_of_lastCode? (h : lastCode? codes id = some c) : c ∈ codes ∧ key [c.1] = key [id] := by
  have hmem := List.mem_of_getLast? h
  rw [List.mem_filter, decide_eq_true_eq] at hmem
  exact hmem

/-- The keys of identifiers in the order in which they came first. -/
def idKeys (codes : List (Value × List Value)) : List String :=
  (codes.map fun c => key [c.1]).eraseDups

theorem mem_idKeys {k : String} : k ∈ idKeys codes ↔ ∃ c ∈ codes, key [c.1] = k := by
  rw [idKeys, List.mem_eraseDups, List.mem_map]

theorem idKeys_concat (codes : List (Value × List Value)) (c : Value × List Value) :
    idKeys (codes ++ [c]) =
      if key [c.1] ∈ idKeys codes then idKeys codes else idKeys codes ++ [key [c.1]] := by
  simp only [mem_idKeys]
  rw [idKeys, List.map_append, List.eraseDups_append, ← idKeys, List.map_singleton, List.removeAll]
  split
  · rename_i hmem
    rw [List.filter_cons_of_neg (by simpa using hmem)]
    exact List.append_nil _
  · rename_i hnew
    rw [List.filter_cons_of_pos (by simpa using hnew)]
    rfl

/-! ### What the table has -/

/-- Whether a table has the identifiers of some codes in the order in which they came first, each
with the code that was added last for it. -/
structure HoldsLast (t : CodeTable) (codes : List (Value × List Value)) : Prop where
  keys : t.codes.map (fun c => key [c.1]) = idKeys codes
  last : ∀ c ∈ t.codes, lastCode? codes c.1 = some c

theorem codes_add (t : CodeTable) (id : Value) (values : List Value) :
    (t.add id values).codes =
      match t.byId.get? (key [id]) with
      | some i => t.codes.set i (id, values)
      | none => t.codes ++ [(id, values)] := by
  cases h : t.byId.get? (key [id]) <;> simp only [add, h]

theorem holdsLast_empty (name : String) : HoldsLast { name } [] :=
  ⟨rfl, by simp⟩

/-- A code that is added takes the place of the one with its identifier, or comes last. -/
theorem HoldsLast.add (h : t.HoldsLast codes) (hindexed : t.IsIndexed) (c : Value × List Value) :
    (t.add c.1 c.2).HoldsLast (codes ++ [c]) := by
  constructor
  case keys =>
    rw [codes_add, idKeys_concat, ← h.keys]
    cases hi : t.byId.get? (key [c.1]) with
    | some i =>
      obtain ⟨id₀, values₀, hcode, hkey⟩ := hindexed.byId.1 hi
      have hat : (t.codes.map fun c => key [c.1])[i]? = some (key [c.1]) := by
        rw [List.getElem?_map, hcode, Option.map_some, hkey]
      obtain ⟨hlt, heq⟩ := List.getElem?_eq_some_iff.1 hat
      rw [if_pos (List.mem_of_getElem? hat), List.map_set]
      exact heq ▸ List.set_getElem_self hlt
    | none =>
      have hnew : key [c.1] ∉ t.codes.map fun c => key [c.1] := by
        intro hmem
        obtain ⟨c', hc', hkey⟩ := List.mem_map.1 hmem
        obtain ⟨p, hp⟩ := List.mem_iff_getElem?.1 hc'
        cases hi.symm.trans (hindexed.byId.2 ⟨c'.1, c'.2, hp, hkey⟩)
      rw [if_neg hnew, List.map_append, List.map_singleton]
  case last =>
    obtain ⟨place, hadd⟩ := hindexed.exists_addsAt c.1 c.2
    intro c' hc'
    obtain ⟨p, hp⟩ := List.mem_iff_getElem?.1 hc'
    rw [hadd.codes] at hp
    rw [lastCode?_concat]
    split at hp
    · cases hp
      exact if_pos rfl
    · rename_i hne
      rw [if_neg (Ne.symm (hadd.key_ne hindexed hne hp))]
      exact h.last c' (List.mem_of_getElem? hp)

theorem holdsLast_ofCodes (name : String) (codes : List (Value × List Value)) :
    (ofCodes name codes).HoldsLast codes := by
  induction codes using List.reverseRecOn with
  | nil => exact holdsLast_empty name
  | append_singleton codes c ih =>
    rw [ofCodes_concat]
    exact ih.add (isIndexed_ofCodes name codes) c

/-! ### Lookups -/

theorem lastCode?_congr {v : Value} (h : key [id] = key [v]) :
    lastCode? codes id = lastCode? codes v := by
  rw [lastCode?, h, lastCode?]

/-- An identifier leads to the code that was added last for it. -/
theorem HoldsLast.exists_place (h : t.HoldsLast codes) (hindexed : t.IsIndexed)
    (hc : lastCode? codes id = some c) :
    ∃ place, t.byId.get? (key [id]) = some place ∧ t.codes[place]? = some c := by
  obtain ⟨hmem, hkey⟩ := mem_of_lastCode? hc
  have hkeys : key [id] ∈ t.codes.map fun c => key [c.1] := h.keys ▸ mem_idKeys.2 ⟨c, hmem, hkey⟩
  obtain ⟨c', hc', hkey'⟩ := List.mem_map.1 hkeys
  obtain rfl : c' = c := by
    have hlast := h.last c' hc'
    rw [lastCode?_congr hkey', hc] at hlast
    exact (Option.some.inj hlast).symm
  obtain ⟨place, hplace⟩ := List.mem_iff_getElem?.1 hc'
  exact ⟨place, hindexed.byId.2 ⟨c'.1, c'.2, hplace, hkey'⟩, hplace⟩

/-- No other code than the one that was added last for an identifier has values for it. -/
theorem HoldsLast.values?_eq (h : t.HoldsLast codes) (hindexed : t.IsIndexed) (id : Value) :
    t.values? id = (lastCode? codes id).map Prod.snd := by
  cases hc : lastCode? codes id with
  | some c =>
    obtain ⟨place, hplace, hcode⟩ := h.exists_place hindexed hc
    exact hindexed.values?_eq_some_iff.2 ⟨place, c.1, hplace, hcode⟩
  | none =>
    rw [Option.map_none, Option.eq_none_iff_forall_ne_some]
    intro values hvalues
    obtain ⟨place, id', hplace, hcode⟩ := hindexed.values?_eq_some_iff.1 hvalues
    obtain ⟨id₁, values₁, hcode₁, hkey⟩ := hindexed.byId.1 hplace
    have hlast := h.last _ (List.mem_of_getElem? hcode₁)
    rw [lastCode?_congr hkey, hc] at hlast
    cases hlast

/-- A value that is an identifier stands for itself, whatever display values are the same. -/
theorem HoldsLast.identifierFor?_eq (h : t.HoldsLast codes) (hindexed : t.IsIndexed)
    (hid : id ≠ .null) (hc : lastCode? codes id = some c) : t.identifierFor? id = some c.1 := by
  obtain ⟨place, hplace, hcode⟩ := h.exists_place hindexed hc
  have hnull : id.isNull = false := Bool.eq_false_iff.2 (mt Value.eq_null_of_isNull hid)
  exact identifierFor?_of_byId hnull hplace hcode

/-- Whatever codes were added, identifiers are listed in the order in which their keys came first,
each once and as it was given last; the values for an identifier are those that were given last, and
none if it was never added; and a value with the key of an identifier leads to it, unless it is the
null value, which leads nowhere. -/
theorem last_code_wins (name : String) (codes : List (Value × List Value)) :
    let t := ofCodes name codes
    t.identifiers.map (fun id => key [id]) = (codes.map fun c => key [c.1]).eraseDups ∧
      (∀ id ∈ t.identifiers, (lastCode? codes id).map Prod.fst = some id) ∧
      (∀ v, t.values? v = (lastCode? codes v).map Prod.snd) ∧
      (∀ v c, v ≠ .null → lastCode? codes v = some c → t.identifierFor? v = some c.1) ∧
      t.identifierFor? .null = none := by
  intro t
  have hindexed : t.IsIndexed := isIndexed_ofCodes name codes
  have hlast : t.HoldsLast codes := holdsLast_ofCodes name codes
  refine ⟨?_, fun id hid => ?_, hlast.values?_eq hindexed,
    fun v c hv hc => hlast.identifierFor?_eq hindexed hv hc, rfl⟩
  · rw [identifiers, List.map_map]
    exact hlast.keys
  · obtain ⟨c, hc, rfl⟩ := List.mem_map.1 hid
    rw [hlast.last c hc, Option.map_some]

/-- A number and a text are each given twice, with other places and in another case; a text that is
the display value of one of them is the number. -/
theorem last_code_wins_numbers :
    let one : Value := .integer .int ⟨1, by decide⟩
    let long : Value := .decimal ⟨false, 100, 2, by decide, by decide⟩
    let codes : List (Value × List Value) := [(one, [.string "Open"]), (.string "A", [.string "1"]),
      (long, [.string "Shut"]), (.string "a", [.string "1", .null])]
    let t := ofCodes "STATUS" codes
    t.identifiers = [long, .string "a"] ∧ t.values? one = some [.string "Shut"] ∧
      t.identifierFor? (.string "1") = some long ∧ t.values? (.string "Open") = none := by
  intro one long codes t
  obtain ⟨-, -, hvalues, hid, -⟩ := last_code_wins "STATUS" codes
  refine ⟨by decide +kernel, (hvalues one).trans (by decide +kernel), ?_,
    (hvalues _).trans (by decide +kernel)⟩
  exact hid (.string "1") (long, [.string "Shut"]) (by decide) (by decide +kernel)

/-- The text of the null value is found as an identifier, but the null value with the same key leads
to none although it has its values. -/
theorem null_is_no_identifier :
    let id : Value := .string "null"
    let t := ofCodes "STATUS" [(id, [.string "None"])]
    id.isNull = false ∧ key [.null] = key [id] ∧ t.identifierFor? id = some id ∧
      t.values? .null = some [.string "None"] ∧ t.identifierFor? .null = none := by
  decide +kernel

end TypedFilter.CodeTable
