import Mathlib.Data.List.Nodup
import TypedFilter.Expr.Basic
import TypedFilter.Schema.Definition

/-!
Names of columns and fields. Main statements: a name between double quotes of its own finds only
fields with such names, and a definition that was put together step by step finds every field under
its name.
-/

namespace TypedFilter

theorem exists_of_map_ok {ε α β : Type} {x : Except ε α} {f : α → β} {b : β}
    (h : x.map f = .ok b) : ∃ a, x = .ok a ∧ f a = b := by
  cases x with
  | error e => cases h
  | ok a => exact ⟨a, rfl, Except.ok.inj h⟩

/-- What a computation that succeeds has done first. -/
theorem exists_of_bind_ok {ε α β : Type} {x : Except ε α} {f : α → Except ε β} {b : β}
    (h : (x >>= f) = .ok b) : ∃ a, x = .ok a ∧ f a = .ok b := by
  cases x with
  | error e => cases h
  | ok a => exact ⟨a, rfl, h⟩

/-- A computation in two steps succeeds if both of them do. -/
theorem bind_eq_ok_iff {ε α β : Type} {x : Except ε α} {f : α → Except ε β} {b : β} :
    (x >>= f) = .ok b ↔ ∃ a, x = .ok a ∧ f a = .ok b := by
  refine ⟨exists_of_bind_ok, ?_⟩
  rintro ⟨a, rfl, h⟩
  exact h

theorem mapError_eq_ok_iff {ε ε' α : Type} {x : Except ε α} {f : ε → ε'} {a : α} :
    x.mapError f = .ok a ↔ x = .ok a := by
  cases x <;> simp [Except.mapError]

theorem eq_ok_of_mapError {ε ε' α : Type} {x : Except ε α} {f : ε → ε'} {a : α}
    (h : x.mapError f = .ok a) : x = .ok a :=
  mapError_eq_ok_iff.1 h

theorem eq_ok_of_toOption {ε α : Type} {x : Except ε α} {a : α} (h : x.toOption = some a) :
    x = .ok a := by
  cases x with
  | error e => cases h
  | ok b => exact congrArg Except.ok (Option.some.inj h)

/-! ### Double quotes -/

/-- Whether a name stands between double quotes of its own. -/
def Column.IsWrapped (name : String) : Prop :=
  2 ≤ name.length ∧ name.toList.head? = some '"' ∧ name.toList.getLast? = some '"'

instance (name : String) : Decidable (Column.IsWrapped name) :=
  inferInstanceAs (Decidable (_ ∧ _))

theorem Column.isWrapped_iff (name : String) :
    IsWrapped name ↔ ∃ rest, name.toList = '"' :: rest ∧ rest.getLast? = some '"' := by
  rw [IsWrapped, ← String.length_toList]
  constructor
  · rintro ⟨hlen, hhead, hlast⟩
    obtain ⟨rest, hname⟩ := List.head?_eq_some_iff.1 hhead
    rw [hname] at hlen hlast
    cases rest with
    | nil => simp at hlen
    | cons c rest => exact ⟨c :: rest, hname, by rwa [List.getLast?_cons_cons] at hlast⟩
  · rintro ⟨rest, hname, hlast⟩
    rw [hname, List.getLast?_cons, hlast]
    cases rest with
    | nil => cases hlast
    | cons c rest => simp

theorem Column.field_ofName (name : String) : (ofName name).field = none := by
  rw [ofName]
  split
  · split <;> rfl
  · rfl

theorem Column.ofName_of_not_wrapped {name : String} (h : ¬IsWrapped name) :
    ofName name = ⟨name, none⟩ := by
  rw [ofName]
  split
  · rename_i rest hname
    split
    · rename_i hlast
      exact absurd ((isWrapped_iff name).2 ⟨rest, hname, hlast⟩) h
    · rfl
  · rfl

namespace Text

/-- Whether a character comes before the letters. No other character has one in its lower-case
form. -/
def IsCaseless (q : Char) : Prop :=
  0 < q.toNat ∧ q.toNat < 'A'.toNat

instance (q : Char) : Decidable (IsCaseless q) :=
  inferInstanceAs (Decidable (_ ∧ _))

variable {q : Char}

theorem eq_of_ofNat {n : Nat} (hq : IsCaseless q) (h : Char.ofNat n = q) : n = q.toNat := by
  by_cases hn : n.isValidChar
  · rw [Char.ofNat, dif_pos hn] at h
    exact congrArg Char.toNat h
  · rw [Char.ofNat, dif_neg hn] at h
    subst h
    exact absurd hq (by decide)

/-- In lower case, the characters before the letters come from themselves. -/
theorem toLower_of_toNat_lt {c : Char} (hc : c.toNat < 128) (h : c.toLower.toNat < 'A'.toNat) :
    c.toLower = c := by
  have hascii : ∀ n < 128, (Char.ofNat n).toLower.toNat < 'A'.toNat →
      (Char.ofNat n).toLower = Char.ofNat n := by
    decide +kernel
  have hsame := hascii c.toNat hc
  rw [Char.ofNat_toNat] at hsame
  exact hsame h

theorem lowercaseChar_of_isCaseless (hq : IsCaseless q) : lowercaseChar q = [q] := by
  have hascii : ∀ n < 'A'.toNat, (Char.ofNat n).toLower = Char.ofNat n := by
    decide +kernel
  have hsame := hascii q.toNat hq.2
  rw [Char.ofNat_toNat] at hsame
  rw [lowercaseChar_ascii (Nat.lt_trans hq.2 (by decide)), hsame]

/-- Only the character itself has it in its lower-case form. -/
theorem notMem_lowercaseChar {c : Char} (hq : IsCaseless q) (h : c ≠ q) :
    q ∉ lowercaseChar c := by
  have himage : ∀ r ∈ lowercaseRuns, 'A'.toNat < r.image := by
    decide +kernel
  rw [lowercaseChar]
  split
  · rename_i hlt
    intro hc
    have hlower := List.mem_singleton.1 hc
    exact h ((toLower_of_toNat_lt hlt (hlower ▸ hq.2)).symm.trans hlower.symm)
  · split
    · intro hc
      rcases List.mem_pair.1 hc with rfl | rfl
      · exact absurd hq (by decide)
      · exact absurd hq (by decide)
    · rw [List.mem_singleton, CaseRun.apply]
      split
      · rename_i r hr
        intro hc
        have hlt := himage r (List.mem_of_find?_eq_some hr)
        have hnat := eq_of_ofNat hq hc.symm
        have hlast := hq.2
        omega
      · exact h.symm

/-- What the first character of a text becomes, whatever stands around it. -/
theorem exists_lowercaseFrom_cons (before : List Char) (c : Char) (rest : List Char) :
    ∃ image, image ≠ [] ∧
      (∀ q, IsCaseless q → (c = q → image = [q]) ∧ (c ≠ q → q ∉ image)) ∧
      lowercaseFrom before (c :: rest) = image ++ lowercaseFrom (c :: before) rest := by
  refine ⟨_, ?_, fun q hq => ⟨?_, fun hc => ?_⟩, rfl⟩
  · split
    · split <;> exact List.cons_ne_nil _ _
    · rw [lowercaseChar]
      split
      · exact List.cons_ne_nil _ _
      · split <;> exact List.cons_ne_nil _ _
  · rintro rfl
    have hsigma : c.toNat ≠ 0x3A3 := Nat.ne_of_lt (Nat.lt_trans hq.2 (by decide))
    rw [if_neg hsigma, lowercaseChar_of_isCaseless hq]
  · split
    · split
      · intro hmem
        rw [List.mem_singleton.1 hmem] at hq
        exact absurd hq (by decide)
      · intro hmem
        rw [List.mem_singleton.1 hmem] at hq
        exact absurd hq (by decide)
    · exact notMem_lowercaseChar hq hc

theorem lowercaseFrom_eq_nil_iff {before cs : List Char} :
    lowercaseFrom before cs = [] ↔ cs = [] := by
  cases cs with
  | nil => exact ⟨fun _ => rfl, fun _ => rfl⟩
  | cons c rest =>
    obtain ⟨image, hne, -, himage⟩ := exists_lowercaseFrom_cons before c rest
    simp [himage, hne]

theorem head?_lowercaseFrom (hq : IsCaseless q) {before cs : List Char} :
    (lowercaseFrom before cs).head? = some q ↔ cs.head? = some q := by
  cases cs with
  | nil => exact Iff.rfl
  | cons c rest =>
    obtain ⟨image, hne, hcaseless, himage⟩ := exists_lowercaseFrom_cons before c rest
    rw [himage, List.head?_append_of_ne_nil _ hne]
    by_cases hc : c = q
    · simp [(hcaseless q hq).1 hc, hc]
    · have hhead : image.head? ≠ some q := fun h => (hcaseless q hq).2 hc (List.mem_of_head? h)
      simp [hc, hhead]

theorem getLast?_lowercaseFrom (hq : IsCaseless q) {before cs : List Char} :
    (lowercaseFrom before cs).getLast? = some q ↔ cs.getLast? = some q := by
  induction cs generalizing before with
  | nil => exact Iff.rfl
  | cons c rest ih =>
    obtain ⟨image, hne, hcaseless, himage⟩ := exists_lowercaseFrom_cons before c rest
    rw [himage]
    cases rest with
    | nil =>
      rw [lowercaseFrom, List.append_nil]
      by_cases hc : c = q
      · simp [(hcaseless q hq).1 hc, hc]
      · have hlast : image.getLast? ≠ some q :=
          fun h => (hcaseless q hq).2 hc (List.mem_of_getLast? h)
        simp [hc, hlast]
    | cons d rest =>
      have hrest : lowercaseFrom (c :: before) (d :: rest) ≠ [] :=
        fun h => List.cons_ne_nil d rest (lowercaseFrom_eq_nil_iff.1 h)
      rw [List.getLast?_append_of_ne_nil _ hrest, ih, List.getLast?_cons_cons]

theorem mem_lowercaseFrom (hq : IsCaseless q) {before cs : List Char} :
    q ∈ lowercaseFrom before cs ↔ q ∈ cs := by
  induction cs generalizing before with
  | nil => exact Iff.rfl
  | cons c rest ih =>
    obtain ⟨image, -, hcaseless, himage⟩ := exists_lowercaseFrom_cons before c rest
    rw [himage, List.mem_append, ih, List.mem_cons]
    by_cases hc : c = q
    · simp [(hcaseless q hq).1 hc, hc]
    · simp [(hcaseless q hq).2 hc, Ne.symm hc]

theorem lowercaseFrom_of_isCaseless {before cs : List Char} (h : ∀ c ∈ cs, IsCaseless c) :
    lowercaseFrom before cs = cs := by
  induction cs generalizing before with
  | nil => rfl
  | cons c cs ih =>
    obtain ⟨hc, hcs⟩ := List.forall_mem_cons.1 h
    obtain ⟨image, -, himage, heq⟩ := exists_lowercaseFrom_cons before c cs
    rw [heq, ih hcs, (himage c hc).1 rfl, List.singleton_append]

theorem lowercase_of_isCaseless {s : String} (h : ∀ c ∈ s.toList, IsCaseless c) :
    lowercase s = s := by
  rw [lowercase, lowercaseFrom_of_isCaseless h, String.ofList_toList]

theorem mem_lowercase (hq : IsCaseless q) {s : String} :
    q ∈ (lowercase s).toList ↔ q ∈ s.toList := by
  rw [lowercase, String.toList_ofList, mem_lowercaseFrom hq]

end Text

namespace Column

theorem isCaseless_quote : Text.IsCaseless '"' := by
  decide

theorem isWrapped_lowercase (name : String) : IsWrapped (Text.lowercase name) ↔ IsWrapped name := by
  rw [isWrapped_iff, isWrapped_iff, Text.lowercase, String.toList_ofList]
  constructor
  · rintro ⟨image, himage, hlast⟩
    obtain ⟨rest, hname⟩ : ∃ rest, name.toList = '"' :: rest := by
      rw [← List.head?_eq_some_iff, ← Text.head?_lowercaseFrom isCaseless_quote, himage]
      rfl
    rw [hname] at himage
    injection himage with _ himage
    exact ⟨rest, hname, (Text.getLast?_lowercaseFrom isCaseless_quote).1 (himage ▸ hlast)⟩
  · rintro ⟨rest, hname, hlast⟩
    rw [hname]
    exact ⟨_, rfl, (Text.getLast?_lowercaseFrom isCaseless_quote).2 hlast⟩

end Column

/-! ### Fields by name -/

namespace Definition

variable {d : Definition} {name : String} {f : Field}

theorem mem_of_field? (h : d.field? name = some f) : f ∈ d.fields := by
  obtain ⟨i, -, hi⟩ := Option.bind_eq_some_iff.1 h
  exact List.mem_of_getElem? hi

/-- A name leads to a field with this name in some case. -/
theorem exists_of_fieldIndex? {i : Nat} (h : d.fieldIndex? name = some i) :
    ∃ hlt : i < d.fields.length, nameKey d.fields[i].name = nameKey name := by
  rw [fieldIndex?_eq] at h
  obtain ⟨hlt, hfound, -⟩ := List.findIdx?_eq_some_iff_getElem.1 h
  exact ⟨hlt, beq_iff_eq.1 hfound⟩

/-- What a field is found by is its own name in another case. -/
theorem nameKey_of_field? (h : d.field? name = some f) : nameKey f.name = nameKey name := by
  obtain ⟨i, hindex, hi⟩ := Option.bind_eq_some_iff.1 h
  obtain ⟨hlt, hkey⟩ := exists_of_fieldIndex? hindex
  rw [List.getElem?_eq_getElem hlt] at hi
  cases hi
  exact hkey

/-- A field is found by its own name, whatever it was found by before. -/
theorem field?_name (h : d.field? name = some f) : d.field? f.name = some f := by
  rw [field?, fieldIndex?, nameKey_of_field? h]
  exact h

theorem isWrapped_of_field? (h : d.field? name = some f) :
    Column.IsWrapped f.name ↔ Column.IsWrapped name := by
  rw [← Column.isWrapped_lowercase f.name, ← Column.isWrapped_lowercase name]
  exact iff_of_eq (congrArg Column.IsWrapped (nameKey_of_field? h))

/-! ### Definitions as they are built -/

/-- The names that fields are found by, in order. -/
def keys (d : Definition) : List String :=
  d.fields.map fun f => nameKey f.name

/-- The definitions that can be built: from none of the fields, in any number of steps. -/
inductive IsBuilt : Definition → Prop
  | empty (path : String) (edition : Nat) : IsBuilt { path, edition }
  | addField {d : Definition} (f : Field) (h : IsBuilt d) : IsBuilt (d.addField f)
  | replaceField {d d' : Definition} {f : Field} (h : IsBuilt d) (hd : d.replaceField f = .ok d') :
    IsBuilt d'
  | setIdFields {d d' : Definition} {names : List String} (h : IsBuilt d)
    (hd : d.setIdFields names = .ok d') : IsBuilt d'
  | setDefault {d d' : Definition} {name : String} {v : Value} (h : IsBuilt d)
    (hd : d.setDefault name v = .ok d') : IsBuilt d'
  | registerCodeTable {d : Definition} (name : String) (table : CodeTable) (h : IsBuilt d) :
    IsBuilt (d.registerCodeTable name table)
  | renamed {d : Definition} (path : String) (h : IsBuilt d) : IsBuilt (d.renamed path)
  | withGrid {d : Definition} (grid : GeometryGrid) (h : IsBuilt d) :
    IsBuilt { d with grid := some grid }

theorem keys_append (h : d.fieldIndex? f.name = none) :
    (d.append f h).keys = d.keys ++ [nameKey f.name] := by
  simp [keys, append, prepare]

/-- A field takes the place of one with its name, so the names stay. -/
theorem keys_install {i : Nat} (h : d.fieldIndex? f.name = some i) :
    (d.install i f h).keys = d.keys := by
  obtain ⟨hlt, hkey⟩ := exists_of_fieldIndex? h
  rw [keys, install, List.map_set]
  refine List.ext_getElem (by simp [keys]) fun j hj _ => ?_
  rw [List.getElem_set]
  split
  · rename_i hij
    subst hij
    simp [keys, hkey, prepare]
  · simp [keys]

/-- A code table that is registered changes nothing of a field but its table and its version. -/
theorem map_registerCodeTable {α : Type} (d : Definition) (name : String) (table : CodeTable)
    {g : Field → α} (h : ∀ f codeTable version, g { f with codeTable, version } = g f) :
    (d.registerCodeTable name table).fields.map g = d.fields.map g := by
  rw [registerCodeTable]
  dsimp only
  split
  · rfl
  · refine List.ext_getElem (by simp) fun j _ _ => ?_
    simp only [List.getElem_map, List.getElem_modify]
    split
    · split
      · rfl
      · exact h ..
    · rfl

theorem keys_registerCodeTable (d : Definition) (name : String) (table : CodeTable) :
    (d.registerCodeTable name table).keys = d.keys :=
  map_registerCodeTable d name table fun _ _ _ => rfl

theorem notMem_keys (h : d.fieldIndex? name = none) : nameKey name ∉ d.keys := by
  intro hmem
  obtain ⟨f, hf, hkey⟩ := List.mem_map.1 hmem
  rw [fieldIndex?_eq] at h
  have hne := List.findIdx?_eq_none_iff.1 h f hf
  rw [hkey, beq_self_eq_true] at hne
  cases hne

theorem nodup_keys_addField (h : d.keys.Nodup) (f : Field) : (d.addField f).keys.Nodup := by
  rw [addField]
  split
  · rename_i i hi
    rwa [keys_install hi]
  · rename_i hnone
    rw [keys_append, ← List.concat_eq_append]
    exact List.Nodup.concat (notMem_keys hnone) h

theorem keys_replaceField {d' : Definition} (h : d.replaceField f = .ok d') : d'.keys = d.keys := by
  rw [replaceField] at h
  split at h
  · rename_i i hi
    cases h
    exact keys_install hi
  · cases h

theorem keys_setIdFields {d' : Definition} {names : List String}
    (h : d.setIdFields names = .ok d') : d'.keys = d.keys := by
  obtain ⟨places, -, rfl⟩ := exists_of_map_ok h
  rfl

theorem keys_setDefault {d' : Definition} {v : Value} (h : d.setDefault name v = .ok d') :
    d'.keys = d.keys := by
  rw [setDefault] at h
  split at h
  · cases h
  · obtain ⟨w, -, rfl⟩ := exists_of_map_ok h
    rfl

/-- No two fields of a definition that was built are found by the same name. -/
theorem nodup_keys (h : d.IsBuilt) : d.keys.Nodup := by
  induction h with
  | empty => exact List.nodup_nil
  | addField f _ ih => exact nodup_keys_addField ih f
  | replaceField _ hd ih => rwa [keys_replaceField hd]
  | setIdFields _ hd ih => rwa [keys_setIdFields hd]
  | setDefault _ hd ih => rwa [keys_setDefault hd]
  | registerCodeTable name table _ ih => rwa [keys_registerCodeTable]
  | renamed _ _ ih => exact ih
  | withGrid _ _ ih => exact ih

/-- What a name leads to, where no two fields are found by the same name. -/
theorem fieldIndex?_eq_some_iff (h : d.keys.Nodup) {i : Nat} :
    d.fieldIndex? name = some i ↔ ∃ f, d.fields[i]? = some f ∧ nameKey f.name = nameKey name := by
  constructor
  · intro hi
    obtain ⟨hlt, hkey⟩ := exists_of_fieldIndex? hi
    exact ⟨_, List.getElem?_eq_getElem hlt, hkey⟩
  · rintro ⟨f, hi, hkey⟩
    obtain ⟨hlt, rfl⟩ := List.getElem?_eq_some_iff.1 hi
    rw [fieldIndex?_eq, ← hkey]
    refine List.findIdx?_eq_some_iff_getElem.2 ⟨hlt, beq_self_eq_true _, fun j hji => ?_⟩
    -- An earlier field with the same name would be a second one.
    intro hkey
    have hj : j < d.keys.length := by
      rw [keys, List.length_map]
      omega
    have hi : i < d.keys.length := by
      rw [keys, List.length_map]
      exact hlt
    have hsame : d.keys[j] = d.keys[i] := by simpa [keys] using hkey
    exact absurd ((List.Nodup.getElem_inj_iff h).1 hsame) (Nat.ne_of_lt hji)

/-- Every field of a definition that was built is found by its name. -/
theorem field?_of_getElem? (h : d.IsBuilt) {i : Nat} (hi : d.fields[i]? = some f) :
    d.field? f.name = some f := by
  rw [field?, (fieldIndex?_eq_some_iff (nodup_keys h)).2 ⟨f, hi, rfl⟩]
  exact hi

end Definition

end TypedFilter
