import TypedFilter.Proofs.Names

/-!
Definitions under changes. Main statement: whatever was done to a definition, what it knows of its
fields besides the fields themselves agrees with them, and no change takes a field away or moves it.
-/

namespace TypedFilter.Definition

/-! ### Changes -/

/-- A change of a definition. -/
inductive Change where
  | addField (f : Field)
  | replaceField (f : Field)
  | registerCodeTable (name : String) (table : CodeTable)
  | setIdFields (names : List String)
  | setDefault (name : String) (v : Value)
  | renamed (path : String)

/-- Makes a change, if it can be made. -/
def change (d : Definition) : Change → Result Definition
  | .addField f => .ok (d.addField f)
  | .replaceField f => d.replaceField f
  | .registerCodeTable name table => .ok (d.registerCodeTable name table)
  | .setIdFields names => d.setIdFields names
  | .setDefault name v => d.setDefault name v
  | .renamed path => .ok (d.renamed path)

/-- The definition after a change; one that cannot be made leaves it as it is. -/
def changed (d : Definition) (c : Change) : Definition :=
  match d.change c with
  | .ok d' => d'
  | .error _ => d

/-- The definition after changes in a row. -/
def run (d : Definition) (changes : List Change) : Definition :=
  changes.foldl changed d

/-- What a change can do to a definition. -/
inductive Step (d : Definition) : Definition → Prop
  | append (f : Field) (h : d.fieldIndex? f.name = none) : Step d (d.append f h)
  | install (i : Nat) (f : Field) (h : d.fieldIndex? f.name = some i) : Step d (d.install i f h)
  | registerCodeTable (name : String) (table : CodeTable) : Step d (d.registerCodeTable name table)
  | identify {places : List Nat} (h : ∀ i ∈ places, i < d.fields.length) :
    Step d { d with idIndexes := places }
  | setDefault {name : String} {f : Field} (v : Value) (h : d.field? name = some f) :
    Step d { d with defaults := d.defaults.put (nameKey name) v }
  | renamed (path : String) : Step d (d.renamed path)

/-! ### What agrees -/

/-- Whether there is a field at a place, and it is one of geometries. -/
def IsGeometryAt (d : Definition) (i : Nat) : Prop :=
  ∃ f, d.fields[i]? = some f ∧ f.type.isGeometry = true

/-- Whether what the definition knows of its fields besides the fields themselves agrees with them:
no two fields are found by the same name, each field knows its place, the places of the geometry
fields are those of fields with such types and each is there once, and identifiers and defaults are
those of fields that there are. -/
structure IsConsistent (d : Definition) : Prop where
  nodup_keys : d.keys.Nodup
  index : ∀ i (f : Field), d.fields[i]? = some f → f.index = i
  nodup_geometry : d.geometryIndexes.Nodup
  mem_geometry : ∀ i, i ∈ d.geometryIndexes ↔ d.IsGeometryAt i
  identified : ∀ i ∈ d.idIndexes, i < d.fields.length
  defaulted : ∀ key v, d.defaults.get? key = some v → key ∈ d.keys

variable {d d' : Definition} {f : Field} {i j : Nat} {name : String}

theorem lt_of_isGeometryAt (h : d.IsGeometryAt i) : i < d.fields.length := by
  obtain ⟨f, hf, -⟩ := h
  exact (List.getElem?_eq_some_iff.1 hf).1

theorem mem_keys_of_fieldIndex? (h : d.fieldIndex? name = some i) : nameKey name ∈ d.keys := by
  obtain ⟨hlt, hkey⟩ := exists_of_fieldIndex? h
  exact hkey ▸ List.mem_map_of_mem (List.getElem_mem hlt)

theorem mem_keys_of_field? (h : d.field? name = some f) : nameKey name ∈ d.keys :=
  nameKey_of_field? h ▸ List.mem_map_of_mem (mem_of_field? h)

/-! ### Fields after a step -/

theorem fields_append (h : d.fieldIndex? f.name = none) :
    (d.append f h).fields[j]? =
      if j = d.fields.length then some (d.prepare j f) else d.fields[j]? := by
  show (d.fields ++ [d.prepare d.fields.length f])[j]? = _
  rcases Nat.lt_trichotomy j d.fields.length with hlt | rfl | hgt
  · rw [List.getElem?_append_left hlt, if_neg (Nat.ne_of_lt hlt)]
  · rw [List.getElem?_concat_length, if_pos rfl]
  · rw [if_neg (Nat.ne_of_gt hgt), List.getElem?_eq_none (Nat.le_of_lt hgt),
      List.getElem?_eq_none (by simp; omega)]

theorem fields_install (h : d.fieldIndex? f.name = some i) :
    (d.install i f h).fields[j]? = if j = i then some (d.prepare i f) else d.fields[j]? := by
  obtain ⟨hlt, -⟩ := exists_of_fieldIndex? h
  show (d.fields.set i (d.prepare i f))[j]? = _
  rw [List.getElem?_set]
  by_cases hij : i = j
  · simp [hij, hij ▸ hlt]
  · simp [hij, Ne.symm hij]

/-- A code table that is registered changes neither the types of fields nor what they know of their
places. -/
theorem shapes_registerCodeTable (d : Definition) (name : String) (table : CodeTable) :
    (d.registerCodeTable name table).fields.map (fun f => (f.index, f.type)) =
      d.fields.map fun f => (f.index, f.type) :=
  map_registerCodeTable d name table fun _ _ _ => rfl

theorem exists_of_shapes {fields others : List Field}
    (h : fields.map (fun f => (f.index, f.type)) = others.map fun f => (f.index, f.type))
    (hf : fields[j]? = some f) : ∃ g, others[j]? = some g ∧ g.index = f.index ∧ g.type = f.type := by
  have hj : (others.map fun f => (f.index, f.type))[j]? = some (f.index, f.type) := by
    rw [← h, List.getElem?_map, hf, Option.map_some]
  rw [List.getElem?_map] at hj
  obtain ⟨g, hg, hshape⟩ := Option.map_eq_some_iff.1 hj
  exact ⟨g, hg, congrArg Prod.fst hshape, congrArg Prod.snd hshape⟩

theorem isGeometryAt_append (h : d.fieldIndex? f.name = none) :
    (d.append f h).IsGeometryAt j ↔
      d.IsGeometryAt j ∨ j = d.fields.length ∧ f.type.isGeometry = true := by
  simp only [IsGeometryAt, fields_append h]
  by_cases hj : j = d.fields.length
  · subst hj
    simp [prepare]
  · simp [hj]

theorem isGeometryAt_install (h : d.fieldIndex? f.name = some i) :
    (d.install i f h).IsGeometryAt j ↔
      if j = i then f.type.isGeometry = true else d.IsGeometryAt j := by
  simp only [IsGeometryAt, fields_install h]
  by_cases hj : j = i
  · simp [hj, prepare]
  · simp [hj]

theorem isGeometryAt_registerCodeTable {table : CodeTable} :
    (d.registerCodeTable name table).IsGeometryAt j ↔ d.IsGeometryAt j := by
  have hshapes := shapes_registerCodeTable d name table
  constructor
  · rintro ⟨f, hf, hgeometry⟩
    obtain ⟨g, hg, -, htype⟩ := exists_of_shapes hshapes hf
    exact ⟨g, hg, htype ▸ hgeometry⟩
  · rintro ⟨f, hf, hgeometry⟩
    obtain ⟨g, hg, -, htype⟩ := exists_of_shapes hshapes.symm hf
    exact ⟨g, hg, htype ▸ hgeometry⟩

/-! ### Steps -/

theorem indexesOf_lt {names : List String} {places : List Nat} (h : d.indexesOf names = .ok places) :
    ∀ i ∈ places, i < d.fields.length := by
  induction names generalizing places with
  | nil =>
    cases h
    simp
  | cons name rest ih =>
    rw [indexesOf] at h
    split at h
    · cases h
    · rename_i i hi
      obtain ⟨places', hplaces, rfl⟩ := exists_of_map_ok h
      intro j hj
      rcases List.mem_cons.1 hj with rfl | hj
      · exact (exists_of_fieldIndex? hi).1
      · exact ih hplaces j hj

theorem step_addField (d : Definition) (f : Field) : d.Step (d.addField f) := by
  rw [addField]
  split
  · rename_i i hi
    exact .install i f hi
  · rename_i hnone
    exact .append f hnone

/-- A change that can be made is one of the steps. -/
theorem step_of_change {c : Change} (h : d.change c = .ok d') : d.Step d' := by
  cases c with
  | addField f =>
    cases h
    exact step_addField d f
  | replaceField f =>
    rw [change, replaceField] at h
    split at h
    · rename_i i hi
      cases h
      exact .install i f hi
    · cases h
  | registerCodeTable name table =>
    cases h
    exact .registerCodeTable name table
  | setIdFields names =>
    obtain ⟨places, hplaces, rfl⟩ := exists_of_map_ok h
    exact .identify (indexesOf_lt hplaces)
  | setDefault name v =>
    rw [change, setDefault] at h
    split at h
    · cases h
    · rename_i f hf
      obtain ⟨w, -, rfl⟩ := exists_of_map_ok h
      exact .setDefault w hf
  | renamed path =>
    cases h
    exact .renamed path

/-! ### Agreement is kept -/

theorem isConsistent_empty (path : String) (edition : Nat) :
    IsConsistent { path, edition } where
  nodup_keys := List.nodup_nil
  index i f h := by cases h
  nodup_geometry := List.nodup_nil
  mem_geometry i := by simp [IsGeometryAt]
  identified := by simp
  defaulted key v h := by cases h

theorem isConsistent_append (hd : d.IsConsistent) (h : d.fieldIndex? f.name = none) :
    (d.append f h).IsConsistent where
  nodup_keys := by
    rw [keys_append, ← List.concat_eq_append]
    exact List.Nodup.concat (notMem_keys h) hd.nodup_keys
  index j g hg := by
    rw [fields_append h] at hg
    split at hg
    · cases hg
      rfl
    · exact hd.index j g hg
  nodup_geometry := by
    have hnew : d.fields.length ∉ d.geometryIndexes :=
      fun hmem => Nat.lt_irrefl _ (lt_of_isGeometryAt ((hd.mem_geometry _).1 hmem))
    rw [append]
    dsimp only
    split
    · rw [← List.concat_eq_append]
      exact List.Nodup.concat hnew hd.nodup_geometry
    · exact hd.nodup_geometry
  mem_geometry j := by
    rw [isGeometryAt_append h, ← hd.mem_geometry, append]
    dsimp only
    split <;> simp_all
  identified j hj := by
    have hlt := hd.identified j hj
    rw [append]
    simp only [List.length_append, List.length_singleton]
    omega
  defaulted key v hkey := by
    rw [keys_append, List.mem_append, List.mem_singleton]
    rw [append] at hkey
    dsimp only at hkey
    split at hkey
    · rw [Keyed.get?_put] at hkey
      split at hkey
      · exact .inr ‹_›
      · exact .inl (hd.defaulted key v hkey)
    · exact .inl (hd.defaulted key v hkey)

theorem isConsistent_install (hd : d.IsConsistent) (h : d.fieldIndex? f.name = some i) :
    (d.install i f h).IsConsistent where
  nodup_keys := by
    rw [keys_install]
    exact hd.nodup_keys
  index j g hg := by
    rw [fields_install h] at hg
    split at hg
    · rename_i hj
      cases hg
      exact hj.symm
    · exact hd.index j g hg
  nodup_geometry := by
    rw [install]
    dsimp only
    split
    · split
      · exact hd.nodup_geometry
      · rename_i hnew
        rw [List.contains_iff_mem] at hnew
        rw [← List.concat_eq_append]
        exact List.Nodup.concat hnew hd.nodup_geometry
    · exact hd.nodup_geometry.filter _
  mem_geometry j := by
    rw [isGeometryAt_install h, ← hd.mem_geometry, install]
    dsimp only
    by_cases hj : j = i
    · subst hj
      split
      · split <;> simp_all
      · simp_all
    · split
      · split <;> simp [hj]
      · simp [hj]
  identified j hj := by
    rw [install]
    simpa only [List.length_set] using hd.identified j hj
  defaulted key v hkey := by
    rw [keys_install]
    rw [install] at hkey
    dsimp only at hkey
    split at hkey
    · rw [Keyed.get?_put] at hkey
      split at hkey
      · rename_i hname
        exact hname ▸ mem_keys_of_fieldIndex? h
      · exact hd.defaulted key v hkey
    · rw [Keyed.get?_erase] at hkey
      split at hkey
      · cases hkey
      · exact hd.defaulted key v hkey

/-- A code table that is registered touches nothing but fields. -/
theorem rest_registerCodeTable (d : Definition) (name : String) (table : CodeTable) :
    (d.registerCodeTable name table).places = d.places ∧
      (d.registerCodeTable name table).geometryIndexes = d.geometryIndexes ∧
      (d.registerCodeTable name table).idIndexes = d.idIndexes ∧
      (d.registerCodeTable name table).defaults = d.defaults := by
  rw [registerCodeTable]
  dsimp only
  split <;> exact ⟨rfl, rfl, rfl, rfl⟩

theorem isConsistent_registerCodeTable (hd : d.IsConsistent) (name : String) (table : CodeTable) :
    (d.registerCodeTable name table).IsConsistent := by
  obtain ⟨-, hgeometry, hids, hdefaults⟩ := rest_registerCodeTable d name table
  have hshapes := shapes_registerCodeTable d name table
  have hlength : (d.registerCodeTable name table).fields.length = d.fields.length := by
    simpa using congrArg List.length hshapes
  constructor
  case nodup_keys =>
    rw [keys_registerCodeTable]
    exact hd.nodup_keys
  case index =>
    intro j f hf
    obtain ⟨g, hg, hindex, -⟩ := exists_of_shapes hshapes hf
    exact hindex ▸ hd.index j g hg
  case nodup_geometry =>
    rw [hgeometry]
    exact hd.nodup_geometry
  case mem_geometry =>
    intro j
    rw [hgeometry, isGeometryAt_registerCodeTable, hd.mem_geometry]
  case identified =>
    rw [hids, hlength]
    exact hd.identified
  case defaulted =>
    rw [hdefaults, keys_registerCodeTable]
    exact hd.defaulted

theorem isConsistent_step (hd : d.IsConsistent) (h : d.Step d') : d'.IsConsistent := by
  cases h with
  | append f h => exact isConsistent_append hd h
  | install i f h => exact isConsistent_install hd h
  | registerCodeTable name table => exact isConsistent_registerCodeTable hd name table
  | identify h => exact { hd with identified := h }
  | setDefault v h =>
    refine { hd with defaulted := fun key w hkey => ?_ }
    rw [Keyed.get?_put] at hkey
    split at hkey
    · rename_i hname
      exact hname ▸ mem_keys_of_field? h
    · exact hd.defaulted key w hkey
  | renamed path => exact { hd with }

/-- A change takes a step or leaves the definition as it is. -/
theorem changed_eq_or_step (d : Definition) (c : Change) : d.changed c = d ∨ d.Step (d.changed c) := by
  rw [changed]
  split
  · rename_i d' h
    exact .inr (step_of_change h)
  · exact .inl rfl

theorem isConsistent_changed (hd : d.IsConsistent) (c : Change) : (d.changed c).IsConsistent := by
  obtain h | h := changed_eq_or_step d c
  · rw [h]
    exact hd
  · exact isConsistent_step hd h

theorem isConsistent_run (hd : d.IsConsistent) (changes : List Change) :
    (d.run changes).IsConsistent := by
  induction changes generalizing d with
  | nil => exact hd
  | cons c rest ih => exact ih (isConsistent_changed hd c)

/-! ### What changes keep -/

/-- Whether a place is that of a geometry field before the changes and after each of them. -/
def StaysGeometry (d : Definition) (changes : List Change) (i : Nat) : Prop :=
  ∀ made, made <+: changes → (d.run made).IsGeometryAt i

/-- What changes in a row keep: each field under its name and in its place, the order of the
geometry fields that stay such, and the first of them. -/
structure IsKept (d : Definition) (changes : List Change) : Prop where
  keys : d.keys <+: (d.run changes).keys
  places : ∀ name i, d.fieldIndex? name = some i → (d.run changes).fieldIndex? name = some i
  order : ∀ places : List Nat, places.Sublist d.geometryIndexes →
    (∀ i ∈ places, d.StaysGeometry changes i) → places.Sublist (d.run changes).geometryIndexes
  first : ∀ i, d.geometryIndexes.head? = some i → d.StaysGeometry changes i →
    (d.run changes).geometryIndexes.head? = some i

/-- New names come last. -/
theorem keys_step (h : d.Step d') : d.keys <+: d'.keys := by
  cases h with
  | append f h =>
    rw [keys_append]
    exact List.prefix_append _ _
  | install i f h => exact keys_install h ▸ List.prefix_rfl
  | registerCodeTable name table =>
    exact keys_registerCodeTable d name table ▸ List.prefix_rfl
  | identify => exact List.prefix_rfl
  | setDefault => exact List.prefix_rfl
  | renamed => exact List.prefix_rfl

theorem fieldIndex?_step (h : d.Step d') (hi : d.fieldIndex? name = some i) :
    d'.fieldIndex? name = some i := by
  cases h with
  | append f h =>
    rw [fieldIndex?, append, Keyed.get?_put]
    split
    · rename_i hname
      rw [fieldIndex?, ← hname] at h
      cases h.symm.trans hi
    · exact hi
  | install j f h => exact hi
  | registerCodeTable other table =>
    rw [fieldIndex?, (rest_registerCodeTable d other table).1]
    exact hi
  | identify => exact hi
  | setDefault => exact hi
  | renamed => exact hi

/-- What is left of the geometry fields comes first and in the same order. -/
theorem geometryIndexes_step (h : d.Step d') :
    d.geometryIndexes.filter (d'.geometryIndexes.contains ·) <+: d'.geometryIndexes := by
  have hmore : ∀ places more : List Nat,
      places.filter ((places ++ more).contains ·) <+: places ++ more := fun places more => by
    rw [List.filter_eq_self.2 fun i hi => List.contains_iff_mem.2 (List.mem_append_left more hi)]
    exact List.prefix_append _ _
  have hsame : ∀ places : List Nat, places.filter (places.contains ·) <+: places := fun places => by
    simpa using hmore places []
  cases h with
  | append f h =>
    rw [append]
    dsimp only
    split
    · exact hmore _ _
    · exact hsame _
  | install i f h =>
    rw [install]
    dsimp only
    split
    · split
      · exact hsame _
      · exact hmore _ _
    · have hleft : ∀ j ∈ d.geometryIndexes,
          (d.geometryIndexes.filter (· != i)).contains j = (j != i) := fun j hj => by
        rw [Bool.eq_iff_iff, List.contains_iff_mem, List.mem_filter]
        simp [hj]
      exact (List.filter_congr hleft).symm ▸ List.prefix_rfl
  | registerCodeTable name table =>
    rw [(rest_registerCodeTable d name table).2.1]
    exact hsame _
  | identify => exact hsame _
  | setDefault => exact hsame _
  | renamed => exact hsame _

theorem staysGeometry_tail {c : Change} {rest : List Change} (h : d.StaysGeometry (c :: rest) i) :
    (d.changed c).StaysGeometry rest i :=
  fun made hmade => h (c :: made) (List.cons_prefix_cons.2 ⟨rfl, hmade⟩)

/-- A geometry field that is still one after a change is there among the others. -/
theorem mem_geometryIndexes_changed (hd : d.IsConsistent) {c : Change} {rest : List Change}
    (h : d.StaysGeometry (c :: rest) i) : i ∈ (d.changed c).geometryIndexes :=
  ((isConsistent_changed hd c).mem_geometry i).2
    (h [c] (List.cons_prefix_cons.2 ⟨rfl, List.nil_prefix⟩))

theorem geometryIndexes_changed (d : Definition) (c : Change) :
    d.geometryIndexes.filter ((d.changed c).geometryIndexes.contains ·) <+:
      (d.changed c).geometryIndexes := by
  obtain h | h := changed_eq_or_step d c
  · have hall : d.geometryIndexes.filter (d.geometryIndexes.contains ·) = d.geometryIndexes :=
      List.filter_eq_self.2 fun i hi => List.contains_iff_mem.2 hi
    exact h.symm ▸ hall.symm ▸ List.prefix_rfl
  · exact geometryIndexes_step h

theorem isKept_nil (d : Definition) : d.IsKept [] where
  keys := List.prefix_rfl
  places _ _ h := h
  order _ h _ := h
  first _ h _ := h

theorem isKept_cons (hd : d.IsConsistent) {c : Change} {rest : List Change}
    (h : (d.changed c).IsKept rest) : d.IsKept (c :: rest) where
  keys := by
    refine List.IsPrefix.trans ?_ h.keys
    obtain hc | hc := changed_eq_or_step d c
    · exact hc.symm ▸ List.prefix_rfl
    · exact keys_step hc
  places name i hi := by
    refine h.places name i ?_
    obtain hc | hc := changed_eq_or_step d c
    · rwa [hc]
    · exact fieldIndex?_step hc hi
  order places hplaces hstay := by
    refine h.order places ?_ fun i hi => staysGeometry_tail (hstay i hi)
    have hall : places.filter ((d.changed c).geometryIndexes.contains ·) = places :=
      List.filter_eq_self.2 fun i hi =>
        List.contains_iff_mem.2 (mem_geometryIndexes_changed hd (hstay i hi))
    rw [← hall]
    exact (hplaces.filter _).trans (geometryIndexes_changed d c).sublist
  first i hi hstay := by
    refine h.first i ?_ (staysGeometry_tail hstay)
    obtain ⟨others, hothers⟩ := List.head?_eq_some_iff.1 hi
    obtain ⟨more, hmore⟩ := geometryIndexes_changed d c
    have hmem := List.contains_iff_mem.2 (mem_geometryIndexes_changed hd hstay)
    rw [← hmore, hothers, List.filter_cons_of_pos hmem]
    rfl

theorem isKept_run (hd : d.IsConsistent) (changes : List Change) : d.IsKept changes := by
  induction changes generalizing d with
  | nil => exact isKept_nil d
  | cons c rest ih => exact isKept_cons hd (ih (isConsistent_changed hd c))

/-- Whatever was done to a definition from the start, it is consistent, a name in any case leads to
the field with it, further changes keep what there is, and one that fails changes nothing. -/
theorem run_isConsistent_and_isKept (path : String) (edition : Nat) (changes : List Change) :
    let d := run { path, edition } changes
    d.IsConsistent ∧
      (∀ name i, d.fieldIndex? name = some i ↔
        ∃ f, d.fields[i]? = some f ∧ nameKey f.name = nameKey name) ∧
      (∀ more, d.IsKept more) ∧
      ∀ c error, d.change c = .error error → d.changed c = d := by
  have hd := isConsistent_run (isConsistent_empty path edition) changes
  refine ⟨hd, fun name i => fieldIndex?_eq_some_iff hd.nodup_keys, isKept_run hd, ?_⟩
  intro c error h
  rw [changed, h]

end TypedFilter.Definition
