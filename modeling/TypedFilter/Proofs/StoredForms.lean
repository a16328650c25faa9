import TypedFilter.Proofs.CodeTables
import TypedFilter.Proofs.Definitions
import TypedFilter.Proofs.Records
import TypedFilter.Proofs.StoredTypes
import TypedFilter.Proofs.Stores
import TypedFilter.Proofs.Widening

/-!
The form of stored values. Main statement: a field without a code table takes every value that a
store holds for it as it is; one with a code table does if its default is no display value, and if
the table has nothing else for the values that it stands for.
-/

namespace TypedFilter

/-! ### Types -/

namespace DataType

variable {t : DataType} {u v w : Value}

/-- A value of a type is converted to itself. -/
theorem convert_of_holds (h : t.holds v = true) : t.convert v = .ok v := by
  cases t with
  | boolean | integer | decimal | string | date | time | timestamp =>
    exact Value.convert_of_dataType? trivial (of_decide_eq_true h)
  | float =>
    cases v with
    | float x =>
      refine Value.convert_of_cast? rfl ?_
      exact congrArg (some ∘ Value.float) (Binary.convert_convert_single x)
    | _ => cases h
  | double =>
    cases v with
    | double x => rfl
    | _ => cases h
  | geometry =>
    cases v with
    | geometry g => rfl
    | _ => cases h
  | shape kind =>
    cases v with
    | geometry g =>
      have hkind : g.kind = kind := by simpa [holds, Value.dataType?] using h
      exact Value.convert_of_cast? rfl (by simp [cast?, geometryOf?, hkind])
    | _ => cases h
  | object =>
    have hnull : v.isNull = false := by simpa [holds] using h
    refine Value.convert_of_cast? ?_ rfl
    cases v with
    | null => cases hnull
    | string s => simp [countsAsNull]
    | _ => rfl

theorem isNull_of_holds (h : t.holds v = true) : v.isNull = false := by
  cases v with
  | null => cases t <;> cases h
  | _ => rfl

/-- What a conversion gives is none or a value of the type. -/
theorem eq_null_or_holds_of_convert (h : t.convert v = .ok w) : w = .null ∨ t.holds w = true := by
  cases hnull : w.isNull with
  | true => exact .inl (Value.eq_null_of_isNull hnull)
  | false => exact .inr (Value.holds_of_convert h hnull)

/-- A type leaves just its own values and no value at all as they are. -/
theorem convert_eq_self_iff : t.convert v = .ok v ↔ v = .null ∨ t.holds v = true := by
  refine ⟨eq_null_or_holds_of_convert, ?_⟩
  rintro (rfl | h)
  · rfl
  · exact convert_of_holds h

/-- What a conversion gives is converted to itself. -/
theorem convert_convert (h : t.convert v = .ok w) : t.convert w = .ok w :=
  convert_eq_self_iff.2 (eq_null_or_holds_of_convert h)

/-- Whether the type makes the value of some value. -/
def Gives (t : DataType) (v : Value) : Prop :=
  ∃ u, t.convertLenient u = v

theorem gives_of_convert (h : t.convert u = .ok v) : t.Gives v := by
  refine ⟨u, ?_⟩
  rw [convertLenient, h]

/-- Such a value is converted to itself, if it is converted at all. -/
theorem Gives.eq_of_convert (h : t.Gives v) (hw : t.convert v = .ok w) : w = v := by
  obtain ⟨u, hu⟩ := h
  rw [convertLenient] at hu
  split at hu
  · rename_i v' hconvert
    subst hu
    rw [convert_convert hconvert] at hw
    exact (Except.ok.inj hw).symm
  · rename_i hconvert
    subst hu
    cases hconvert.symm.trans hw

end DataType

/-! ### Code tables -/

namespace CodeTable

variable {table : CodeTable} {type : DataType} {v id : Value}

/-- Whether the table has nothing else for the values that stand for codes in a field of the type:
what is found for a conversion of an identifier, or of a value for which nothing is found, is
converted to that conversion. -/
def Settles (table : CodeTable) (type : DataType) : Prop :=
  ∀ u v id, table.identifierFor? u = none ∨ u ∈ table.identifiers → type.convert u = .ok v →
    table.identifierFor? v = some id → type.convert id = .ok v

theorem mem_identifiers_of_identifierFor? (h : table.identifierFor? v = some id) :
    id ∈ table.identifiers :=
  mem_identifiers_iff.2 (exists_code_of_identifier? h)

/-- Whether whatever the table has for a value of the type is that value. -/
def HasOnlyIdentifiers (table : CodeTable) (type : DataType) : Prop :=
  ∀ v id, v.dataType? = some type → table.identifierFor? v = some id → id = v

theorem HasOnlyIdentifiers.settles (h : table.HasOnlyIdentifiers type) (ht : type.IsScalar) :
    table.Settles type := by
  intro u v id _ hv hid
  rcases Value.dataType?_of_convert ht hv with rfl | hv
  · cases hid
  · rw [h v id hv hid]
    exact Value.convert_of_dataType? ht hv

theorem hasOnlyIdentifiers_boolean
    (h : ∀ b, table.identifierFor? (.boolean b) = some (.boolean b)) :
    table.HasOnlyIdentifiers .boolean := by
  intro v id hv hid
  cases v with
  | boolean b => exact Option.some.inj (hid.symm.trans (h b))
  | _ => cases hv

end CodeTable

/-! ### Fields -/

namespace Field

variable {f : Field} {u v w : Value}

/-- Whether the field makes the value of some value that it is given. -/
def Gives (f : Field) (v : Value) : Prop :=
  ∃ u, f.storeLenient u = v

/-- Whether the default, if there is one, is as the type makes it. -/
def IsProper (f : Field) : Prop :=
  ∀ v, f.default = some v → f.type.Gives v

theorem isProper_ofType (name : String) (type : DataType) : (ofType name type).IsProper := by
  intro v h
  cases h

theorem isProper_withDefault (f : Field) (v : Value) : (f.withDefault v).IsProper := by
  intro w h
  cases h
  exact ⟨v, rfl⟩

theorem store_null (f : Field) : f.store .null = .ok .null := rfl

theorem gives_null (f : Field) : f.Gives .null := ⟨.null, rfl⟩

theorem gives_of_store (h : f.store u = .ok v) : f.type.Gives v := by
  cases hu : u.isNull with
  | true =>
    rw [Value.eq_null_of_isNull hu, store_null] at h
    cases h
    exact ⟨.null, rfl⟩
  | false => exact DataType.gives_of_convert ((store_eq_ok_iff hu).1 h)

theorem storeLenient_of_store (h : f.store v = .ok w) : f.storeLenient v = w := by
  rw [storeLenient, h]

/-- Whether a value that is stored keeps the constraints of the field; where there is none, whether
none is required. -/
def Keeps (f : Field) (v : Value) : Prop :=
  if v.isNull then f.required = false else f.check v = .ok ()

theorem validate_of_store (h : f.store v = .ok u) :
    f.validate v = if u.isNull then
        if f.required then (f.reject u "is required").map fun _ => u else .ok u
      else (f.check u).map fun _ => u := by
  rw [validate, h]
  show (if u.isNull = true then _ else _) = _
  cases u.isNull <;> cases f.required <;> rfl

/-- A field takes what it can store, if that keeps the constraints. -/
theorem validate_eq_ok_iff : f.validate v = .ok w ↔ f.store v = .ok w ∧ f.Keeps w := by
  cases hstore : f.store v with
  | error e =>
    rw [validate, hstore]
    exact iff_of_false nofun nofun
  | ok u =>
    rw [validate_of_store hstore, Except.ok.injEq]
    constructor
    · intro h
      split at h
      · rename_i hnull
        split at h
        · cases h
        · rename_i hrequired
          cases h
          exact ⟨rfl, by rw [Keeps, if_pos hnull]; exact Bool.not_eq_true _ ▸ hrequired⟩
      · rename_i hnull
        obtain ⟨_, hcheck, rfl⟩ := exists_of_map_ok h
        exact ⟨rfl, by rw [Keeps, if_neg hnull]; exact hcheck⟩
    · rintro ⟨rfl, hkeeps⟩
      rw [Keeps] at hkeeps
      split at hkeeps
      · rename_i hnull
        rw [if_pos hnull, hkeeps]
        rfl
      · rename_i hnull
        rw [if_neg hnull, hkeeps]
        rfl

theorem store_and_check_of_validate (h : f.validate v = .ok w) :
    f.store v = .ok w ∧ (w.isNull = false → f.check w = .ok ()) := by
  obtain ⟨hstore, hkeeps⟩ := validate_eq_ok_iff.1 h
  refine ⟨hstore, fun hnull => ?_⟩
  rwa [Keeps, hnull, if_neg Bool.false_ne_true] at hkeeps

/-- With a code table, what a field takes is found in it. -/
theorem isSome_identifierFor?_of_validate {table : CodeTable} (htable : f.codeTable = some table)
    (h : f.validate v = .ok w) (hw : w.isNull = false) : (table.identifierFor? w).isSome := by
  have hcheck := (store_and_check_of_validate h).2 hw
  rw [check, htable] at hcheck
  dsimp only at hcheck
  split at hcheck
  · assumption
  · cases hcheck

/-- What a field leaves as it is, it cannot store. -/
theorem Gives.exists_store (h : f.Gives v) (hw : f.store v = .ok w) : ∃ u, f.store u = .ok v := by
  obtain ⟨u, hu⟩ := h
  rw [storeLenient] at hu
  split at hu
  · rename_i v' hstore
    exact ⟨u, hu ▸ hstore⟩
  · rename_i e hstore
    rw [hu, hw] at hstore
    cases hstore

/-- What a field stored is found under no other code. -/
theorem Gives.convert_identifier {table : CodeTable} {id : Value} (h : f.Gives v)
    (hw : f.store v = .ok w) (htable : f.codeTable = some table) (hsettles : table.Settles f.type)
    (hid : table.identifierFor? v = some id) : f.type.convert id = .ok v := by
  obtain ⟨u, hu⟩ := h.exists_store hw
  have hnull : u.isNull = false := by
    rw [Bool.eq_false_iff]
    intro hnull
    rw [Value.eq_null_of_isNull hnull, store_null] at hu
    cases hu
    cases hid
  have hconvert := (store_eq_ok_iff hnull).1 hu
  rw [htable, Option.bind_some] at hconvert
  cases hfound : table.identifierFor? u with
  | none =>
    rw [hfound] at hconvert
    exact hsettles u v id (.inl hfound) hconvert hid
  | some id' =>
    rw [hfound] at hconvert
    have hmem := CodeTable.mem_identifiers_of_identifierFor? hfound
    exact hsettles id' v id (.inr hmem) hconvert hid

/-- A value that the type made is taken as it is, unless it is found under another code. -/
theorem eq_of_validate (hv : f.type.Gives v)
    (hfound : ∀ id, f.codeTable.bind (·.identifierFor? v) = some id → f.type.convert id = .ok v)
    (h : f.validate v = .ok w) : w = v := by
  have hstore := (store_and_check_of_validate h).1
  cases hnull : v.isNull with
  | true =>
    rw [Value.eq_null_of_isNull hnull, store_null] at hstore
    rw [Value.eq_null_of_isNull hnull]
    exact (Except.ok.inj hstore).symm
  | false =>
    have hconvert := (store_eq_ok_iff hnull).1 hstore
    cases hid : f.codeTable.bind (·.identifierFor? v) with
    | none =>
      rw [hid] at hconvert
      exact hv.eq_of_convert hconvert
    | some id =>
      rw [hid] at hconvert
      exact Except.ok.inj (hconvert.symm.trans (hfound id hid))

end Field

/-! ### Definitions -/

namespace Definition

variable {d : Definition} {f : Field} {i : Nat} {v : Value}

/-- Whether a value is the default of a field with this name: the one that the field came with, or
one that was set later. -/
def IsDefaultOf (d : Definition) (key : String) (v : Value) : Prop :=
  ∃ (i : Nat) (f : Field), d.fields[i]? = some f ∧ nameKey f.name = key ∧
    (f.default = some v ∨ f.type.Gives v)

theorem isDefaultOf_append (h : d.fieldIndex? f.name = none) {key : String}
    (hd : ∀ v, d.defaults.get? key = some v → d.IsDefaultOf key v)
    (hv : (d.append f h).defaults.get? key = some v) : (d.append f h).IsDefaultOf key v := by
  have hold : d.defaults.get? key = some v → (d.append f h).IsDefaultOf key v := by
    intro hv
    obtain ⟨i, g, hi, hg⟩ := hd v hv
    have hlt := (List.getElem?_eq_some_iff.1 hi).1
    exact ⟨i, g, by rw [fields_append h, if_neg (Nat.ne_of_lt hlt), hi], hg⟩
  rw [append] at hv
  dsimp only at hv
  split at hv
  · rename_i w hw
    rw [Keyed.get?_put] at hv
    split at hv
    · rename_i hkey
      cases hv
      exact ⟨d.fields.length, d.prepare d.fields.length f, by rw [fields_append h, if_pos rfl],
        hkey.symm, .inl hw⟩
    · exact hold hv
  · exact hold hv

theorem isDefaultOf_install (h : d.fieldIndex? f.name = some i) {key : String}
    (hd : ∀ v, d.defaults.get? key = some v → d.IsDefaultOf key v)
    (hv : (d.install i f h).defaults.get? key = some v) : (d.install i f h).IsDefaultOf key v := by
  -- Whatever is known under another name is not at the place of the new field.
  have hold : key ≠ nameKey f.name → d.defaults.get? key = some v →
      (d.install i f h).IsDefaultOf key v := by
    intro hne hv
    obtain ⟨j, g, hj, hkey, hg⟩ := hd v hv
    have hji : j ≠ i := by
      rintro rfl
      obtain ⟨hlt, hname⟩ := exists_of_fieldIndex? h
      rw [List.getElem?_eq_getElem hlt] at hj
      cases hj
      exact hne (hkey.symm.trans hname)
    exact ⟨j, g, by rw [fields_install h, if_neg hji, hj], hkey, hg⟩
  rw [install] at hv
  dsimp only at hv
  split at hv
  · rename_i w hw
    rw [Keyed.get?_put] at hv
    split at hv
    · rename_i hkey
      cases hv
      exact ⟨i, d.prepare i f, by rw [fields_install h, if_pos rfl], hkey.symm, .inl hw⟩
    · exact hold ‹_› hv
  · rw [Keyed.get?_erase] at hv
    split at hv
    · cases hv
    · exact hold ‹_› hv

theorem isDefaultOf_registerCodeTable (name : String) (table : CodeTable) {key : String}
    (hv : d.IsDefaultOf key v) : (d.registerCodeTable name table).IsDefaultOf key v := by
  obtain ⟨i, f, hi, hkey, hf⟩ := hv
  let parts (f : Field) := (nameKey f.name, f.type, f.default)
  have hparts := map_registerCodeTable d name table (g := parts) fun _ _ _ => rfl
  have hat : ((d.registerCodeTable name table).fields.map parts)[i]? = some (parts f) := by
    rw [hparts, List.getElem?_map, hi, Option.map_some]
  rw [List.getElem?_map] at hat
  obtain ⟨g, hg, hsame⟩ := Option.map_eq_some_iff.1 hat
  obtain ⟨hname, hrest⟩ := Prod.mk.inj hsame
  obtain ⟨htype, hdefault⟩ := Prod.mk.inj hrest
  exact ⟨i, g, hg, hname.trans hkey, by rwa [hdefault, htype]⟩

/-- Every default that a definition knows is one of a field's. -/
theorem isDefaultOf_of_isBuilt (h : d.IsBuilt) {key : String}
    (hv : d.defaults.get? key = some v) : d.IsDefaultOf key v := by
  induction h generalizing v with
  | empty => cases hv
  | addField f _ ih =>
    rw [addField] at hv ⊢
    split at hv
    · exact isDefaultOf_install _ (fun _ => ih) hv
    · exact isDefaultOf_append _ (fun _ => ih) hv
  | replaceField _ hd ih =>
    rw [replaceField] at hd
    split at hd
    · cases hd
      exact isDefaultOf_install _ (fun _ => ih) hv
    · cases hd
  | setIdFields _ hd ih =>
    obtain ⟨places, -, rfl⟩ := exists_of_map_ok hd
    exact ih hv
  | setDefault _ hd ih =>
    rw [setDefault] at hd
    split at hd
    · cases hd
    · rename_i f hf
      obtain ⟨w, hstore, rfl⟩ := exists_of_map_ok hd
      rw [Keyed.get?_put] at hv
      split at hv
      · rename_i hkey
        cases hv
        obtain ⟨i, -, hi⟩ := Option.bind_eq_some_iff.1 hf
        exact ⟨i, f, hi, (nameKey_of_field? hf).trans hkey.symm, .inr (Field.gives_of_store hstore)⟩
      · exact ih hv
  | registerCodeTable name table _ ih =>
    rw [(rest_registerCodeTable _ name table).2.2.2] at hv
    exact isDefaultOf_registerCodeTable name table (ih hv)
  | renamed _ _ ih => exact ih hv
  | withGrid _ _ ih => exact ih hv

theorem isProper_addField (hd : ∀ g ∈ d.fields, g.IsProper) (hf : f.IsProper) :
    ∀ g ∈ (d.addField f).fields, g.IsProper := by
  intro g hg
  obtain ⟨j, hj⟩ := List.mem_iff_getElem?.1 hg
  rw [addField] at hj
  split at hj
  · rename_i i hi
    rw [fields_install hi] at hj
    split at hj
    · cases hj
      exact hf
    · exact hd g (List.mem_of_getElem? hj)
  · rename_i hnone
    rw [fields_append hnone] at hj
    split at hj
    · cases hj
      exact hf
    · exact hd g (List.mem_of_getElem? hj)

/-- A definition made of proper fields is built of such fields alone. -/
theorem isBuilt_ofFields (path : String) (edition : Nat) {fields : List Field}
    (h : ∀ f ∈ fields, f.IsProper) :
    (ofFields path edition fields).IsBuilt ∧
      ∀ f ∈ (ofFields path edition fields).fields, f.IsProper := by
  have hrun : ∀ d : Definition, d.IsBuilt → (∀ f ∈ d.fields, f.IsProper) →
      (fields.foldl addField d).IsBuilt ∧ ∀ f ∈ (fields.foldl addField d).fields, f.IsProper := by
    induction fields with
    | nil => exact fun d hd hf => ⟨hd, hf⟩
    | cons f rest ih =>
      obtain ⟨hf, hrest⟩ := List.forall_mem_cons.1 h
      exact fun d hd hg => ih hrest _ (.addField f hd) (isProper_addField hg hf)
  exact hrun _ (.empty path edition) (by simp)

/-- A default is as the type of its field makes it, if that which the field came with is. -/
theorem gives_of_default? (h : d.IsBuilt) (hi : d.fields[i]? = some f) (hf : f.IsProper)
    (hv : d.default? f.name = some v) : f.type.Gives v := by
  obtain ⟨j, g, hj, hkey, hg⟩ := isDefaultOf_of_isBuilt h hv
  have hfi := (fieldIndex?_eq_some_iff (nodup_keys h)).2 ⟨f, hi, rfl⟩
  have hgj := (fieldIndex?_eq_some_iff (nodup_keys h)).2 ⟨g, hj, hkey⟩
  obtain rfl : i = j := Option.some.inj (hfi.symm.trans hgj)
  obtain rfl : f = g := Option.some.inj (hi.symm.trans hj)
  exact hg.elim (hf v) id

/-- Whether records of the definition hold identifiers in a field with a code table: the table
settles the type, and the default, if there is one, is found under no other code. -/
structure StoresCodes (d : Definition) (f : Field) (table : CodeTable) : Prop where
  settles : table.Settles f.type
  default : ∀ v id, d.default? f.name = some v → table.identifierFor? v = some id →
    f.type.convert id = .ok v

/-- So they do where the default is a value of the type and every value of the type that is found
is an identifier. -/
theorem storesCodes_of_isScalar {table : CodeTable} (ht : f.type.IsScalar)
    (htable : table.HasOnlyIdentifiers f.type)
    (hdefault : ∀ v ∈ d.default? f.name, v.dataType? = some f.type) : d.StoresCodes f table where
  settles := htable.settles ht
  default := by
    intro v id hv hid
    rw [htable v id (hdefault v hv) hid]
    exact Value.convert_of_dataType? ht (hdefault v hv)

end Definition

/-! ### Records -/

namespace Record

variable {d : Definition} {r r' : Record} {f : Field} {i : Nat} {v w : Value}

/-- The records that can be built: over a definition that was built of proper fields, with defaults
alone or with values in the order of the fields, and then with values that are set by name. -/
inductive IsBuilt : Record → Prop
  | ofDefaults {d : Definition} (hd : d.IsBuilt) (hf : ∀ f ∈ d.fields, f.IsProper) :
    IsBuilt (.ofDefaults d)
  | ofValues {d : Definition} (hd : d.IsBuilt) (hf : ∀ f ∈ d.fields, f.IsProper)
    (values : List Value) : IsBuilt (.ofValues d values)
  | set {r r' : Record} {name : String} {v : Value} (h : IsBuilt r) (hset : r.set name v = .ok r') :
    IsBuilt r'

/-- What is known of a record that was built: it has a value for each field, which is the default or
one that the field made. -/
structure IsFilled (r : Record) : Prop where
  built : r.definition.IsBuilt
  proper : ∀ f ∈ r.definition.fields, f.IsProper
  complete : r.IsComplete
  origin : ∀ {i : Nat} {f : Field}, r.definition.fields[i]? = some f →
    r.definition.default? f.name = some (r.valueAt i) ∨ f.Gives (r.valueAt i)

theorem isFilled_ofDefaults (hd : d.IsBuilt) (hf : ∀ f ∈ d.fields, f.IsProper) :
    (ofDefaults d).IsFilled where
  built := hd
  proper := hf
  complete := isComplete_ofDefaults d
  origin := by
    intro i f hi
    have hv : (ofDefaults d).valueAt i = (d.default? f.name).getD .null := by
      show ((d.fields.map _)[i]?).getD Value.null = _
      rw [List.getElem?_map, show d.fields[i]? = some f from hi]
      rfl
    rw [hv]
    cases hdefault : d.default? f.name with
    | none => exact .inr f.gives_null
    | some v => exact .inl hdefault

theorem IsFilled.setAt (h : r.IsFilled) (j : Nat) (v : Value) : (r.setAt j v).IsFilled where
  built := by
    rw [definition_setAt]
    exact h.built
  proper := by
    rw [definition_setAt]
    exact h.proper
  complete := h.complete.setAt j v
  origin := by
    intro i f hi
    rw [definition_setAt] at hi ⊢
    rw [valueAt_setAt h.complete j v hi]
    split
    · exact .inr ⟨v, rfl⟩
    · exact h.origin hi

theorem IsFilled.setFrom (h : r.IsFilled) (j : Nat) (values : List Value) :
    (r.setFrom j values).IsFilled := by
  induction values generalizing r j with
  | nil => exact h
  | cons v rest ih => exact ih (h.setAt j v) (j + 1)

theorem IsBuilt.isFilled (h : r.IsBuilt) : r.IsFilled := by
  induction h with
  | ofDefaults hd hf => exact isFilled_ofDefaults hd hf
  | ofValues hd hf values => exact (isFilled_ofDefaults hd hf).setFrom 0 values
  | set _ hset ih =>
    rw [Record.set] at hset
    split at hset
    · cases hset
      exact ih.setAt _ _
    · cases hset

/-- A value of a valid record is in the form in which its field stores it. -/
theorem validate_valueAt (h : r.IsFilled) (hr : r.validate = .ok ())
    (hf : r.definition.fields[i]? = some f)
    (hcodes : ∀ table, f.codeTable = some table → r.definition.StoresCodes f table) :
    f.validate (r.valueAt i) = .ok (r.valueAt i) := by
  obtain ⟨w, hw⟩ := exists_validate h.complete hr hf
  have hstore := (Field.store_and_check_of_validate hw).1
  have hgives : f.type.Gives (r.valueAt i) := by
    rcases h.origin hf with hdefault | hgives
    · exact Definition.gives_of_default? h.built hf (h.proper f (List.mem_of_getElem? hf)) hdefault
    · obtain ⟨u, hu⟩ := hgives.exists_store hstore
      exact Field.gives_of_store hu
  have hfound : ∀ id, f.codeTable.bind (·.identifierFor? (r.valueAt i)) = some id →
      f.type.convert id = .ok (r.valueAt i) := by
    intro id hid
    obtain ⟨table, htable, hid⟩ := Option.bind_eq_some_iff.1 hid
    rcases h.origin hf with hdefault | hgives
    · exact (hcodes table htable).default _ id hdefault hid
    · exact hgives.convert_identifier hstore htable (hcodes table htable).settles hid
  have hsame := Field.eq_of_validate hgives hfound hw
  exact hsame ▸ hw

end Record

/-! ### Stores -/

namespace Store

/-- Whether the record of a call that inserts one was built. -/
def Call.IsBuilt : Call → Prop
  | .insert r => r.IsBuilt
  | _ => True

/-- Whatever was called with records that were built, each value in the store is one that its field
takes. A field without a code table takes it as it is. So does one with a code table where records
hold identifiers: the value is none or the identifier, in the type of the field, of the code that is
found for it. -/
theorem stored_values_are_settled {calls : List Call} (hbuilt : ∀ c ∈ calls, c.IsBuilt)
    {path : String} {r : Record} (hr : r ∈ (run calls).records path) {i : Nat} {f : Field}
    (hf : r.definition.fields[i]? = some f) :
    let v := r.valueAt i
    (∃ w, f.validate v = .ok w) ∧ (f.codeTable = none → f.validate v = .ok v) ∧
      ∀ table, f.codeTable = some table → r.definition.StoresCodes f table →
        f.validate v = .ok v ∧
          (v = .null ∨ ∃ id, table.identifierFor? v = some id ∧ f.type.convert id = .ok v) := by
  intro v
  rw [records_run] at hr
  obtain ⟨hcall, hvalid⟩ := insert_mem_of_mem_inserted hr
  have hfilled := Record.IsBuilt.isFilled (hbuilt _ hcall)
  have hsettled := Record.validate_valueAt hfilled hvalid hf
  refine ⟨Record.exists_validate hfilled.complete hvalid hf, fun hnone => ?_,
    fun table htable hcodes => ?_⟩
  · exact hsettled fun table htable => by
      rw [hnone] at htable
      cases htable
  · have hv : f.validate v = .ok v := hsettled fun table' htable' => by
      rw [htable] at htable'
      cases htable'
      exact hcodes
    refine ⟨hv, ?_⟩
    cases hnull : v.isNull with
    | true => exact .inl (Value.eq_null_of_isNull hnull)
    | false =>
      obtain ⟨id, hid⟩ := Option.isSome_iff_exists.1
        (Field.isSome_identifierFor?_of_validate htable hv hnull)
      have hconvert := (Field.store_eq_ok_iff hnull).1 (Field.store_and_check_of_validate hv).1
      rw [htable, Option.bind_some, hid] at hconvert
      exact .inr ⟨id, hid, hconvert⟩

/-- Text for a number and for a code, in another case, and defaults; the values of the field with
the table are its identifiers. -/
theorem stored_values_are_settled_paid :
    let table : CodeTable := .ofCodes "PAID"
      [(.boolean true, [.string "Paid"]), (.boolean false, [.string "Open"])]
    let weight : Field := .ofType "weight" .float
    let paid : Field :=
      { Field.ofType "paid" .boolean with
        index := 1, default := some (.boolean false), codeTable := some table, version := ⟨0, 1⟩ }
    let d : Definition := .ofFields "/shop" 0 [weight, paid]
    let one : Record := .ofValues d [.string " 0.1 ", .string "PAID"]
    let calls : List Call := [.register d, .insert one, .insert (.ofDefaults d)]
    (∀ c ∈ calls, c.IsBuilt) ∧ one ∈ (run calls).records "/shop" ∧
      d.fields = [weight, paid] ∧ one.definition.StoresCodes paid table ∧
      weight.validate (one.valueAt 0) = .ok (one.valueAt 0) ∧
      paid.validate (one.valueAt 1) = .ok (one.valueAt 1) ∧ one.valueAt 1 = .boolean true := by
  intro table weight paid d one calls
  have hfields : d.fields = [weight, paid] := by decide +kernel
  have hproper : ∀ f ∈ [weight, paid], f.IsProper :=
    List.forall_mem_cons.2 ⟨Field.isProper_ofType _ _, List.forall_mem_singleton.2
      (Field.isProper_withDefault (Field.ofType "paid" .boolean) (.boolean false))⟩
  obtain ⟨hd, hfieldsProper⟩ := Definition.isBuilt_ofFields "/shop" 0 hproper
  have hbuilt : ∀ c ∈ calls, c.IsBuilt :=
    List.forall_mem_cons.2 ⟨trivial, List.forall_mem_cons.2 ⟨.ofValues hd hfieldsProper _,
      List.forall_mem_singleton.2 (.ofDefaults hd hfieldsProper)⟩⟩
  have hone : one ∈ (run calls).records "/shop" := by decide +kernel
  have honly : table.HasOnlyIdentifiers .boolean :=
    CodeTable.hasOnlyIdentifiers_boolean (by decide +kernel)
  have hcodes : d.StoresCodes paid table :=
    Definition.storesCodes_of_isScalar trivial honly (by decide +kernel)
  have hvalue : one.valueAt 1 = .boolean true := by decide +kernel
  have hdefinition : one.definition = d := Record.definition_ofValues _ _
  have hweight : one.definition.fields[0]? = some weight := by
    rw [hdefinition, hfields]
    rfl
  have hpaid : one.definition.fields[1]? = some paid := by
    rw [hdefinition, hfields]
    rfl
  rw [← hdefinition] at hcodes
  refine ⟨hbuilt, hone, hfields, hcodes, ?_, ?_, hvalue⟩
  · exact (stored_values_are_settled hbuilt hone hweight).2.1 rfl
  · exact ((stored_values_are_settled hbuilt hone hpaid).2.2 table rfl hcodes).1

/-- The default of a field with a code table can be the text that is shown for a code. A record
holds this text, where the field would store the identifier. -/
theorem stored_default_is_shown_text :
    let table : CodeTable := .ofCodes "STATUS" [(.integer .int ⟨1, by decide⟩, [.string "Active"])]
    let status : Field :=
      { (Field.ofType "status" (.integer .int)).withDefault (.string "Active") with
        codeTable := some table }
    let d : Definition := .ofFields "/shop" 0 [status]
    let r : Record := .ofDefaults d
    let calls : List Call := [.register d, .insert r]
    (∀ c ∈ calls, c.IsBuilt) ∧ r ∈ (run calls).records "/shop" ∧
      d.fields = [status] ∧ r.valueAt 0 = .string "Active" ∧
      status.validate (r.valueAt 0) = .ok (.integer .int ⟨1, by decide⟩) := by
  intro table status d r calls
  obtain ⟨hd, hproper⟩ := Definition.isBuilt_ofFields "/shop" 0
    (List.forall_mem_singleton.2 (Field.isProper_withDefault status (.string "Active")))
  refine ⟨List.forall_mem_cons.2 ⟨trivial, List.forall_mem_singleton.2 (.ofDefaults hd hproper)⟩,
    by decide +kernel, by decide +kernel, by decide +kernel, eq_ok_of_toOption (by decide +kernel)⟩

end Store

end TypedFilter
