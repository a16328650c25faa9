import TypedFilter.Proofs.Sorting
import TypedFilter.Proofs.StoredForms

/-!
Records under another label. Main statement: a query with a label finds as many records as without
it and in the same order; each has the label and, where the definition of the query holds a field
like that of the record, the same value in it.
-/

namespace TypedFilter

/-! ### Fields that are alike -/

/-- What a field stores depends on its type and its code table alone. -/
theorem Field.storeLenient_congr {f g : Field} (htype : f.type = g.type)
    (htable : f.codeTable = g.codeTable) (v : Value) : f.storeLenient v = g.storeLenient v := by
  rw [storeLenient, storeLenient, store, store, htype, htable]
  cases v.isNull with
  | true => rfl
  | false =>
    simp only [Bool.false_eq_true, if_false]
    cases g.type.convert ((g.codeTable.bind (·.identifierFor? v)).getD v) <;> rfl

namespace Definition

/-- Whether two definitions hold the field of a name alike: in the same place, of the same type and
with the same code table. -/
structure HoldsAlike (d e : Definition) (name : String) : Prop where
  place : d.fieldIndex? name = e.fieldIndex? name
  form : (d.field? name).map (fun f => (f.type, f.codeTable)) =
    (e.field? name).map fun f => (f.type, f.codeTable)

end Definition

/-- A value in the form in which its field stores it moves unchanged to a record of a definition
that holds the field alike. -/
theorem Record.value_ofValues {r : Record} (hr : r.IsFilled) (hvalid : r.validate = .ok ())
    {d : Definition} {name : String} (halike : d.HoldsAlike r.definition name)
    (hcodes : ∀ f table, r.definition.field? name = some f → f.codeTable = some table →
      r.definition.StoresCodes f table) :
    (ofValues d r.values).value name = r.value name := by
  rw [value, value, definition_ofValues, halike.place]
  cases hplace : r.definition.fieldIndex? name with
  | none => rfl
  | some i =>
    obtain ⟨hlt, -⟩ := Definition.exists_of_fieldIndex? hplace
    obtain ⟨f, hf⟩ : ∃ f, r.definition.fields[i]? = some f := ⟨_, List.getElem?_eq_getElem hlt⟩
    have hfield : r.definition.field? name = some f := by
      rw [Definition.field?, hplace, Option.bind_some, hf]
    have hform := halike.form
    rw [hfield, Option.map_some] at hform
    obtain ⟨g, hg, hsame⟩ := Option.map_eq_some_iff.1 hform
    rw [Definition.field?, halike.place, hplace, Option.bind_some] at hg
    have hv := getElem?_values hr.complete hf
    have hsettled := Record.validate_valueAt hr hvalid hf fun table => hcodes f table hfield
    calc (ofValues d r.values).valueAt i
        = g.storeLenient (r.valueAt i) := valueAt_ofValues hg hv
      _ = f.storeLenient (r.valueAt i) :=
          Field.storeLenient_congr (congrArg Prod.fst hsame) (congrArg Prod.snd hsame) _
      _ = r.valueAt i :=
          Field.storeLenient_of_store (Field.store_and_check_of_validate hsettled).1

/-! ### Queries with a label -/

theorem Query.mem_of_mem_filter {q : Query} {records : List Record} {r : Record}
    (h : r ∈ q.filter records) : r ∈ records := by
  have hsorted : r ∈ q.sort (records.filter q.condition.test) := by
    rw [filter, page] at h
    split at h
    · exact List.mem_of_mem_drop h
    · exact List.mem_of_mem_drop (List.mem_of_mem_take h)
  exact (List.mem_filter.1 ((perm_sort q _).mem_iff.1 hsorted)).1

namespace Store

theorem exists_definition_boundTo (q : Query) (registered : Definition) :
    ∃ d, (q.boundTo registered).definition = some d := by
  rw [Query.boundTo]
  split
  · exact Option.isSome_iff_exists.1 ‹_›
  · exact ⟨registered, rfl⟩

/-- A label changes nothing of what a query finds but the definition of each record. -/
theorem call_labelled {calls : List Call} {q : Query} (hlabel : q.label = none)
    {found : List Record} (hfound : ((run calls).call (.query q)).1 = .found found)
    (label : String) :
    ∃ registered d, registered? q.path calls = some registered ∧
      (q.boundTo registered).definition = some d ∧
      (∀ r ∈ found, r ∈ inserted q.path {} calls) ∧
      ((run calls).call (.query { q with label := some label })).1 =
        .found (relabel (d.renamed label) found) := by
  rw [fst_call_query calls hlabel] at hfound
  have hdefinition := definition?_run q.path calls
  cases hregistered : registered? q.path calls with
  | none =>
    rw [hregistered] at hfound
    cases hfound
  | some registered =>
    rw [hregistered] at hfound hdefinition
    cases hfound
    obtain ⟨d, hd⟩ := exists_definition_boundTo q registered
    refine ⟨registered, d, rfl, hd, fun r hr => Query.mem_of_mem_filter hr, ?_⟩
    have hbound : ({ q with label := some label } : Query).boundTo registered =
        { q.boundTo registered with label := some label } := by
      rw [Query.boundTo, Query.boundTo]
      split <;> rfl
    have hquery := query_eq_ok (q := { q with label := some label })
      (path_of_registered? hregistered) hdefinition
    rw [hbound] at hquery
    dsimp only at hquery
    rw [hd, records_run] at hquery
    rw [call, hquery]
    rfl

/-- Whatever was called with records that were built, a query that finds records without a label
finds as many with one, in the same order. Each has the label, and the values that it had in every
field that the definition of the query holds alike, and in which records hold identifiers if it has
a code table. -/
theorem labelled_query_agrees {calls : List Call} (hbuilt : ∀ c ∈ calls, c.IsBuilt) {q : Query}
    (hlabel : q.label = none) {found : List Record}
    (hfound : ((run calls).call (.query q)).1 = .found found) (label : String) :
    ∃ registered d relabelled, registered? q.path calls = some registered ∧
      (q.boundTo registered).definition = some d ∧
      ((run calls).call (.query { q with label := some label })).1 = .found relabelled ∧
      List.Forall₂ (fun r r' => r'.definition = d.renamed label ∧
        ∀ name, d.HoldsAlike r.definition name →
          (∀ f table, r.definition.field? name = some f → f.codeTable = some table →
            r.definition.StoresCodes f table) →
          r'.value name = r.value name) found relabelled := by
  obtain ⟨registered, d, hregistered, hd, hmem, hcall⟩ := call_labelled hlabel hfound label
  refine ⟨registered, d, _, hregistered, hd, hcall, ?_⟩
  rw [relabel, List.forall₂_map_right_iff, List.forall₂_same]
  intro r hr
  obtain ⟨hinsert, hvalid⟩ := insert_mem_of_mem_inserted (hmem r hr)
  refine ⟨Record.definition_ofValues _ _, fun name halike hcodes => ?_⟩
  exact Record.value_ofValues (Record.IsBuilt.isFilled (hbuilt _ hinsert)) hvalid
    ⟨halike.place, halike.form⟩ hcodes

/-- A path is registered again with one field more after a record was put there: the fields of the
record are in both definitions, one of them with a code table. -/
theorem labelled_query_agrees_wider :
    let table : CodeTable := .ofCodes "PAID"
      [(.boolean true, [.string "Paid"]), (.boolean false, [.string "Open"])]
    let paid : Field := { Field.ofType "paid" .boolean with codeTable := some table }
    let d : Definition := .ofFields "/shop" 0 [.ofType "amount" (.integer .int), paid]
    let wider := d.addField (.ofType "note" .string)
    let one : Record := .ofValues d [.string "7", .string "PAID"]
    let calls : List Call := [.register d, .insert one, .register wider]
    let s := run calls
    let q : Query := .ofPath "/shop"
    (∀ c ∈ calls, c.IsBuilt) ∧ (s.call (.query q)).1 = .found [one] ∧
      ∃ r', (s.call (.query { q with label := some "/T" })).1 = .found [r'] ∧
        r'.definition.path = "/T" ∧ r'.value "Amount" = one.value "amount" ∧
        r'.value "Paid" = .boolean true := by
  intro table paid d wider one calls s q
  obtain ⟨hd, hproper⟩ := Definition.isBuilt_ofFields "/shop" 0 (List.forall_mem_cons.2
    ⟨Field.isProper_ofType "amount" (.integer .int), List.forall_mem_singleton.2
      (show paid.IsProper from Field.isProper_ofType "paid" .boolean)⟩)
  have hbuilt : ∀ c ∈ calls, c.IsBuilt :=
    List.forall_mem_cons.2 ⟨trivial, List.forall_mem_cons.2 ⟨.ofValues hd hproper _,
      List.forall_mem_singleton.2 trivial⟩⟩
  have hfound : (s.call (.query q)).1 = .found [one] := by decide +kernel
  have hregistered : registered? q.path calls = some wider := by decide +kernel
  have hdefinition : one.definition = d := Record.definition_ofValues _ _
  have honly : table.HasOnlyIdentifiers .boolean :=
    CodeTable.hasOnlyIdentifiers_boolean (by decide +kernel)
  obtain ⟨registered, e, relabelled, hregistered', he, hcall, hagree⟩ :=
    labelled_query_agrees hbuilt rfl hfound "/T"
  obtain rfl : wider = registered := Option.some.inj (hregistered.symm.trans hregistered')
  obtain rfl : wider = e := Option.some.inj he
  cases hagree with
  | cons hr' hnil =>
    cases hnil
    rename_i r'
    obtain ⟨hr', hvalues⟩ := hr'
    rw [hdefinition] at hvalues
    refine ⟨hbuilt, hfound, r', hcall, congrArg Definition.path hr', ?_, ?_⟩
    · have hamount : (d.field? "Amount").bind (·.codeTable) = none := by decide +kernel
      refine (hvalues "Amount" ⟨by decide +kernel, by decide +kernel⟩ fun f _ hf htable => ?_).trans
        (by decide +kernel)
      rw [hf, Option.bind_some, htable] at hamount
      cases hamount
    · have hpaid : d.field? "Paid" = some { paid with index := 1, version := ⟨0, 1⟩ } := by
        decide +kernel
      refine (hvalues "Paid" ⟨by decide +kernel, by decide +kernel⟩ fun f _ hf htable => ?_).trans
        (by decide +kernel)
      cases hpaid.symm.trans hf
      cases htable
      exact Definition.storesCodes_of_isScalar trivial honly (by decide +kernel)

/-- Under a definition of the same path that has the fields in another order, a record with a label
has its values under other names. -/
theorem labelled_values_move :
    let x : Field := .ofType "x" (.integer .int)
    let y : Field := .ofType "y" (.integer .int)
    let d : Definition := .ofFields "/shop" 0 [x, y]
    let turned : Definition := .ofFields "/shop" 0 [y, x]
    let one : Value := .integer .int ⟨1, by decide⟩
    let two : Value := .integer .int ⟨2, by decide⟩
    let r : Record := .ofValues d [one, two]
    let r' : Record := .ofValues (turned.renamed "/T") [one, two]
    let calls : List Call := [.register d, .insert r, .register turned]
    let s := run calls
    let q : Query := .ofPath "/shop"
    (∀ c ∈ calls, c.IsBuilt) ∧ (s.call (.query q)).1 = .found [r] ∧
      (s.call (.query { q with label := some "/T" })).1 = .found [r'] ∧
      r.value "x" = one ∧ r.value "y" = two ∧ r'.value "x" = two ∧ r'.value "y" = one := by
  intro x y d turned one two r r' calls s q
  obtain ⟨hd, hproper⟩ := Definition.isBuilt_ofFields "/shop" 0 (List.forall_mem_cons.2
    ⟨Field.isProper_ofType "x" (.integer .int), List.forall_mem_singleton.2
      (Field.isProper_ofType "y" (.integer .int))⟩)
  refine ⟨?_, by decide +kernel, by decide +kernel, by decide +kernel, by decide +kernel,
    by decide +kernel, by decide +kernel⟩
  exact List.forall_mem_cons.2 ⟨trivial, List.forall_mem_cons.2 ⟨.ofValues hd hproper _,
    List.forall_mem_singleton.2 trivial⟩⟩

end Store

end TypedFilter
