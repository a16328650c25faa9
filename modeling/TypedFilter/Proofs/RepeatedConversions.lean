import TypedFilter.Proofs.StoredForms

/-!
Conversions that are made again. Main statement: what a type makes of a value is one of its own or
none, and it leaves these as they are; so does a field without a code table with what it stores,
what it keeps and what it takes.
-/

namespace TypedFilter

/-- An object is the value that it was made of. -/
theorem DataType.eq_of_convert_object {v w : Value} (h : object.convert v = .ok w) : w = v := by
  have hsame : object.convert v = .ok v := by
    rw [convert_eq_self_iff, holds]
    cases v with
    | null => exact .inl rfl
    | _ => exact .inr rfl
  exact Except.ok.inj (h.symm.trans hsame)

namespace Field

variable {f : Field} {v w : Value}

theorem store_store (hcodes : f.codeTable = none) (h : f.store v = .ok w) : f.store w = .ok w := by
  rw [store_eq_ok_iff_of_none hcodes] at h ⊢
  exact DataType.convert_convert h

/-- What cannot be stored is kept, and what is kept cannot be stored again. -/
theorem storeLenient_storeLenient (hcodes : f.codeTable = none) (v : Value) :
    f.storeLenient (f.storeLenient v) = f.storeLenient v := by
  cases hstore : f.store v with
  | ok w =>
    rw [storeLenient_of_store hstore, storeLenient_of_store (store_store hcodes hstore)]
  | error e =>
    have hkept : f.storeLenient v = v := by rw [storeLenient, hstore]
    rw [hkept, hkept]

theorem validate_validate (hcodes : f.codeTable = none) (h : f.validate v = .ok w) :
    f.validate w = .ok w := by
  obtain ⟨hstore, hkeeps⟩ := validate_eq_ok_iff.1 h
  exact validate_eq_ok_iff.2 ⟨store_store hcodes hstore, hkeeps⟩

/-- What a type makes of a value is one of its own or none, and an object is the value itself; a
type leaves as they are just its own values and none. A field without a code table leaves as it is
what it stores, what it keeps because it cannot store it, and what it takes. -/
theorem conversions_settle (t : DataType) (hcodes : f.codeTable = none) (v : Value) :
    (∀ w, t.convert v = .ok w →
      (w = .null ∨ t.holds w = true) ∧ (t = .object → w = v) ∧ t.convert w = .ok w) ∧
    (t.convert v = .ok v ↔ v = .null ∨ t.holds v = true) ∧
    (∀ w, f.store v = .ok w → f.store w = .ok w) ∧
    f.storeLenient (f.storeLenient v) = f.storeLenient v ∧
    ∀ w, f.validate v = .ok w → f.validate w = .ok w := by
  refine ⟨fun w hw => ⟨DataType.eq_null_or_holds_of_convert hw, ?_, DataType.convert_convert hw⟩,
    DataType.convert_eq_self_iff, fun w => store_store hcodes, storeLenient_storeLenient hcodes v,
    fun w => validate_validate hcodes⟩
  rintro rfl
  exact DataType.eq_of_convert_object hw

/-- A text with blanks around it that is a day for one type, the last of its notations, and a point
in time for a field that requires one. -/
theorem conversions_settle_moment :
    let sold : Field := { Field.ofType "sold" .timestamp with required := true }
    let text : Value := .string " 2024-02-29T23:59:60.5 "
    let leapDay : Date := ⟨2024, 2, 29, by decide⟩
    let moment : Value :=
      .timestamp ⟨leapDay, ⟨23, 59, 59, 1500000000, by decide, by decide, by decide, by decide⟩⟩
    sold.codeTable = none ∧
      (DataType.date.convert text = .ok (.date leapDay) ∧
        DataType.date.convert (.date leapDay) = .ok (.date leapDay)) ∧
      (sold.store text = .ok moment ∧ sold.store moment = .ok moment) ∧
      sold.storeLenient (sold.storeLenient text) = sold.storeLenient text ∧
      sold.validate text = .ok moment ∧ sold.validate moment = .ok moment := by
  intro sold text leapDay moment
  have hday : DataType.date.convert text = .ok (.date leapDay) :=
    eq_ok_of_toOption (by decide +kernel)
  have hstore : sold.store text = .ok moment := eq_ok_of_toOption (by decide +kernel)
  have hvalid : sold.validate text = .ok moment := eq_ok_of_toOption (by decide +kernel)
  obtain ⟨hconvert, -, hagain, hlenient, htaken⟩ :=
    conversions_settle (f := sold) .date rfl text
  exact ⟨rfl, ⟨hday, (hconvert _ hday).2.2⟩, ⟨hstore, hagain _ hstore⟩, hlenient, hvalid,
    htaken _ hvalid⟩

end Field

end TypedFilter
