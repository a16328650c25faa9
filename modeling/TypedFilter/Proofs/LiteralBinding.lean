import TypedFilter.Proofs.LateTrees
import TypedFilter.Proofs.Placeholders
import TypedFilter.Proofs.StoredForms

/-!
Literals that are bound to a field. Main statement: a literal means the same wherever it is used.
The value that a statement is given for it is the one that it is evaluated to, and this value, bound
to the field once more, is the literal again.
-/

namespace TypedFilter

/-- Whether the identifiers of the code table, if there is one, are single values that the type
leaves as they are. -/
def Field.KeepsIdentifiers (f : Field) : Prop :=
  ∀ table, f.codeTable = some table → ∃ name codes, table = .ofCodes name codes ∧
    ∀ id ∈ table.identifiers, id.isNull = false ∧ (∀ parts, id ≠ .list parts) ∧
      f.type.convert id = .ok id

namespace Literal

variable {f : Field} {v w : Value} {l : Literal}

/-- A value that is no list is looked up as the only part of a display value. -/
theorem identifier?_of_ne_list {table : CodeTable} (h : ∀ parts, v ≠ .list parts) :
    identifier? table v = table.identifierFor? v := by
  cases v with
  | list parts => exact absurd rfl (h parts)
  | _ => rfl

/-- An identifier of the code table is bound to the field as itself. -/
theorem forFieldStrict_identifier {table : CodeTable} (hids : f.KeepsIdentifiers)
    (htable : f.codeTable = some table) (hid : v ∈ table.identifiers) :
    f.store v = .ok v ∧
      forFieldStrict f v = .ok ⟨v, displayOf? table v, some f⟩ := by
  obtain ⟨name, codes, rfl, hkept⟩ := hids table htable
  obtain ⟨hnull, hlist, hconvert⟩ := hkept v hid
  obtain ⟨place, values, hcode⟩ := CodeTable.mem_identifiers_iff.1 hid
  have hself := (CodeTable.isIndexed_ofCodes name codes).identifierFor?_self hnull hcode
  constructor
  · refine (Field.store_eq_ok_iff hnull).2 ?_
    rw [htable, Option.bind_some, hself, Option.getD_some, hconvert]
  · refine Expr.forFieldStrict_eq_ok_iff.2 (.inr ⟨_, v, v, htable, hnull, ?_, hconvert, rfl⟩)
    rw [identifier?_of_ne_list hlist, hself]

/-- What the field stores, it stores again, and the literal that holds it is made again of it. -/
theorem settled_of_forFieldStrict (hids : f.KeepsIdentifiers) (h : forFieldStrict f v = .ok l) :
    f.store l.value = .ok l.value ∧ forFieldStrict f l.value = .ok l := by
  obtain ⟨hcodes, w, hw, rfl⟩ | ⟨table, id, w, htable, -, hid, hw, rfl⟩ :=
    Expr.forFieldStrict_eq_ok_iff.1 h
  · have hagain : (f.codeTable = none ∨ w.isNull = true) ∧ f.store w = .ok w := by
      rcases hcodes with hnone | hnull
      · rw [Field.store_eq_ok_iff_of_none hnone] at hw ⊢
        exact ⟨.inl hnone, DataType.convert_convert hw⟩
      · rw [Value.eq_null_of_isNull hnull, Field.store_null] at hw
        cases hw
        exact ⟨.inr rfl, rfl⟩
    exact ⟨hagain.2, Expr.forFieldStrict_eq_ok_iff.2 (.inl ⟨hagain.1, w, hagain.2, rfl⟩)⟩
  · have hmem := CodeTable.mem_identifiers_iff.2 (CodeTable.exists_code_of_lookup hid)
    obtain ⟨name, codes, -, hkept⟩ := hids table htable
    obtain rfl : w = id := Except.ok.inj (hw.symm.trans (hkept id hmem).2.2)
    exact forFieldStrict_identifier hids htable hmem

/-- If the field can store a value, the literal that it is bound as means one value: what a
statement is given for it is what it is evaluated to, for whatever record. That value is bound to
the field as the same literal again, strictly or not. -/
theorem bound_value_is_settled (hids : f.KeepsIdentifiers) (h : forFieldStrict f v = .ok l) :
    l.bound = l.value ∧
      (∀ r, (Expr.literal l).parameters = [(Expr.literal l).evaluate r]) ∧
      forFieldStrict f l.value = .ok l ∧ forField f l.value = l := by
  obtain ⟨hstore, hagain⟩ := settled_of_forFieldStrict hids h
  have hbound : l.bound = l.value := by
    rw [bound, Expr.field_forFieldStrict h]
    exact Field.storeLenient_of_store hstore
  refine ⟨hbound, fun r => ?_, hagain, forField_of_forFieldStrict hagain⟩
  rw [Expr.parameters_eq]
  show [l.bound] = [l.value]
  rw [hbound]

/-- Two codes that each show what the other one is, and one that shows two parts: a list of them
stands for the code, and an identifier for itself. -/
theorem bound_value_is_settled_swapped :
    let codes : List (Value × List Value) :=
      [(.string "A", [.string "B"]), (.string "B", [.string "A"]),
        (.string "C", [.string "Ann", .integer .long ⟨7, by decide⟩])]
    let grade := { Field.ofType "grade" .string with codeTable := some (.ofCodes "G" codes) }
    let parts : Value := .list [.string "ANN", .decimal ⟨false, 70, 1, by decide, by decide⟩]
    let first : Literal := ⟨.string "A", some (.string "B"), some grade⟩
    let third : Literal := ⟨.string "C", some (.string "Ann:7"), some grade⟩
    grade.KeepsIdentifiers ∧
      (forFieldStrict grade (.string "A") = .ok first ∧ first.bound = .string "A" ∧
        forField grade (.string "A") = first) ∧
      (forFieldStrict grade parts = .ok third ∧ third.bound = .string "C" ∧
        forFieldStrict grade (.string "C") = .ok third ∧
        forField grade (.string "C") = third) := by
  intro codes grade parts first third
  have hids : grade.KeepsIdentifiers := by
    rintro table ⟨⟩
    refine ⟨"G", codes, rfl, ?_⟩
    have hall : (CodeTable.ofCodes "G" codes).identifiers =
        [.string "A", .string "B", .string "C"] := by decide +kernel
    have hkept : ∀ s : String, (Value.string s).isNull = false ∧
        (∀ parts, Value.string s ≠ .list parts) ∧
          grade.type.convert (.string s) = .ok (.string s) :=
      fun s => ⟨rfl, nofun, DataType.convert_of_holds rfl⟩
    rw [hall]
    intro id hid
    simp only [List.mem_cons, List.not_mem_nil, or_false] at hid
    rcases hid with rfl | rfl | rfl
    · exact hkept "A"
    · exact hkept "B"
    · exact hkept "C"
  have hfirst : forFieldStrict grade (.string "A") = .ok first :=
    eq_ok_of_toOption (by decide +kernel)
  have hthird : forFieldStrict grade parts = .ok third := eq_ok_of_toOption (by decide +kernel)
  obtain ⟨hboundFirst, -, -, hlenientFirst⟩ := bound_value_is_settled hids hfirst
  obtain ⟨hboundThird, -, hagain, hlenient⟩ := bound_value_is_settled hids hthird
  exact ⟨hids, ⟨hfirst, hboundFirst, hlenientFirst⟩, hthird, hboundThird, hagain, hlenient⟩

end Literal

end TypedFilter
