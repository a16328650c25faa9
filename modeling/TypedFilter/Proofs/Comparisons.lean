import TypedFilter.Proofs.Flattening
import TypedFilter.Proofs.OrderSwaps
import TypedFilter.Proofs.SortOrders

/-!
Conditions that compare values. Main statements: a comparison is true from the other side with its
operator turned around; a range is true where two comparisons are, and a list where one of several.
-/

namespace TypedFilter

/-! ### Comparisons from the other side -/

namespace CompareOp

/-- The operator that stands for the same order of values seen from the other side. -/
def turned : CompareOp → CompareOp
  | .less => .greater
  | .lessEqual => .greaterEqual
  | .greater => .less
  | .greaterEqual => .lessEqual
  | op => op

theorem holds_turned_swap (op : CompareOp) (o : Ordering) :
    op.turned.holds o.swap = op.holds o := by
  cases op <;> cases o <;> rfl

theorem turned_ne_like {op : CompareOp} (h : op ≠ .like) : op.turned ≠ .like := by
  cases op with
  | like => exact absurd rfl h
  | _ => exact CompareOp.noConfusion

end CompareOp

namespace Value

variable {op : CompareOp} {a b : Value}

/-- A comparison is true of values that have an order of which the operator holds. -/
theorem satisfies_eq_any (h : op ≠ .like) (a b : Value) :
    a.satisfies op b = (a.compare? b).any op.holds := by
  cases op with
  | like => exact absurd rfl h
  | _ =>
    simp only [satisfies]
    cases a.compare? b <;> rfl

theorem satisfies_turned (h : op ≠ .like) (a b : Value) :
    b.satisfies op.turned a = a.satisfies op b := by
  rw [satisfies_eq_any (CompareOp.turned_ne_like h), satisfies_eq_any h, compare?_swap a b]
  cases a.compare? b with
  | none => rfl
  | some o => exact op.holds_turned_swap o

theorem satisfies_lessEqual (a b : Value) :
    a.satisfies .lessEqual b = (a.satisfies .less b || a.satisfies .equal b) := by
  simp only [satisfies]
  cases a.compare? b with
  | none => rfl
  | some o => cases o <;> rfl

/-- Nothing compares with a value that is none. -/
theorem satisfies_of_isNull (h : a.isNull = true ∨ b.isNull = true) (op : CompareOp) :
    a.satisfies op b = false := by
  cases op with
  | like => rcases h with h | h <;> simp [satisfies, h]
  | _ => rw [satisfies_eq_any CompareOp.noConfusion, compare?_of_isNull h, Option.any_none]

end Value

namespace Expr

theorem test_compare (op : CompareOp) (l e : Expr) (r : Record) :
    (compare op l e).test r = (l.evaluate r).satisfies op (e.evaluate r) := rfl

/-- Two values from the other side have the reversed order, or none if they have none; so a
comparison is true of the same records as the one with its sides and its operator turned around. -/
theorem comparisons_turn_around :
    (∀ a b : Value, b.compare? a = (a.compare? b).map Ordering.swap ∧
      (b.compare? a = none ↔ a.compare? b = none)) ∧
    ∀ (l e : Expr) (r : Record),
      (compare .less l e).test r = (compare .greater e l).test r ∧
      (compare .lessEqual l e).test r = (compare .greaterEqual e l).test r ∧
      (compare .equal l e).test r = (compare .equal e l).test r ∧
      (compare .notEqual l e).test r = (compare .notEqual e l).test r ∧
      (compare .lessEqual l e).test r =
        ((compare .less l e).test r || (compare .equal l e).test r) := by
  refine ⟨fun a b => ⟨Value.compare?_swap a b, ?_⟩, fun l e r => ?_⟩
  · rw [Value.compare?_swap a b, Option.map_eq_none_iff]
  · have hturned : ∀ op : CompareOp, op ≠ .like →
        (compare op l e).test r = (compare op.turned e l).test r :=
      fun op hop => (Value.satisfies_turned hop _ _).symm
    exact ⟨hturned .less CompareOp.noConfusion, hturned .lessEqual CompareOp.noConfusion,
      hturned .equal CompareOp.noConfusion, hturned .notEqual CompareOp.noConfusion,
      Value.satisfies_lessEqual _ _⟩

end Expr

/-! ### Ranges and lists -/

namespace Value

/-- What is at most another value is compared with it as that one from its side. -/
theorem atMost_eq_satisfies (a b : Value) : a.atMost b = a.satisfies .lessEqual b := by
  simp only [atMost, satisfies]
  cases a.compare? b <;> rfl

/-- The check that every value is there changes nothing: without one of them, no comparison is
true. -/
theorem isBetween_eq_satisfies (v low high : Value) :
    v.isBetween low high = (v.satisfies .greaterEqual low && v.satisfies .lessEqual high) := by
  have hne : CompareOp.lessEqual ≠ .like := CompareOp.noConfusion
  have hturned : v.satisfies .greaterEqual low = low.satisfies .lessEqual v :=
    satisfies_turned hne low v
  rw [isBetween, atMost_eq_satisfies, atMost_eq_satisfies, ← hturned]
  cases hv : v.isNull with
  | true => simp [satisfies_of_isNull (.inl hv)]
  | false =>
    cases hlow : low.isNull with
    | true => simp [satisfies_of_isNull (.inr hlow)]
    | false =>
      cases hhigh : high.isNull with
      | true => simp [satisfies_of_isNull (.inr hhigh)]
      | false => simp

theorem equal_eq_satisfies (a b : Value) : a.equal b = a.satisfies .equal b := by
  simp only [equal, satisfies]
  cases a.compare? b with
  | none => rfl
  | some o => cases o <;> rfl

theorem isAmong_list (v : Value) (items : List Value) :
    v.isAmong (.list items) = items.any (v.satisfies .equal) := by
  rw [isAmong]
  cases hv : v.isNull with
  | true => simp [satisfies_of_isNull (.inl hv)]
  | false => simp [equal_eq_satisfies]

end Value

namespace Expr

theorem test_between (e low high : Expr) (r : Record) :
    (between e low high).test r =
      ((compare .greaterEqual e low).test r && (compare .lessEqual e high).test r) :=
  Value.isBetween_eq_satisfies _ _ _

theorem test_isIn_collection (e : Expr) (items : List Expr) (r : Record) :
    (isIn e (.collection items)).test r = items.any fun x => (compare .equal e x).test r := by
  rw [test, evaluate, evaluate, evaluateAll_eq_map, Value.isTrue, Value.isAmong_list, List.any_map]
  rfl

/-- A range is true of the records that its two comparisons are true of, so of none that lacks one
of the three values. A list is true where one of its items is equal to the value, so an empty one
of no record, and no list of a record that lacks the value. -/
theorem ranges_and_lists_are_comparisons (e low high : Expr) (items : List Expr) (r : Record) :
    (between e low high).test r =
        ((compare .greaterEqual e low).test r && (compare .lessEqual e high).test r) ∧
      (e.evaluate r = .null ∨ low.evaluate r = .null ∨ high.evaluate r = .null →
        (between e low high).test r = false) ∧
      ((isIn e (.collection items)).test r = true ↔
        ∃ x ∈ items, (compare .equal e x).test r = true) ∧
      (items = [] ∨ e.evaluate r = .null → (isIn e (.collection items)).test r = false) := by
  have hnull : ∀ {l x : Expr} (op : CompareOp), l.evaluate r = .null ∨ x.evaluate r = .null →
      (compare op l x).test r = false := by
    intro l x op h
    rw [test_compare]
    refine Value.satisfies_of_isNull (h.imp ?_ ?_) op
    · exact fun h => by rw [h, Value.isNull]
    · exact fun h => by rw [h, Value.isNull]
  refine ⟨test_between e low high r, ?_, ?_, ?_⟩
  · rw [test_between]
    rintro (h | h | h)
    · rw [hnull .greaterEqual (.inl h), Bool.false_and]
    · rw [hnull .greaterEqual (.inr h), Bool.false_and]
    · rw [hnull .lessEqual (.inr h), Bool.and_false]
  · rw [test_isIn_collection, List.any_eq_true]
  · rw [test_isIn_collection]
    rintro (rfl | h)
    · rw [List.any_nil]
    · exact List.any_eq_false.2 fun x _ => by rw [hnull .equal (.inl h)]; exact Bool.false_ne_true

/-- A text as the least value, a limit that is missing, and a list with an item of another class. -/
theorem ranges_and_lists_are_comparisons_missing :
    let age : Expr := .ofName "age"
    let limit : Expr := .ofName "limit"
    let grown : Expr := .ofValue (.string "18")
    let items : List Expr := [.ofValue (.boolean true), .ofValue (.integer .long ⟨30, by decide⟩)]
    let fields : List Field := [.ofType "age" (.integer .int), .ofType "limit" (.integer .int)]
    let d : Definition := { path := "/people", fields }
    let r : Record := .ofValues d [.integer .int ⟨30, by decide⟩]
    limit.evaluate r = .null ∧
      (between age grown limit).test r = false ∧
      (between age grown age).test r = true ∧
      (isIn age (.collection items)).test r = true ∧
      (isIn limit (.collection items)).test r = false ∧
      (isIn age (.collection [])).test r = false := by
  intro age limit grown items fields d r
  have hlimit : limit.evaluate r = .null := by decide +kernel
  obtain ⟨-, hmissing, hlist, -⟩ := ranges_and_lists_are_comparisons age grown limit items r
  have hrange := (ranges_and_lists_are_comparisons age grown age items r).1
  have hnone := (ranges_and_lists_are_comparisons limit grown age items r).2.2.2
  have hempty := (ranges_and_lists_are_comparisons age grown age [] r).2.2.2
  have hitem : (compare .equal age (.ofValue (.integer .long ⟨30, by decide⟩))).test r = true := by
    decide +kernel
  exact ⟨hlimit, hmissing (.inr (.inr hlimit)), hrange.trans (by decide +kernel),
    hlist.2 ⟨_, List.mem_cons_of_mem _ List.mem_cons_self, hitem⟩, hnone (.inr hlimit),
    hempty (.inl rfl)⟩

end Expr

end TypedFilter
