import TypedFilter.Proofs.OrderClasses
import TypedFilter.Proofs.OrderSwaps
import TypedFilter.Proofs.StoredForms
import TypedFilter.Proofs.StoredTypes
import TypedFilter.Proofs.TextOrders

/-!
The order that the values of a column are sorted in. Main statement: any two values have one, and it
goes on from one pair of values to the next where the column takes them all and none is an undefined
number, where they belong to one class, and where texts that the column keeps stand beside values
that are ordered as their texts are.
-/

namespace TypedFilter

/-! ### Values that a column takes -/

namespace DataType

/-- The class of the values of a type; objects have none. -/
def orderClass? : DataType → Option OrderClass
  | .boolean => some (.plain .boolean)
  | .integer _ | .decimal => some (.plain .number)
  | .float | .double => some .standing
  | .string => some (.plain .text)
  | .date | .timestamp => some (.plain .moment)
  | .time => some (.plain .time)
  | .geometry | .shape _ => some .place
  | .object => none

theorem exists_orderClass? {t : DataType} (h : t ≠ .object) : ∃ c, t.orderClass? = some c := by
  cases t with
  | object => exact absurd rfl h
  | _ => exact ⟨_, rfl⟩

variable {t : DataType} {c : OrderClass} {v : Value}

theorem takes_of_dataType? (hc : t.orderClass? = some c) (h : v.dataType? = some t)
    (hnan : v.isNan = false) : c.Takes v := by
  cases v <;> cases h <;> cases hc
  case boolean b => exact .plain (.boolean b)
  case integer n => exact .plain (.integer n)
  case float x => exact .standing (Value.hasStanding_float hnan)
  case double x => exact .standing (Value.hasStanding_double hnan)
  case decimal d => exact .plain (.decimal d)
  case string s => exact .plain (.string s)
  case date d => exact .plain (.date d)
  case time s => exact .plain (.time s)
  case timestamp s => exact .plain (.timestamp s)
  case geometry g => exact .geometry g

/-- Values of a type belong to its class, unless they are undefined numbers. -/
theorem takes_of_holds (hc : t.orderClass? = some c) (h : t.holds v = true)
    (hnan : v.isNan = false) : c.Takes v := by
  cases t with
  | object => cases hc
  | geometry =>
    cases hc
    cases v with
    | geometry g => exact .geometry g
    | _ => cases h
  | _ => exact takes_of_dataType? hc (of_decide_eq_true h) hnan

end DataType

namespace Field

/-- Whether the field stores some value as this one. -/
def Stores (f : Field) (v : Value) : Prop :=
  ∃ u, f.store u = .ok v

/-- The values that a field stores are of one class. -/
theorem exists_takes {f : Field} (ht : f.type ≠ .object) :
    ∃ c : OrderClass, ∀ v, f.Stores v → v.isNan = false → c.Takes v := by
  obtain ⟨c, hc⟩ := DataType.exists_orderClass? ht
  refine ⟨c, fun v hv hnan => ?_⟩
  obtain ⟨u, hu⟩ := hv
  cases hnull : v.isNull with
  | true =>
    rw [Value.eq_null_of_isNull hnull]
    exact .null c
  | false => exact DataType.takes_of_holds hc (holds_of_store hu hnull) hnan

end Field

/-! ### Values that are ordered as texts -/

/-- The text of a value, unless there is none. -/
def Value.sortText? (v : Value) : Option String :=
  if v.isNull then none else some v.plainText

/-- Whether values are of the type and ordered as their texts are, or texts that it does not
convert, or none. -/
structure DataType.OrdersTexts (t : DataType) (values : List Value) : Prop where
  kinds : ∀ v ∈ values, v = .null ∨ v.dataType? = some t ∨
    ∃ s, v = .string s ∧ ∀ w, t.convert (.string s) ≠ .ok w
  alike : ∀ v ∈ values, ∀ w ∈ values, v.dataType? = some t → w.dataType? = some t →
    v.compare? w = some (Ord.compare v.plainText w.plainText)

namespace DataType

variable {t : DataType} {values : List Value} {v : Value} {s : String}

/-- A text that the type of a value does not convert is compared with the text of the value. -/
theorem compare?_string (hv : v.dataType? = some t) (hs : ∀ w, t.convert (.string s) ≠ .ok w) :
    v.compare? (.string s) = some (Ord.compare v.plainText s) := by
  rw [Value.compare?_string_eq_compareText? hv, Value.compareText?, hv, Option.bind_some]
  cases h : t.convert (.string s) with
  | ok w => exact absurd h (hs w)
  | error e => rfl

theorem OrdersTexts.compare?_eq (h : t.OrdersTexts values) {v w : Value} (hv : v ∈ values)
    (hw : w ∈ values) (hnv : v.isNull = false) (hnw : w.isNull = false) :
    v.compare? w = some (Ord.compare v.plainText w.plainText) := by
  rcases h.kinds v hv with rfl | htv | ⟨s, rfl, hs⟩
  · cases hnv
  · rcases h.kinds w hw with rfl | htw | ⟨s, rfl, hs⟩
    · cases hnw
    · exact h.alike v hv w hw htv htw
    · exact compare?_string htv hs
  · rcases h.kinds w hw with rfl | htw | ⟨s', rfl, hs'⟩
    · cases hnw
    · rw [Value.compare?_swap w, compare?_string htw hs]
      exact congrArg some Std.OrientedOrd.eq_swap.symm
    · rfl

theorem OrdersTexts.sortOrder_eq (h : t.OrdersTexts values) {v w : Value} (hv : v ∈ values)
    (hw : w ∈ values) : v.sortOrder w = compareOn Value.sortText? v w := by
  rw [Value.sortOrder, compareOn, Value.sortText?, Value.sortText?]
  cases hnv : v.isNull with
  | true => cases w.isNull <;> rfl
  | false =>
    cases hnw : w.isNull with
    | true => rfl
    | false =>
      rw [h.compare?_eq hv hw hnv hnw]
      rfl

end DataType

namespace Value

variable {v w : Value}

/-- Truth values are ordered as their texts are. -/
theorem compare?_of_boolean (hv : v.dataType? = some .boolean) (hw : w.dataType? = some .boolean) :
    v.compare? w = some (Ord.compare v.plainText w.plainText) := by
  cases v with
  | boolean a =>
    cases w with
    | boolean b => cases a <;> cases b <;> rfl
    | _ => cases hw
  | _ => cases hv

/-- Days of years with four digits are ordered as their texts are. -/
theorem compare?_of_date (hv : v.dataType? = some .date) (hw : w.dataType? = some .date)
    (hyears : ∀ d, v = .date d ∨ w = .date d → d.HasPlainYear) :
    v.compare? w = some (Ord.compare v.plainText w.plainText) := by
  cases v with
  | date d =>
    cases w with
    | date e =>
      have htext := Date.compare_text (hyears d (.inl rfl)) (hyears e (.inr rfl))
      exact congrArg some htext.symm
    | _ => cases hw
  | _ => cases hv

end Value

/-! ### Values of one column -/

/-- Whether values of the column are sorted in one order. -/
inductive Field.SortsAlike (f : Field) (values : List Value) : Prop
  /-- The column takes all of them. -/
  | stored (ht : f.type ≠ .object) (h : ∀ v ∈ values, f.Stores v)
      (hnan : ∀ v ∈ values, v.isNan = false)
  /-- They belong to one class, whether the column takes them or keeps them as they are. -/
  | uniform (c : OrderClass) (h : ∀ v ∈ values, c.Takes v)
  /-- Texts that the column keeps stand beside values that are ordered as their texts are. -/
  | texts (h : f.type.OrdersTexts values)

theorem Field.SortsAlike.exists_order {f : Field} {values : List Value}
    (h : f.SortsAlike values) : ∃ order : Value → Value → Ordering, Std.TransCmp order ∧
      ∀ v ∈ values, ∀ w ∈ values, v.sortOrder w = order v w := by
  cases h with
  | stored ht h hnan =>
    obtain ⟨c, hc⟩ := Field.exists_takes ht
    exact ⟨c.order, inferInstance, fun v hv w hw =>
      OrderClass.sortOrder_eq (hc v (h v hv) (hnan v hv)) (hc w (h w hw) (hnan w hw))⟩
  | uniform c h =>
    exact ⟨c.order, inferInstance, fun v hv w hw => OrderClass.sortOrder_eq (h v hv) (h w hw)⟩
  | texts h =>
    exact ⟨compareOn Value.sortText?, inferInstance, fun v hv w hw => h.sortOrder_eq hv hw⟩

namespace Field

variable {f : Field} {values : List Value} {s : String}

/-- A text that a column without a code table keeps is one that its type does not convert. -/
theorem convert_ne_ok_of_gives (hcodes : f.codeTable = none) (ht : f.type.holds (.string s) = false)
    (h : f.Gives (.string s)) (w : Value) : f.type.convert (.string s) ≠ .ok w := by
  obtain ⟨u, hu⟩ := h
  rw [storeLenient] at hu
  split at hu
  · rename_i v hv
    subst hu
    rw [holds_of_store hv rfl] at ht
    cases ht
  · rename_i e he
    subst hu
    intro hw
    rw [(store_eq_ok_iff_of_none hcodes).2 hw] at he
    cases he

/-- In a column of truth values, or of days whose years have four digits, texts that it keeps do not
disturb the order. -/
theorem sortsAlike_of_gives (hcodes : f.codeTable = none)
    (ht : f.type = .boolean ∨ f.type = .date) (h : ∀ v ∈ values, f.Gives v)
    (hkinds : ∀ v ∈ values, v = .null ∨ v.dataType? = some f.type ∨ ∃ s, v = .string s)
    (hyears : ∀ d, .date d ∈ values → d.HasPlainYear) : f.SortsAlike values := by
  have hstring : ∀ s, f.type.holds (.string s) = false := fun s => by
    rcases ht with ht | ht <;> rw [ht] <;> rfl
  refine .texts ⟨fun v hv => ?_, fun v hv w hw htv htw => ?_⟩
  · rcases hkinds v hv with hnull | htype | ⟨s, rfl⟩
    · exact .inl hnull
    · exact .inr (.inl htype)
    · exact .inr (.inr ⟨s, rfl, convert_ne_ok_of_gives hcodes (hstring s) (h _ hv)⟩)
  · rcases ht with ht | ht
    · rw [ht] at htv htw
      exact Value.compare?_of_boolean htv htw
    · rw [ht] at htv htw
      refine Value.compare?_of_date htv htw fun d hd => hyears d ?_
      rcases hd with rfl | rfl
      · exact hv
      · exact hw

/-- Any two values that records hold in a column have an order in the sort, and it goes on from one
pair of them to the next where the values are sorted in one order. -/
theorem stored_values_are_preordered (f : Field) (u v w : Value) :
    let a := f.storeLenient u
    let b := f.storeLenient v
    let c := f.storeLenient w
    b.sortOrder a = (a.sortOrder b).swap ∧
      (f.SortsAlike [a, b, c] → a.sortOrder b ≠ .gt → b.sortOrder c ≠ .gt →
        a.sortOrder c ≠ .gt) := by
  intro a b c
  refine ⟨Value.sortOrder_swap a b, fun h hab hbc => ?_⟩
  obtain ⟨order, htrans, horder⟩ := h.exists_order
  have ha : a ∈ [a, b, c] := List.mem_cons_self
  have hb : b ∈ [a, b, c] := List.mem_cons_of_mem _ List.mem_cons_self
  have hc : c ∈ [a, b, c] := List.mem_cons_of_mem _ (List.mem_cons_of_mem _ List.mem_cons_self)
  rw [horder a ha b hb] at hab
  rw [horder b hb c hc] at hbc
  rw [horder a ha c hc]
  exact Ordering.isLE_iff_ne_gt.1 (htrans.isLE_trans (Ordering.isLE_iff_ne_gt.2 hab)
    (Ordering.isLE_iff_ne_gt.2 hbc))

/-- A text that is no date is kept among days. -/
theorem stored_values_are_preordered_days :
    let born : Field := .ofType "born" .date
    let a := born.storeLenient (.string "2023-10-05")
    let b := born.storeLenient (.string "2024-02-29")
    let c := born.storeLenient (.string "unknown")
    born.SortsAlike [a, b, c] ∧ a.sortOrder b = .lt ∧ b.sortOrder c = .lt ∧
      b.sortOrder a = (a.sortOrder b).swap ∧ a.sortOrder c ≠ .gt := by
  intro born a b c
  have ha : a = .date ⟨2023, 10, 5, by decide⟩ := by decide +kernel
  have hb : b = .date ⟨2024, 2, 29, by decide⟩ := by decide +kernel
  have hc : c = .string "unknown" := by decide +kernel
  have halike : born.SortsAlike [a, b, c] := by
    refine sortsAlike_of_gives rfl (.inr rfl) ?_ ?_ ?_
    · simp only [List.forall_mem_cons, List.not_mem_nil, false_imp_iff, implies_true, and_true]
      exact ⟨⟨_, rfl⟩, ⟨_, rfl⟩, ⟨_, rfl⟩⟩
    · rw [ha, hb, hc]
      simp only [List.forall_mem_cons, List.not_mem_nil, false_imp_iff, implies_true, and_true]
      exact ⟨.inr (.inl rfl), .inr (.inl rfl), .inr (.inr ⟨_, rfl⟩)⟩
    · intro d hd
      rw [ha, hb, hc] at hd
      simp only [List.mem_cons, List.not_mem_nil, Value.date.injEq, reduceCtorEq, or_false] at hd
      rcases hd with rfl | rfl <;> decide
  have hab : a.sortOrder b = .lt := by decide +kernel
  have hbc : b.sortOrder c = .lt := by decide +kernel
  obtain ⟨hswap, hpreorder⟩ := stored_values_are_preordered born (.string "2023-10-05")
    (.string "2024-02-29") (.string "unknown")
  refine ⟨halike, hab, hbc, hswap, hpreorder halike ?_ ?_⟩ <;> decide +kernel

/-- A text that a column of whole numbers keeps is compared as text: it comes after 10 and before 9.
An undefined number ties with every other one, and so does a day that a column of whole numbers
keeps. The last decimals are as good as equal to the number beyond them that their column keeps. -/
theorem stored_values_run_in_circles :
    let size : Field := .ofType "size" (.integer .int)
    let score : Field := .ofType "score" .double
    let nine := size.storeLenient (.string "9")
    let ten := size.storeLenient (.string "10")
    let text := size.storeLenient (.string "5x")
    let day := size.storeLenient (.date ⟨2024, 1, 5, by decide⟩)
    let one := score.storeLenient (.string "1")
    let two := score.storeLenient (.string "2")
    let undefined := score.storeLenient (.double .nan)
    let price : Field := .ofType "price" .decimal
    let previous := price.storeLenient (.string "79228162514264337593543950334")
    let last := price.storeLenient (.string "79228162514264337593543950335")
    let beyond := price.storeLenient (.double (.ofInt .double (pow2 96)))
    (nine.sortOrder ten = .lt ∧ ten.sortOrder text = .lt ∧ nine.sortOrder text = .gt) ∧
      (two.sortOrder undefined = .eq ∧ undefined.sortOrder one = .eq ∧ two.sortOrder one = .gt) ∧
      (ten.sortOrder day = .eq ∧ day.sortOrder nine = .eq ∧ ten.sortOrder nine = .gt) ∧
      last.sortOrder beyond = .eq ∧ beyond.sortOrder previous = .eq ∧
      last.sortOrder previous = .gt := by
  decide +kernel

end Field

end TypedFilter
