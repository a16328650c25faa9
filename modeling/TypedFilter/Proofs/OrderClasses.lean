import TypedFilter.Proofs.DecimalRange
import TypedFilter.Proofs.SortOrders

/-!
Further classes of values that are sorted in one order: numbers that have a decimal, numbers that
stand among those that have none, places and lists. Main statement: values of one class are sorted
as their class is ordered.
-/

namespace TypedFilter

theorem compare_eq_compare {a b c d : Int} (hlt : a < b ↔ c < d) (hgt : b < a ↔ d < c) :
    Ord.compare a b = Ord.compare c d := by
  cases h : Ord.compare c d with
  | lt => exact Int.compare_eq_lt.2 (hlt.2 (Int.compare_eq_lt.1 h))
  | eq =>
    have := Int.compare_eq_eq.1 h
    exact Int.compare_eq_eq.2 (by omega)
  | gt => exact Int.compare_eq_gt.2 (hgt.2 (Int.compare_eq_gt.1 h))

namespace Decimal

/-- More than the absolute value of every decimal, as a multiple of the least one that there is. -/
def bound : Int :=
  pow2 96 * pow10 28

theorem units_lt_bound (d : Decimal) : -bound < d.units ∧ d.units < bound := by
  have hplaces : pow10 (28 - d.scale) ≤ pow10 28 := pow10_le_pow10 (Nat.sub_le _ _)
  have hlt : d.mantissa * pow10 (28 - d.scale) < pow2 96 * pow10 28 :=
    calc d.mantissa * pow10 (28 - d.scale) ≤ d.mantissa * pow10 28 :=
          Nat.mul_le_mul_left d.mantissa hplaces
      _ < pow2 96 * pow10 28 := Nat.mul_lt_mul_of_pos_right d.mantissa_lt (pow10_pos 28)
  have habs : (d.mantissa * pow10 (28 - d.scale) : Int) < bound := by
    rw [bound]
    exact_mod_cast hlt
  rw [units, coefficient]
  split
  · rw [Int.neg_mul]
    constructor <;> omega
  · constructor <;> omega

end Decimal

namespace Value

variable {v w : Value}

/-! ### Numbers in the 64-bit format -/

/-- Whether the value is an undefined number. -/
def isNan : Value → Bool
  | .float x => x.isNan
  | .double x => x.isNan
  | _ => false

/-- Whether the value is a number whose 64-bit form is not undefined and has a decimal if and only
if the number has one; a decimal at the end of the range can be rounded to a number beyond it. -/
def HasStanding (v : Value) : Prop :=
  ∃ y : Double, v.toDouble? = some y ∧ y.isNan = false ∧
    (Decimal.ofBinary? y).isSome = v.toDecimal?.isSome

/-- Where a number stands among others: at its decimal, or beyond all decimals. -/
def standing? (v : Value) : Option Int :=
  match v.toDecimal? with
  | some d => some d.units
  | none => v.toDouble?.map fun y =>
    if y.isNegative then y.rank - Decimal.bound else y.rank + Decimal.bound

theorem isNan_convert {x : Single} (h : x.isNan = false) : (x.convert .double).isNan = false := by
  cases x with
  | nan => cases h
  | infinite => rfl
  | finite negative m e hc =>
    obtain ⟨m', e', hc', hvalue⟩ := Binary.exists_canonical_double hc
    rw [Binary.convert_finite_eq hc hc' (by decide) hvalue.symm]
    rfl

theorem hasStanding_float {x : Single} (h : x.isNan = false) : (Value.float x).HasStanding :=
  ⟨_, rfl, isNan_convert h, Decimal.isSome_ofBinary?_convert x⟩

theorem hasStanding_double {x : Double} (h : x.isNan = false) : (Value.double x).HasStanding :=
  ⟨x, rfl, h, rfl⟩

/-- Numbers with a decimal stand at it, and their ranks are near; all others stand beyond all
decimals, on the side on which their ranks are far away. -/
theorem HasStanding.exists_standing (h : v.HasStanding) :
    ∃ (y : Double) (s : Int), v.toDouble? = some y ∧ y.isNan = false ∧ v.standing? = some s ∧
      ((∃ d, v.toDecimal? = some d ∧ s = d.units ∧ -Decimal.bound < s ∧ s < Decimal.bound ∧
          -Binary.farRank < y.rank ∧ y.rank < Binary.farRank) ∨
        v.toDecimal? = none ∧ (Binary.farRank ≤ y.rank ∧ s = y.rank + Decimal.bound ∨
          y.rank ≤ -Binary.farRank ∧ s = y.rank - Decimal.bound)) := by
  obtain ⟨y, hy, hnan, hsome⟩ := h
  cases hd : v.toDecimal? with
  | some d =>
    rw [hd] at hsome
    obtain ⟨hlow, hhigh⟩ := Binary.rank_near hsome
    obtain ⟨hdlow, hdhigh⟩ := d.units_lt_bound
    exact ⟨y, d.units, hy, hnan, by rw [standing?, hd],
      .inl ⟨d, rfl, rfl, hdlow, hdhigh, hlow, hhigh⟩⟩
  | none =>
    rw [hd] at hsome
    have hfar := Binary.rank_far hsome hnan
    have hs : v.standing? =
        some (if y.isNegative then y.rank - Decimal.bound else y.rank + Decimal.bound) := by
      simp only [standing?, hd, hy, Option.map_some]
    refine ⟨y, _, hy, hnan, hs, .inr ⟨rfl, ?_⟩⟩
    cases hneg : y.isNegative with
    | true =>
      rw [hneg] at hfar
      exact .inr ⟨hfar, rfl⟩
    | false =>
      rw [hneg] at hfar
      exact .inl ⟨hfar, rfl⟩

/-- Numbers are ordered as they stand. -/
theorem compareNumbers?_of_hasStanding (hv : v.HasStanding) (hw : w.HasStanding) :
    v.compareNumbers? w = some (compareOn standing? v w) := by
  obtain ⟨x, s, hx, hxnan, hs, hvcases⟩ := hv.exists_standing
  obtain ⟨y, t, hy, hynan, ht, hwcases⟩ := hw.exists_standing
  have hstanding : compareOn standing? v w = Ord.compare s t := by
    rw [compareOn, hs, ht]
    rfl
  have hbound : 0 < Decimal.bound := by decide
  have hfar : 0 < Binary.farRank := Int.natCast_pos.2 (pow2_pos 1170)
  rw [hstanding, compareNumbers?]
  rcases hvcases with ⟨d, hd, rfl, hvs⟩ | ⟨hd, hvs⟩
  · rcases hwcases with ⟨e, he, rfl, hws⟩ | ⟨he, hws⟩
    · simp only [hd, he, Decimal.compare_eq_compare_units]
    · simp only [hd, he, hx, hy, Binary.compare?_eq_compare_rank hxnan hynan]
      exact congrArg some (compare_eq_compare (by omega) (by omega))
  · simp only [hd, hx, hy, Binary.compare?_eq_compare_rank hxnan hynan]
    refine congrArg some ?_
    rcases hwcases with ⟨e, -, rfl, hws⟩ | ⟨-, hws⟩
    · exact compare_eq_compare (by omega) (by omega)
    · exact compare_eq_compare (by omega) (by omega)

/-! ### Comparing numbers -/

theorem compare?_of_isNumeric (hv : v.isNumeric = true) (hw : w.isNumeric = true) :
    v.compare? w = compareNumbers? v w := by
  cases v with
  | integer | float | double | decimal =>
    cases w with
    | integer | float | double | decimal => rfl
    | _ => cases hw
  | _ => cases hv

theorem HasStanding.isNumeric (h : v.HasStanding) : v.isNumeric = true := by
  obtain ⟨y, hy, -⟩ := h
  cases v with
  | integer | float | double | decimal => rfl
  | _ => cases hy

theorem isNumeric_of_toDecimal? {d : Decimal} (h : v.toDecimal? = some d) :
    v.isNumeric = true := by
  cases v with
  | integer | float | double | decimal => rfl
  | _ => cases h

/-- The items of a list. -/
def items : Value → List Value
  | .list vs => vs
  | _ => []

end Value

/-! ### Classes -/

/-- The classes of values that are sorted in one order. -/
inductive OrderClass where
  | plain (c : SortClass)
  /-- Numbers of any type that have a decimal. -/
  | ranged
  /-- Numbers of any type that stand among those beyond the range of decimals too. -/
  | standing
  /-- Geometries and boxes, which are all as good as equal. -/
  | place
  /-- Lists of values of a class. -/
  | list (c : OrderClass)

namespace OrderClass

/-- Whether every two values of the class have an order. -/
def IsTotal : OrderClass → Prop
  | .place => False
  | .list c => c.IsTotal
  | _ => True

/-- Whether a value belongs to a class, or there is none. -/
inductive Takes : OrderClass → Value → Prop
  | null (c : OrderClass) : Takes c .null
  | plain {c : SortClass} {v : Value} (h : c.Takes v) : Takes (.plain c) v
  | ranged {v : Value} {d : Decimal} (h : v.toDecimal? = some d) : Takes .ranged v
  | standing {v : Value} (h : v.HasStanding) : Takes .standing v
  | geometry (g : Geometry) : Takes .place (.geometry g)
  | box (b : BoundingBox) : Takes .place (.box b)
  | list {c : OrderClass} {vs : List Value} (hc : c.IsTotal) (hnull : ∀ v ∈ vs, v.isNull = false)
    (h : ∀ v ∈ vs, Takes c v) : Takes (.list c) (.list vs)

/-- The order of a class; nothing comes before every value. -/
def order : OrderClass → Value → Value → Ordering
  | .plain c => c.order
  | .ranged => compareOn Value.toDecimal?
  | .standing => compareOn Value.standing?
  | .place => compareOn fun v => !v.isNull
  | .list c => compareLex (compareOn fun v => !v.isNull) fun a b =>
    List.compareLex c.order a.items b.items

instance (c : OrderClass) : Std.TransCmp c.order := by
  induction c with
  | plain c => exact inferInstanceAs (Std.TransCmp c.order)
  | ranged => exact inferInstanceAs (Std.TransCmp (compareOn Value.toDecimal?))
  | standing => exact inferInstanceAs (Std.TransCmp (compareOn Value.standing?))
  | place => exact inferInstanceAs (Std.TransCmp (compareOn fun v : Value => !v.isNull))
  | list c ih =>
    have hlists : Std.TransCmp (List.compareLex c.order) := inferInstance
    have hitems : Std.TransCmp fun a b : Value => List.compareLex c.order a.items b.items :=
      { eq_swap := hlists.eq_swap
        isLE_trans := hlists.isLE_trans }
    exact inferInstanceAs (Std.TransCmp (compareLex (compareOn fun v : Value => !v.isNull)
      fun a b : Value => List.compareLex c.order a.items b.items))

variable {c : OrderClass} {a b : Value}

/-- Lists are compared item by item. -/
theorem compareAll?_eq {as bs : List Value}
    (h : ∀ a ∈ as, ∀ b ∈ bs, a.compare? b = some (c.order a b)) :
    Value.compareAll? as bs = some (List.compareLex c.order as bs) := by
  induction as generalizing bs with
  | nil => cases bs <;> rfl
  | cons a as ih =>
    cases bs with
    | nil => rfl
    | cons b bs =>
      have hrest := ih fun a ha b hb =>
        h a (List.mem_cons_of_mem _ ha) b (List.mem_cons_of_mem _ hb)
      rw [Value.compareAll?, h a (List.mem_cons_self ..) b (List.mem_cons_self ..), hrest,
        List.compareLex_cons_cons]
      cases c.order a b <;> rfl

/-- Every two values of such a class are ordered as it is. -/
theorem compare?_eq (hc : c.IsTotal) (ha : c.Takes a) (hb : c.Takes b) (hna : a.isNull = false)
    (hnb : b.isNull = false) : a.compare? b = some (c.order a b) := by
  induction c generalizing a b with
  | plain c =>
    cases ha with
    | null => cases hna
    | plain ha =>
      cases hb with
      | null => cases hnb
      | plain hb =>
        obtain ⟨o, ho⟩ := Option.isSome_iff_exists.1 (SortClass.isSome_compare? ha hb hna hnb)
        have horder := SortClass.sortOrder_eq ha hb
        rw [Value.sortOrder, hna, hnb, ho] at horder
        rw [ho]
        exact congrArg some horder
  | ranged =>
    cases ha with
    | null => cases hna
    | ranged ha =>
      cases hb with
      | null => cases hnb
      | ranged hb =>
        rw [Value.compare?_of_isNumeric (Value.isNumeric_of_toDecimal? ha)
          (Value.isNumeric_of_toDecimal? hb), Value.compareNumbers?, ha, hb, order, compareOn, ha,
          hb]
        rfl
  | standing =>
    cases ha with
    | null => cases hna
    | standing ha =>
      cases hb with
      | null => cases hnb
      | standing hb =>
        rw [Value.compare?_of_isNumeric ha.isNumeric hb.isNumeric,
          Value.compareNumbers?_of_hasStanding ha hb]
        rfl
  | place => exact hc.elim
  | list c ih =>
    cases ha with
    | null => cases hna
    | @list _ as _ hnas has =>
      cases hb with
      | null => cases hnb
      | @list _ bs _ hnbs hbs =>
        exact compareAll?_eq fun a ha b hb =>
          ih hc (has a ha) (hbs b hb) (hnas a ha) (hnbs b hb)

/-- Nothing comes before every value. -/
theorem order_null (hb : c.Takes b) (hnb : b.isNull = false) : c.order .null b = .lt := by
  cases hb with
  | null => cases hnb
  | @plain c _ hb =>
    show c.order .null b = .lt
    rw [← SortClass.sortOrder_eq (.null c) hb, Value.sortOrder, hnb]
    rfl
  | ranged h =>
    rw [order, compareOn, h]
    rfl
  | standing h =>
    obtain ⟨-, s, -, -, hs, -⟩ := h.exists_standing
    rw [order, compareOn, hs]
    rfl
  | geometry | box | list => rfl

/-- Values without an order are in the class of places alone. -/
theorem Takes.isTotal_or (ha : c.Takes a) (hna : a.isNull = false) : c.IsTotal ∨ c = .place := by
  cases ha with
  | null => cases hna
  | plain | ranged | standing => exact .inl trivial
  | geometry | box => exact .inr rfl
  | list hc => exact .inl hc

theorem sortOrder_place (ha : OrderClass.place.Takes a) (hb : OrderClass.place.Takes b) :
    a.sortOrder b = OrderClass.place.order a b := by
  have hties : ∀ h : Bool, (Value.equalOnly h).getD .eq = .eq := by decide
  cases ha with
  | null => cases hb <;> rfl
  | geometry g =>
    cases hb with
    | null | box => rfl
    | geometry g' => exact hties (g == g')
  | box x =>
    cases hb with
    | null | geometry => rfl
    | box x' => exact hties (x == x')

/-- Values of one class are sorted as their class is ordered. -/
theorem sortOrder_eq (ha : c.Takes a) (hb : c.Takes b) : a.sortOrder b = c.order a b := by
  cases hna : a.isNull with
  | true =>
    rw [Value.eq_null_of_isNull hna] at ha ⊢
    cases hnb : b.isNull with
    | true =>
      rw [Value.eq_null_of_isNull hnb]
      exact Std.ReflCmp.compare_self.symm
    | false =>
      rw [order_null hb hnb, Value.sortOrder, hnb]
      rfl
  | false =>
    cases hnb : b.isNull with
    | true =>
      have hswap : c.order a .null = (c.order .null a).swap := Std.OrientedCmp.eq_swap
      rw [Value.eq_null_of_isNull hnb, hswap, order_null ha hna, Value.sortOrder, hna]
      rfl
    | false =>
      rcases ha.isTotal_or hna with hc | rfl
      · rw [Value.sortOrder, hna, hnb, compare?_eq hc ha hb hna hnb]
        rfl
      · exact sortOrder_place ha hb

end OrderClass

end TypedFilter
