import Mathlib.Tactic.Ring
import TypedFilter.Query.Run

/-!
The orders that records are sorted by. Main statement: where the values of each column belong to one
class, the order by any number of columns compares every two records, and goes on from one pair of
them to the next.
-/

namespace TypedFilter

/-! ### Orders of the parts of values -/

theorem compare_mul_right {a b c : Int} (hc : 0 < c) :
    Ord.compare (a * c) (b * c) = Ord.compare a b := by
  cases h : Ord.compare a b with
  | lt => exact Int.compare_eq_lt.2 (Int.mul_lt_mul_of_pos_right (Int.compare_eq_lt.1 h) hc)
  | eq => exact Int.compare_eq_eq.2 (congrArg (· * c) (Int.compare_eq_eq.1 h))
  | gt => exact Int.compare_eq_gt.2 (Int.mul_lt_mul_of_pos_right (Int.compare_eq_gt.1 h) hc)

namespace Decimal

/-- The number as a multiple of the least one that there is. -/
def units (d : Decimal) : Int :=
  d.coefficient * pow10 (28 - d.scale)

/-- Decimals are ordered as whole numbers are. -/
theorem compare_eq_compare_units (a b : Decimal) :
    a.compare b = Ord.compare a.units b.units := by
  have hpow : ∀ d : Decimal, pow10 (28 - d.scale) * pow10 d.scale = pow10 28 := fun d => by
    have hsum : 28 - d.scale + d.scale = 28 := Nat.sub_add_cancel d.scale_le
    exact (Nat.pow_add 10 (28 - d.scale) d.scale).symm.trans (congrArg pow10 hsum)
  have ha : a.coefficient * pow10 b.scale * (pow10 (28 - a.scale) * pow10 (28 - b.scale) : Nat) =
      a.units * pow10 28 := by
    rw [units, ← hpow b]
    push_cast
    ring
  have hb : b.coefficient * pow10 a.scale * (pow10 (28 - a.scale) * pow10 (28 - b.scale) : Nat) =
      b.units * pow10 28 := by
    rw [units, ← hpow a]
    push_cast
    ring
  have hpos : (0 : Int) < (pow10 (28 - a.scale) * pow10 (28 - b.scale) : Nat) :=
    Int.natCast_pos.2 (Nat.mul_pos (pow10_pos _) (pow10_pos _))
  rw [compare, ← compare_mul_right hpos, ha, hb,
    compare_mul_right (Int.natCast_pos.2 (pow10_pos 28))]

instance : Ord Decimal := ⟨compare⟩

instance : Std.TransOrd Decimal where
  eq_swap := compare_swap _ _
  isLE_trans {a b c} hab hbc := by
    have hunits : ∀ x y : Decimal, Ord.compare x y = Ord.compare x.units y.units :=
      compare_eq_compare_units
    rw [hunits] at hab hbc ⊢
    exact Std.TransCmp.isLE_trans hab hbc

end Decimal

instance : Ord Date := ⟨Date.compare⟩

instance : Std.TransOrd Date :=
  inferInstanceAs (Std.TransCmp (compareLex (compareOn Date.year)
    (compareLex (compareOn Date.month) (compareOn Date.day))))

instance : Ord Time := ⟨Time.compare⟩

instance : Std.TransOrd Time :=
  inferInstanceAs (Std.TransCmp (compareLex (compareOn Time.hour)
    (compareLex (compareOn Time.minute)
      (compareLex (compareOn Time.second) (compareOn Time.nano)))))

instance : Ord Timestamp := ⟨Timestamp.compare⟩

instance : Std.TransOrd Timestamp :=
  inferInstanceAs (Std.TransCmp (compareLex (compareOn Timestamp.date) (compareOn Timestamp.time)))

/-! ### Classes of values -/

/-- The classes of values that have an order in common. -/
inductive SortClass where
  /-- Whole numbers of any width and decimals. -/
  | number
  | boolean
  | text
  /-- Days and timestamps. -/
  | moment
  | time
  deriving DecidableEq

namespace SortClass

/-- Whether a value belongs to a class, or there is none. -/
inductive Takes : SortClass → Value → Prop
  | null (c : SortClass) : Takes c .null
  | integer {w : IntWidth} (n : SizedInt w) : Takes .number (.integer w n)
  | decimal (d : Decimal) : Takes .number (.decimal d)
  | boolean (b : Bool) : Takes .boolean (.boolean b)
  | string (s : String) : Takes .text (.string s)
  | date (d : Date) : Takes .moment (.date d)
  | timestamp (t : Timestamp) : Takes .moment (.timestamp t)
  | time (t : Time) : Takes .time (.time t)

/-- The order of a class: that of the part that its values have and others lack. -/
def order : SortClass → Value → Value → Ordering
  | .number => compareOn Value.toDecimal?
  | .boolean => compareOn fun | .boolean b => some b | _ => none
  | .text => compareOn Value.asString?
  | .moment => compareOn Value.toTimestamp?
  | .time => compareOn fun | .time t => some t | _ => none

instance (c : SortClass) : Std.TransCmp c.order := by
  cases c <;> exact inferInstanceAs (Std.TransCmp (compareOn _))

variable {c : SortClass} {a b : Value}

/-- Midnight comes first in a day, so that days are ordered as timestamps are. -/
theorem compare_midnight (d e : Date) :
    Timestamp.compare ⟨d, .midnight⟩ ⟨e, .midnight⟩ = d.compare e := by
  rw [Timestamp.compare]
  have hsame : Time.midnight.compare .midnight = .eq := rfl
  rw [hsame, Ordering.then_eq]

/-- Values of one class are sorted as their class is ordered. -/
theorem sortOrder_eq (ha : c.Takes a) (hb : c.Takes b) : a.sortOrder b = c.order a b := by
  cases ha <;> cases hb
  case null.null => cases c <;> rfl
  case date.date d e => exact (compare_midnight d e).symm
  all_goals rfl

/-- Every two values of one class can be compared. -/
theorem isSome_compare? (ha : c.Takes a) (hb : c.Takes b) (hna : a.isNull = false)
    (hnb : b.isNull = false) : (a.compare? b).isSome = true := by
  cases ha <;> cases hb <;> first | rfl | contradiction

end SortClass

/-! ### Order of values -/

namespace Value

/-- Whether a value comes before another one; nothing at all comes before every value. -/
def comesBefore (a b : Value) : Bool :=
  (a.isNull && !b.isNull) || a.compare? b == some .lt

/-- Whether two values are as good as equal; nothing at all is equal to itself alone. -/
def ties (a b : Value) : Bool :=
  (a.isNull && b.isNull) || a.equal b

variable {c : SortClass} {a b : Value}

theorem compare?_of_isNull (h : a.isNull = true ∨ b.isNull = true) : a.compare? b = none := by
  cases a <;> cases b <;> simp [compare?, isNull] at h ⊢

theorem sortOrder_eq_lt_iff : a.sortOrder b = .lt ↔ a.comesBefore b = true := by
  rw [sortOrder, comesBefore]
  cases ha : a.isNull <;> cases hb : b.isNull
  · cases a.compare? b <;> simp
  all_goals simp [compare?_of_isNull, ha, hb]

theorem sortOrder_eq_eq_iff (ha : c.Takes a) (hb : c.Takes b) :
    a.sortOrder b = .eq ↔ a.ties b = true := by
  rw [sortOrder, ties, equal]
  cases hna : a.isNull <;> cases hnb : b.isNull
  · obtain ⟨o, ho⟩ := Option.isSome_iff_exists.1 (SortClass.isSome_compare? ha hb hna hnb)
    simp [ho]
  all_goals simp [compare?_of_isNull, hna, hnb]

end Value

/-! ### Order of records by one column -/

namespace SortKey

/-- Whether a record comes before another one by a column, whose direction may be turned around. -/
def comesBefore (k : SortKey) (a b : Record) : Bool :=
  if k.ascending then (a.value k.name).comesBefore (b.value k.name)
  else (b.value k.name).comesBefore (a.value k.name)

/-- Whether two records are as good as equal in a column. -/
def ties (k : SortKey) (a b : Record) : Bool :=
  (a.value k.name).ties (b.value k.name)

/-- Whether the values of a column belong to one class in all of some records. -/
def IsUniform (k : SortKey) (records : List Record) : Prop :=
  ∃ c : SortClass, ∀ r ∈ records, c.Takes (r.value k.name)

/-- The order of all records by a column whose values belong to a class. -/
def orderAs (k : SortKey) (c : SortClass) (a b : Record) : Ordering :=
  if k.ascending then c.order (a.value k.name) (b.value k.name)
  else c.order (b.value k.name) (a.value k.name)

instance (k : SortKey) (c : SortClass) : Std.TransCmp (k.orderAs c) where
  eq_swap := by
    unfold orderAs
    split <;> exact Std.OrientedCmp.eq_swap
  isLE_trans {x y z} hxy hyz := by
    unfold orderAs at *
    split at hxy
    · rename_i hk
      rw [if_pos hk] at hyz ⊢
      exact Std.TransCmp.isLE_trans hxy hyz
    · rename_i hk
      rw [if_neg hk] at hyz ⊢
      exact Std.TransCmp.isLE_trans hyz hxy

variable {k : SortKey} {c : SortClass} {a b : Record}

theorem order_eq (ha : c.Takes (a.value k.name)) (hb : c.Takes (b.value k.name)) :
    k.order a b = k.orderAs c a b := by
  rw [order, orderAs, SortClass.sortOrder_eq ha hb]
  exact congrArg (ite _ _) Std.OrientedCmp.eq_swap.symm

theorem order_eq_lt_iff (ha : c.Takes (a.value k.name)) (hb : c.Takes (b.value k.name)) :
    k.order a b = .lt ↔ k.comesBefore a b = true := by
  rw [order_eq ha hb, orderAs, comesBefore, ← SortClass.sortOrder_eq ha hb,
    ← SortClass.sortOrder_eq hb ha]
  split <;> exact Value.sortOrder_eq_lt_iff

theorem order_eq_eq_iff (ha : c.Takes (a.value k.name)) (hb : c.Takes (b.value k.name)) :
    k.order a b = .eq ↔ k.ties a b = true := by
  rw [order, ties, ← Value.sortOrder_eq_eq_iff ha hb]
  split
  · exact Iff.rfl
  · exact Ordering.swap_eq_eq

end SortKey

/-! ### Order of records by any number of columns -/

/-- Whether two records stand in the order by columns: in the first one that tells them apart, the
first record comes first. -/
def InOrder : List SortKey → Record → Record → Prop
  | [], _, _ => True
  | k :: ks, a, b => k.comesBefore a b = true ∨ k.ties a b = true ∧ InOrder ks a b

/-- Whether two records are as good as equal in every one of some columns. -/
def tied (keys : List SortKey) (a b : Record) : Bool :=
  keys.all fun k => k.ties a b

variable {keys : List SortKey} {records : List Record}

/-- The order by columns whose values belong to one class each is part of an order of all
records. -/
theorem exists_order (h : ∀ k ∈ keys, k.IsUniform records) :
    ∃ order : Record → Record → Ordering, Std.TransCmp order ∧
      ∀ a ∈ records, ∀ b ∈ records, orderBy keys a b = order a b := by
  induction keys with
  | nil => exact ⟨compareOn fun _ => (), inferInstance, fun _ _ _ _ => rfl⟩
  | cons k ks ih =>
    obtain ⟨⟨c, hc⟩, hks⟩ := List.forall_mem_cons.1 h
    obtain ⟨order, htrans, horder⟩ := ih hks
    refine ⟨compareLex (k.orderAs c) order, inferInstance, fun a ha b hb => ?_⟩
    rw [orderBy, SortKey.order_eq (hc a ha) (hc b hb), horder a ha b hb, compareLex]
    cases k.orderAs c a b <;> rfl

theorem isLE_orderBy_iff (h : ∀ k ∈ keys, k.IsUniform records) {a b : Record} (ha : a ∈ records)
    (hb : b ∈ records) : (orderBy keys a b).isLE = true ↔ InOrder keys a b := by
  induction keys with
  | nil => exact ⟨fun _ => trivial, fun _ => rfl⟩
  | cons k ks ih =>
    obtain ⟨⟨c, hc⟩, hks⟩ := List.forall_mem_cons.1 h
    rw [orderBy, InOrder, ← SortKey.order_eq_lt_iff (hc a ha) (hc b hb),
      ← SortKey.order_eq_eq_iff (hc a ha) (hc b hb), ← ih hks]
    cases k.order a b <;> simp

theorem orderBy_eq_eq_iff (h : ∀ k ∈ keys, k.IsUniform records) {a b : Record} (ha : a ∈ records)
    (hb : b ∈ records) : orderBy keys a b = .eq ↔ tied keys a b = true := by
  induction keys with
  | nil => exact ⟨fun _ => rfl, fun _ => rfl⟩
  | cons k ks ih =>
    obtain ⟨⟨c, hc⟩, hks⟩ := List.forall_mem_cons.1 h
    rw [orderBy, tied, List.all_cons, Bool.and_eq_true, ← tied,
      ← SortKey.order_eq_eq_iff (hc a ha) (hc b hb), ← ih hks]
    cases k.order a b <;> simp

end TypedFilter
