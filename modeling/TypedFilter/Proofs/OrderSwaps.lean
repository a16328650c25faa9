import Mathlib.Logic.Basic
import TypedFilter.Query.Run

/-!
Values from the other side. Main statement: looking at any two values from the other side turns the
order that they are sorted in around.
-/

namespace TypedFilter

/-! ### Equality of geometries -/

theorem Binary.beq_comm {f : Format} (x y : Binary f) : (x == y) = (y == x) := by
  show (x.compare? y == some .eq) = (y.compare? x == some .eq)
  rw [compare?_swap x y]
  cases x.compare? y with
  | none => rfl
  | some o => cases o <;> rfl

theorem beq_list_comm {α : Type} [BEq α] (h : ∀ a b : α, (a == b) = (b == a)) (as bs : List α) :
    (as == bs) = (bs == as) := by
  induction as generalizing bs with
  | nil => cases bs <;> rfl
  | cons a as ih =>
    cases bs with
    | nil => rfl
    | cons b bs => rw [List.cons_beq_cons, List.cons_beq_cons, h, ih]

theorem Position.beq_comm (p q : Position) : (p == q) = (q == p) :=
  congrArg₂ and (Binary.beq_comm p.x q.x) (Binary.beq_comm p.y q.y)

theorem Rect.beq_comm (r s : Rect) : (r == s) = (s == r) :=
  congrArg₂ and (Position.beq_comm r.low s.low) (Position.beq_comm r.high s.high)

theorem Polygon.beq_comm (p q : Polygon) : (p == q) = (q == p) :=
  congrArg₂ and (beq_list_comm Position.beq_comm p.exterior q.exterior)
    (beq_list_comm (beq_list_comm Position.beq_comm) p.interiors q.interiors)

namespace Geometry

mutual

theorem equal_comm (g h : Geometry) : g.equal h = h.equal g := by
  cases g <;> cases h
  case point.point p q => exact Position.beq_comm p q
  case line.line a b c d => exact congrArg₂ and (Position.beq_comm a c) (Position.beq_comm b d)
  case lineString.lineString a b => exact beq_list_comm Position.beq_comm a b
  case polygon.polygon p q => exact Polygon.beq_comm p q
  case multiPoint.multiPoint a b => exact beq_list_comm Position.beq_comm a b
  case multiLineString.multiLineString a b =>
    exact beq_list_comm (beq_list_comm Position.beq_comm) a b
  case multiPolygon.multiPolygon a b => exact beq_list_comm Polygon.beq_comm a b
  case collection.collection a b => exact equalAll_comm a b
  case rect.rect r s => exact Rect.beq_comm r s
  case triangle.triangle a b c d e f =>
    exact congrArg₂ and (congrArg₂ and (Position.beq_comm a d) (Position.beq_comm b e))
      (Position.beq_comm c f)
  all_goals rfl

theorem equalAll_comm (gs hs : List Geometry) : equalAll gs hs = equalAll hs gs := by
  cases gs with
  | nil => cases hs <;> rfl
  | cons g gs =>
    cases hs with
    | nil => rfl
    | cons h hs => exact congrArg₂ and (equal_comm g h) (equalAll_comm gs hs)

end

end Geometry

theorem BoundingBox.beq_comm (a b : BoundingBox) : (a == b) = (b == a) := by
  cases a with
  | empty => cases b <;> rfl
  | of r =>
    cases b with
    | empty => rfl
    | of s => exact Rect.beq_comm r s

/-! ### Order of values -/

namespace Value

theorem compareNumbers?_swap (a b : Value) :
    b.compareNumbers? a = (a.compareNumbers? b).map Ordering.swap := by
  rw [compareNumbers?, compareNumbers?]
  cases a.toDecimal? <;> cases b.toDecimal?
  case some.some x y => exact congrArg some (Decimal.compare_swap x y)
  -- Where one of them has no decimal, both are compared in the 64-bit format.
  all_goals
    cases a.toDouble? <;> cases b.toDouble?
    case some.some x y => exact Binary.compare?_swap x y
    all_goals rfl

theorem equalOnly_swap (h : Bool) : (equalOnly h).map Ordering.swap = equalOnly h := by
  cases h <;> rfl

theorem compareTyped?_of_isNumeric {a b : Value} (ha : a.isNumeric = true)
    (hb : b.isNumeric = true) : a.compareTyped? b = a.compareNumbers? b := by
  cases a with
  | integer | float | double | decimal =>
    cases b with
    | integer | float | double | decimal => rfl
    | _ => cases hb
  | _ => cases ha

theorem compareTyped?_swap (a b : Value) :
    b.compareTyped? a = (a.compareTyped? b).map Ordering.swap := by
  by_cases hnumeric : a.isNumeric = true ∧ b.isNumeric = true
  · rw [compareTyped?_of_isNumeric hnumeric.1 hnumeric.2,
      compareTyped?_of_isNumeric hnumeric.2 hnumeric.1]
    exact compareNumbers?_swap a b
  cases a <;> cases b
  case boolean.boolean x y => exact congrArg some Std.OrientedOrd.eq_swap
  case time.time s t => exact congrArg some (Time.compare_swap s t)
  case date.date d e => exact congrArg some (Date.compare_swap d e)
  case timestamp.timestamp s t => exact congrArg some (Timestamp.compare_swap s t)
  case date.timestamp d t => exact congrArg some (Timestamp.compare_swap ⟨d, .midnight⟩ t)
  case timestamp.date t d => exact congrArg some (Timestamp.compare_swap t ⟨d, .midnight⟩)
  case geometry.geometry g h =>
    rw [compareTyped?, compareTyped?, equalOnly_swap]
    exact congrArg equalOnly (Geometry.equal_comm h g)
  case box.box x y =>
    rw [compareTyped?, compareTyped?, equalOnly_swap]
    exact congrArg equalOnly (BoundingBox.beq_comm y x)
  all_goals first | rfl | exact absurd ⟨rfl, rfl⟩ hnumeric

/-- A value that has a type is compared with a text by it. -/
theorem compare?_string_eq_compareText? {a : Value} {t : DataType} (ha : a.dataType? = some t)
    (s : String) : a.compare? (.string s) = a.compareText? s := by
  cases a with
  | null => cases ha
  | string r =>
    have hsame : DataType.string.convert (.string s) = .ok (.string s) := by
      simp [DataType.convert, DataType.countsAsNull, DataType.cast?, DataType.stringOf?, plainText]
    rw [compareText?, dataType?, Option.bind_some, hsame]
    rfl
  | _ => rfl

mutual

theorem compare?_swap (a b : Value) : b.compare? a = (a.compare? b).map Ordering.swap := by
  have htwice : ∀ o : Option Ordering, o = (o.map Ordering.swap).map Ordering.swap
    | none => rfl
    | some o => by cases o <;> rfl
  cases a <;> cases b
  case string.string s t => exact congrArg some Std.OrientedOrd.eq_swap
  case list.list as bs => exact compareAll?_swap as bs
  case string.boolean | string.integer | string.float | string.double | string.decimal |
      string.date | string.time | string.timestamp | string.geometry | string.box |
      string.list =>
    exact htwice _
  all_goals first | rfl | (simp only [compare?]; exact compareTyped?_swap _ _)

theorem compareAll?_swap (as bs : List Value) :
    compareAll? bs as = (compareAll? as bs).map Ordering.swap := by
  cases as with
  | nil => cases bs <;> exact congrArg some Std.OrientedOrd.eq_swap
  | cons a as =>
    cases bs with
    | nil => exact congrArg some Std.OrientedOrd.eq_swap
    | cons b bs =>
      rw [compareAll?, compareAll?, compare?_swap a b, compareAll?_swap as bs]
      cases a.compare? b with
      | none => rfl
      | some o => cases o <;> rfl

end

/-- Looking at two values from the other side turns the order that they are sorted in around. -/
theorem sortOrder_swap (a b : Value) : b.sortOrder a = (a.sortOrder b).swap := by
  rw [sortOrder, sortOrder, compare?_swap a b]
  cases a.isNull <;> cases b.isNull
  · cases a.compare? b <;> rfl
  all_goals rfl

end Value

end TypedFilter
