import TypedFilter.Proofs.Bare
import TypedFilter.Proofs.Brackets
import TypedFilter.Proofs.DecimalRange

/-!
What the extent of a condition says about its spatial functions. The extents that a tree names are
those of the spatial functions and of the boxes in it that no spatial function has among its
arguments. Main statement: a tree without such parts has no extent, and the extent of any other
covers the extent of every literal that such a function is called with.
-/

namespace TypedFilter

/-! ### Order -/

namespace Binary

variable {f : Format} {x y z : Binary f}

theorem lt_iff : x.lt y = true ↔ x.isNan = false ∧ y.isNan = false ∧ x.rank < y.rank := by
  cases hx : x.isNan with
  | true =>
    cases x with
    | nan => cases y <;> simp [lt, compare?]
    | _ => cases hx
  | false =>
    cases hy : y.isNan with
    | true =>
      cases y with
      | nan => cases x <;> simp [lt, compare?]
      | _ => cases hy
    | false =>
      rw [lt, compare?_eq_compare_rank hx hy]
      simp [Int.compare_eq_lt]

theorem le_iff : x.le y = true ↔ x.isNan = false ∧ y.isNan = false ∧ x.rank ≤ y.rank := by
  have hbeq : (x == y) = (x.compare? y == some .eq) := rfl
  rw [le, Bool.or_eq_true, lt_iff, hbeq]
  cases hx : x.isNan with
  | true =>
    cases x with
    | nan => cases y <;> simp [compare?]
    | _ => cases hx
  | false =>
    cases hy : y.isNan with
    | true =>
      cases y with
      | nan => cases x <;> simp [compare?]
      | _ => cases hy
    | false =>
      rw [compare?_eq_compare_rank hx hy]
      simp [Int.le_iff_lt_or_eq]

theorem le_refl (hx : x.isNan = false) : x.le x = true :=
  le_iff.2 ⟨hx, hx, Int.le_refl _⟩

theorem least_le_left (h : x.le z = true) : (x.least y).le z = true := by
  obtain ⟨hx, hz, hle⟩ := le_iff.1 h
  rw [least, hx, Bool.false_or]
  split
  · rename_i hlt
    obtain ⟨hy, -, hlt⟩ := lt_iff.1 hlt
    exact le_iff.2 ⟨hy, hz, by omega⟩
  · exact h

theorem least_le_right (h : y.le z = true) : (x.least y).le z = true := by
  obtain ⟨hy, hz, hle⟩ := le_iff.1 h
  rw [least]
  split
  · exact h
  · rename_i hfirst
    rw [Bool.or_eq_true, lt_iff, not_or, Bool.not_eq_true] at hfirst
    have hge : ¬y.rank < x.rank := fun hlt => hfirst.2 ⟨hy, hfirst.1, hlt⟩
    exact le_iff.2 ⟨hfirst.1, hz, by omega⟩

theorem le_greatest_left (h : z.le x = true) : z.le (x.greatest y) = true := by
  obtain ⟨hz, hx, hle⟩ := le_iff.1 h
  rw [greatest, hx, Bool.false_or]
  split
  · rename_i hlt
    obtain ⟨-, hy, hlt⟩ := lt_iff.1 hlt
    exact le_iff.2 ⟨hz, hy, by omega⟩
  · exact h

theorem le_greatest_right (h : z.le y = true) : z.le (x.greatest y) = true := by
  obtain ⟨hz, hy, hle⟩ := le_iff.1 h
  rw [greatest]
  split
  · exact h
  · rename_i hfirst
    rw [Bool.or_eq_true, lt_iff, not_or, Bool.not_eq_true] at hfirst
    have hge : ¬x.rank < y.rank := fun hlt => hfirst.2 ⟨hfirst.1, hy, hlt⟩
    exact le_iff.2 ⟨hz, hfirst.1, by omega⟩

end Binary

/-! ### Covering -/

namespace BoundingBox

/-- Whether every coordinate is a number. -/
def isDefined : BoundingBox → Bool
  | .empty => true
  | .of r => !r.low.x.isNan && !r.low.y.isNan && !r.high.x.isNan && !r.high.y.isNan

/-- Whether the second extent lies in the first. -/
def covers : BoundingBox → BoundingBox → Bool
  | _, .empty => true
  | .empty, .of _ => false
  | .of s, .of r =>
    s.low.x.le r.low.x && s.low.y.le r.low.y && r.high.x.le s.high.x && r.high.y.le s.high.y

variable {a b c : BoundingBox}

theorem covers_of_iff {s r : Rect} : (of s).covers (of r) = true ↔
    (s.low.x.le r.low.x = true ∧ r.high.x.le s.high.x = true) ∧
      s.low.y.le r.low.y = true ∧ r.high.y.le s.high.y = true := by
  simp only [covers, Bool.and_eq_true]
  constructor
  · rintro ⟨⟨⟨hx, hy⟩, hx'⟩, hy'⟩
    exact ⟨⟨hx, hx'⟩, hy, hy'⟩
  · rintro ⟨⟨hx, hx'⟩, hy, hy'⟩
    exact ⟨⟨⟨hx, hy⟩, hx'⟩, hy'⟩

theorem covers_self (h : b.isDefined = true) : b.covers b = true := by
  cases b with
  | empty => rfl
  | of r =>
    simp only [isDefined, Bool.and_eq_true, Bool.not_eq_true'] at h
    obtain ⟨⟨⟨hx, hy⟩, hx'⟩, hy'⟩ := h
    exact covers_of_iff.2 ⟨⟨Binary.le_refl hx, Binary.le_refl hx'⟩, Binary.le_refl hy,
      Binary.le_refl hy'⟩

/-- The ends of an interval still cover what they cover when they are put in order. -/
theorem covers_inOrder {p q low high : Double} (hlow : p.le low = true)
    (hhigh : high.le q = true) :
    (if p.lt q then (p, q) else (q, p)).1.le low = true ∧
      high.le (if p.lt q then (p, q) else (q, p)).2 = true := by
  split
  · exact ⟨hlow, hhigh⟩
  · rename_i hlt
    obtain ⟨hp, hl, hle⟩ := Binary.le_iff.1 hlow
    obtain ⟨hh, hq, hle'⟩ := Binary.le_iff.1 hhigh
    have hge : ¬p.rank < q.rank := fun h => hlt (Binary.lt_iff.2 ⟨hp, hq, h⟩)
    have hfirst : q.rank ≤ low.rank := by omega
    have hlast : high.rank ≤ p.rank := by omega
    exact ⟨Binary.le_iff.2 ⟨hq, hl, hfirst⟩, Binary.le_iff.2 ⟨hh, hp, hlast⟩⟩

theorem covers_ofCorners {p q : Position} {r : Rect}
    (hx : p.x.le r.low.x = true ∧ r.high.x.le q.x = true)
    (hy : p.y.le r.low.y = true ∧ r.high.y.le q.y = true) :
    (ofCorners p.x p.y q.x q.y).covers (of r) = true :=
  covers_of_iff.2 ⟨covers_inOrder hx.1 hx.2, covers_inOrder hy.1 hy.2⟩

theorem covers_union_left (h : a.covers c = true) : (a.union b).covers c = true := by
  cases c with
  | empty => cases a.union b <;> rfl
  | of r =>
    cases a with
    | empty => cases h
    | of s =>
      cases b with
      | empty => exact h
      | of t =>
        obtain ⟨⟨hx, hx'⟩, hy, hy'⟩ := covers_of_iff.1 h
        exact covers_ofCorners (p := ⟨_, _⟩) (q := ⟨_, _⟩)
          ⟨Binary.least_le_left hx, Binary.le_greatest_left hx'⟩
          ⟨Binary.least_le_left hy, Binary.le_greatest_left hy'⟩

theorem covers_union_right (h : b.covers c = true) : (a.union b).covers c = true := by
  cases c with
  | empty => cases a.union b <;> rfl
  | of r =>
    cases b with
    | empty => cases h
    | of t =>
      cases a with
      | empty => exact h
      | of s =>
        obtain ⟨⟨hx, hx'⟩, hy, hy'⟩ := covers_of_iff.1 h
        exact covers_ofCorners (p := ⟨_, _⟩) (q := ⟨_, _⟩)
          ⟨Binary.least_le_right hx, Binary.le_greatest_right hx'⟩
          ⟨Binary.least_le_right hy, Binary.le_greatest_right hy'⟩

theorem covers_foldl_of_covers {boxes : List BoundingBox} (h : a.covers c = true) :
    (boxes.foldl union a).covers c = true := by
  induction boxes generalizing a with
  | nil => exact h
  | cons b boxes ih => exact ih (covers_union_left h)

/-- The union of extents covers each of them. -/
theorem covers_foldl {boxes : List BoundingBox} (hb : b ∈ boxes) (h : b.isDefined = true) :
    (boxes.foldl union a).covers b = true := by
  obtain ⟨before, after, rfl⟩ := List.append_of_mem hb
  rw [List.foldl_append, List.foldl_cons]
  exact covers_foldl_of_covers (covers_union_right (covers_self h))

theorem foldl_union_empty {boxes : List BoundingBox} (h : ∀ b ∈ boxes, b = .empty) :
    boxes.foldl union .empty = .empty := by
  induction boxes with
  | nil => rfl
  | cons b boxes ih =>
    rw [List.foldl_cons, h b (List.mem_cons_self ..)]
    exact ih fun b hb => h b (List.mem_cons_of_mem _ hb)

end BoundingBox

namespace Expr

/-! ### Parts that name extents -/

/-- Whether the tree is a call of a spatial function. -/
def isSpatialCall : Expr → Bool
  | .call f _ => f.isSpatial
  | _ => false

/-- Whether the tree is the literal of an extent. -/
def isBox : Expr → Bool
  | .literal ⟨.box _, _, _⟩ => true
  | _ => false

/-- The part is the tree itself, or no spatial function around it has it among its arguments. -/
inductive IsOpenPart : Expr → Expr → Prop
  | self (e : Expr) : IsOpenPart e e
  | operand {x y e : Expr} (he : e.isSpatialCall = false) (hy : y ∈ e.operands)
    (hx : IsOpenPart x y) : IsOpenPart x e

variable {e x a : Expr} {b : BoundingBox}

/-- Only spatial functions and boxes name extents that their operands do not name. -/
theorem extents_eq_flatMap (he : e.isSpatialCall = false) (hb : e.isBox = false) :
    e.extents = e.operands.flatMap extents := by
  cases e with
  | literal l =>
    rw [extents, operands, List.flatMap_nil]
    split
    · rename_i box hbox
      obtain ⟨v, display, field⟩ := l
      obtain rfl : v = .box box := hbox
      cases hb
    · rfl
  | call f es =>
    cases f with
    | upper | lower => simp [extents, extentsOf_eq_flatMap, operands]
    | envelopeIntersects | withinDistance => cases he
  | collection | and | or => rw [extents, extentsOf_eq_flatMap, operands]
  | column | all => rfl
  | cast | not | isNull | isNotNull | paren => simp [extents, operands]
  | arithmetic | compare | isIn => simp [extents, operands]
  | between => simp [extents, operands]

theorem extents_withinDistance (es : List Expr) :
    (call .withinDistance es).extents = match es with
      | [a, b, d] => [(a.operandExtent.union b.operandExtent).expand d.operandNumber]
      | _ => [.empty] :=
  extents.eq_def _

/-- A part with an extent of its own names one. -/
theorem extents_ne_nil (h : e.isSpatialCall = true ∨ e.isBox = true) : e.extents ≠ [] := by
  cases e with
  | literal l =>
    obtain ⟨v, display, field⟩ := l
    cases v with
    | box b => exact List.cons_ne_nil b []
    | _ => simp [isSpatialCall, isBox] at h
  | call f es =>
    cases f with
    | upper | lower => simp [isSpatialCall, isBox, Builtin.isSpatial] at h
    | envelopeIntersects => exact List.cons_ne_nil _ _
    | withinDistance =>
      rw [extents_withinDistance]
      split <;> exact List.cons_ne_nil _ _
  | _ => simp [isSpatialCall, isBox] at h

/-- The extents that a tree names are those of its open spatial functions and boxes. -/
theorem mem_extents_iff : b ∈ e.extents ↔
    ∃ x, IsOpenPart x e ∧ (x.isSpatialCall = true ∨ x.isBox = true) ∧ b ∈ x.extents := by
  constructor
  · intro hb
    induction e using Expr.induction with
    | h e ih =>
      by_cases hown : e.isSpatialCall = true ∨ e.isBox = true
      · exact ⟨e, .self e, hown, hb⟩
      · simp only [not_or, Bool.not_eq_true] at hown
        rw [extents_eq_flatMap hown.1 hown.2, List.mem_flatMap] at hb
        obtain ⟨y, hy, hb⟩ := hb
        obtain ⟨x, hx, hown', hb⟩ := ih y hy hb
        exact ⟨x, .operand hown.1 hy hx, hown', hb⟩
  · rintro ⟨x, hx, -, hb⟩
    induction hx with
    | self => exact hb
    | @operand y e he hy _ ih =>
      have hbox : e.isBox = false := by
        cases e with
        | literal => cases hy
        | _ => rfl
      rw [extents_eq_flatMap he hbox, List.mem_flatMap]
      exact ⟨y, hy, ih⟩

/-- A spatial function somewhere in the tree is inside an open one, or open itself. -/
theorem every_not_isSpatialCall_iff :
    (e.Every fun x => x.isSpatialCall = false) ↔ ∀ x, IsOpenPart x e → x.isSpatialCall = false := by
  constructor
  · intro h x hx
    induction hx with
    | self => exact h.node
    | operand _ hy _ ih => exact ih (h.operand hy)
  · intro h
    induction e using Expr.induction with
    | h e ih =>
      have he := h e (.self e)
      exact ⟨e, he, fun y hy => ih y hy fun x hx => h x (.operand he hy hx)⟩

/-! ### The extent of a tree -/

theorem boundingBox_eq_none_iff : e.boundingBox = none ↔
    (e.Every fun x => x.isSpatialCall = false) ∧ ∀ x, IsOpenPart x e → x.isBox = false := by
  have hnone : e.boundingBox = none ↔ e.extents = [] := by
    rw [boundingBox]
    split <;> simp_all
  rw [hnone, every_not_isSpatialCall_iff, List.eq_nil_iff_forall_not_mem]
  constructor
  · intro h
    have hopen : ∀ x, IsOpenPart x e → ¬(x.isSpatialCall = true ∨ x.isBox = true) := by
      intro x hx hown
      obtain ⟨b, hb⟩ := List.exists_mem_of_ne_nil _ (extents_ne_nil hown)
      exact h b (mem_extents_iff.2 ⟨x, hx, hown, hb⟩)
    simp only [not_or, Bool.not_eq_true] at hopen
    exact ⟨fun x hx => (hopen x hx).1, fun x hx => (hopen x hx).2⟩
  · rintro ⟨hcall, hbox⟩ b hb
    obtain ⟨x, hx, hown | hown, -⟩ := mem_extents_iff.1 hb
    · rw [hcall x hx] at hown
      cases hown
    · rw [hbox x hx] at hown
      cases hown

theorem eq_foldl_of_boundingBox (h : e.boundingBox = some b) :
    b = e.extents.foldl BoundingBox.union .empty := by
  rw [boundingBox] at h
  split at h
  · cases h
  · cases h
    rfl

/-- An operand is a literal, perhaps in brackets, or has no extent. -/
theorem operandExtent_cases (a : Expr) :
    (∃ l, a.stripped = .literal l ∧ a.operandExtent = l.value.extent) ∨
      (∀ l, a.stripped ≠ .literal l) ∧ a.operandExtent = .empty := by
  induction a using Expr.induction with
  | h a ih =>
    cases a with
    | literal l => exact .inl ⟨l, rfl, rfl⟩
    | paren a => exact ih a (List.mem_singleton_self a)
    | _ => exact .inr ⟨fun l => by simp [stripped], rfl⟩

theorem operandExtent_of_stripped {l : Literal} (h : a.stripped = .literal l) :
    a.operandExtent = l.value.extent := by
  obtain ⟨l', hl', hextent⟩ | ⟨hne, -⟩ := operandExtent_cases a
  · rw [h] at hl'
    cases hl'
    exact hextent
  · exact absurd h (hne l)

/-- Whether the literal, perhaps in brackets, is one of the operands. -/
def HasLiteral (e : Expr) (l : Literal) : Prop :=
  ∃ a ∈ e.operands, a.stripped = .literal l

theorem operandExtent_eq_empty (ha : a ∈ e.operands)
    (h : ∀ l, e.HasLiteral l → l.value.extent = .empty) : a.operandExtent = .empty := by
  obtain ⟨l, hl, hextent⟩ | ⟨-, hextent⟩ := operandExtent_cases a
  · rw [hextent, h l ⟨a, ha, hl⟩]
  · exact hextent

/-- A spatial function that is called with no extent names none. -/
theorem extents_of_isSpatialCall (hx : x.isSpatialCall = true)
    (h : ∀ l, x.HasLiteral l → l.value.extent = .empty) (hb : b ∈ x.extents) : b = .empty := by
  have hempty : ∀ a ∈ x.operands, a.operandExtent = .empty :=
    fun a ha => operandExtent_eq_empty ha h
  cases x with
  | call f es =>
    cases f with
    | upper | lower => cases hx
    | envelopeIntersects =>
      rw [extents, List.mem_cons, List.mem_map] at hb
      obtain rfl | ⟨a, ha, rfl⟩ := hb
      · rfl
      · exact hempty a ha
    | withinDistance =>
      rw [extents_withinDistance] at hb
      split at hb
      · rename_i p q d
        rw [hempty p (by simp [operands]), hempty q (by simp [operands])] at hb
        exact List.mem_singleton.1 hb
      · exact List.mem_singleton.1 hb
  | _ => cases hx

/-- A tree has no extent if and only if no spatial function occurs in it and no box stands outside
the arguments of one. Its extent is that of nothing if the open spatial functions have no literal
with an extent among their operands and the open boxes are empty, and it covers the extent of every
literal that an open test for intersection is called with, perhaps in brackets. -/
theorem boundingBox_sees_spatial_calls (e : Expr) :
    (e.boundingBox = none ↔
      (e.Every fun x => x.isSpatialCall = false) ∧ ∀ x, IsOpenPart x e → x.isBox = false) ∧
    ∀ b, e.boundingBox = some b →
      ((∀ x l, IsOpenPart x e → x.isSpatialCall = true ∧ x.HasLiteral l ∨
          x.isBox = true ∧ x = .literal l → l.value.extent = .empty) → b = .empty) ∧
      ∀ es l, IsOpenPart (.call .envelopeIntersects es) e →
        (call .envelopeIntersects es).HasLiteral l → l.value.extent.isDefined = true →
          b.covers l.value.extent = true := by
  refine ⟨boundingBox_eq_none_iff, fun b hb => ⟨fun hempty => ?_, fun es l hopen hl hdef => ?_⟩⟩
  · rw [eq_foldl_of_boundingBox hb]
    refine BoundingBox.foldl_union_empty fun box hbox => ?_
    obtain ⟨x, hx, hcall | hown, hmem⟩ := mem_extents_iff.1 hbox
    · exact extents_of_isSpatialCall hcall (fun l hl => hempty x l hx (.inl ⟨hcall, hl⟩)) hmem
    · cases x with
      | literal l =>
        have hextent := hempty _ l hx (.inr ⟨hown, rfl⟩)
        obtain ⟨v, display, field⟩ := l
        cases v with
        | box c =>
          obtain rfl : box = c := List.mem_singleton.1 hmem
          exact hextent
        | _ => cases hown
      | _ => cases hown
  · obtain ⟨a, ha, hstripped⟩ := hl
    rw [eq_foldl_of_boundingBox hb, ← operandExtent_of_stripped hstripped]
    refine BoundingBox.covers_foldl (mem_extents_iff.2 ⟨_, hopen, .inl rfl, ?_⟩) ?_
    · exact List.mem_cons_of_mem _ (List.mem_map.2 ⟨a, ha, rfl⟩)
    · rwa [operandExtent_of_stripped hstripped]

/-- Two tests for intersection, one of them under a negation and with its box in brackets, and a
distance from a place that is no literal. -/
theorem boundingBox_sees_nested_calls :
    let place : Expr := .ofName "place"
    let box (low high : Int) : BoundingBox :=
      .ofCorners (.ofInt .double low) (.ofInt .double low) (.ofInt .double high)
        (.ofInt .double high)
    let ten : Expr := .ofValue (.integer .int ⟨10, by decide⟩)
    let near : Expr := .call .withinDistance [place, place, ten]
    let left : Expr := .call .envelopeIntersects [place, .ofValue (.box (box 0 1))]
    let right : Expr := .call .envelopeIntersects [.paren (.ofValue (.box (box 4 6))), place]
    let e : Expr := .or [.and [left, near], .not (.paren right)]
    (∃ b, e.boundingBox = some b ∧ b.covers (box 0 1) = true ∧ b.covers (box 4 6) = true) ∧
      near.boundingBox = some .empty := by
  intro place box ten near left right e
  have hleft : IsOpenPart left e :=
    .operand rfl (List.mem_cons_self ..) (.operand rfl (List.mem_cons_self ..) (.self left))
  have hright : IsOpenPart right e :=
    .operand rfl (List.mem_cons_of_mem _ (List.mem_cons_self ..))
      (.operand rfl (List.mem_cons_self ..) (.operand rfl (List.mem_cons_self ..) (.self right)))
  have hsome : e.boundingBox = some (box 0 6) := by decide +kernel
  have hcovers := ((boundingBox_sees_spatial_calls e).2 _ hsome).2
  refine ⟨⟨_, hsome, ?_, ?_⟩, ?_⟩
  · exact hcovers _ { value := .box (box 0 1) } hleft
      ⟨_, List.mem_cons_of_mem _ (List.mem_cons_self ..), rfl⟩ (by decide +kernel)
  · exact hcovers _ { value := .box (box 4 6) } hright
      ⟨_, List.mem_cons_self .., rfl⟩ (by decide +kernel)
  · obtain ⟨b, hb⟩ : ∃ b, near.boundingBox = some b := ⟨_, rfl⟩
    have hempty := ((boundingBox_sees_spatial_calls near).2 b hb).1
    rw [hb, hempty fun x l hx hl => ?_]
    obtain rfl : x = near := by
      cases hx with
      | self => rfl
      | operand he => cases he
    obtain ⟨-, a, ha, hl⟩ | ⟨hbox, -⟩ := hl
    · simp only [near, operands, List.mem_cons, List.not_mem_nil, or_false] at ha
      obtain rfl | rfl | rfl := ha
      · cases hl
      · cases hl
      · cases hl
        rfl
    · cases hbox

/-- A box that is compared with a column has an extent although nothing in the tree is a spatial
function, and the box of a test for intersection has none if the test is an operand of another. -/
theorem boundingBox_sees_a_bare_box :
    let place : Expr := .ofName "place"
    let one : Double := .ofInt .double 1
    let unit : BoundingBox := .ofCorners (.zero false) (.zero false) one one
    let bare : Expr := .compare .equal place (.ofValue (.box unit))
    let inner : Expr := .call .envelopeIntersects [place, .ofValue (.box unit)]
    let outer : Expr := .call .envelopeIntersects [inner, place]
    ((bare.Every fun x => x.isSpatialCall = false) ∧ bare.boundingBox = some unit) ∧
      inner.boundingBox = some unit ∧ outer.boundingBox = some .empty ∧
      BoundingBox.empty.covers unit = false := by
  intro place one unit bare inner outer
  refine ⟨⟨.two rfl rfl (.leaf rfl rfl) (.leaf rfl rfl), ?_⟩, ?_, ?_, ?_⟩ <;> decide +kernel

end Expr

end TypedFilter
