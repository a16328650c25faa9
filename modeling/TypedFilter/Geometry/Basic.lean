import TypedFilter.Binary.Arithmetic

/-!
Plane geometries. Two geometries are equal when they are of one kind and have the same positions in
the same order; positions are equal as numbers are.
-/

namespace TypedFilter

/-- A position in the plane. -/
structure Position where
  x : Double
  y : Double
  deriving DecidableEq

instance : BEq Position where
  beq p q := p.x == q.x && p.y == q.y

/-- A rectangle with sides along the axes. -/
structure Rect where
  low : Position
  high : Position
  deriving DecidableEq

instance : BEq Rect where
  beq r s := r.low == s.low && r.high == s.high

/-- The rectangle with two opposite corners. -/
def Rect.ofCorners (p q : Position) : Rect :=
  let (x₁, x₂) := if p.x.lt q.x then (p.x, q.x) else (q.x, p.x)
  let (y₁, y₂) := if p.y.lt q.y then (p.y, q.y) else (q.y, p.y)
  ⟨⟨x₁, y₁⟩, ⟨x₂, y₂⟩⟩

/-- An area inside a ring, less the areas inside further rings. -/
structure Polygon where
  exterior : List Position
  interiors : List (List Position)
  deriving DecidableEq

instance : BEq Polygon where
  beq p q := p.exterior == q.exterior && p.interiors == q.interiors

/-- A row of positions made to end where it starts. -/
def closeRing (ring : List Position) : List Position :=
  match ring.head?, ring.getLast? with
  | some first, some last => if first == last then ring else ring ++ [first]
  | _, _ => ring

/-- The polygon between rings, each made to end where it starts. -/
def Polygon.ofRings (exterior : List Position) (interiors : List (List Position)) : Polygon :=
  ⟨closeRing exterior, interiors.map closeRing⟩

/-- The corners of a rectangle as a polygon, from the lower right corner around and back to it. -/
def Rect.toPolygon (r : Rect) : Polygon :=
  let first : Position := ⟨r.high.x, r.low.y⟩
  .ofRings [first, r.high, ⟨r.low.x, r.high.y⟩, r.low, first] []

/-- A geometry of any kind. -/
inductive Geometry where
  | point (p : Position)
  | line (a b : Position)
  | lineString (path : List Position)
  | polygon (p : Polygon)
  | multiPoint (points : List Position)
  | multiLineString (paths : List (List Position))
  | multiPolygon (polygons : List Polygon)
  | collection (members : List Geometry)
  | rect (r : Rect)
  | triangle (a b c : Position)

/-- Which way three positions turn: negative where they run clockwise, zero where they lie on one
line. -/
def Position.turn (a b c : Position) : Double :=
  ((b.x.sub a.x).mul (c.y.sub a.y)).sub ((b.y.sub a.y).mul (c.x.sub a.x))

namespace Geometry

mutual

/-- Whether two geometries are equal. -/
def equal : Geometry → Geometry → Bool
  | .point p, .point q => p == q
  | .line a b, .line c d => a == c && b == d
  | .lineString a, .lineString b => a == b
  | .polygon a, .polygon b => a == b
  | .multiPoint a, .multiPoint b => a == b
  | .multiLineString a, .multiLineString b => a == b
  | .multiPolygon a, .multiPolygon b => a == b
  | .collection a, .collection b => equalAll a b
  | .rect a, .rect b => a == b
  | .triangle a b c, .triangle d e f => a == d && b == e && c == f
  | _, _ => false

/-- Whether two rows of geometries are equal. -/
def equalAll : List Geometry → List Geometry → Bool
  | [], [] => true
  | a :: as, b :: bs => equal a b && equalAll as bs
  | _, _ => false

end

instance : BEq Geometry := ⟨equal⟩

/-- The triangle with these corners; corners that run clockwise are taken from the last to the
first. -/
def ofCorners (a b c : Position) : Geometry :=
  if (a.turn b c).lt (.zero false) then .triangle c b a else .triangle a b c

mutual

/-- Whether two geometries are the same down to the signs of zeros. -/
def identical : Geometry → Geometry → Bool
  | .point p, .point q => p = q
  | .line a b, .line c d => a = c ∧ b = d
  | .lineString a, .lineString b => a = b
  | .polygon a, .polygon b => a = b
  | .multiPoint a, .multiPoint b => a = b
  | .multiLineString a, .multiLineString b => a = b
  | .multiPolygon a, .multiPolygon b => a = b
  | .collection a, .collection b => identicalAll a b
  | .rect a, .rect b => a = b
  | .triangle a b c, .triangle d e f => a = d ∧ b = e ∧ c = f
  | _, _ => false

/-- Whether two rows of geometries are the same. -/
def identicalAll : List Geometry → List Geometry → Bool
  | [], [] => true
  | a :: as, b :: bs => identical a b && identicalAll as bs
  | _, _ => false

end

mutual

theorem identical_iff (a b : Geometry) : identical a b = true ↔ a = b := by
  cases a <;> cases b <;> simp [identical, identicalAll_iff]

theorem identicalAll_iff (as bs : List Geometry) : identicalAll as bs = true ↔ as = bs := by
  cases as <;> cases bs <;> simp [identicalAll, identical_iff, identicalAll_iff]

end

instance : DecidableEq Geometry := fun a b => decidable_of_iff _ (identical_iff a b)

end Geometry

/-- The kinds that a field of geometries can be limited to. -/
inductive ShapeKind where
  | point
  | lineString
  | polygon
  | multiPoint
  | multiLineString
  | multiPolygon
  | collection
  deriving DecidableEq, Repr

/-- The kind of a geometry: a single line is a line string, a rectangle and a triangle are
polygons. -/
def Geometry.kind : Geometry → ShapeKind
  | .point _ => .point
  | .line .. | .lineString _ => .lineString
  | .polygon _ | .rect _ | .triangle .. => .polygon
  | .multiPoint _ => .multiPoint
  | .multiLineString _ => .multiLineString
  | .multiPolygon _ => .multiPolygon
  | .collection _ => .collection

end TypedFilter
