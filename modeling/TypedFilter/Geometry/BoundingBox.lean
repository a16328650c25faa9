import TypedFilter.Binary.Hypotenuse
import TypedFilter.Geometry.Text

/-!
Extents of geometries: rectangles, or no extent at all.
-/

namespace TypedFilter

/-- The extent of something in the plane. -/
inductive BoundingBox where
  /-- The extent of nothing. -/
  | empty
  /-- All that lies in a rectangle. -/
  | of (rect : Rect)
  deriving DecidableEq, BEq

namespace BoundingBox

instance : Inhabited BoundingBox := ⟨empty⟩

/-- The extent between two opposite corners. -/
def ofCorners (x₁ y₁ x₂ y₂ : Double) : BoundingBox :=
  .of (.ofCorners ⟨x₁, y₁⟩ ⟨x₂, y₂⟩)

/-- Whether the extent is that of nothing. -/
def isEmpty : BoundingBox → Bool
  | .empty => true
  | .of _ => false

/-- The least extent that covers both. -/
def union : BoundingBox → BoundingBox → BoundingBox
  | .empty, b => b
  | a, .empty => a
  | .of a, .of b =>
    ofCorners (a.low.x.least b.low.x) (a.low.y.least b.low.y)
      (a.high.x.greatest b.high.x) (a.high.y.greatest b.high.y)

/-- The extent of two parts of one collection. A coordinate of the first is kept only where it lies
strictly outside the second. -/
def join : BoundingBox → BoundingBox → BoundingBox
  | .empty, b => b
  | a, .empty => a
  | .of a, .of b =>
    let low (p q : Double) := if p.lt q then p else q
    let high (p q : Double) := if q.lt p then p else q
    ofCorners (low a.low.x b.low.x) (low a.low.y b.low.y)
      (high a.high.x b.high.x) (high a.high.y b.high.y)

/-- The extent with a margin on every side. -/
def expand (margin : Double) : BoundingBox → BoundingBox
  | .empty => .empty
  | .of r =>
    ofCorners (r.low.x.sub margin) (r.low.y.sub margin) (r.high.x.add margin) (r.high.y.add margin)

/-- Whether two extents have a position in common; sides and corners count. -/
def intersects : BoundingBox → BoundingBox → Bool
  | .of a, .of b =>
    a.low.x.le b.high.x && b.low.x.le a.high.x && a.low.y.le b.high.y && b.low.y.le a.high.y
  | _, _ => false

/-- How far two intervals lie apart, zero when they meet. -/
def gap (low₁ high₁ low₂ high₂ : Double) : Double :=
  (((low₁.sub high₂).greatest (low₂.sub high₁))).greatest (.zero false)

/-- How far two extents lie apart, zero when they meet. -/
def distance? : BoundingBox → BoundingBox → Option Double
  | .of a, .of b =>
    let dx := gap a.low.x a.high.x b.low.x b.high.x
    let dy := gap a.low.y a.high.y b.low.y b.high.y
    some (dx.hypot dy)
  | _, _ => none

/-- The extent as a polygon. -/
def toPolygon? : BoundingBox → Option Polygon
  | .empty => none
  | .of r => some r.toPolygon

/-- The extent as text. -/
def text : BoundingBox → String
  | .empty => "BBOX EMPTY"
  | .of r =>
    "BBOX(" ++ r.low.x.text ++ " " ++ r.low.y.text ++ "," ++ r.high.x.text ++ " " ++
      r.high.y.text ++ ")"

/-- Stretches an interval to hold a coordinate. -/
def stretch (range : Double × Double) (c : Double) : Double × Double :=
  if range.2.lt c then (range.1, c) else if c.lt range.1 then (c, range.2) else range

/-- The extent of positions. -/
def ofPositions : List Position → BoundingBox
  | [] => .empty
  | p :: ps =>
    let x := (ps.map (·.x)).foldl stretch (p.x, p.x)
    let y := (ps.map (·.y)).foldl stretch (p.y, p.y)
    .ofCorners x.1 y.1 x.2 y.2

mutual

/-- The extent of a geometry. -/
def ofGeometry : Geometry → BoundingBox
  | .point p => .of (.ofCorners p p)
  | .line a b => .of (.ofCorners a b)
  | .lineString path => ofPositions path
  | .polygon p => ofPositions p.exterior
  | .multiPoint points => ofPositions points
  | .multiLineString paths => ofPositions paths.flatten
  | .multiPolygon polygons => ofPositions (polygons.flatMap (·.exterior))
  | .collection members => ofMembers .empty members
  | .rect r => .of r
  | .triangle a b c => ofPositions [a, b, c]

/-- The extent of geometries together with one that is known. -/
def ofMembers (box : BoundingBox) : List Geometry → BoundingBox
  | [] => box
  | g :: rest => ofMembers (box.join (ofGeometry g)) rest

end

end BoundingBox

end TypedFilter
