import TypedFilter.Geometry.BoundingBox

/-!
The coordinate system and the precision grid that the geometries of one definition share. A scale
of zero stands for no grid; otherwise coordinates are whole multiples of `1 / scale`.
-/

namespace TypedFilter

/-- A coordinate system and a precision grid. -/
structure GeometryGrid where
  srid : Nat
  scale : Double
  deriving DecidableEq

namespace GeometryGrid

/-- The scale of a grid; one that is not positive and finite stands for no grid. -/
def usableScale (scale : Double) : Double :=
  if scale.isFinite && Binary.lt (.zero false) scale then scale else .zero false

/-- A grid with a scale. -/
def ofScale (srid : Nat) (scale : Double) : GeometryGrid :=
  ⟨srid, usableScale scale⟩

/-- A coordinate system without a grid. -/
def floating (srid : Nat) : GeometryGrid :=
  ofScale srid (.zero false)

/-- Whether there is no grid. -/
def isFloating (g : GeometryGrid) : Bool :=
  g.scale.isZero

/-- Moves a coordinate to the grid. -/
def snapWith (g : GeometryGrid) (whole : Binary.Whole) (c : Double) : Double :=
  ((c.mul g.scale).toWhole whole).div g.scale

/-- The coordinate of the grid nearest to the given one. -/
def makePrecise (g : GeometryGrid) (c : Double) : Double :=
  if g.isFloating then c else g.snapWith .round c

/-- Grows an extent outwards to the grid, so that it still covers what it did. -/
def snap (g : GeometryGrid) (box : BoundingBox) : BoundingBox :=
  match box with
  | .empty => .empty
  | .of r =>
    if g.isFloating then box
    else
      .ofCorners (g.snapWith .floor r.low.x) (g.snapWith .floor r.low.y)
        (g.snapWith .ceil r.high.x) (g.snapWith .ceil r.high.y)

end GeometryGrid

/-- The grids that have been asked for, each once, in the order of the first request. -/
structure GridCache where
  grids : List GeometryGrid := []
  deriving DecidableEq

namespace GridCache

/-- The grid for a coordinate system and a scale, its place in the cache, and the cache that holds
it from now on. Requests with the same usable scale share one grid. -/
def get (cache : GridCache) (srid : Nat) (scale : Double) : GeometryGrid × Nat × GridCache :=
  let grid := GeometryGrid.ofScale srid scale
  match cache.grids.findIdx? (· = grid) with
  | some i => (grid, i, cache)
  | none => (grid, cache.grids.length, ⟨cache.grids ++ [grid]⟩)

/-- How many grids there are. -/
def size (cache : GridCache) : Nat :=
  cache.grids.length

end GridCache

end TypedFilter
