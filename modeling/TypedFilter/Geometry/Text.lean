import TypedFilter.Geometry.Basic
import TypedFilter.Binary.Text

/-!
Geometries as text: the kind, and the positions in brackets.
-/

namespace TypedFilter

/-- Both coordinates with a blank between them. -/
def Position.text (p : Position) : String :=
  p.x.textIn .coordinate ++ " " ++ p.y.textIn .coordinate

namespace Geometry

/-- Texts with commas between them, in brackets; where there are none, a word says so. -/
def listed (items : List String) : String :=
  if items.isEmpty then "EMPTY" else "(" ++ String.intercalate "," items ++ ")"

/-- Positions with commas between them, in brackets. -/
def pathText (path : List Position) : String :=
  listed (path.map Position.text)

/-- A kind with its parts. -/
def partsText (kind : String) (parts : List String) : String :=
  kind ++ (if parts.isEmpty then " " else "") ++ listed parts

/-- The rings of a polygon; a sole ring without positions is none. -/
def ringTexts (p : Polygon) : List String :=
  if p.exterior.isEmpty && p.interiors.isEmpty then []
  else (p.exterior :: p.interiors).map pathText

mutual

/-- The text of a geometry. -/
def text : Geometry → String
  | .point p => "POINT" ++ pathText [p]
  | .line a b => "LINE" ++ pathText [a, b]
  | .lineString path => partsText "LINESTRING" (path.map Position.text)
  | .polygon p => partsText "POLYGON" (ringTexts p)
  | .multiPoint points => partsText "MULTIPOINT" (points.map Position.text)
  | .multiLineString paths => partsText "MULTILINESTRING" (paths.map pathText)
  | .multiPolygon polygons =>
    partsText "MULTIPOLYGON" (polygons.map fun p => listed (ringTexts p))
  | .collection members => partsText "GEOMETRYCOLLECTION" (texts members)
  | .rect r => "RECT" ++ pathText [r.low, r.high]
  | .triangle a b c => "TRIANGLE" ++ pathText [a, b, c]

/-- The texts of geometries in a row. -/
def texts : List Geometry → List String
  | [] => []
  | g :: rest => text g :: texts rest

end

end Geometry

end TypedFilter
