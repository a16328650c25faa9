import TypedFilter.Value.Basic
import TypedFilter.Text.Blank
import TypedFilter.Text.Lowercase

/-!
The types that fields are declared with and that values are cast to.
-/

namespace TypedFilter

/-- A declared type. -/
inductive DataType where
  | boolean
  | integer (width : IntWidth)
  | float
  | double
  | decimal
  | string
  | date
  | time
  | timestamp
  /-- Geometries of every kind. -/
  | geometry
  /-- Geometries of one kind. -/
  | shape (kind : ShapeKind)
  /-- Values of every type. -/
  | object
  deriving DecidableEq, Repr

namespace DataType

/-- The name of the type. -/
def name : DataType → String
  | .boolean => "boolean"
  | .integer .short => "short"
  | .integer .int => "int"
  | .integer .long => "long"
  | .float => "float"
  | .double => "double"
  | .decimal => "decimal"
  | .string => "string"
  | .date => "date"
  | .time => "time"
  | .timestamp => "timestamp"
  | .geometry => "geometry"
  | .shape .point => "point"
  | .shape .lineString => "linestring"
  | .shape .polygon => "polygon"
  | .shape .multiPoint => "multipoint"
  | .shape .multiLineString => "multilinestring"
  | .shape .multiPolygon => "multipolygon"
  | .shape .collection => "geometrycollection"
  | .object => "object"

/-- Every type, with the names that it has besides its own. -/
def aliases : List (DataType × List String) := [
  (.boolean, ["bool"]),
  (.integer .short, ["smallint"]),
  (.integer .int, ["integer"]),
  (.integer .long, ["bigint"]),
  (.float, ["real"]),
  (.double, ["double precision"]),
  (.decimal, ["numeric", "number"]),
  (.string, ["varchar", "char", "text", "character varying"]),
  (.date, []),
  (.time, []),
  (.timestamp, ["datetime"]),
  (.geometry, []),
  (.shape .point, []),
  (.shape .lineString, []),
  (.shape .polygon, []),
  (.shape .multiPoint, []),
  (.shape .multiLineString, []),
  (.shape .multiPolygon, []),
  (.shape .collection, []),
  (.object, [])]

/-- The type with a name, in any case of ASCII letters and with blanks around it; a length in
brackets and all that follows it is left out. -/
def ofName? (s : String) : Option DataType :=
  let base := String.ofList (s.toList.takeWhile (· != '('))
  let key := Text.lowercaseAscii (Text.trim base)
  (aliases.find? fun (t, names) => t.name == key || names.contains key).map (·.1)

/-- Whether the type is one of geometries. -/
def isGeometry : DataType → Bool
  | .geometry | .shape _ => true
  | _ => false

/-- Whether the type is one of numbers. -/
def isNumeric : DataType → Bool
  | .integer _ | .float | .double | .decimal => true
  | _ => false

/-- Whether the type is one of whole numbers. -/
def isIntegral : DataType → Bool
  | .integer _ => true
  | _ => false

end DataType

/-- The type that a value has of itself; boxes and lists are objects. -/
def Value.dataType? : Value → Option DataType
  | .null => none
  | .boolean _ => some .boolean
  | .integer w _ => some (.integer w)
  | .float _ => some .float
  | .double _ => some .double
  | .decimal _ => some .decimal
  | .string _ => some .string
  | .date _ => some .date
  | .time _ => some .time
  | .timestamp _ => some .timestamp
  | .geometry g => some (.shape g.kind)
  | .box _ | .list _ => some .object

end TypedFilter
