import TypedFilter.Expr.Bind
import TypedFilter.Error

/-!
Building conditions from parts: by the names of operators and functions, from pairs of a name and a
value, and by joining conditions.
-/

namespace TypedFilter.Expr

/-! ### Parts -/

/-- A value. -/
def ofValue (v : Value) : Expr :=
  .literal { value := v }

/-- A value bound to a field. -/
def ofFieldValue (f : Field) (v : Value) : Expr :=
  .literal (.forField f v)

/-- The column with a name. -/
def ofName (name : String) : Expr :=
  .column (.ofName name)

/-- The column that a field is. -/
def ofField (f : Field) : Expr :=
  .column (.ofField f)

/-! ### Comparisons -/

/-- The comparison that an operator names. -/
def comparison (op : String) (l r : Expr) : Result Expr :=
  match CompareOp.ofText? op with
  | some op => .ok (.compare op l r)
  | none => .error (.unsupported ("operator " ++ op))

/-- Whether two trees have equal values. -/
def equal (l r : Expr) : Expr :=
  .compare .equal l r

/-- Whether a column has a value. -/
def columnEqual (name : String) (v : Value) : Expr :=
  equal (ofName name) (ofValue v)

/-- Whether a field has a value. -/
def fieldEqual (f : Field) (v : Value) : Expr :=
  equal (ofField f) (ofFieldValue f v)

/-- Whether a value matches a pattern. -/
def like (e : Expr) (pattern : Value) : Expr :=
  .compare .like e (ofValue pattern)

/-- Whether a value matches a pattern in any case. -/
def ilike (e : Expr) (pattern : Value) : Expr :=
  .compare .like (.call .upper [.cast e "varchar(4000)"]) (.call .upper [ofValue pattern])

/-- Whether a value starts with a text, in which `%` and `_` keep their meaning in patterns. -/
def startsWith (e : Expr) (text : String) : Expr :=
  like e (.string (text ++ "%"))

/-- Whether a value contains a text, in which `%` and `_` keep their meaning in patterns. -/
def contains (e : Expr) (text : String) : Expr :=
  like e (.string ("%" ++ text ++ "%"))

/-- Whether a value is among those of some trees. -/
def inList (e : Expr) (items : List Expr) : Expr :=
  .isIn e (.collection items)

/-- Whether a value is one of a list. -/
def inValues (e : Expr) (values : List Value) : Expr :=
  inList e (values.map ofValue)

/-! ### Calculations and calls -/

/-- The calculation that an operator names. -/
def calculation (op : String) (l r : Expr) : Result Expr :=
  match ArithOp.ofText? op with
  | some op => .ok (.arithmetic op l r)
  | none => .error (.unsupported ("operator " ++ op))

/-- The call of the function with a name. -/
def callNamed (name : String) (arguments : List Expr) : Result Expr :=
  match Builtin.ofName? name with
  | none => .error (.unsupported ("function " ++ name))
  | some f =>
    if arguments.length = f.arity then .ok (.call f arguments)
    else .error (.unsupported
      (f.name ++ " with " ++ natText arguments.length ++ " arguments"))

/-! ### Joining conditions -/

/-- The condition that every one of some conditions is true; those that say nothing are left out. -/
def allOf (conditions : List Expr) : Expr :=
  .and (conditions.filter fun e => !e.isEmptyCondition)

/-- The condition that one of some conditions is true; those that say nothing are left out. -/
def anyOf (conditions : List Expr) : Expr :=
  .or (conditions.filter fun e => !e.isEmptyCondition)

/-- Adds a condition to those that a tree joins; other trees join none. -/
def addCondition? (e condition : Expr) : Option Expr :=
  match e with
  | .and es => some (.and (es ++ [condition]))
  | .or es => some (.or (es ++ [condition]))
  | _ => none

/-- Both conditions. One that says nothing is left out, and conditions that the first one joins are
joined with the second. -/
def andAlso (l r : Expr) : Expr :=
  if l.isEmptyCondition then r
  else if r.isEmptyCondition then l
  else match l with
    | .and es => .and (es ++ [r])
    | l => .and [l, r]

/-- Either condition. One that says nothing is left out, and conditions that the first one joins are
joined with the second. -/
def orElse (l r : Expr) : Expr :=
  if l.isEmptyCondition then r
  else if r.isEmptyCondition then l
  else match l with
    | .or es => .or (es ++ [r])
    | l => .or [l, r]

/-! ### Names and values -/

/-- The condition that a column has a value: one of a list, or none if none is given. The name is
that of a field if there is a definition that has one. -/
def nameValue (d : Option Definition) (name : String) (v : Value) : Expr :=
  let field := d.bind (·.field? name)
  let column := (field.map ofField).getD (ofName name)
  let literal (v : Value) : Expr := match field with
    | some f => ofFieldValue f v
    | none => ofValue v
  match v with
  | .null => .isNull column
  | .list vs => inList column (vs.map literal)
  | v => equal column (literal v)

/-- The condition that every one of some columns has its value. -/
def allPairs (d : Option Definition) (pairs : List (String × Value)) : Expr :=
  allOf (pairs.map fun (name, v) => nameValue d name v)

/-- The condition that one of some columns has its value. -/
def anyPair (d : Option Definition) (pairs : List (String × Value)) : Expr :=
  anyOf (pairs.map fun (name, v) => nameValue d name v)

end TypedFilter.Expr
