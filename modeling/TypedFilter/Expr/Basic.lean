import TypedFilter.Expr.Operator
import TypedFilter.Schema.Field

/-!
Conditions on records and the values that they are made of, as trees. Columns and literals can be
bound to fields: a column then is the field, and a literal holds what the field stores.
-/

namespace TypedFilter

/-- A literal: the value, what is shown for it if that is something else, and the field it is bound
to. -/
structure Literal where
  value : Value
  display : Option Value := none
  field : Option Field := none
  deriving DecidableEq

namespace Literal

/-- What is shown for an identifier of a code table: its display value, or the parts of it with
colons between them. -/
def displayOf? (table : CodeTable) (id : Value) : Option Value :=
  match table.values? id with
  | none | some [] => none
  | some [v] => some v
  | some parts => some (.string (String.intercalate ":" (parts.map Value.plainText)))

/-- The identifier that a value stands for; a list holds the parts of a display value. -/
def identifier? (table : CodeTable) : Value → Option Value
  | .list parts => table.identifier? parts
  | v => table.identifierFor? v

/-- A value bound to a field. Display values turn into identifiers; a value that the field cannot
store stays as it is. -/
def forField (f : Field) (v : Value) : Literal :=
  match f.codeTable.bind fun table => (identifier? table v).map (table, ·) with
  | some (table, id) => ⟨f.type.convertLenient id, displayOf? table id, some f⟩
  | none => ⟨f.storeLenient v, none, some f⟩

/-- A value bound to a field, which has to be able to store it. -/
def forFieldStrict (f : Field) (v : Value) : Result Literal :=
  match f.codeTable with
  | some table =>
    if v.isNull then (f.store v).map fun w => ⟨w, none, some f⟩
    else match identifier? table v with
      | none =>
        .error (.rejected f.name v ("could not be found in the code table " ++ table.name))
      | some id =>
        ((f.type.convert id).mapError (·.forField f.name)).map fun w =>
          ⟨w, displayOf? table id, some f⟩
  | none => (f.store v).map fun w => ⟨w, none, some f⟩

/-- A literal with another value, bound to the same field. -/
def withValue (l : Literal) (v : Value) : Literal :=
  match l.field with
  | some f => .forField f v
  | none => { value := v }

/-- The value that is shown. -/
def displayed (l : Literal) : Value :=
  l.display.getD l.value

/-- The value that a statement is given for the literal. -/
def bound (l : Literal) : Value :=
  match l.field with
  | some f => f.storeLenient l.value
  | none => l.value

end Literal

/-- A column: a name, and the field it is bound to. -/
structure Column where
  name : String
  field : Option Field := none
  deriving DecidableEq

namespace Column

/-- The column with a name; double quotes around the name are left out. -/
def ofName (name : String) : Column :=
  match name.toList with
  | '"' :: rest =>
    if rest.getLast? = some '"' then ⟨String.ofList rest.dropLast, none⟩ else ⟨name, none⟩
  | _ => ⟨name, none⟩

/-- The column that a field is. -/
def ofField (f : Field) : Column :=
  ⟨f.name, some f⟩

end Column

/-- A condition, or a value that is part of one. -/
inductive Expr where
  | literal (l : Literal)
  | column (c : Column)
  /-- What a value is looked for in. -/
  | collection (items : List Expr)
  /-- A type is kept as it is written. -/
  | cast (e : Expr) (type : String)
  | arithmetic (op : ArithOp) (left right : Expr)
  | call (f : Builtin) (arguments : List Expr)
  /-- True of every record: no condition at all. -/
  | all
  | and (conditions : List Expr)
  | or (conditions : List Expr)
  | not (condition : Expr)
  | between (e low high : Expr)
  | isIn (e values : Expr)
  | isNull (e : Expr)
  | isNotNull (e : Expr)
  | compare (op : CompareOp) (left right : Expr)
  /-- Brackets, which change nothing. -/
  | paren (e : Expr)

instance : Inhabited Expr := ⟨.all⟩

namespace Expr

mutual

/-- Whether two trees are the same. -/
def identical : Expr → Expr → Bool
  | .literal a, .literal b => a = b
  | .column a, .column b => a = b
  | .collection as, .collection bs => identicalAll as bs
  | .cast a s, .cast b t => identical a b && s == t
  | .arithmetic o a b, .arithmetic p c d => o == p && identical a c && identical b d
  | .call f as, .call g bs => f == g && identicalAll as bs
  | .all, .all => true
  | .and as, .and bs => identicalAll as bs
  | .or as, .or bs => identicalAll as bs
  | .not a, .not b => identical a b
  | .between a b c, .between d e f => identical a d && identical b e && identical c f
  | .isIn a b, .isIn c d => identical a c && identical b d
  | .isNull a, .isNull b => identical a b
  | .isNotNull a, .isNotNull b => identical a b
  | .compare o a b, .compare p c d => o == p && identical a c && identical b d
  | .paren a, .paren b => identical a b
  | _, _ => false

/-- Whether two rows of trees are the same. -/
def identicalAll : List Expr → List Expr → Bool
  | [], [] => true
  | a :: as, b :: bs => identical a b && identicalAll as bs
  | _, _ => false

end

mutual

theorem identical_iff (a b : Expr) : identical a b = true ↔ a = b := by
  cases a <;> cases b <;> simp [identical, identical_iff, identicalAll_iff, and_assoc]

theorem identicalAll_iff (as bs : List Expr) : identicalAll as bs = true ↔ as = bs := by
  cases as <;> cases bs <;> simp [identicalAll, identical_iff, identicalAll_iff]

end

instance : DecidableEq Expr := fun a b => decidable_of_iff _ (identical_iff a b)

/-- The parts that the tree is directly made of, in the order in which they are written. -/
def operands : Expr → List Expr
  | .literal _ | .column _ | .all => []
  | .collection es | .call _ es | .and es | .or es => es
  | .cast e _ | .not e | .isNull e | .isNotNull e | .paren e => [e]
  | .arithmetic _ l r | .compare _ l r | .isIn l r => [l, r]
  | .between e l h => [e, l, h]

/-- The tree with each part that it is directly made of changed. -/
def mapOperands (change : Expr → Expr) : Expr → Expr
  | .literal l => .literal l
  | .column c => .column c
  | .collection es => .collection (es.map change)
  | .cast e type => .cast (change e) type
  | .arithmetic op l r => .arithmetic op (change l) (change r)
  | .call f es => .call f (es.map change)
  | .all => .all
  | .and es => .and (es.map change)
  | .or es => .or (es.map change)
  | .not e => .not (change e)
  | .between e l h => .between (change e) (change l) (change h)
  | .isIn e values => .isIn (change e) (change values)
  | .isNull e => .isNull (change e)
  | .isNotNull e => .isNotNull (change e)
  | .compare op l r => .compare op (change l) (change r)
  | .paren e => .paren (change e)

/-- The tree with one of the parts that it is directly made of replaced. -/
def setOperand (e : Expr) (index : Nat) (operand : Expr) : Expr :=
  match e with
  | .literal l => .literal l
  | .column c => .column c
  | .collection es => .collection (es.set index operand)
  | .cast e type => .cast (if index = 0 then operand else e) type
  | .arithmetic op l r =>
    .arithmetic op (if index = 0 then operand else l) (if index = 1 then operand else r)
  | .call f es => .call f (es.set index operand)
  | .all => .all
  | .and es => .and (es.set index operand)
  | .or es => .or (es.set index operand)
  | .not e => .not (if index = 0 then operand else e)
  | .between e l h =>
    .between (if index = 0 then operand else e) (if index = 1 then operand else l)
      (if index = 2 then operand else h)
  | .isIn e values =>
    .isIn (if index = 0 then operand else e) (if index = 1 then operand else values)
  | .isNull e => .isNull (if index = 0 then operand else e)
  | .isNotNull e => .isNotNull (if index = 0 then operand else e)
  | .compare op l r =>
    .compare op (if index = 0 then operand else l) (if index = 1 then operand else r)
  | .paren e => .paren (if index = 0 then operand else e)

theorem operands_mapOperands (change : Expr → Expr) (e : Expr) :
    (e.mapOperands change).operands = e.operands.map change := by
  cases e <;> rfl

/-- Whether the tree is true or false of a record, and not some other value. -/
def isCondition : Expr → Bool
  | .literal _ | .column _ | .collection _ | .cast _ _ | .arithmetic _ _ _ => false
  | .call f _ => f.isSpatial
  | .paren e => e.isCondition
  | .all | .and _ | .or _ | .not _ | .between _ _ _ | .isIn _ _ | .isNull _ | .isNotNull _
  | .compare _ _ _ => true

/-- Whether the tree says nothing about records. -/
def isEmptyCondition : Expr → Bool
  | .all => true
  | .and es | .or es => es.isEmpty
  | _ => false

end Expr

end TypedFilter
