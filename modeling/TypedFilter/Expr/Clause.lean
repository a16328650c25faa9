import TypedFilter.Expr.Build
import TypedFilter.Expr.Text
import TypedFilter.Sql.Grammar

/-!
Conditions out of the text of a WHERE clause. The columns of the clause are fields of a definition,
if there is one, and what a field is compared with has to be a value that it can store.
-/

namespace TypedFilter

/-- The number with the other sign, if the type has it. -/
def Value.negated? : Value → Option Value
  | .integer w n => Value.ofInt? w (-n.toInt)
  | .float x => some (.float x.neg)
  | .double x => some (.double x.neg)
  | .decimal d => some (.decimal d.neg)
  | _ => none

namespace Expr

/-! ### Literals beside fields -/

/-- Nothing is not a value to compare with. -/
def nullOperand (field op : String) : FilterError :=
  .rejected field .null
    ("values can't be null for " ++ op ++ " use IS NULL or IS NOT NULL instead")

/-- The value that is looked up for a text: with a code table, colons stand between the parts of a
display value. -/
def operandValue (f : Field) : Value → Value
  | .string s =>
    if f.codeTable.isSome && s.toList.contains ':' then
      .list ((s.toList.splitOn ':').map fun part => .string (String.ofList part))
    else .string s
  | v => v

/-- A literal operand bound to the field that it is compared with. -/
def coerceLiteral (f : Field) (op : String) (l : Literal) : Result Expr := do
  if l.value.isNull then .error (nullOperand f.name op)
  else
    let bound ← Literal.forFieldStrict f (operandValue f l.value)
    if bound.value.isNull then
      .error (.rejected f.name l.value ("cannot be converted to " ++ f.typeDescription))
    else .ok (.literal bound)

/-- An operand beside what may be a field; only a literal changes. -/
def coerceOperand (field : Option Field) (op : String) (e : Expr) : Result Expr :=
  match field, e with
  | some f, .literal l => coerceLiteral f op l
  | _, e => .ok e

/-! ### Operators -/

/-- Whether the tree is the literal 1, which stands for no field's value. -/
def isOne : Expr → Bool
  | .literal ⟨.integer .int n, _, none⟩ => n.toInt == 1
  | _ => false

/-- Whether the tree is a literal without a value. -/
def isNullLiteral : Expr → Bool
  | .literal l => l.value.isNull
  | _ => false

/-- A comparison. `1 = 1` is the text of the condition that is always true. -/
def compareOperands (op : CompareOp) (l r : Expr) : Result Expr :=
  if op = .equal && l.isOne && r.isOne then .ok .all
  else match l with
    | .column c =>
      if r.isNullLiteral then .error (nullOperand c.name op.text)
      else (coerceOperand c.field op.text r).map (.compare op l)
    | _ => .ok (.compare op l r)

/-- Both conditions; those that `AND` joins on the left are joined with the one on the right. -/
def joinAnd (l r : Expr) : Expr :=
  match l with
  | .and (e :: es) => .and (e :: es ++ [r])
  | l => .and [l, r]

/-- Either condition; those that `OR` joins on the left are joined with the one on the right. -/
def joinOr (l r : Expr) : Expr :=
  match l with
  | .or (e :: es) => .or (e :: es ++ [r])
  | l => .or [l, r]

/-- What a binary operator makes of its operands. -/
def applyBinary (op : Sql.BinaryOp) (l r : Expr) : Result Expr :=
  match op with
  | .and => .ok (joinAnd l r)
  | .or => .ok (joinOr l r)
  | .concat => .error (.unsupported "||")
  | .plus => .ok (.arithmetic .add l r)
  | .minus => .ok (.arithmetic .subtract l r)
  | .multiply => .ok (.arithmetic .multiply l r)
  | .divide => .ok (.arithmetic .divide l r)
  | .modulo => .ok (.arithmetic .modulo l r)
  | .equal => compareOperands .equal l r
  | .notEqual => compareOperands .notEqual l r
  | .less => compareOperands .less l r
  | .greater => compareOperands .greater l r
  | .lessEqual => compareOperands .lessEqual l r
  | .greaterEqual => compareOperands .greaterEqual l r

/-- What a unary operator makes of its operand. -/
def applyUnary (op : Sql.UnaryOp) (e : Expr) : Result Expr :=
  match op, e with
  | .not, e => .ok (.not e)
  | .plus, e => .ok e
  | .minus, .literal ⟨v, display, none⟩ =>
    match v.negated? with
    | some w => .ok (ofValue w)
    | none => .error (.unsupported ("-" ++ (Expr.literal ⟨v, display, none⟩).text))
  | .minus, e => .error (.unsupported ("-(" ++ e.text ++ ")"))

/-- The condition, or that it is not true. -/
def negatedIf (negated : Bool) (e : Expr) : Expr :=
  if negated then .not e else e

/-- The column with a name, which a definition has to have. -/
def resolveColumn (d : Option Definition) (name : String) : Result Expr :=
  match d with
  | none => .ok (ofName name)
  | some d =>
    match d.field? name with
    | some f => .ok (ofField f)
    | none => .error (d.missing name)

/-! ### Expressions -/

mutual

/-- The tree that an expression means. -/
def ofExpression (d : Option Definition) : Sql.Expression → Result Expr
  | .literal v => .ok (ofValue v)
  | .null => .ok (ofValue .null)
  | .column name => resolveColumn d name
  | .qualified table name =>
    .error (.unsupported ("qualified column " ++ table ++ "." ++ name))
  | .binary op l r => do
    let l ← ofExpression d l
    let r ← ofExpression d r
    applyBinary op l r
  | .unary op e => do
    let e ← ofExpression d e
    applyUnary op e
  | .function name arguments => do
    let arguments ← ofExpressions d .ok arguments
    callNamed name arguments
  | .case _ _ _ => .error (.unsupported "CASE")
  | .cast e type => do
    let e ← ofExpression d e
    .ok (.cast e type)
  | .inList e items negated => do
    let e ← ofExpression d e
    let items ← ofExpressions d (coerceOperand e.columnField? "IN") items
    .ok (negatedIf negated (inList e items))
  | .between e low high negated => do
    let e ← ofExpression d e
    match e with
    | .column c =>
      let low ← ofExpression d low
      let low ← coerceOperand c.field "BETWEEN" low
      let high ← ofExpression d high
      let high ← coerceOperand c.field "BETWEEN" high
      .ok (negatedIf negated (.between e low high))
    | _ => .error (.unsupported ("BETWEEN on " ++ e.text))
  | .like _ _ (some _) _ => .error (.unsupported "LIKE ... ESCAPE")
  | .like e pattern none negated => do
    let e ← ofExpression d e
    let pattern ← ofExpression d pattern
    .ok (negatedIf negated (.compare .like e pattern))
  | .isNull e negated => do
    let e ← ofExpression d e
    .ok (if negated then .isNotNull e else .isNull e)
  | .row items => ofRow d items
  | .exists _ _ => .error (.unsupported "EXISTS")
  | .subquery _ => .error (.unsupported "subquery")

/-- The tree that a row means: its first item alone. -/
def ofRow (d : Option Definition) : List Sql.Expression → Result Expr
  | [] => .error (.unsupported "empty row constructor")
  | e :: _ => ofExpression d e

/-- The trees that expressions mean, each with a last step. -/
def ofExpressions (d : Option Definition) (finish : Expr → Result Expr) :
    List Sql.Expression → Result (List Expr)
  | [] => .ok []
  | e :: es => do
    let e ← ofExpression d e
    let e ← finish e
    let es ← ofExpressions d finish es
    .ok (e :: es)

end

/-- The statement that a clause is read in. -/
def clauseStatement (d : Option Definition) (clause : String) : String :=
  let table := (d.map (·.name)).getD "Unknown"
  "SELECT * FROM " ++ Text.quoted '"' table ++ " WHERE " ++ clause

/-- The condition that a clause means. A blank clause is always true. -/
def ofClause (d : Option Definition) (clause : String) : Result Expr :=
  let clause := Text.trim clause
  if clause.isEmpty then .ok .all
  else
    match Sql.Select.ofText (clauseStatement d clause) with
    | .error e => .error (.malformed e.message)
    | .ok select =>
      match select.condition with
      | some e => ofExpression d e
      | none => .ok .all

end Expr

end TypedFilter
