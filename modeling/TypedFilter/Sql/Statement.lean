import TypedFilter.Value.Basic

/-!
SELECT statements and the expressions in them, as they are written.
-/

namespace TypedFilter.Sql

/-- Operators between two expressions. -/
inductive BinaryOp where
  | plus | minus | multiply | divide | modulo | concat
  | equal | notEqual | less | greater | lessEqual | greaterEqual
  | and | or
  deriving DecidableEq, Repr

/-- The operator as it is written. -/
def BinaryOp.text : BinaryOp → String
  | .plus => "+"
  | .minus => "-"
  | .multiply => "*"
  | .divide => "/"
  | .modulo => "%"
  | .concat => "||"
  | .equal => "="
  | .notEqual => "<>"
  | .less => "<"
  | .greater => ">"
  | .lessEqual => "<="
  | .greaterEqual => ">="
  | .and => "AND"
  | .or => "OR"

/-- Operators before an expression. -/
inductive UnaryOp where
  | not | minus | plus
  deriving DecidableEq, Repr

/-- The operator as it is written. -/
def UnaryOp.text : UnaryOp → String
  | .not => "NOT"
  | .minus => "-"
  | .plus => "+"

mutual

/-- An expression. -/
inductive Expression where
  | literal (v : Value)
  | null
  | column (name : String)
  /-- A column with its table. -/
  | qualified (table column : String)
  | binary (op : BinaryOp) (left right : Expression)
  | unary (op : UnaryOp) (operand : Expression)
  | function (name : String) (arguments : List Expression)
  | case (operand : Option Expression) (branches : List (Expression × Expression))
      (otherwise : Option Expression)
  /-- A type is kept as it is written. -/
  | cast (operand : Expression) (type : String)
  | inList (operand : Expression) (items : List Expression) (negated : Bool)
  | between (operand low high : Expression) (negated : Bool)
  | exists (query : Select) (negated : Bool)
  | like (operand pattern : Expression) (escape : Option Expression) (negated : Bool)
  | isNull (operand : Expression) (negated : Bool)
  | row (items : List Expression)
  | subquery (query : Select)
  deriving BEq

/-- What a statement selects. -/
inductive SelectItem where
  /-- Every column. -/
  | all
  /-- An expression, under another name if there is one. -/
  | expression (e : Expression) (label : Option String)
  deriving BEq

/-- A SELECT statement. -/
inductive Select where
  | mk (distinct : Bool) (items : List SelectItem) (table : Option String)
      (condition : Option Expression)
  deriving BEq

end

namespace Select

/-- Whether equal rows are selected once. -/
def distinct : Select → Bool
  | .mk d _ _ _ => d

/-- What is selected. -/
def items : Select → List SelectItem
  | .mk _ i _ _ => i

/-- The table that is selected from. -/
def table : Select → Option String
  | .mk _ _ t _ => t

/-- The condition on rows. -/
def condition : Select → Option Expression
  | .mk _ _ _ c => c

end Select

end TypedFilter.Sql
