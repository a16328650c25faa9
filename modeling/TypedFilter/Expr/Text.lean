import TypedFilter.Expr.Basic
import TypedFilter.Sql.Name

/-!
Conditions as text. Brackets are written where an operand binds less tightly than its place asks
for. One function writes both forms of text, which differ in nothing but what stands for a literal.
From loose to tight, the levels are 1 for `OR`, 2 for `AND`, 3 for `NOT`, 4 for comparisons, 5 for
sums, 6 for products and 7 for what stands by itself.
-/

namespace TypedFilter.Expr

/-- How tightly the tree holds together. -/
def precedence : Expr → Nat
  | .or es => if es.isEmpty then 4 else 1
  | .and es => if es.isEmpty then 4 else 2
  | .not _ => 3
  | .all | .between _ _ _ | .isIn _ _ | .isNull _ | .isNotNull _ | .compare _ _ _ => 4
  | .arithmetic op _ _ => op.precedence
  | .literal _ | .column _ | .collection _ | .cast _ _ | .call _ _ | .paren _ => 7

/-- The text of an operand, between brackets if it binds less tightly than its place asks for. -/
def enclosed (least : Nat) (e : Expr) (text : String) : String :=
  if e.precedence < least then "(" ++ text ++ ")" else text

/-- The text of a condition that is always true. -/
def trueText : String := "1 = 1"

mutual

/-- The tree as text; `shown` tells what stands for a literal. -/
def write (shown : Literal → String) : Expr → String
  | .literal l => shown l
  | .column c => Sql.quoteName c.name
  | .collection es => "(" ++ String.intercalate ", " (writeAll shown 0 es) ++ ")"
  | .cast e type => "CAST(" ++ write shown e ++ " AS " ++ type ++ ")"
  | .arithmetic op l r =>
    enclosed op.precedence l (write shown l) ++ " " ++ op.text ++ " " ++
      enclosed (op.precedence + 1) r (write shown r)
  | .call f es => f.name ++ "(" ++ String.intercalate ", " (writeAll shown 0 es) ++ ")"
  | .all => trueText
  | .and es =>
    if es.isEmpty then trueText else String.intercalate " AND " (writeAll shown 2 es)
  | .or es =>
    if es.isEmpty then trueText else String.intercalate " OR " (writeAll shown 1 es)
  | .not e => "NOT " ++ enclosed 3 e (write shown e)
  | .between e l h =>
    enclosed 5 e (write shown e) ++ " BETWEEN " ++ enclosed 5 l (write shown l) ++ " AND " ++
      enclosed 5 h (write shown h)
  | .isIn e values => enclosed 5 e (write shown e) ++ " IN " ++ write shown values
  | .isNull e => enclosed 5 e (write shown e) ++ " IS NULL"
  | .isNotNull e => enclosed 5 e (write shown e) ++ " IS NOT NULL"
  | .compare op l r =>
    enclosed 5 l (write shown l) ++ " " ++ op.text ++ " " ++ enclosed 5 r (write shown r)
  | .paren e => "(" ++ write shown e ++ ")"

/-- The texts of operands in places that ask for a level. -/
def writeAll (shown : Literal → String) (least : Nat) : List Expr → List String
  | [] => []
  | e :: es => enclosed least e (write shown e) :: writeAll shown least es

end

/-- The tree as it stands in a statement, with a place for each literal. -/
def sql (e : Expr) : String :=
  e.write fun _ => "?"

/-- The tree as text that can be read again. -/
def text (e : Expr) : String :=
  e.write fun l => l.displayed.text

end TypedFilter.Expr
