import TypedFilter.Expr.Basic

/-!
The literals of a tree in the order in which they are written, which is the order of the places that
a statement has for them.
-/

namespace TypedFilter.Expr

mutual

/-- The literals of the tree in order. -/
def literals : Expr → List Literal
  | .literal l => [l]
  | .column _ | .all => []
  | .collection es | .call _ es | .and es | .or es => literalsOf es
  | .cast e _ | .not e | .isNull e | .isNotNull e | .paren e => literals e
  | .arithmetic _ l r | .compare _ l r | .isIn l r => literals l ++ literals r
  | .between e l h => literals e ++ literals l ++ literals h

/-- The literals of trees in order. -/
def literalsOf : List Expr → List Literal
  | [] => []
  | e :: es => literals e ++ literalsOf es

end

mutual

/-- How many literals the tree has. -/
def parameterCount : Expr → Nat
  | .literal _ => 1
  | .column _ | .all => 0
  | .collection es | .call _ es | .and es | .or es => parameterCountOf es
  | .cast e _ | .not e | .isNull e | .isNotNull e | .paren e => parameterCount e
  | .arithmetic _ l r | .compare _ l r | .isIn l r => parameterCount l + parameterCount r
  | .between e l h => parameterCount e + parameterCount l + parameterCount h

/-- How many literals trees have. -/
def parameterCountOf : List Expr → Nat
  | [] => 0
  | e :: es => parameterCount e + parameterCountOf es

end

mutual

theorem length_literals (e : Expr) : e.literals.length = e.parameterCount := by
  cases e <;>
    simp [literals, parameterCount, length_literals, length_literalsOf, Nat.add_assoc]

theorem length_literalsOf (es : List Expr) : (literalsOf es).length = parameterCountOf es := by
  cases es <;> simp [literalsOf, parameterCountOf, length_literals, length_literalsOf]

end

/-! ### Handing the values to a statement -/

mutual

/-- Hands the value of each literal to a receiver, with its place; `bind` is what the receiver does
with it. Returns what the receiver has become and the first place that is left. -/
def bindParameters {σ : Type} (bind : σ → Nat → Value → σ) (place : Nat) (held : σ) :
    Expr → σ × Nat
  | .literal l => (bind held place l.bound, place + 1)
  | .column _ | .all => (held, place)
  | .collection es | .call _ es | .and es | .or es => bindParametersOf bind place held es
  | .cast e _ | .not e | .isNull e | .isNotNull e | .paren e => bindParameters bind place held e
  | .arithmetic _ l r | .compare _ l r | .isIn l r =>
    let (held, place) := bindParameters bind place held l
    bindParameters bind place held r
  | .between e l h =>
    let (held, place) := bindParameters bind place held e
    let (held, place) := bindParameters bind place held l
    bindParameters bind place held h

/-- Hands the values of the literals of trees to a receiver, one tree after the other. -/
def bindParametersOf {σ : Type} (bind : σ → Nat → Value → σ) (place : Nat) (held : σ) :
    List Expr → σ × Nat
  | [] => (held, place)
  | e :: es =>
    let (held, place) := bindParameters bind place held e
    bindParametersOf bind place held es

end

/-- Puts the value of each literal behind others that a statement is given. -/
def addParameters (values : List Value) (e : Expr) : List Value :=
  (e.bindParameters (fun values _ v => values ++ [v]) (values.length + 1) values).1

/-- The values that a statement is given for the literals, in order. -/
def parameters (e : Expr) : List Value :=
  e.addParameters []

/-- Pairs each parameter with its place; the places start at a number and end before the one that is
returned. -/
def parametersFrom (start : Nat) (e : Expr) : List (Nat × Value) × Nat :=
  e.bindParameters (fun placed place v => placed ++ [(place, v)]) start []

mutual

/-- The tree with its literals changed by a function, which is told the place of each one. -/
def mapLiterals (change : Nat → Literal → Literal) (start : Nat) : Expr → Expr
  | .literal l => .literal (change start l)
  | .column c => .column c
  | .collection es => .collection (mapLiteralsOf change start es)
  | .cast e type => .cast (mapLiterals change start e) type
  | .arithmetic op l r =>
    .arithmetic op (mapLiterals change start l) (mapLiterals change (start + l.parameterCount) r)
  | .call f es => .call f (mapLiteralsOf change start es)
  | .all => .all
  | .and es => .and (mapLiteralsOf change start es)
  | .or es => .or (mapLiteralsOf change start es)
  | .not e => .not (mapLiterals change start e)
  | .between e l h =>
    let low := start + e.parameterCount
    .between (mapLiterals change start e) (mapLiterals change low l)
      (mapLiterals change (low + l.parameterCount) h)
  | .isIn l r =>
    .isIn (mapLiterals change start l) (mapLiterals change (start + l.parameterCount) r)
  | .isNull e => .isNull (mapLiterals change start e)
  | .isNotNull e => .isNotNull (mapLiterals change start e)
  | .compare op l r =>
    .compare op (mapLiterals change start l) (mapLiterals change (start + l.parameterCount) r)
  | .paren e => .paren (mapLiterals change start e)

/-- The trees with their literals changed. -/
def mapLiteralsOf (change : Nat → Literal → Literal) (start : Nat) : List Expr → List Expr
  | [] => []
  | e :: es =>
    mapLiterals change start e :: mapLiteralsOf change (start + e.parameterCount) es

end

/-! ### Replacing one value -/

mutual

/-- Puts another value at the place of one literal. The literals are counted as they come, `place`
being the number of the first one; returns the tree and the number of the literal that comes after
it. -/
def replaceLiteral (index : Nat) (v : Value) (place : Nat) : Expr → Expr × Nat
  | .literal l => (.literal (if place = index then l.withValue v else l), place + 1)
  | .column c => (.column c, place)
  | .collection es =>
    let (es, place) := replaceLiterals index v place es
    (.collection es, place)
  | .cast e type =>
    let (e, place) := replaceLiteral index v place e
    (.cast e type, place)
  | .arithmetic op l r =>
    let (l, place) := replaceLiteral index v place l
    let (r, place) := replaceLiteral index v place r
    (.arithmetic op l r, place)
  | .call f es =>
    let (es, place) := replaceLiterals index v place es
    (.call f es, place)
  | .all => (.all, place)
  | .and es =>
    let (es, place) := replaceLiterals index v place es
    (.and es, place)
  | .or es =>
    let (es, place) := replaceLiterals index v place es
    (.or es, place)
  | .not e =>
    let (e, place) := replaceLiteral index v place e
    (.not e, place)
  | .between e l h =>
    let (e, place) := replaceLiteral index v place e
    let (l, place) := replaceLiteral index v place l
    let (h, place) := replaceLiteral index v place h
    (.between e l h, place)
  | .isIn l r =>
    let (l, place) := replaceLiteral index v place l
    let (r, place) := replaceLiteral index v place r
    (.isIn l r, place)
  | .isNull e =>
    let (e, place) := replaceLiteral index v place e
    (.isNull e, place)
  | .isNotNull e =>
    let (e, place) := replaceLiteral index v place e
    (.isNotNull e, place)
  | .compare op l r =>
    let (l, place) := replaceLiteral index v place l
    let (r, place) := replaceLiteral index v place r
    (.compare op l r, place)
  | .paren e =>
    let (e, place) := replaceLiteral index v place e
    (.paren e, place)

/-- Puts another value at the place of one literal of some trees. -/
def replaceLiterals (index : Nat) (v : Value) (place : Nat) : List Expr → List Expr × Nat
  | [] => ([], place)
  | e :: es =>
    let (e, place) := replaceLiteral index v place e
    let (es, place) := replaceLiterals index v place es
    (e :: es, place)

end

/-- The tree with another value at the place of one literal; the first place has the number 0. -/
def setValue (index : Nat) (v : Value) (e : Expr) : Expr :=
  (e.replaceLiteral index v 0).1

end TypedFilter.Expr
