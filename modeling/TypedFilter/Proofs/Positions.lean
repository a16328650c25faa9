import TypedFilter.Sql.Grammar

/-!
The grammar read with a position. The tokens stay as they are and a position moves along them; it
stops for good at the last token. A loop goes on until one of its passes ends it, and readers call
each other freely, so that every loop and every call is given fuel, and a reader that runs out of it
comes to nothing. Functions are named after the readers of token lists that they agree with.
-/

namespace TypedFilter.Sql

/-- A reader that moves a position: it comes to a value or an error and leaves the position
somewhere, or it does not come to an end. -/
@[ext]
structure Walk (α : Type) where
  run : List Token → Nat → Option (Read α × Nat)

/-- What one pass of a loop comes to: another pass is to follow, or the loop has ended. -/
inductive Pass (σ α : Type) where
  | again (state : σ)
  | done (a : α)

namespace Walk

variable {α σ : Type}

/-- An error ends a reader and leaves the position where it is. -/
instance : Monad Walk where
  pure a := ⟨fun _ p => some (.ok a, p)⟩
  bind w f := ⟨fun ts p =>
    match w.run ts p with
    | some (.ok a, q) => (f a).run ts q
    | some (.error e, q) => some (.error e, q)
    | none => none⟩

/-- A result that does not depend on the tokens. -/
def ofRead (r : Read α) : Walk α :=
  ⟨fun _ p => some (r, p)⟩

/-- Ends with an error. -/
def fail (e : ReadError) : Walk α :=
  ofRead (.error e)

/-- Does not come to an end. -/
def unfinished : Walk α :=
  ⟨fun _ _ => none⟩

/-! ### Single tokens -/

/-- The token at the position. -/
def current : Walk Token :=
  ⟨fun ts p => some (.ok (ts[p]?.getD .eof), p)⟩

/-- The token after the one at the position. -/
def next : Walk Token :=
  ⟨fun ts p => some (.ok (ts[p + 1]?.getD .eof), p)⟩

/-- Moves to the next token; at the last one the position stays where it is. -/
def advance : Walk Unit :=
  ⟨fun ts p => some (.ok (), if p + 1 < ts.length then p + 1 else p)⟩

/-- Whether a token stands at the position. -/
def sees (t : Token) : Walk Bool := do
  return decide ((← current) = t)

/-- Takes one token that has to stand here. -/
def expect (wanted : Token) : Walk Unit := do
  if ← sees wanted then advance
  else fail (.expectedToken wanted (← current))

/-- Takes a name. -/
def expectIdentifier : Walk String := do
  match ← current with
  | .identifier name =>
    advance
    return name
  | t => fail (.expectedIdentifier t)

/-- Takes a number. -/
def expectNumber : Walk String := do
  match ← current with
  | .number digits =>
    advance
    return digits
  | t => fail (.expectedNumber t)

/-- Takes a token if it stands here. -/
def accept (t : Token) : Walk Bool := do
  if ← sees t then
    advance
    return true
  else return false

/-- Reads what follows a token, if the token stands here. -/
def after? (t : Token) (w : Walk α) : Walk (Option α) := do
  if ← sees t then
    advance
    return some (← w)
  else return none

/-! ### Loops -/

/-- Repeats a pass until it ends the loop. -/
def loop (pass : σ → Walk (Pass σ α)) : Nat → σ → Walk α
  | 0, _ => unfinished
  | fuel + 1, s => do
    match ← pass s with
    | .again s => loop pass fuel s
    | .done a => return a

/-- A pass over a chain: an operator and what stands after it. -/
def linkPass (operand : Walk Expression) (operator? : Token → Option BinaryOp)
    (left : Expression) : Walk (Pass Expression Expression) := do
  match operator? (← current) with
  | some op =>
    advance
    return .again (.binary op left (← operand))
  | none => return .done left

/-- Reads operands with operators between them. -/
def chain (fuel : Nat) (operand : Walk Expression) (operator? : Token → Option BinaryOp) :
    Walk Expression := do
  loop (linkPass operand operator?) fuel (← operand)

/-- A pass over a list: one item, and the comma after it. -/
def itemPass (item : Walk α) (before : List α) : Walk (Pass (List α) (List α)) := do
  let items := before ++ [← item]
  if ← sees (.sign .comma) then
    advance
    return .again items
  else return .done items

/-- Reads one or more items with commas between them. -/
def items (fuel : Nat) (item : Walk α) : Walk (List α) :=
  loop (itemPass item) fuel []

/-! ### Names -/

/-- A pass over the words of a type. -/
def wordPass (before : List String) : Walk (Pass (List String) (List String)) := do
  match ← current with
  | .identifier word =>
    advance
    return .again (before ++ [word])
  | _ => return .done before

/-- A pass over the numbers in brackets after the name of a type. -/
def numberPass (before : List String) : Walk (Pass (List String) (List String)) := do
  if ← sees (.sign .comma) then
    advance
    return .again (before ++ [← expectNumber])
  else return .done before

/-- Reads the numbers in brackets after the name of a type. -/
def typeArguments (fuel : Nat) : Walk String := do
  if ← sees (.sign .leftParen) then
    advance
    let first ← expectNumber
    let numbers ← loop numberPass fuel [first]
    expect (.sign .rightParen)
    return "(" ++ String.intercalate "," numbers ++ ")"
  else return ""

/-- Reads the name of a type as it is written: words, and perhaps numbers in brackets. -/
def typeName (fuel : Nat) : Walk String := do
  let first ← expectIdentifier
  let words ← loop wordPass fuel [first]
  return String.intercalate " " words ++ (← typeArguments fuel)

/-- A pass over the parts of a name: a point and the part after it. -/
def partPass (name : String) : Walk (Pass String String) := do
  if ← sees (.sign .dot) then
    advance
    return .again (name ++ "." ++ (← expectIdentifier))
  else return .done name

/-- Reads the name of a table. -/
def tableName (fuel : Nat) : Walk String := do
  loop partPass fuel (← expectIdentifier)

/-! ### Statements

`fuel` is for the loops; `expression` reads the expressions inside. -/

section Grammar

variable (fuel : Nat) (expression : Walk Expression)

/-- Reads the other name of what is selected, if it has one. -/
def aliasName : Walk (Option String) := do
  if ← sees (.keyword .as) then
    advance
    return some (← expectIdentifier)
  else
    match ← current with
    | .identifier name =>
      advance
      return some name
    | _ => return none

/-- Reads one thing to select. -/
def selectItem : Walk SelectItem := do
  if ← sees (.sign .star) then
    advance
    return .all
  else
    let e ← expression
    return .expression e (← aliasName)

/-- Reads a statement. -/
def select : Walk Select := do
  expect (.keyword .select)
  let distinct ← accept (.keyword .distinct)
  let selected ← items fuel (selectItem expression)
  let table ← after? (.keyword .from) (tableName fuel)
  let condition ← after? (.keyword .where) expression
  return .mk distinct selected table condition

/-! ### Expressions that stand by themselves -/

/-- Reads expressions with commas between them and the closing bracket. -/
def listToParen : Walk (List Expression) := do
  let list ← items fuel expression
  expect (.sign .rightParen)
  return list

/-- Reads a statement and the closing bracket. -/
def selectToParen : Walk Select := do
  let query ← select fuel expression
  expect (.sign .rightParen)
  return query

/-- Reads on after a name: a column of a table, a call of a function, or just a column. -/
def afterName (name : String) : Walk Expression := do
  if ← sees (.sign .dot) then
    advance
    return .qualified name (← expectIdentifier)
  else if ← sees (.sign .leftParen) then
    advance
    if ← sees (.sign .rightParen) then
      advance
      return .function name []
    else return .function name (← listToParen fuel expression)
  else return .column name

/-- Reads on after an opening bracket: a statement, one expression, or a row of several. -/
def afterParen : Walk Expression := do
  if ← sees (.keyword .select) then
    return .subquery (← selectToParen fuel expression)
  else
    return match ← listToParen fuel expression with
    | [e] => e
    | es => .row es

/-- A pass over the branches of a CASE. -/
def branchPass (before : List (Expression × Expression)) :
    Walk (Pass (List (Expression × Expression)) (List (Expression × Expression))) := do
  if ← sees (.keyword .when) then
    advance
    let condition ← expression
    expect (.keyword .then)
    return .again (before ++ [(condition, ← expression)])
  else return .done before

/-- Reads what a CASE compares with its branches, if it compares. -/
def caseOperand : Walk (Option Expression) := do
  if ← sees (.keyword .when) then return none
  else return some (← expression)

/-- Reads a CASE. -/
def caseExpression : Walk Expression := do
  expect (.keyword .case)
  let operand ← caseOperand expression
  let branches ← loop (branchPass expression) fuel []
  let otherwise ← after? (.keyword .else) expression
  expect (.keyword .end)
  return .case operand branches otherwise

/-- Reads a CAST. -/
def castExpression : Walk Expression := do
  expect (.keyword .cast)
  expect (.sign .leftParen)
  let e ← expression
  expect (.keyword .as)
  let type ← typeName fuel
  expect (.sign .rightParen)
  return .cast e type

/-- Reads an expression that stands by itself. -/
def primary : Walk Expression := do
  match ← current with
  | .number digits =>
    advance
    return .literal (← ofRead (numberValue digits))
  | .string text =>
    advance
    return .literal (.string text)
  | .moment kind text =>
    advance
    return .literal (← ofRead (momentValue kind text))
  | .keyword .true =>
    advance
    return .literal (.boolean true)
  | .keyword .false =>
    advance
    return .literal (.boolean false)
  | .keyword .null =>
    advance
    return .null
  | .identifier name =>
    advance
    afterName fuel expression name
  | .sign .leftParen =>
    advance
    afterParen fuel expression
  | .keyword .exists =>
    advance
    expect (.sign .leftParen)
    return .exists (← selectToParen fuel expression) false
  | .keyword .case => caseExpression fuel expression
  | .keyword .cast => castExpression fuel expression
  | t => fail (.unexpectedToken t)

/-! ### Operators -/

/-- Reads signs and what they stand before. -/
def signed : Nat → Walk Expression
  | 0 => unfinished
  | k + 1 => do
    match ← current with
    | .sign .plus =>
      advance
      return .unary .plus (← signed k)
    | .sign .minus =>
      advance
      return .unary .minus (← signed k)
    | _ => primary fuel expression

/-- Reads a product. -/
def product : Walk Expression :=
  chain fuel (signed fuel expression fuel) productOp?

/-- Reads a sum. -/
def sum : Walk Expression :=
  chain fuel (product fuel expression) sumOp?

/-- Reads on after the word IN. -/
def afterIn (left : Expression) (negated : Bool) : Walk Expression := do
  expect (.sign .leftParen)
  if ← sees (.keyword .select) then
    return .inList left [.subquery (← selectToParen fuel expression)] negated
  else return .inList left (← listToParen fuel expression) negated

/-- Reads on after the word BETWEEN. -/
def afterBetween (left : Expression) (negated : Bool) : Walk Expression := do
  let low ← sum fuel expression
  expect (.keyword .and)
  let high ← sum fuel expression
  return .between left low high negated

/-- Reads on after the word LIKE. -/
def afterLike (left : Expression) (negated : Bool) : Walk Expression := do
  let pattern ← sum fuel expression
  let escape ← after? (.keyword .escape) (sum fuel expression)
  return .like left pattern escape negated

/-- Reads on after the word IS. -/
def afterIs (left : Expression) : Walk Expression := do
  let negated ← accept (.keyword .not)
  expect (.keyword .null)
  return .isNull left negated

/-- The words that start the tests which NOT can stand before. -/
def startsTest : Token → Bool
  | .keyword .in | .keyword .between | .keyword .like => true
  | _ => false

/-- Whether the word NOT stands here and turns the test after it around. -/
def negatesTest : Walk Bool := do
  if ← sees (.keyword .not) then return startsTest (← next)
  else return false

/-- Reads a test other than IS, past the word NOT before it. -/
def plainTest (left : Expression) (negated : Bool) : Walk Expression := do
  if ← sees (.keyword .in) then
    advance
    afterIn fuel expression left negated
  else if ← sees (.keyword .between) then
    advance
    afterBetween fuel expression left negated
  else if ← sees (.keyword .like) then
    advance
    afterLike fuel expression left negated
  else
    match comparisonOp? (← current) with
    | some op =>
      advance
      return .binary op left (← sum fuel expression)
    | none => return left

/-- Reads what an expression is tested for, if it is tested. -/
def test (left : Expression) : Walk Expression := do
  if ← sees (.keyword .is) then
    advance
    afterIs left
  else if ← negatesTest then
    advance
    plainTest fuel expression left true
  else plainTest fuel expression left false

/-- Reads an expression and at most one test of it. -/
def comparison : Walk Expression := do
  test fuel expression (← sum fuel expression)

/-- Reads the words NOT and the comparison that they stand before. -/
def negation : Nat → Walk Expression
  | 0 => unfinished
  | k + 1 => do
    if ← sees (.keyword .not) then
      advance
      return .unary .not (← negation k)
    else comparison fuel expression

/-- The word between conditions that have to hold together. -/
def andOp? (t : Token) : Option BinaryOp :=
  if t = .keyword .and then some .and else none

/-- Reads conditions that have to hold together. -/
def conjunction : Walk Expression :=
  chain fuel (negation fuel expression fuel) andOp?

/-- The word between conditions of which one has to hold. -/
def orOp? (t : Token) : Option BinaryOp :=
  if t = .keyword .or then some .or else none

/-- Reads conditions of which one has to hold. -/
def disjunction : Walk Expression :=
  chain fuel (conjunction fuel expression) orOp?

end Grammar

/-- Reads an expression. -/
def expression : Nat → Walk Expression
  | 0 => unfinished
  | fuel + 1 => disjunction fuel (expression fuel)

/-- Reads a statement and the end of the text; a semicolon may end the statement. -/
def statement (fuel : Nat) : Walk Select := do
  let query ← select fuel (expression fuel)
  let _ ← accept (.sign .semicolon)
  if ← sees .eof then return query
  else fail (.unexpectedToken (← current))

end Walk

end TypedFilter.Sql
