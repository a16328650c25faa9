import TypedFilter.DataType.Convert
import TypedFilter.Sql.Lexer
import TypedFilter.Sql.Step

/-!
The grammar of statements and expressions. Each level of precedence reads its operands with the next
one; expressions inside brackets start over at the loosest level, on fewer tokens. From loose to
tight: `OR`, `AND`, `NOT`, one comparison, sums, products, signs, and what stands by itself.
-/

namespace TypedFilter.Sql

variable {n : Nat}

/-! ### Words and numbers -/

/-- A number as a value: a whole one in 32 bits if they suffice, else in 64, and any other as a
decimal. -/
def numberValue (digits : String) : Read Value :=
  let whole : Option Value :=
    if digits.toList.contains '.' then none
    else
      let n := ofDigits digits.toList
      Value.ofInt? .int n <|> Value.ofInt? .long n
  match whole <|> (Decimal.ofChars? digits.toList).map .decimal with
  | some v => .ok v
  | none => .error (.badNumber digits)

/-- The type of a kind of date or time. -/
def MomentKind.type : MomentKind → DataType
  | .date => .date
  | .time => .time
  | .timestamp => .timestamp

/-- A date or time as a value. -/
def momentValue (kind : MomentKind) (text : String) : Read Value :=
  (kind.type.convert (.string text)).mapError .badMoment

/-- Reads the names that follow each other. -/
def identifiers : (ts : List Token) → Tail (List String) ts
  | .identifier name :: rest =>
    (((identifiers rest).map (name :: ·)).cons (.identifier name)).toTail
  | ts => .stay [] ts

/-- Reads the numbers in brackets after the name of a type. -/
def typeArguments (ts : List Token) : Read (Tail String ts) :=
  match ts with
  | .sign .leftParen :: rest => do
    let numbers ← items (fun ts _ => expectNumber ts) rest (Nat.le_refl _)
    let close ← expectSign .rightParen numbers.rest
    let text := "(" ++ String.intercalate "," numbers.value ++ ")"
    .ok (((numbers.andThen close).map fun _ => text).cons (.sign .leftParen)).toTail
  | ts => .ok (.stay "" ts)

/-- Reads the name of a type as it is written: words, and perhaps numbers in brackets. -/
def typeName (ts : List Token) : Read (Step String ts) := do
  let first ← expectIdentifier ts
  let words := identifiers first.rest
  let arguments ← typeArguments words.rest
  let name := String.intercalate " " (first.value :: words.value)
  .ok ((first.andTail (words.andTail arguments)).map (name ++ ·))

/-- Reads a name of several parts with points between them. -/
def dottedName (k : Nat) (name : String) (ts : List Token) (hk : ts.length ≤ k) :
    Read (Tail String ts) :=
  match k, ts with
  | k + 1, .sign .dot :: rest => do
    have hr : rest.length ≤ k := Nat.le_of_succ_le_succ hk
    let part ← expectIdentifier rest
    let tail ← dottedName k (name ++ "." ++ part.value) part.rest (part.fits hr)
    .ok ((part.andTail tail).cons (.sign .dot)).toTail
  | _, ts => .ok (.stay name ts)

/-- Reads the name of a table. -/
def tableName (ts : List Token) : Read (Step String ts) := do
  let first ← expectIdentifier ts
  let tail ← dottedName first.rest.length first.value first.rest (Nat.le_refl _)
  .ok (first.andTail tail)

/-! ### Statements -/

/-- Reads the other name of what is selected, if it has one. -/
def aliasName (ts : List Token) : Read (Tail (Option String) ts) :=
  match ts with
  | .keyword .as :: rest => do
    let name ← expectIdentifier rest
    .ok ((name.map some).cons (.keyword .as)).toTail
  | .identifier name :: rest => .ok ⟨some name, rest, Nat.le_succ _⟩
  | ts => .ok (.stay none ts)

/-- Reads one thing to select. -/
def selectItem (expression : Below Expression n) : Below SelectItem n := fun ts h =>
  match ts with
  | .sign .star :: rest => .ok ⟨.all, rest, Nat.lt_succ_self _⟩
  | ts => do
    let e ← expression ts h
    let name ← aliasName e.rest
    .ok ((e.andTail name).map (.expression e.value))

/-- Reads the table to select from, if there is one. -/
def fromPart (ts : List Token) : Read (Tail (Option String) ts) :=
  match ts with
  | .keyword .from :: rest => do
    let name ← tableName rest
    .ok ((name.map some).cons (.keyword .from)).toTail
  | ts => .ok (.stay none ts)

/-- Reads the condition on rows, if there is one. -/
def wherePart (expression : Below Expression n) (ts : List Token) (h : ts.length ≤ n) :
    Read (Tail (Option Expression) ts) :=
  match ts with
  | .keyword .where :: rest => do
    let e ← expression rest h
    .ok ((e.map some).cons (.keyword .where)).toTail
  | ts => .ok (.stay none ts)

/-- Reads the word that asks for different rows, if it is there. -/
def distinctPart (ts : List Token) : Tail Bool ts :=
  match ts with
  | .keyword .distinct :: rest => ⟨true, rest, Nat.le_succ _⟩
  | ts => .stay false ts

/-- Reads a statement; `expression` reads the expressions in it. -/
def selectWith (expression : Below Expression n) (ts : List Token) (h : ts.length ≤ n) :
    Read (Step Select ts) := do
  let start ← expectWord .select ts
  let distinct := distinctPart start.rest
  have h₁ : distinct.rest.length < n :=
    Nat.lt_of_le_of_lt distinct.noLonger (Nat.lt_of_lt_of_le start.shorter h)
  let selected ← items
    (fun ts h => selectItem expression ts (Nat.lt_of_le_of_lt h h₁)) distinct.rest (Nat.le_refl _)
  let table ← fromPart selected.rest
  have h₂ : table.rest.length ≤ n :=
    Nat.le_trans table.noLonger (selected.fits (Nat.le_of_lt h₁))
  let condition ← wherePart expression table.rest h₂
  let whole := (start.andTail distinct).andThen ((selected.andTail table).andTail condition)
  .ok (whole.map fun _ => .mk distinct.value selected.value table.value condition.value)

/-! ### Expressions that stand by themselves -/

/-- Reads expressions with commas between them and the closing bracket. -/
def listToParen (expression : Below Expression n) (ts : List Token) (h : ts.length < n) :
    Read (Step (List Expression) ts) := do
  let list ← items (fun ts' h' => expression ts' (Nat.lt_of_le_of_lt h' h)) ts (Nat.le_refl _)
  let close ← expectSign .rightParen list.rest
  .ok ((list.andThen close).map fun _ => list.value)

/-- Reads a statement and the closing bracket. -/
def selectToParen (expression : Below Expression n) (ts : List Token) (h : ts.length ≤ n) :
    Read (Step Select ts) := do
  let query ← selectWith expression ts h
  let close ← expectSign .rightParen query.rest
  .ok ((query.andThen close).map fun _ => query.value)

/-- Reads on after a name: a column of a table, a call of a function, or just a column. -/
def afterName (expression : Below Expression n) (name : String) (ts : List Token)
    (h : ts.length < n) : Read (Tail Expression ts) :=
  match ts with
  | .sign .dot :: rest => do
    let column ← expectIdentifier rest
    .ok ((column.map (.qualified name)).cons (.sign .dot)).toTail
  | .sign .leftParen :: .sign .rightParen :: rest =>
    .ok ⟨.function name [], rest, Nat.le_succ_of_le (Nat.le_succ _)⟩
  | .sign .leftParen :: rest => do
    let arguments ← listToParen expression rest (Nat.lt_of_succ_lt h)
    .ok ((arguments.map (.function name)).cons (.sign .leftParen)).toTail
  | ts => .ok (.stay (.column name) ts)

/-- Reads on after an opening bracket: a statement, one expression, or a row of several. -/
def afterParen (expression : Below Expression n) (ts : List Token) (h : ts.length < n) :
    Read (Step Expression ts) :=
  if current ts = .keyword .select then do
    let query ← selectToParen expression ts (Nat.le_of_lt h)
    .ok (query.map .subquery)
  else do
    let list ← listToParen expression ts h
    .ok (list.map fun
      | [e] => e
      | es => .row es)

/-- Reads the branches of a CASE. -/
def branches (expression : Below Expression n) (k : Nat) (ts : List Token) (hk : ts.length ≤ k)
    (hn : k < n) : Read (Tail (List (Expression × Expression)) ts) :=
  match k, ts with
  | k + 1, .keyword .when :: rest => do
    have hr : rest.length ≤ k := Nat.le_of_succ_le_succ hk
    let condition ← expression rest (Nat.lt_of_le_of_lt hr (Nat.lt_of_succ_lt hn))
    let word ← expectWord .then condition.rest
    have hw : word.rest.length ≤ k := word.fits (condition.fits hr)
    let result ← expression word.rest (Nat.lt_of_le_of_lt hw (Nat.lt_of_succ_lt hn))
    let tail ← branches expression k result.rest (result.fits hw) (Nat.lt_of_succ_lt hn)
    let branch := condition.andThen (word.andThen (result.andTail tail))
    .ok ((branch.map ((condition.value, result.value) :: ·)).cons (.keyword .when)).toTail
  | _, ts => .ok (.stay [] ts)

/-- Reads what a CASE compares with its branches, if it compares. -/
def caseOperand (expression : Below Expression n) (ts : List Token) (h : ts.length < n) :
    Read (Tail (Option Expression) ts) :=
  if current ts = .keyword .when then .ok (.stay none ts)
  else do
    let e ← expression ts h
    .ok (e.map some).toTail

/-- Reads the last branch of a CASE, if it has one without a condition. -/
def caseElse (expression : Below Expression n) (ts : List Token) (h : ts.length < n) :
    Read (Tail (Option Expression) ts) :=
  match ts with
  | .keyword .else :: rest => do
    let e ← expression rest (Nat.lt_of_succ_lt h)
    .ok ((e.map some).cons (.keyword .else)).toTail
  | ts => .ok (.stay none ts)

/-- Reads on after the word CASE. -/
def afterCase (expression : Below Expression n) (ts : List Token) (h : ts.length < n) :
    Read (Step Expression ts) := do
  let operand ← caseOperand expression ts h
  have h₁ := Nat.lt_of_le_of_lt operand.noLonger h
  let whens ← branches expression operand.rest.length operand.rest (Nat.le_refl _) h₁
  have h₂ := Nat.lt_of_le_of_lt whens.noLonger h₁
  let otherwise ← caseElse expression whens.rest h₂
  let close ← expectWord .end otherwise.rest
  let whole : Step Unit ts := ⟨(), close.rest, by
    have h₃ := operand.noLonger
    have h₄ := whens.noLonger
    have h₅ := otherwise.noLonger
    have h₆ := close.shorter
    omega⟩
  .ok (whole.map fun _ => .case operand.value whens.value otherwise.value)

/-- Reads on after the word CAST. -/
def afterCast (expression : Below Expression n) (ts : List Token) (h : ts.length < n) :
    Read (Step Expression ts) := do
  let start ← expectSign .leftParen ts
  let e ← expression start.rest (Nat.lt_trans start.shorter h)
  let word ← expectWord .as e.rest
  let type ← typeName word.rest
  let close ← expectSign .rightParen type.rest
  let whole := start.andThen (e.andThen (word.andThen (type.andThen close)))
  .ok (whole.map fun _ => .cast e.value type.value)

/-- Reads on after the word EXISTS. -/
def afterExists (expression : Below Expression n) (ts : List Token) (h : ts.length < n) :
    Read (Step Expression ts) := do
  let start ← expectSign .leftParen ts
  let query ← selectToParen expression start.rest (Nat.le_of_lt (Nat.lt_trans start.shorter h))
  .ok ((start.andThen query).map fun _ => .exists query.value false)

/-- Reads an expression that stands by itself. -/
def primary (expression : Below Expression n) : Level Expression n := fun ts h =>
  match ts with
  | .number digits :: rest => do
    let v ← numberValue digits
    .ok ⟨.literal v, rest, Nat.lt_succ_self _⟩
  | .string text :: rest => .ok ⟨.literal (.string text), rest, Nat.lt_succ_self _⟩
  | .moment kind text :: rest => do
    let v ← momentValue kind text
    .ok ⟨.literal v, rest, Nat.lt_succ_self _⟩
  | .keyword .true :: rest => .ok ⟨.literal (.boolean true), rest, Nat.lt_succ_self _⟩
  | .keyword .false :: rest => .ok ⟨.literal (.boolean false), rest, Nat.lt_succ_self _⟩
  | .keyword .null :: rest => .ok ⟨.null, rest, Nat.lt_succ_self _⟩
  | .identifier name :: rest => do
    let e ← afterName expression name rest h
    .ok (e.cons (.identifier name))
  | .sign .leftParen :: rest => do
    let e ← afterParen expression rest h
    .ok (e.cons (.sign .leftParen))
  | .keyword .exists :: rest => do
    let e ← afterExists expression rest h
    .ok (e.cons (.keyword .exists))
  | .keyword .case :: rest => do
    let e ← afterCase expression rest h
    .ok (e.cons (.keyword .case))
  | .keyword .cast :: rest => do
    let e ← afterCast expression rest h
    .ok (e.cons (.keyword .cast))
  | ts => .error (.unexpectedToken (current ts))

/-! ### Operators -/

/-- Reads signs and what they stand before. -/
def signed (expression : Below Expression n) : Level Expression n
  | .sign .plus :: rest, h => do
    let e ← signed expression rest (Nat.le_of_succ_le h)
    .ok ((e.map (.unary .plus)).cons (.sign .plus))
  | .sign .minus :: rest, h => do
    let e ← signed expression rest (Nat.le_of_succ_le h)
    .ok ((e.map (.unary .minus)).cons (.sign .minus))
  | ts, h => primary expression ts h

/-- The operators of products. -/
def productOp? : Token → Option BinaryOp
  | .sign .star => some .multiply
  | .sign .slash => some .divide
  | .sign .percent => some .modulo
  | _ => none

/-- The operators of sums, and the one that joins texts. -/
def sumOp? : Token → Option BinaryOp
  | .sign .plus => some .plus
  | .sign .minus => some .minus
  | .sign .concat => some .concat
  | _ => none

/-- The operators that compare. -/
def comparisonOp? : Token → Option BinaryOp
  | .sign .equal => some .equal
  | .sign .notEqual => some .notEqual
  | .sign .less => some .less
  | .sign .greater => some .greater
  | .sign .lessEqual => some .lessEqual
  | .sign .greaterEqual => some .greaterEqual
  | _ => none

/-- Reads a product. -/
def product (expression : Below Expression n) : Level Expression n :=
  chain (signed expression) productOp?

/-- Reads a sum. -/
def sum (expression : Below Expression n) : Level Expression n :=
  chain (product expression) sumOp?

/-- Reads on after the word IN. -/
def afterIn (expression : Below Expression n) (left : Expression) (negated : Bool)
    (ts : List Token) (h : ts.length < n) : Read (Step Expression ts) := do
  let start ← expectSign .leftParen ts
  have h₁ := Nat.lt_trans start.shorter h
  if current start.rest = .keyword .select then
    let query ← selectToParen expression start.rest (Nat.le_of_lt h₁)
    .ok ((start.andThen query).map fun _ => .inList left [.subquery query.value] negated)
  else
    let list ← listToParen expression start.rest h₁
    .ok ((start.andThen list).map fun _ => .inList left list.value negated)

/-- Reads on after the word BETWEEN. -/
def afterBetween (expression : Below Expression n) (left : Expression) (negated : Bool)
    (ts : List Token) (h : ts.length < n) : Read (Step Expression ts) := do
  let low ← sum expression ts (Nat.le_of_lt h)
  let word ← expectWord .and low.rest
  let high ← sum expression word.rest
    (Nat.le_of_lt (Nat.lt_trans word.shorter (Nat.lt_trans low.shorter h)))
  .ok ((low.andThen (word.andThen high)).map fun _ =>
    .between left low.value high.value negated)

/-- Reads the character that escapes others in a pattern, if one is given. -/
def escapePart (expression : Below Expression n) (ts : List Token) (h : ts.length < n) :
    Read (Tail (Option Expression) ts) :=
  match ts with
  | .keyword .escape :: rest => do
    let e ← sum expression rest (Nat.le_of_succ_le (Nat.le_of_lt h))
    .ok ((e.map some).cons (.keyword .escape)).toTail
  | ts => .ok (.stay none ts)

/-- Reads on after the word LIKE. -/
def afterLike (expression : Below Expression n) (left : Expression) (negated : Bool)
    (ts : List Token) (h : ts.length < n) : Read (Step Expression ts) := do
  let pattern ← sum expression ts (Nat.le_of_lt h)
  let escape ← escapePart expression pattern.rest (Nat.lt_trans pattern.shorter h)
  .ok ((pattern.andTail escape).map fun _ => .like left pattern.value escape.value negated)

/-- Reads what an expression is tested for, if it is tested. -/
def test (expression : Below Expression n) (left : Expression) (ts : List Token)
    (h : ts.length ≤ n) : Read (Tail Expression ts) :=
  match ts with
  | .keyword .is :: .keyword .not :: rest => do
    let word ← expectWord .null rest
    .ok (((word.map fun _ => .isNull left true).cons (.keyword .not)).cons (.keyword .is)).toTail
  | .keyword .is :: rest => do
    let word ← expectWord .null rest
    .ok ((word.map fun _ => .isNull left false).cons (.keyword .is)).toTail
  | .keyword .not :: .keyword .in :: rest => do
    let e ← afterIn expression left true rest (Nat.lt_of_succ_lt h)
    .ok ((e.cons (.keyword .in)).cons (.keyword .not)).toTail
  | .keyword .not :: .keyword .between :: rest => do
    let e ← afterBetween expression left true rest (Nat.lt_of_succ_lt h)
    .ok ((e.cons (.keyword .between)).cons (.keyword .not)).toTail
  | .keyword .not :: .keyword .like :: rest => do
    let e ← afterLike expression left true rest (Nat.lt_of_succ_lt h)
    .ok ((e.cons (.keyword .like)).cons (.keyword .not)).toTail
  | .keyword .in :: rest => do
    let e ← afterIn expression left false rest h
    .ok (e.cons (.keyword .in)).toTail
  | .keyword .between :: rest => do
    let e ← afterBetween expression left false rest h
    .ok (e.cons (.keyword .between)).toTail
  | .keyword .like :: rest => do
    let e ← afterLike expression left false rest h
    .ok (e.cons (.keyword .like)).toTail
  | [] => .ok (.stay left [])
  | t :: rest =>
    match comparisonOp? t with
    | none => .ok (.stay left (t :: rest))
    | some op => do
      let right ← sum expression rest (Nat.le_of_succ_le h)
      .ok ((right.map (.binary op left)).cons t).toTail

/-- Reads an expression and at most one test of it. -/
def comparison (expression : Below Expression n) : Level Expression n := fun ts h => do
  let left ← sum expression ts h
  let tail ← test expression left.value left.rest (left.fits h)
  .ok (left.andTail tail)

/-- Reads the words NOT and the comparison that they stand before. -/
def negation (expression : Below Expression n) : Level Expression n
  | .keyword .not :: rest, h => do
    let e ← negation expression rest (Nat.le_of_succ_le h)
    .ok ((e.map (.unary .not)).cons (.keyword .not))
  | ts, h => comparison expression ts h

/-- Reads conditions that have to hold together. -/
def conjunction (expression : Below Expression n) : Level Expression n :=
  chain (negation expression) fun t => if t = .keyword .and then some .and else none

/-- Reads conditions of which one has to hold. -/
def disjunction (expression : Below Expression n) : Level Expression n :=
  chain (conjunction expression) fun t => if t = .keyword .or then some .or else none

/-- Reads an expression from fewer than `n` tokens. -/
def expressionBelow : (n : Nat) → Below Expression n
  | 0 => fun _ h => absurd h (Nat.not_lt_zero _)
  | n + 1 => fun ts h => disjunction (expressionBelow n) ts (Nat.le_of_lt_succ h)

/-- Reads a statement. -/
def readSelect (ts : List Token) : Read (Step Select ts) :=
  selectWith (expressionBelow ts.length) ts (Nat.le_refl _)

/-- The statement that some tokens are; a semicolon may end it. -/
def Select.ofTokens (ts : List Token) : Read Select := do
  let query ← readSelect ts
  let rest := match query.rest with
    | .sign .semicolon :: rest => rest
    | rest => rest
  if current rest = .eof then .ok query.value else .error (.unexpectedToken (current rest))

/-- The statement that a text is. -/
def Select.ofText (s : String) : Read Select :=
  (tokenize s).bind Select.ofTokens

end TypedFilter.Sql
