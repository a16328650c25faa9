import TypedFilter.Sql.Error
import TypedFilter.Sql.Statement

/-!
What readers of token lists return. A step carries the proof that it has taken at least one token,
so that readers which call each other on what is left always come to an end.
-/

namespace TypedFilter.Sql

/-- Something read from the start of a token list, and the tokens after it. -/
structure Step (α : Type) (ts : List Token) where
  value : α
  rest : List Token
  shorter : rest.length < ts.length

/-- Something read from the start of a token list that may have taken no token. -/
structure Tail (α : Type) (ts : List Token) where
  value : α
  rest : List Token
  noLonger : rest.length ≤ ts.length

variable {α β : Type} {ts : List Token}

theorem length_le_self (ts : List Token) : ts.length ≤ ts.length :=
  Nat.le_refl _

theorem length_lt_cons (t : Token) (ts : List Token) : ts.length < (t :: ts).length :=
  Nat.lt_succ_self _

/-- What follows a step fits where the step did. -/
theorem Step.fits {n : Nat} (s : Step α ts) (h : ts.length ≤ n) : s.rest.length ≤ n :=
  Nat.le_trans (Nat.le_of_lt s.shorter) h

/-- A step that starts one token later. -/
def Step.cons (t : Token) (s : Step α ts) : Step α (t :: ts) :=
  ⟨s.value, s.rest, Nat.lt_succ_of_lt s.shorter⟩

/-- Two steps in a row, of which the second gives the value. -/
def Step.andThen (s : Step α ts) (next : Step β s.rest) : Step β ts :=
  ⟨next.value, next.rest, Nat.lt_trans next.shorter s.shorter⟩

/-- A step and what may follow it, which gives the value. -/
def Step.andTail (s : Step α ts) (next : Tail β s.rest) : Step β ts :=
  ⟨next.value, next.rest, Nat.lt_of_le_of_lt next.noLonger s.shorter⟩

/-- The step with another value. -/
def Step.map (f : α → β) (s : Step α ts) : Step β ts :=
  ⟨f s.value, s.rest, s.shorter⟩

/-- A step where none is needed. -/
def Step.toTail (s : Step α ts) : Tail α ts :=
  ⟨s.value, s.rest, Nat.le_of_lt s.shorter⟩

/-- Nothing read. -/
def Tail.stay (a : α) (ts : List Token) : Tail α ts :=
  ⟨a, ts, length_le_self ts⟩

/-- A tail that starts one token later. -/
def Tail.cons (t : Token) (s : Tail α ts) : Step α (t :: ts) :=
  ⟨s.value, s.rest, Nat.lt_succ_of_le s.noLonger⟩

/-- Two tails in a row, of which the second gives the value. -/
def Tail.andTail (s : Tail α ts) (next : Tail β s.rest) : Tail β ts :=
  ⟨next.value, next.rest, Nat.le_trans next.noLonger s.noLonger⟩

/-- The tail with another value. -/
def Tail.map (f : α → β) (s : Tail α ts) : Tail β ts :=
  ⟨f s.value, s.rest, s.noLonger⟩

/-- A result of reading. -/
abbrev Read (α : Type) := Except ReadError α

/-- The token that a reader looks at. -/
def current (ts : List Token) : Token :=
  ts.head?.getD .eof

/-- Takes one token that has to stand here. -/
def expect (wanted : Token) (ts : List Token) : Read (Step Unit ts) :=
  match ts with
  | [] => .error (.expectedToken wanted .eof)
  | t :: rest =>
    if t = wanted then .ok ⟨(), rest, length_lt_cons t rest⟩ else .error (.expectedToken wanted t)

/-- Takes a keyword that has to stand here. -/
def expectWord (k : Keyword) (ts : List Token) : Read (Step Unit ts) :=
  expect (.keyword k) ts

/-- Takes a sign that has to stand here. -/
def expectSign (s : Sign) (ts : List Token) : Read (Step Unit ts) :=
  expect (.sign s) ts

/-- Takes a name. -/
def expectIdentifier (ts : List Token) : Read (Step String ts) :=
  match ts with
  | .identifier name :: rest => .ok ⟨name, rest, length_lt_cons (.identifier name) rest⟩
  | ts => .error (.expectedIdentifier (current ts))

/-- Takes a number. -/
def expectNumber (ts : List Token) : Read (Step String ts) :=
  match ts with
  | .number digits :: rest => .ok ⟨digits, rest, length_lt_cons (.number digits) rest⟩
  | ts => .error (.expectedNumber (current ts))

/-! ### Repetition

`n` bounds the length of the token lists, and the repetitions with it. -/

/-- A reader of token lists no longer than `n`. -/
abbrev Level (α : Type) (n : Nat) := (ts : List Token) → ts.length ≤ n → Read (Step α ts)

/-- A reader of token lists shorter than `n`. -/
abbrev Below (α : Type) (n : Nat) := (ts : List Token) → ts.length < n → Read (Step α ts)

/-- A reader of shorter lists reads no longer ones too, where one token is spare. -/
def Below.level {n : Nat} (read : Below α (n + 1)) : Level α n :=
  fun ts h => read ts (Nat.lt_succ_of_le h)

/-- Reads on while operators follow; operators of one chain bind to the left. -/
def chainRest {n : Nat} (operand : Level Expression n) (operator? : Token → Option BinaryOp)
    (k : Nat) (left : Expression) (ts : List Token) (hk : ts.length ≤ k) (hn : k ≤ n) :
    Read (Tail Expression ts) :=
  match k, ts with
  | _, [] => .ok (.stay left [])
  | k + 1, t :: rest =>
    match operator? t with
    | none => .ok (.stay left (t :: rest))
    | some op => do
      have hr : rest.length ≤ k := Nat.le_of_succ_le_succ hk
      let right ← operand rest (Nat.le_trans hr (Nat.le_of_succ_le hn))
      let tail ← chainRest operand operator? k (.binary op left right.value) right.rest
        (right.fits hr) (Nat.le_of_succ_le hn)
      .ok ((right.andTail tail).cons t).toTail

/-- Reads operands with operators between them. -/
def chain {n : Nat} (operand : Level Expression n) (operator? : Token → Option BinaryOp) :
    Level Expression n := fun ts h => do
  let first ← operand ts h
  let tail ← chainRest operand operator? n first.value first.rest (first.fits h) (Nat.le_refl n)
  .ok (first.andTail tail)

/-- Reads the items after commas. -/
def itemsRest {n : Nat} (item : Level α n) (k : Nat) (ts : List Token) (hk : ts.length ≤ k)
    (hn : k ≤ n) : Read (Tail (List α) ts) :=
  match k, ts with
  | _, [] => .ok (.stay [] [])
  | k + 1, t :: rest =>
    if t = .sign .comma then do
      have hr : rest.length ≤ k := Nat.le_of_succ_le_succ hk
      let first ← item rest (Nat.le_trans hr (Nat.le_of_succ_le hn))
      let tail ← itemsRest item k first.rest (first.fits hr) (Nat.le_of_succ_le hn)
      .ok (((first.andTail tail).cons t).map (first.value :: ·)).toTail
    else .ok (.stay [] (t :: rest))

/-- Reads one or more items with commas between them. -/
def items {n : Nat} (item : Level α n) : Level (List α) n := fun ts h => do
  let first ← item ts h
  let tail ← itemsRest item n first.rest (first.fits h) (Nat.le_refl n)
  .ok ((first.andTail tail).map (first.value :: ·))

end TypedFilter.Sql
