import TypedFilter.Text.Escaped
import TypedFilter.Text.Uppercase

/-!
The tokens of SQL text.
-/

namespace TypedFilter.Sql

/-- Words with a meaning of their own. -/
inductive Keyword where
  | select | from | where | and | or | not | null | in | exists | between | like | escape | is
  | true | false | case | when | then | else | end | cast | as | distinct
  deriving DecidableEq, Repr

/-- Operators and other signs. -/
inductive Sign where
  | plus | minus | star | slash | percent | concat
  | equal | notEqual | less | greater | lessEqual | greaterEqual
  | leftParen | rightParen | comma | semicolon | dot
  deriving DecidableEq, Repr

/-- The kinds of dates and times that stand in braces. -/
inductive MomentKind where
  | date | time | timestamp
  deriving DecidableEq, Repr

/-- A token. -/
inductive Token where
  | identifier (name : String)
  | number (digits : String)
  | string (text : String)
  | moment (kind : MomentKind) (text : String)
  | keyword (word : Keyword)
  | sign (sign : Sign)
  /-- Stands after the last token. -/
  | eof
  deriving DecidableEq, Repr

/-- The word in upper case. -/
def Keyword.word : Keyword → String
  | .select => "SELECT"
  | .from => "FROM"
  | .where => "WHERE"
  | .and => "AND"
  | .or => "OR"
  | .not => "NOT"
  | .null => "NULL"
  | .in => "IN"
  | .exists => "EXISTS"
  | .between => "BETWEEN"
  | .like => "LIKE"
  | .escape => "ESCAPE"
  | .is => "IS"
  | .true => "TRUE"
  | .false => "FALSE"
  | .case => "CASE"
  | .when => "WHEN"
  | .then => "THEN"
  | .else => "ELSE"
  | .end => "END"
  | .cast => "CAST"
  | .as => "AS"
  | .distinct => "DISTINCT"

/-- Every keyword. -/
def Keyword.all : List Keyword :=
  [.select, .from, .where, .and, .or, .not, .null, .in, .exists, .between, .like, .escape, .is,
    .true, .false, .case, .when, .then, .else, .end, .cast, .as, .distinct]

/-- The keyword that a word in any case is. -/
def Keyword.ofWord? (word : String) : Option Keyword :=
  let upper := Text.uppercase word
  Keyword.all.find? fun k => k.word == upper

/-- The name of a keyword in messages: its word with one capital. -/
def Keyword.label (k : Keyword) : String :=
  match k.word.toList with
  | c :: rest => String.ofList (c :: rest.map Char.toLower)
  | [] => ""

/-- The name of a sign in messages. -/
def Sign.label : Sign → String
  | .plus => "Plus"
  | .minus => "Minus"
  | .star => "Star"
  | .slash => "Slash"
  | .percent => "Percent"
  | .concat => "Concat"
  | .equal => "Equal"
  | .notEqual => "NotEqual"
  | .less => "Less"
  | .greater => "Greater"
  | .lessEqual => "LessEqual"
  | .greaterEqual => "GreaterEqual"
  | .leftParen => "LeftParen"
  | .rightParen => "RightParen"
  | .comma => "Comma"
  | .semicolon => "Semicolon"
  | .dot => "Dot"

/-- The name of a kind of token in messages. -/
def Token.label : Token → String
  | .identifier _ => "Identifier"
  | .number _ => "Number"
  | .string _ => "String"
  | .moment .date _ => "DateLiteral"
  | .moment .time _ => "TimeLiteral"
  | .moment .timestamp _ => "TimestampLiteral"
  | .keyword k => k.label
  | .sign s => s.label
  | .eof => "Eof"

/-- The text that a token carries. -/
def Token.content? : Token → Option String
  | .identifier s | .number s | .string s | .moment _ s => some s
  | _ => none

/-- The token as messages show it. -/
def Token.shown (t : Token) : String :=
  match t.content? with
  | some s => t.label ++ "(" ++ Text.shown s ++ ")"
  | none => t.label

end TypedFilter.Sql
