import TypedFilter.Value.Basic
import TypedFilter.Calendar.Pattern
import TypedFilter.Decimal.Text
import TypedFilter.Binary.Text
import TypedFilter.Text.Quoted

/-!
Values as text, in two forms: plain, as in a field of a form, and as a literal of a condition, in
which strings stand between quotes and dates in braces.
-/

namespace TypedFilter.Value

/-- A text between braces, after the word for its kind. -/
def escapeText (kind : String) (s : String) : String :=
  "\x7b" ++ kind ++ " '" ++ s ++ "'\x7d"

mutual

/-- The value as a literal of a condition. -/
def text : Value → String
  | .null => "NULL"
  | .boolean b => if b then "TRUE" else "FALSE"
  | .integer _ n => intText n.toInt
  | .float x => x.text
  | .double x => x.text
  | .decimal d => d.text
  | .string s => Text.quoted '\'' s
  | .date d => escapeText "d" d.text
  | .time t => escapeText "t" t.text
  | .timestamp t => escapeText "ts" t.text
  | .geometry g => Text.quoted '\'' g.text
  | .box b => Text.quoted '\'' b.text
  | .list items => "(" ++ String.intercalate ", " (texts items) ++ ")"

/-- The literals of values in a row. -/
def texts : List Value → List String
  | [] => []
  | v :: rest => text v :: texts rest

end

/-- The value as plain text. -/
def plainText : Value → String
  | .string s => s
  | .date d => d.text
  | .time t => t.text
  | .timestamp t => t.text
  | .boolean b => if b then "true" else "false"
  | .geometry g => g.text
  | .box b => b.text
  | v => v.text

end TypedFilter.Value
