import TypedFilter.Error
import TypedFilter.Sql.Token

/-!
Why a text is not in the grammar. Positions count characters from the start of the text.
-/

namespace TypedFilter.Sql

/-- The causes for which a text cannot be read. -/
inductive ReadError where
  | unexpectedChar (c : Char) (position : Nat)
  | unclosedString (start : Nat)
  | unclosedName (start : Nat)
  /-- No quoted text after the brace that opens a date or time. -/
  | unquotedMoment (start : Nat)
  | unclosedMoment (start : Nat)
  | unknownMoment (kind : String) (start : Nat)
  | unexpectedToken (found : Token)
  | expectedToken (wanted found : Token)
  | expectedIdentifier (found : Token)
  | expectedNumber (found : Token)
  | badNumber (digits : String)
  /-- The text in braces is no date or time. -/
  | badMoment (cause : FilterError)
  deriving DecidableEq, Repr

namespace ReadError

/-- What the user is told. -/
def message : ReadError → String
  | .unexpectedChar c position =>
    "Unexpected character '" ++ c.toString ++ "' at position " ++ natText position
  | .unclosedString start => "Unterminated string starting at position " ++ natText start
  | .unclosedName start =>
    "Unterminated quoted identifier starting at position " ++ natText start
  | .unquotedMoment start =>
    "Expected quoted text in escape literal at position " ++ natText start
  | .unclosedMoment start => "Unterminated escape literal starting at position " ++ natText start
  | .unknownMoment kind start =>
    "Unknown escape literal '\x7b" ++ kind ++ " ...\x7d' at position " ++ natText start
  | .unexpectedToken found => "Unexpected token: " ++ found.shown
  | .expectedToken wanted found => "Expected " ++ wanted.shown ++ ", found " ++ found.shown
  | .expectedIdentifier found => "Expected identifier, found " ++ found.shown
  | .expectedNumber found => "Expected number, found " ++ found.shown
  | .badNumber digits => "Invalid number: " ++ digits
  | .badMoment cause => cause.message

end ReadError

end TypedFilter.Sql
