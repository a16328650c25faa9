import TypedFilter.Sql.Token
import TypedFilter.Text.Quoted

/-!
Names of columns and tables as they stand in statements.
-/

namespace TypedFilter.Sql

/-- Whether a name can stand in a statement as it is: an ASCII word that is no keyword. -/
def isPlainName (name : String) : Bool :=
  match name.toList with
  | [] => false
  | c :: rest =>
    (c.isAlpha || c == '_') && rest.all (fun c => c.isAlphanum || c == '_') &&
      (Keyword.ofWord? name).isNone

/-- The name in a statement, between double quotes unless it can stand as it is. -/
def quoteName (name : String) : String :=
  if isPlainName name then name else Text.quoted '"' name

end TypedFilter.Sql
