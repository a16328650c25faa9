import TypedFilter.Digits

/-!
The options of the command line.
-/

namespace TypedFilter.Command

/-- The options: two documents are named by their files. -/
structure Options where
  schema : Option String := none
  clause : String := ""
  records : Option String := none
  sortBy : List String := []
  limit : Option Nat := none
  offset : Nat := 0
  help : Bool := false
  deriving DecidableEq

/-- Why the options are not taken. -/
inductive OptionError where
  | unknown (argument : String)
  | missingValue (option : String)
  | badNumber (option : String) (value : String)
  deriving DecidableEq

/-- What the user is told. -/
def OptionError.message : OptionError → String
  | .unknown argument => "unexpected argument '" ++ argument ++ "' found"
  | .missingValue option => "a value is required for '" ++ option ++ "' but none was supplied"
  | .badNumber option value => "invalid value '" ++ value ++ "' for '" ++ option ++ "'"

/-- How the command is called. -/
def usage : String :=
  "Usage: typedfilter --schema <FILE> [--where <CLAUSE>] [--records <FILE>] " ++
    "[--order-by <KEY>]... [--limit <N>] [--offset <N>]"

/-- What an option sets. -/
inductive OptionName where
  | schema | clause | records | orderBy | limit | offset
  deriving DecidableEq

/-- The option that an argument names. -/
def OptionName.ofText? : String → Option OptionName
  | "--schema" | "-s" => some .schema
  | "--where" | "-w" => some .clause
  | "--records" | "-r" => some .records
  | "--order-by" | "-o" => some .orderBy
  | "--limit" | "-l" => some .limit
  | "--offset" => some .offset
  | _ => none

/-- A whole number written in digits. -/
def number? (s : String) : Option Nat :=
  if s.isEmpty || !s.all Char.isDigit then none else some (ofDigits s.toList)

/-- Sets an option. -/
def Options.set (o : Options) (option : String) (value : String) : OptionName →
    Except OptionError Options
  | .schema => .ok { o with schema := some value }
  | .clause => .ok { o with clause := value }
  | .records => .ok { o with records := some value }
  | .orderBy => .ok { o with sortBy := o.sortBy ++ [value] }
  | .limit =>
    match number? value with
    | some n => .ok { o with limit := some n }
    | none => .error (.badNumber option value)
  | .offset =>
    match number? value with
    | some n => .ok { o with offset := n }
    | none => .error (.badNumber option value)

/-- An argument that holds an option and its value, with a sign of equality between them. -/
def splitAssignment? (argument : String) : Option (String × String) :=
  let cs := argument.toList
  match cs.dropWhile (· != '=') with
  | '=' :: value => some (String.ofList (cs.takeWhile (· != '=')), String.ofList value)
  | _ => none

/-- Reads arguments after some that have been read. -/
def Options.read (o : Options) : List String → Except OptionError Options
  | [] => .ok o
  | "--help" :: _ | "-h" :: _ => .ok { o with help := true }
  | "--debug" :: rest | "-d" :: rest => o.read rest
  | argument :: rest =>
    match OptionName.ofText? argument with
    | some name =>
      match rest with
      | [] => .error (.missingValue argument)
      | value :: rest => do
        let o ← o.set argument value name
        o.read rest
    | none =>
      match splitAssignment? argument with
      | none => .error (.unknown argument)
      | some (option, value) =>
        match OptionName.ofText? option with
        | none => .error (.unknown argument)
        | some name => do
          let o ← o.set option value name
          o.read rest

end TypedFilter.Command
