import TypedFilter.Command.Options
import TypedFilter.Command.Session

/-!
The program: it reads the files that the options name and shows what the command makes of them.
-/

namespace TypedFilter.Command

/-- The contents of a file, or the failure to read it. -/
def readFileAs (kind path : String) : IO (Except Failure String) := do
  try
    return .ok (← IO.FS.readFile path)
  catch e =>
    return .error ⟨"Failed to read " ++ kind ++ " file " ++ path, [toString e]⟩

/-- Shows an outcome; the answer is the exit code. -/
def showOutcome (outcome : Outcome) : IO UInt32 := do
  for line in outcome.lines do
    IO.println line
  match outcome.failure with
  | none => return 0
  | some f =>
    IO.eprintln f.text
    return 1

/-- Runs the command on files. -/
def runOptions (o : Options) (schemaPath : String) : IO UInt32 := do
  match ← readFileAs "schema" schemaPath with
  | .error f => showOutcome ⟨[], some f⟩
  | .ok schema =>
    let request : Request :=
      { schema, clause := o.clause, sortBy := o.sortBy, limit := o.limit, offset := o.offset }
    match o.records with
    | none => showOutcome request.run
    | some path =>
      match ← readFileAs "records" path with
      | .ok records => showOutcome { request with records := some records }.run
      | .error f =>
        let outcome := request.run
        showOutcome { outcome with failure := outcome.failure <|> some f }

/-- Says why the options are not taken. -/
def refuse (reason : String) : IO UInt32 := do
  IO.eprintln ("error: " ++ reason ++ "\n\n" ++ usage)
  return 2

/-- Runs the program on its arguments. -/
def runArguments (args : List String) : IO UInt32 := do
  match Options.read {} args with
  | .error e => refuse e.message
  | .ok o =>
    if o.help then
      IO.println usage
      return 0
    else match o.schema with
      | none => refuse "a schema is required"
      | some path => runOptions o path

end TypedFilter.Command

/-- Runs the program. -/
def main (args : List String) : IO UInt32 :=
  TypedFilter.Command.runArguments args
