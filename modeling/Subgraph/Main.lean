import Subgraph.CommandLine

/-!
# The program

Reads the files that a command names, runs the command and prints what comes
out.  The program has no network, so no service takes a connection.
-/

open Subgraph

/-- Why a file cannot be read. -/
def readFailure : IO.Error → String
  | .noFileOrDirectory .. => "No such file or directory (os error 2)"
  | .permissionDenied .. => "Permission denied (os error 13)"
  | .inappropriateType (some _) .. => "Not a directory (os error 20)"
  | .inappropriateType none .. => "Is a directory (os error 21)"
  | error => toString error

/-- The text that bytes encode. -/
def decoded (bytes : ByteArray) : Except String String :=
  match String.fromUTF8? bytes with
  | some text => .ok text
  | none => .error "stream did not contain valid UTF-8"

/-- The text of a file, or why it cannot be read. -/
def readText (path : String) : IO (Except String String) := do
  try
    return decoded (← IO.FS.readBinFile path)
  catch error => return .error (readFailure error)

/-- The text of the standard input. -/
def readInput : IO (Except String String) := do
  return decoded (← (← IO.getStdin).readBinToEnd)

/-- The files that a command names. -/
def namedFiles : Option CommandLine.Command → List String
  | some (.federate (.schemaFile path) options _) =>
      (if path = "-" then [] else [path]) ++ options.toList
  | some (.federate (.service _) options _) => options.toList
  | some .version | some (.help _) | none => []

/-- Whether a command reads its schema from the standard input. -/
def readsInput : Option CommandLine.Command → Bool
  | some (.federate (.schemaFile path) _ _) => path = "-"
  | _ => false

/-- The texts that a command reads. -/
def readSources (command : Option CommandLine.Command) : IO CommandLine.Sources := do
  let files ← (namedFiles command).mapM fun path => do return (path, ← readText path)
  let input ← if readsInput command then readInput else pure (.ok "")
  return {
    file := fun path => (files.lookup path).getD (.error "")
    input }

/-- The command line. -/
def main (arguments : List String) : IO UInt32 := do
  let sources ← readSources (CommandLine.Command.ofArguments? arguments)
  let (outcome, _) := (CommandLine.run sources arguments).run { isListening := false }
  IO.print outcome.output
  IO.eprint outcome.errors
  return outcome.exit.toUInt32
