import Subgraph.CommandLine.Help
import Subgraph.Federated.Service
import Subgraph.Options.Reader
import Subgraph.Yaml.Reader

/-!
# The command line

`auto-federate sdl SCHEMA` federates a schema file, `auto-federate service
--url URL` the service behind a URL.  Both take `--options FILE` and
`--print-options`.

* Options precede or follow the schema.  A value may be joined to its option by
  an equals sign, and it may not look like an option itself.
* Nothing may be given twice.
* Files are read before anything is federated, the schema first.
* A failure is told with its cause, where there is one.  A failure whose
  details are left open has no line end.
-/

namespace Subgraph

namespace CommandLine

/-! ## Arguments -/

/-- What is to be federated. -/
inductive Subject where
  | schemaFile (path : String)
  | service (url : String)

/-- What is to be done. -/
inductive Command where
  | federate (subject : Subject) (options : Option String) (printOptions : Bool)
  | version
  | help (topic : HelpTopic)

/-- The arguments of a subcommand as they come. -/
structure Given where
  /-- The schema. -/
  schema : Option String := none
  /-- The URL. -/
  url : Option String := none
  /-- The file with the options. -/
  options : Option String := none
  /-- Whether the options are printed. -/
  printOptions : Bool := false

/-- The name of an option and the value that is joined to it. -/
def splitOption (argument : String) : String × Option String :=
  let cs := argument.toList
  let name := String.ofList (cs.takeWhile (· ≠ '='))
  match cs.dropWhile (· ≠ '=') with
  | [] => (name, none)
  | _ :: value => (name, some (String.ofList value))

/-- Whether an argument looks like an option. -/
def isOption (argument : String) : Bool := argument.toList.head? = some '-' && argument ≠ "-"

/-- Whether an argument asks for something by a word, or by a letter behind one dash.  What follows
the letter does not count. -/
def asks (word : String) (letter : Char) (argument : String) : Bool :=
  argument = word ||
    match argument.toList with
    | '-' :: c :: _ => c = letter
    | _ => false

/-- The value of an option, joined to it or next, and the arguments that are left. -/
def takeValue (joined : Option String) (rest : List String) : Option (String × List String) :=
  match joined, rest with
  | some value, rest => some (value, rest)
  | none, next :: rest => if isOption next then none else some (next, rest)
  | none, [] => none

/-- A path, which is not empty. -/
def path? (text : String) : Option String := if text.isEmpty then none else some text

/-- Sets something that may be given once. -/
def once {α : Type} (given : Option α) (value : α) : Option (Option α) :=
  if given.isSome then none else some (some value)

/-- Reads the schema among the arguments of a subcommand. -/
def readPositional (takesSchema : Bool) (argument : String) (given : Given) : Option Given := do
  if takesSchema then
    let schema ← once given.schema (← path? argument)
    return { given with schema }
  else none

/-- Reads the arguments of a subcommand, none when they ask for help. -/
def readArguments (takesSchema : Bool) (arguments : List String) (given : Given) :
    Option (Option Given) :=
  match arguments with
  | [] => some (some given)
  | "--" :: rest =>
      (rest.foldlM (fun given argument => readPositional takesSchema argument given) given).map some
  | argument :: rest =>
      if isOption argument then
        let (name, joined) := splitOption argument
        if name = "--print-options" then
          if joined.isSome || given.printOptions then none
          else readArguments takesSchema rest { given with printOptions := true }
        else if name = "--options" then
          match takeValue joined rest with
          | some (value, last) =>
              if last.length ≤ rest.length then do
                let options ← once given.options (← path? value)
                readArguments takesSchema last { given with options }
              else none
          | none => none
        else if name = "--url" && !takesSchema then
          match takeValue joined rest with
          | some (value, last) =>
              if last.length ≤ rest.length then do
                let url ← once given.url value
                readArguments takesSchema last { given with url }
              else none
          | none => none
        else if asks "--help" 'h' argument then some none
        else none
      else do
        let given ← readPositional takesSchema argument given
        readArguments takesSchema rest given
termination_by arguments.length

/-- Reads a command, none when the arguments are none. -/
def Command.ofArguments? : List String → Option Command
  | "sdl" :: rest => do
      match ← readArguments true rest {} with
      | none => some (.help .sdl)
      | some given =>
          let path ← given.schema
          some (.federate (.schemaFile path) given.options given.printOptions)
  | "service" :: rest => do
      match ← readArguments false rest {} with
      | none => some (.help .service)
      | some given =>
          let url ← given.url
          some (.federate (.service url) given.options given.printOptions)
  | ["help"] => some (.help .program)
  | ["help", "sdl"] => some (.help .sdl)
  | ["help", "service"] => some (.help .service)
  | ["help", "help"] => some (.help .help)
  | "help" :: _ => none
  | argument :: _ =>
      if asks "--version" 'V' argument then some .version
      else if asks "--help" 'h' argument then some (.help .program)
      else none
  | [] => none

example : (Command.ofArguments? ["-Vh"]).isSome = true := by decide +kernel
example : (Command.ofArguments? ["service", "--url="]).isSome = true := by decide +kernel
example : (Command.ofArguments? ["service", "--url", "--options"]).isNone = true := by
  decide +kernel
example : (Command.ofArguments? ["sdl", "a", "--options=b", "--options", "c"]).isNone = true := by
  decide +kernel

/-! ## Failures -/

/-- Why a command failed. -/
inductive Failure where
  | unreadableSchema (place cause : String)
  | unreadableOptions (path cause : String)
  | faultyOptions (path : String) (fault : Yaml.Fault)
  | refusedOptions (path : String) (error : ConfigurationError)
  | notFederated (error : FederationError)

namespace Failure

/-- What went wrong. -/
def message : Failure → String
  | unreadableSchema place _ => "reading the schema from " ++ place
  | unreadableOptions path _ => "reading options from " ++ path
  | faultyOptions path _ => "invalid options in " ++ path
  | refusedOptions path _ => "invalid options in " ++ path
  | notFederated error => error.message

/-- What caused it. -/
def cause? : Failure → Option String
  | unreadableSchema _ cause => some cause
  | unreadableOptions _ cause => some cause
  | faultyOptions _ fault => some fault.message
  | refusedOptions _ error => some error.message
  | notFederated (.configuration error) => some error.message
  | notFederated _ => none

/-- Whether the details are left open. -/
def isOpen : Failure → Bool
  | notFederated .rejectedSchema => true
  | notFederated (.failedIntrospection url errors) =>
      errors.any fun error => error.message = Origin.malformedMessage url
  | _ => false

/-- A text with the lines after the first one indented. -/
def indented (text : String) : String :=
  String.ofList (text.toList.flatMap fun c => if c = '\n' then "\n    ".toList else [c])

/-- The text of a failure. -/
def text (failure : Failure) : String :=
  "Error: " ++ failure.message ++
    (match failure.cause? with
      | some cause => "\n\nCaused by:\n    " ++ indented cause
      | none => "") ++
    if failure.isOpen then "" else "\n"

end Failure

/-! ## Running -/

/-- What a command reads. -/
structure Sources where
  /-- The text of a file, or why it cannot be read. -/
  file : String → Except String String
  /-- The text of the standard input. -/
  input : Except String String

/-- How a command ends. -/
structure Outcome where
  /-- The exit code. -/
  exit : Nat := 0
  /-- What is written to the standard output. -/
  output : String := ""
  /-- What is written to the standard error output. -/
  errors : String := ""

/-- The text of a schema file. -/
def readSchema (sources : Sources) (path : String) : Except Failure String :=
  if path = "-" then sources.input.mapError (.unreadableSchema "stdin")
  else (sources.file path).mapError (.unreadableSchema path)

/-- The options in a file, if one is given. -/
def readOptions (sources : Sources) : Option String → Except Failure (Option Options)
  | none => .ok none
  | some path => do
      let text ← (sources.file path).mapError (.unreadableOptions path)
      let value ← (Yaml.ofText text).mapError (.faultyOptions path)
      let options ← (Options.ofJson value).mapError (.refusedOptions path)
      return some options

/-- Federates the schema in a file. -/
def federateFile (sources : Sources) (path : String) (options : Option String) :
    Except Failure FederatedService := do
  let text ← readSchema sources path
  let options ← readOptions sources options
  (Schema.federateText text .empty (options.getD .automatic)).mapError .notFederated

/-- Federates a file or a service. -/
def federate (sources : Sources) (subject : Subject) (options : Option String) :
    Exchange (Except Failure FederatedService) :=
  match subject with
  | .schemaFile path => return federateFile sources path options
  | .service url =>
      match readOptions sources options with
      | .error failure => return .error failure
      | .ok options => return (← Service.federate url options).mapError .notFederated

/-- What is printed of a federated service. -/
def printed (service : FederatedService) (printOptions : Bool) : String :=
  (if printOptions then service.options.toJson.pretty else service.schema) ++ "\n"

/-- Runs the program. -/
def run (sources : Sources) (arguments : List String) : Exchange Outcome :=
  match Command.ofArguments? arguments with
  | none => return { exit := 2 }
  | some (.help topic) => return { output := topic.text }
  | some .version => return { output := "auto-federate 0.1.0\n" }
  | some (.federate subject options printOptions) => do
      match ← federate sources subject options with
      | .ok service => return { output := printed service printOptions }
      | .error failure => return { exit := 1, errors := failure.text }

end CommandLine

end Subgraph
