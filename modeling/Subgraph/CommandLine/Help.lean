/-!
# Help pages

What the command line tells about itself: a page for the program and one for
each of its subcommands.

* A page is what the subject does, how it is called, and sections.
* The texts of a section start in one column, two blanks behind its longest
  label.
* An option without a letter stands where the words of the others do.
-/

namespace Subgraph

namespace CommandLine

/-- What a page is about. -/
inductive HelpTopic where
  | program
  | sdl
  | service
  | help

namespace HelpTopic

/-! ## Pages -/

/-- A part of a page: a title, and labels with their texts. -/
structure Section where
  /-- The title. -/
  title : String
  /-- The labels and their texts. -/
  entries : List (String × String)

/-- The lines of a section. -/
def Section.lines (part : Section) : List String :=
  let width := (part.entries.map fun entry => entry.1.length).foldl max 0
  (part.title ++ ":") :: part.entries.map fun (label, text) =>
    "  " ++ label ++ String.ofList (List.replicate (width - label.length + 2) ' ') ++ text

/-- The text of a page. -/
def page (purpose usage : String) (parts : List Section) : String :=
  let blocks := [purpose] :: [("Usage: auto-federate " ++ usage)] :: parts.map Section.lines
  "\n\n".intercalate (blocks.map fun lines => "\n".intercalate lines) ++ "\n"

/-! ## What they say -/

/-- What a topic does. -/
def purpose : HelpTopic → String
  | program => "CLI arguments. See <https://docs.rs/clap/latest/clap/_derive/index.html>"
  | sdl => "Federates a schema file"
  | service => "Federates a running GraphQL service, read through introspection"
  | help => "Print this message or the help of the given subcommand(s)"

/-- The option that asks for help. -/
def helpOption : String × String := ("-h, --help", "Print help")

/-- The options that every way to federate takes. -/
def outputOptions : List (String × String) :=
  [("    --options <OPTIONS>",
      "Federation options, as a YAML or JSON file. Auto synthesis is enabled when omitted"),
    ("    --print-options",
      "Print the effective options as JSON instead of the federated schema")]

/-- How a topic is called. -/
def usage : HelpTopic → String
  | program => "<COMMAND>"
  | sdl => "sdl [OPTIONS] <SCHEMA>"
  | service => "service [OPTIONS] --url <URL>"
  | help => "help [COMMAND]..."

/-- The sections of a topic. -/
def sections : HelpTopic → List Section
  | program =>
      [⟨"Commands", [("sdl", purpose sdl), ("service", purpose service), ("help", purpose help)]⟩,
        ⟨"Options", [helpOption, ("-V, --version", "Print version")]⟩]
  | sdl =>
      [⟨"Arguments", [("<SCHEMA>", "The path to the schema file, or \x60-\x60 for stdin")]⟩,
        ⟨"Options", outputOptions ++ [helpOption]⟩]
  | service =>
      [⟨"Options",
        ("    --url <URL>", "The GraphQL endpoint of the service") ::
          outputOptions ++ [helpOption]⟩]
  | help => [⟨"Arguments", [("[COMMAND]...", "Print help for the subcommand(s)")]⟩]

/-- The page about a topic. -/
def text (topic : HelpTopic) : String := page topic.purpose topic.usage topic.sections

example : text help =
    "Print this message or the help of the given subcommand(s)\n\n" ++
      "Usage: auto-federate help [COMMAND]...\n\n" ++
      "Arguments:\n  [COMMAND]...  Print help for the subcommand(s)\n" := by decide +kernel

end HelpTopic

end CommandLine

end Subgraph
