import Subgraph.Federated.Declaration
import Subgraph.Federated.LineWriter
import Subgraph.Language.Value.Printer
import Subgraph.Options.TypeOptions
import Subgraph.Text.Blank

/-!
# Federated schema texts

The text of a federated schema: declarations one after the other, under the
options of their types.

* A declaration says `extend` in front when the options do.
* A type has its own directives, then those of the options.  A field has only
  those of the options.
* Directives of the options stand as they were given, without the blanks
  around them.
* Fields and values have a line each, two spaces deep.  The members of a union
  have one line together.
-/

namespace Subgraph

/-- The default of an argument or an input field, after an equals sign. -/
def defaultText : Option Value → String
  | some value => " = " ++ value.text
  | none => ""

/-- The directives of options, after a space. -/
def optionText : Option String → String
  | some text =>
      let trimmed := Text.trim text
      if trimmed.isEmpty then "" else " " ++ trimmed
  | none => ""

namespace InputDeclaration

/-- The text of an argument or an input field. -/
def text (input : InputDeclaration) : String :=
  input.name.text ++ ": " ++ input.type.text ++ defaultText input.defaultValue

end InputDeclaration

namespace FieldDeclaration

/-- The text of a field. -/
def text (field : FieldDeclaration) : String :=
  field.name.text ++
    (if field.arguments.isEmpty then ""
      else " (" ++ ", ".intercalate (field.arguments.map InputDeclaration.text) ++ ")") ++
    ": " ++ field.type.text

end FieldDeclaration

namespace TypeOptions

/-- The directives that options give to a field, after a space. -/
def fieldText (options : TypeOptions) (field : Name) : String :=
  optionText ((options.fields.find? field.text).bind (·.directives))

end TypeOptions

namespace Declaration

/-- The line that introduces a declaration. -/
def header (declaration : Declaration) (options : TypeOptions) : String :=
  (if options.extend = some true then "extend " else "") ++
    declaration.body.keyword ++ " " ++ declaration.name.text ++
    String.join (declaration.directives.map fun directive => " " ++ directive.text) ++
    optionText options.directives

/-- Writes a declaration on lines of its own. -/
def write (declaration : Declaration) (options : TypeOptions) (writer : LineWriter) :
    LineWriter :=
  let writer := writer.newLine.write (declaration.header options)
  match declaration.body with
  | .object fields =>
      ((writer.write " \x7b").block fields fun field =>
        field.text ++ options.fieldText field.name).write "\x7d"
  | .input fields =>
      ((writer.write " \x7b").block fields fun field =>
        field.text ++ options.fieldText field.name).write "\x7d"
  | .enum values => ((writer.write " \x7b").block values Name.text).write "\x7d"
  | .union members =>
      let writer := writer.write " ="
      if members.isEmpty then writer
      else writer.newLine.write (" | ".intercalate (members.map Name.text))
  | .scalar => writer

end Declaration

namespace Sdl

/-- The text of declarations under the options of their types. -/
def render (declarations : List Declaration) (types : OrderedMap String TypeOptions) : String :=
  (declarations.foldl (fun writer declaration =>
    declaration.write ((types.find? declaration.name.text).getD {}) writer)
    ({} : LineWriter)).text

end Sdl

end Subgraph
