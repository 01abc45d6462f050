import Subgraph.Language.BlockString
import Subgraph.Language.Value.Printer

/-!
# Documents as text

* Definitions are separated by an empty line, and a line feed ends the last
  one.
* What stands in braces has a line for each item, two spaces deeper.
* Arguments are defined on one line, unless one of them has a description.
  Then each has a line of its own, with a comma after it.
* A description stands on the lines before what it describes.
* A default value is spread over lines where its surroundings are: lists and
  objects have a line for each item, with a comma after it, and a string with
  a line feed is a block string where one can be written.
* Directives and the arguments of a selection are on one line.
-/

namespace Subgraph

namespace Layout

/-- The end of a line and the start of the next one at a depth. -/
def newLine (depth : Nat) : String := String.ofList ('\n' :: List.replicate (2 * depth) ' ')

/-- Items in braces, one to a line, or nothing when there is no item. -/
def braces (depth : Nat) (items : List String) : String :=
  if items.isEmpty then ""
  else " \x7b" ++ String.join (items.map (newLine (depth + 1) ++ ·)) ++ newLine depth ++ "\x7d"

/-- Items between brackets, one to a line, each with a comma after it. -/
def listed (opening closing : String) (depth : Nat) (items : List String) : String :=
  opening ++ String.join (items.map fun item => newLine (depth + 1) ++ item ++ ",") ++
    newLine depth ++ closing

/-- The longest text that a block string holds on one line, in UTF-8 bytes. -/
def blockWidth : Nat := 70

/-- A text as a block string. -/
def blockString (depth : Nat) (text : List Char) : String :=
  let escaped := BlockString.escaped text
  let last := text.getLast?
  if text.contains '\n' || blockWidth < (String.ofList text).utf8ByteSize ||
      last = some '"' || last = some '\\' then
    "\"\"\"" ++
      String.join ((BlockString.lines escaped).map fun line =>
        if line.isEmpty then "\n" else newLine depth ++ String.ofList line) ++
      newLine depth ++ "\"\"\""
  else "\"\"\"" ++ String.ofList escaped ++ "\"\"\""

/-- A description, and the start of the line that follows it. -/
def description (depth : Nat) : Option String → String
  | some text =>
      (if BlockString.isWritable text.toList then blockString depth text.toList
        else quotedString text) ++ newLine depth
  | none => ""

/-- A string inside a default value that is spread over lines. -/
def string (depth : Nat) (text : String) : String :=
  if text.toList.contains '\n' && BlockString.isWritable text.toList then
    blockString depth text.toList
  else quotedString text

end Layout

open Layout

namespace Value

mutual

/-- The text of a value that is spread over lines. -/
def textAt (depth : Nat) : Value → String
  | .string s => Layout.string depth s
  | .list items =>
      if items.isEmpty then "[]" else listed "[" "]" depth (textAllAt (depth + 1) items)
  | .object fields =>
      if fields.isEmpty then "\x7b\x7d"
      else listed "\x7b" "\x7d" depth (textInAt (depth + 1) fields)
  | .null => "null"
  | .boolean true => "true"
  | .boolean false => "false"
  | .int literal => literal.text
  | .float literal => literal.text
  | .enumerated name => name.text
  | .variable name => "$" ++ name.text

/-- The texts of some values that are spread over lines. -/
def textAllAt (depth : Nat) : List Value → List String
  | [] => []
  | item :: rest => item.textAt depth :: textAllAt depth rest

/-- The texts of some fields that are spread over lines. -/
def textInAt (depth : Nat) : List (Name × Value) → List String
  | [] => []
  | (name, value) :: rest => (name.text ++ ": " ++ value.textAt depth) :: textInAt depth rest

end

end Value

/-- Applied directives, each after a space. -/
def directivesText (directives : List Directive) : String :=
  String.join (directives.map fun directive => " " ++ directive.text)

/-- Arguments between parentheses, if there are any. -/
def argumentsText (arguments : List (Name × Value)) : String :=
  if arguments.isEmpty then "" else "(" ++ ", ".intercalate (Value.textIn arguments) ++ ")"

/-! ## Types -/

namespace InputValueDefinition

/-- The text of an argument or an input field on one line. -/
def text (value : InputValueDefinition) : String :=
  value.name.text ++ ": " ++ value.type.text ++
    (match value.defaultValue with
      | some default => " = " ++ default.text
      | none => "") ++
    directivesText value.directives

/-- The text of an argument or an input field that may be spread over lines. -/
def textAt (depth : Nat) (value : InputValueDefinition) : String :=
  Layout.description depth value.description ++ value.name.text ++ ": " ++ value.type.text ++
    (match value.defaultValue with
      | some default => " = " ++ default.textAt depth
      | none => "") ++
    directivesText value.directives

/-- The text of argument definitions between parentheses, if there are any. -/
def argumentsAt (depth : Nat) (arguments : List InputValueDefinition) : String :=
  if arguments.isEmpty then ""
  else if arguments.any fun argument => argument.description.isSome then
    listed "(" ")" depth (arguments.map (textAt (depth + 1)))
  else "(" ++ ", ".intercalate (arguments.map text) ++ ")"

end InputValueDefinition

namespace FieldDefinition

/-- The text of a field. -/
def textAt (depth : Nat) (field : FieldDefinition) : String :=
  Layout.description depth field.description ++ field.name.text ++
    InputValueDefinition.argumentsAt depth field.arguments ++ ": " ++ field.type.text ++
    directivesText field.directives

end FieldDefinition

namespace EnumValueDefinition

/-- The text of a value of an enum. -/
def textAt (depth : Nat) (value : EnumValueDefinition) : String :=
  Layout.description depth value.description ++ value.name.text ++ directivesText value.directives

end EnumValueDefinition

namespace TypeBody

/-- What stands between the name and the directives of a type. -/
def interfacesText : TypeBody → String
  | object interfaces _ | interface interfaces _ =>
      if interfaces.isEmpty then ""
      else " implements " ++ " & ".intercalate (interfaces.map Name.text)
  | scalar | union _ | enum _ | input _ => ""

/-- What stands after the directives of a type. -/
def itemsText : TypeBody → String
  | scalar => ""
  | object _ fields | interface _ fields => braces 0 (fields.map (FieldDefinition.textAt 1))
  | union members =>
      if members.isEmpty then "" else " = " ++ " | ".intercalate (members.map Name.text)
  | enum values => braces 0 (values.map (EnumValueDefinition.textAt 1))
  | input fields => braces 0 (fields.map (InputValueDefinition.textAt 1))

end TypeBody

namespace TypeDefinition

/-- The text of a type without its description. -/
def text (type : TypeDefinition) : String :=
  type.body.keyword ++ " " ++ type.name.text ++ type.body.interfacesText ++
    directivesText type.directives ++ type.body.itemsText

end TypeDefinition

namespace DirectiveDefinition

/-- The text of a directive definition without its description. -/
def text (directive : DirectiveDefinition) : String :=
  "directive @" ++ directive.name.text ++
    InputValueDefinition.argumentsAt 0 directive.arguments ++
    (if directive.repeatable then " repeatable" else "") ++
    (if directive.locations.isEmpty then ""
      else " on " ++ " | ".intercalate (directive.locations.map DirectiveLocation.text))

end DirectiveDefinition

namespace SchemaDefinition

/-- The text of a schema definition without its description. -/
def text (schema : SchemaDefinition) : String :=
  "schema" ++ directivesText schema.directives ++
    braces 0 (schema.roots.map fun root => root.1.text ++ ": " ++ root.2.text)

end SchemaDefinition

/-! ## Operations and fragments -/

/-- The text of a type condition. -/
def conditionText (type : Name) : String := " on " ++ type.text

namespace Selection

mutual

/-- The text of a selection. -/
def textAt (depth : Nat) : Selection → String
  | .field key name arguments directives selections =>
      (match key with
        | some key => key.text ++ ": "
        | none => "") ++
      name.text ++ argumentsText arguments ++ directivesText directives ++
        braces depth (textAllAt (depth + 1) selections)
  | .spread fragment directives => "..." ++ fragment.text ++ directivesText directives
  | .inline type directives selections =>
      "..." ++
      (match type with
        | some type => conditionText type
        | none => "") ++
      directivesText directives ++ braces depth (textAllAt (depth + 1) selections)

/-- The texts of some selections. -/
def textAllAt (depth : Nat) : List Selection → List String
  | [] => []
  | selection :: rest => selection.textAt depth :: textAllAt depth rest

end

end Selection

namespace VariableDefinition

/-- The text of a variable definition. -/
def text (definition : VariableDefinition) : String :=
  "$" ++ definition.name.text ++ ": " ++ definition.type.text ++
    (match definition.defaultValue with
      | some default => " = " ++ default.text
      | none => "") ++
    directivesText definition.directives

end VariableDefinition

namespace Operation

/-- The text of an operation.  A query with nothing but selections is written without a word. -/
def text (operation : Operation) : String :=
  let defined := operation.variableDefinitions.map VariableDefinition.text
  let inParentheses := if defined.isEmpty then "" else "(" ++ ", ".intercalate defined ++ ")"
  let name := (operation.name.map fun name => " " ++ name.text).getD ""
  let head := name ++ inParentheses ++ directivesText operation.directives
  let items := braces 0 (Selection.textAllAt 1 operation.selections)
  if operation.kind = .query && head.isEmpty then String.ofList (items.toList.drop 1)
  else operation.kind.text ++ head ++ items

end Operation

namespace Fragment

/-- The text of a fragment. -/
def text (fragment : Fragment) : String :=
  "fragment " ++ fragment.name.text ++ conditionText fragment.typeCondition ++
    directivesText fragment.directives ++ braces 0 (Selection.textAllAt 1 fragment.selections)

end Fragment

/-! ## Documents -/

namespace Definition

/-- The text of a definition. -/
def text : Definition → String
  | .operation defined => defined.text
  | .fragment defined => defined.text
  | .schema defined => Layout.description 0 defined.description ++ defined.text
  | .type defined => Layout.description 0 defined.description ++ defined.text
  | .directive defined => Layout.description 0 defined.description ++ defined.text
  | .extendSchema extension => "extend " ++ extension.text
  | .extendType extension => "extend " ++ extension.text

end Definition

namespace Document

/-- The text of a document. -/
def text (document : Document) : String :=
  "\n".intercalate (document.map fun definition => definition.text ++ "\n")

end Document

end Subgraph
