import Subgraph.Language.Document
import Subgraph.Language.Reading
import Subgraph.Language.Token.Lexer

/-!
# Reading documents

The grammar of the language, as readings of lexeme lists.

* A list in brackets or braces, other than a list value or an object value,
  has at least one item.
* A definition may leave out its body.  An extension may not leave out
  everything, but one of the schema that has directives may have empty braces.
* A description may stand before a type system definition and before what is
  inside one, but not before an extension, an operation or a fragment.
* A value in a type system definition has no variable in it.
* An argument or an object field without a value, and a root operation without
  a type, are read and count for nothing.
* No comma may stand between a description and the word that it is for, after
  the word `extend`, after a spread, or before the colon of an alias.
* Nothing is nested deeper than 500 levels.  The items of lists, the fields of
  objects, the items of list types and selections in braces are one level deeper
  than what they are in.

`Document.ofText?` reads a whole document, which has at least one definition.
-/

namespace Subgraph

namespace Reading

/-- How deep values, types and selections may be nested. -/
def nestingLimit : Nat := 500

/-! ## Values -/

/-- The value that a bare name stands for. -/
def namedValue (name : Name) : Value :=
  if name.text = "null" then .null
  else if name.text = "true" then .boolean true
  else if name.text = "false" then .boolean false
  else .enumerated name

mutual

/-- Reads a value with some levels inside it.  A constant one has no variable. -/
def value (constant : Bool) (levels : Nat) (tokens : List Lexeme) :
    Option (Value × List Lexeme) :=
  match tokens with
  | ⟨.int literal, _⟩ :: rest => some (.int literal, rest)
  | ⟨.float literal, _⟩ :: rest => some (.float literal, rest)
  | ⟨.string text, _⟩ :: rest => some (.string text, rest)
  | ⟨.name name, _⟩ :: rest => some (namedValue name, rest)
  | ⟨.punctuator .dollar, _⟩ :: ⟨.name name, _⟩ :: rest =>
      if constant then none else some (.variable name, rest)
  | ⟨.punctuator .openBracket, _⟩ :: rest =>
      (listItems constant levels rest).map fun (items, rest) => (.list items, rest)
  | ⟨.punctuator .openBrace, _⟩ :: rest =>
      (objectFields constant levels rest).map fun (fields, rest) => (.object fields, rest)
  | _ => none
termination_by 2 * tokens.length

/-- Reads the items of a list and its closing bracket. -/
def listItems (constant : Bool) (levels : Nat) (tokens : List Lexeme) :
    Option (List Value × List Lexeme) :=
  match tokens, levels with
  | ⟨.punctuator .closeBracket, _⟩ :: rest, _ => some ([], rest)
  | _, 0 => none
  | tokens, inner + 1 => do
      let (item, rest) ← value constant inner tokens
      if rest.length < tokens.length then
        let (items, last) ← listItems constant (inner + 1) rest
        some (item :: items, last)
      else none
termination_by 2 * tokens.length + 1

/-- Reads the fields of an object and its closing brace. -/
def objectFields (constant : Bool) (levels : Nat) (tokens : List Lexeme) :
    Option (List (Name × Value) × List Lexeme) :=
  match tokens, levels with
  | ⟨.punctuator .closeBrace, _⟩ :: rest, _ => some ([], rest)
  | _, 0 => none
  | ⟨.name name, _⟩ :: ⟨.punctuator .colon, _⟩ :: rest, inner + 1 => do
      let (item, after) ← value constant inner rest
      if after.length ≤ rest.length then
        let (fields, last) ← objectFields constant (inner + 1) after
        some ((name, item) :: fields, last)
      else none
  | ⟨.name _, _⟩ :: rest, inner + 1 => objectFields constant (inner + 1) rest
  | _, _ => none
termination_by 2 * tokens.length + 1

end

/-! ## Types -/

/-- Reads a reference to a type with some levels inside it. -/
def typeReference (levels : Nat) : List Lexeme → Option (TypeReference × List Lexeme)
  | ⟨.name name, _⟩ :: ⟨.punctuator .bang, _⟩ :: rest => some (.named name true, rest)
  | ⟨.name name, _⟩ :: rest => some (.named name false, rest)
  | ⟨.punctuator .openBracket, _⟩ :: rest =>
      match levels with
      | 0 => none
      | inner + 1 => do
          let (item, after) ← typeReference inner rest
          match after with
          | ⟨.punctuator .closeBracket, _⟩ :: ⟨.punctuator .bang, _⟩ :: last =>
              some (.list item true, last)
          | ⟨.punctuator .closeBracket, _⟩ :: last => some (.list item false, last)
          | _ => none
  | _ => none

/-! ## Arguments and directives -/

/-- Reads one argument, none when it has no value. -/
def argument (constant : Bool) (levels : Nat) : Reading (Option (Name × Value)) := do
  let argumentName ← name
  if ← takes .colon then
    let argumentValue ← value constant levels
    return some (argumentName, argumentValue)
  else return none

/-- Reads arguments between parentheses, if there are any. -/
def arguments (constant : Bool) (levels : Nat) : Reading (List (Name × Value)) := do
  let read ← optionalBetween .openParen .closeParen (argument constant levels)
  return read.filterMap id

/-- Reads a directive, after its sign. -/
def directive (constant : Bool) (levels : Nat) : Reading Directive := do
  let directiveName ← name
  let directiveArguments ← arguments constant levels
  return { name := directiveName, arguments := directiveArguments }

/-- Reads directives, as long as there is one. -/
def directives (constant : Bool) (levels : Nat) : Reading (List Directive) :=
  afterSeparators .atSign (directive constant levels)

/-- Reads the directives of a part of the type system. -/
def constantDirectives : Reading (List Directive) := directives true nestingLimit

/-! ## Parts of type definitions -/

/-- Reads a default value, if there is one. -/
def defaultValue? : Reading (Option Value) := do
  if ← takes .equals then
    let default ← value true nestingLimit
    return some default
  else return none

/-- Reads an argument definition or a field of an input object. -/
def inputValueDefinition : Reading InputValueDefinition := do
  let description ← string?
  let inputName ← name
  expect .colon
  let type ← typeReference nestingLimit
  let defaultValue ← defaultValue?
  let applied ← constantDirectives
  return { description, name := inputName, type, defaultValue, directives := applied }

/-- Reads argument definitions between parentheses, if there are any. -/
def argumentDefinitions : Reading (List InputValueDefinition) :=
  optionalBetween .openParen .closeParen inputValueDefinition

/-- Reads a field of an object or an interface. -/
def fieldDefinition : Reading FieldDefinition := do
  let description ← string?
  let fieldName ← name
  let arguments ← argumentDefinitions
  expect .colon
  let type ← typeReference nestingLimit
  let applied ← constantDirectives
  return { description, name := fieldName, arguments, type, directives := applied }

/-- Takes a name that is no literal. -/
def enumName : Reading Name := do
  let found ← name
  if found.text = "true" ∨ found.text = "false" ∨ found.text = "null" then failure
  else return found

/-- Reads a value of an enum. -/
def enumValueDefinition : Reading EnumValueDefinition := do
  let description ← string?
  let valueName ← enumName
  let applied ← constantDirectives
  return { description, name := valueName, directives := applied }

/-- Reads the interfaces of an object or an interface, if there are any. -/
def interfaces : Reading (List Name) := do
  if ← takesWord "implements" then separated .ampersand name else return []

/-- Reads what follows the name of an object or an interface. -/
def fieldsPart (body : List Name → List FieldDefinition → TypeBody) :
    Reading (List Directive × TypeBody) := do
  let implemented ← interfaces
  let applied ← constantDirectives
  let fields ← optionalBetween .openBrace .closeBrace fieldDefinition
  return (applied, body implemented fields)

/-- Reads what follows the name of a union. -/
def unionPart : Reading (List Directive × TypeBody) := do
  let applied ← constantDirectives
  if ← takes .equals then
    let members ← separated .pipe name
    return (applied, .union members)
  else return (applied, .union [])

/-- Reads what follows the name of an enum. -/
def enumPart : Reading (List Directive × TypeBody) := do
  let applied ← constantDirectives
  let values ← optionalBetween .openBrace .closeBrace enumValueDefinition
  return (applied, .enum values)

/-- Reads what follows the name of an input object. -/
def inputPart : Reading (List Directive × TypeBody) := do
  let applied ← constantDirectives
  let fields ← optionalBetween .openBrace .closeBrace inputValueDefinition
  return (applied, .input fields)

/-- Reads what follows the name of a scalar. -/
def scalarPart : Reading (List Directive × TypeBody) := do
  let applied ← constantDirectives
  return (applied, .scalar)

/-- The reading of what follows the name of a type, by the word in front of the name. -/
def typePart? (keyword : String) : Option (Reading (List Directive × TypeBody)) :=
  if keyword = "scalar" then some scalarPart
  else if keyword = "type" then some (fieldsPart .object)
  else if keyword = "interface" then some (fieldsPart .interface)
  else if keyword = "union" then some unionPart
  else if keyword = "enum" then some enumPart
  else if keyword = "input" then some inputPart
  else none

/-- The kind of an operation, by its word. -/
def operationKind? (keyword : String) : Option OperationKind :=
  OperationKind.all.find? fun kind => kind.text = keyword

/-- Reads a root operation, none when it has no type. -/
def rootType : Reading (Option (OperationKind × Name)) := do
  let keyword ← name
  expect .colon
  let type ← name?
  match operationKind? keyword.text with
  | some kind => return type.map fun type => (kind, type)
  | none => failure

/-! ## Selections -/

mutual

/-- Reads what is selected between braces, with some levels inside. -/
def selectionSet (levels : Nat) (tokens : List Lexeme) :
    Option (List Selection × List Lexeme) :=
  match tokens, levels with
  | ⟨.punctuator .openBrace, _⟩ :: rest, inner + 1 => selections inner rest
  | _, _ => none
termination_by 3 * tokens.length

/-- Reads at least one selection, up to and with the closing brace. -/
def selections (levels : Nat) (tokens : List Lexeme) :
    Option (List Selection × List Lexeme) := do
  let (first, rest) ← selection levels tokens
  if rest.length < tokens.length then
    match rest with
    | ⟨.punctuator .closeBrace, _⟩ :: after => some ([first], after)
    | _ => do
        let (others, last) ← selections levels rest
        some (first :: others, last)
  else none
termination_by 3 * tokens.length + 2

/-- Reads one selection. -/
def selection (levels : Nat) (tokens : List Lexeme) :
    Option (Selection × List Lexeme) := do
  match tokens with
  | ⟨.punctuator .spread, _⟩ :: ⟨.name name, false⟩ :: rest =>
      if name.text = "on" then
        match rest with
        | ⟨.name type, _⟩ :: rest => do
            let (applied, after) ← directives false levels rest
            if after.length ≤ rest.length then
              let (inside, last) ← selectionSet levels after
              some (.inline (some type) applied inside, last)
            else none
        | _ => none
      else do
        let (applied, after) ← directives false levels rest
        some (.spread name applied, after)
  | ⟨.punctuator .spread, _⟩ :: ⟨next, false⟩ :: rest => do
      let (applied, after) ← directives false levels (⟨next, false⟩ :: rest)
      if after.length ≤ rest.length + 1 then
        let (inside, last) ← selectionSet levels after
        some (.inline none applied inside, last)
      else none
  | ⟨.name name, _⟩ :: rest => do
      let (key, field, rest') ← (match rest with
        | ⟨.punctuator .colon, false⟩ :: ⟨.name field, _⟩ :: rest => some (some name, field, rest)
        | ⟨.punctuator .colon, false⟩ :: _ => none
        | rest => some (none, name, rest))
      let (given, after) ← arguments false levels rest'
      let (applied, after) ← directives false levels after
      if after.length ≤ rest.length then
        match after with
        | ⟨.punctuator .openBrace, _⟩ :: _ => do
            let (inside, last) ← selectionSet levels after
            some (.field key field given applied inside, last)
        | after => some (.field key field given applied [], after)
      else none
  | _ => none
termination_by 3 * tokens.length + 1

end

/-- Reads a variable of an operation. -/
def variableDefinition : Reading VariableDefinition := do
  expect .dollar
  let variableName ← name
  expect .colon
  let type ← typeReference nestingLimit
  let defaultValue ← defaultValue?
  let applied ← constantDirectives
  return { name := variableName, type, defaultValue, directives := applied }

/-- Reads an operation, after the word for its kind. -/
def operation (kind : OperationKind) : Reading Operation := do
  let operationName ← name?
  let variableDefinitions ← optionalBetween .openParen .closeParen variableDefinition
  let applied ← directives false nestingLimit
  let selected ← selectionSet nestingLimit
  return {
    kind, name := operationName, variableDefinitions, directives := applied
    selections := selected }

/-- Reads a fragment, after its word. -/
def fragment : Reading Fragment := do
  let fragmentName ← name
  if fragmentName.text = "on" then failure
  word "on"
  let typeCondition ← name
  let applied ← directives false nestingLimit
  let selected ← selectionSet nestingLimit
  return { name := fragmentName, typeCondition, directives := applied, selections := selected }

/-! ## Definitions -/

/-- Reads a directive definition, after its word. -/
def directiveDefinition (description : Option String) : Reading DirectiveDefinition := do
  expect .atSign
  let directiveName ← name
  let arguments ← argumentDefinitions
  let repeatable ← takesWord "repeatable"
  word "on"
  let places ← separated .pipe name
  match places.mapM fun place => DirectiveLocation.ofText? place.text with
  | some locations =>
      return { description, name := directiveName, arguments, repeatable, locations }
  | none => failure

/-- Reads a definition of the type system, after its first word. -/
def typeSystemDefinition (description : Option String) (keyword : String) :
    Reading Definition := do
  if keyword = "schema" then
    let applied ← constantDirectives
    let roots ← optionalBetween .openBrace .closeBrace rootType
    return .schema { description, directives := applied, roots := roots.filterMap id }
  else if keyword = "directive" then
    let defined ← directiveDefinition description
    return .directive defined
  else
    match typePart? keyword with
    | some part =>
        let typeName ← name
        let (applied, body) ← part
        return .type { description, name := typeName, directives := applied, body }
    | none => failure

/-- Reads the root operations of an extension, if there are any, perhaps none in braces. -/
def addedRoots : Reading (List (Option (OperationKind × Name)))
  | ⟨.punctuator .openBrace, _⟩ :: ⟨.punctuator .closeBrace, _⟩ :: rest => some ([], rest)
  | tokens => optionalBetween .openBrace .closeBrace rootType tokens

/-- Reads an extension, after its first word. -/
def extension : Reading Definition := do
  noComma
  let keyword ← name
  if keyword.text = "schema" then
    let applied ← constantDirectives
    let roots ← addedRoots
    if applied.isEmpty && roots.isEmpty then failure
    return .extendSchema { directives := applied, roots := roots.filterMap id }
  else
    match typePart? keyword.text with
    | some part =>
        let typeName ← name
        let (applied, body) ← part
        if applied.isEmpty && body.isEmpty then failure
        return .extendType { name := typeName, directives := applied, body }
    | none => failure

/-- Reads one definition. -/
def definition : Reading Definition := do
  match ← string? with
  | some description =>
      noComma
      let keyword ← name
      typeSystemDefinition (some description) keyword.text
  | none =>
      if ← isNext .openBrace then
        let selected ← selectionSet nestingLimit
        return .operation { selections := selected }
      else
        let keyword ← name
        if keyword.text = "extend" then extension
        else if keyword.text = "fragment" then
          let read ← fragment
          return .fragment read
        else
          match operationKind? keyword.text with
          | some kind =>
              let read ← operation kind
              return .operation read
          | none => typeSystemDefinition none keyword.text

/-- Reads definitions as long as there are lexemes. -/
def definitions (tokens : List Lexeme) : Option (List Definition) := do
  let (first, rest) ← definition tokens
  if rest.isEmpty then some [first]
  else if rest.length < tokens.length then
    let others ← definitions rest
    some (first :: others)
  else none
termination_by tokens.length

end Reading

namespace Document

/-- The document that a text holds. -/
def ofText? (text : String) : Option Document := Token.ofText? text >>= Reading.definitions

example : (ofText? "schema \x7b query: \x7d scalar Date @format(iso)").isSome = true := by
  decide +kernel
example : (ofText? "type Query \x7b \x7d").isNone = true := by decide +kernel
example : (ofText? "\"A date\" extend scalar Date @format").isNone = true := by decide +kernel
example : (ofText? "schema extend schema @origin \x7b \x7d").isSome = true := by decide +kernel
example : (ofText? "extend schema \x7b \x7d").isNone = true := by decide +kernel
example : (ofText? "\"A date\", scalar Date").isNone = true := by decide +kernel
example : (ofText? "\x7b a, : b \x7d").isNone = true := by decide +kernel
example : (ofText? "\x7b a: , b \x7d").isSome = true := by decide +kernel

end Document

end Subgraph
