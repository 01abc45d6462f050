import Subgraph.Json.Basic
import Subgraph.OrderedMap
import Subgraph.Text.Within

/-!
# Options of types

What a caller says about one type: whether it is an extension, which directives
it gets, and which directives its fields get.

In JSON, the members `@extend` and `@directives` are about the type, and every
other member is about the field of its name.

Merging lets overrides win.

* An override decides about the extension where it says anything.
* Directives of the override come first, then those of the default.
* A field of the override replaces that of the default.
-/

namespace Subgraph

/-- What is said about a field. -/
structure FieldOptions where
  /-- The directives that the field gets, as text. -/
  directives : Option String := none
deriving DecidableEq

/-- What is said about a type. -/
structure TypeOptions where
  /-- Whether the type is an extension, if that is said. -/
  extend : Option Bool := none
  /-- The directives that the type gets, as text. -/
  directives : Option String := none
  /-- What is said about its fields. -/
  fields : OrderedMap String FieldOptions := .empty
deriving DecidableEq

/-- The member that says whether a type is an extension. -/
def extendKey : String := "@extend"

/-- The member that holds directives. -/
def directivesKey : String := "@directives"

namespace FieldOptions

/-- The options as a JSON value. -/
def toJson (options : FieldOptions) : Json :=
  .obj <|
    match options.directives with
    | some directives => [(directivesKey, .str directives)]
    | none => []

end FieldOptions

namespace TypeOptions

instance : Inhabited TypeOptions := ⟨{}⟩

/-- The options as a JSON value. -/
def toJson (options : TypeOptions) : Json :=
  .obj <|
    (match options.extend with
      | some extend => [(extendKey, .bool extend)]
      | none => []) ++
    (match options.directives with
      | some directives => [(directivesKey, .str directives)]
      | none => []) ++
    options.fields.entries.map fun entry => (entry.1, entry.2.toJson)

/-- Whether the directives have a text in them. -/
def mentions (options : TypeOptions) (text : String) : Bool :=
  options.directives.any (Text.isWithin text)

/-- Texts of directives one after the other. -/
def joinDirectives : Option String → Option String → Option String
  | some first, some second => some (first ++ " " ++ second)
  | some first, none => some first
  | none, second => second

/-- The options with those of an override over them. -/
def merge (defaults overrides : TypeOptions) : TypeOptions where
  extend := overrides.extend.or defaults.extend
  directives := joinDirectives overrides.directives defaults.directives
  fields := defaults.fields.insertAll overrides.fields.entries

example : merge { extend := some true, directives := some "@key" } { directives := some "@tag" } =
    { extend := some true, directives := some "@tag @key" } := by decide

end TypeOptions

end Subgraph
