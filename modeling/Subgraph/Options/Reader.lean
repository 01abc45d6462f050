import Subgraph.Options.Basic

/-!
# Reading options

Options as configuration data.  Only the caller's program can register a
resolver, so the data may name types under `resolvers` but no field of them.

The first fault decides.  Unknown members come first, then `auto`, `type` and
`resolvers` in this order, each from its front.
-/

namespace Subgraph

/-- The members that options may have. -/
def optionKeys : List String := ["auto", "type", "resolvers"]

namespace FieldOptions

/-- Reads what is said about a field from its members. -/
def readMembers (type field : String) :
    List (String × Json) → FieldOptions → Except ConfigurationError FieldOptions
  | [], options => .ok options
  | (key, value) :: rest, options =>
      if key ≠ directivesKey then .error (.unknownFieldKey type field key)
      else
        match value with
        | .str directives => readMembers type field rest { options with directives }
        | _ => .error (.invalidFieldDirectives type field)

/-- Reads what is said about a field. -/
def ofJson (type field : String) : Json → Except ConfigurationError FieldOptions
  | .obj members => readMembers type field members {}
  | _ => .error (.invalidFieldValue type field)

end FieldOptions

namespace TypeOptions

/-- Reads one member of what is said about a type. -/
def readMember (type key : String) (value : Json) (options : TypeOptions) :
    Except ConfigurationError TypeOptions :=
  if key = extendKey then
    match value with
    | .bool extend => .ok { options with extend := some extend }
    | _ => .error (.invalidTypeKeyValue type key "boolean")
  else if key = directivesKey then
    match value with
    | .str directives => .ok { options with directives := some directives }
    | _ => .error (.invalidTypeKeyValue type key "string")
  else if key.toList.head? = some '@' then .error (.unknownTypeKey type key)
  else (FieldOptions.ofJson type key value).map fun field =>
    { options with fields := options.fields.insert key field }

/-- Reads what is said about a type from its members. -/
def readMembers (type : String) :
    List (String × Json) → TypeOptions → Except ConfigurationError TypeOptions
  | [], options => .ok options
  | (key, value) :: rest, options => do
      readMembers type rest (← readMember type key value options)

/-- Reads what is said about a type. -/
def ofJson (type : String) : Json → Except ConfigurationError TypeOptions
  | .obj members => readMembers type members {}
  | _ => .error (.invalidTypeValue type)

end TypeOptions

namespace Options

/-- Reads whether gaps are to be filled. -/
def readAuto : Option Json → Except ConfigurationError Bool
  | none => .ok false
  | some (.bool auto) => .ok auto
  | some _ => .error .invalidAuto

/-- Reads what is said about types from its members. -/
def readTypeMembers :
    List (String × Json) → OrderedMap String TypeOptions →
      Except ConfigurationError (OrderedMap String TypeOptions)
  | [], types => .ok types
  | (type, value) :: rest, types => do
      readTypeMembers rest (types.insert type (← TypeOptions.ofJson type value))

/-- Reads what is said about types. -/
def readTypes : Option Json → Except ConfigurationError (OrderedMap String TypeOptions)
  | none | some .null => .ok .empty
  | some (.obj types) => readTypeMembers types .empty
  | some _ => .error .invalidTypes

/-- Checks that a type has no resolver in the data. -/
def checkResolverValue (type : String) : Json → Except ConfigurationError Unit
  | .obj [] => .ok ()
  | .obj ((field, _) :: _) => .error (.resolverInConfiguration type field)
  | _ => .error (.invalidResolverValue type)

/-- Checks that there is no resolver in the data. -/
def checkResolvers : Option Json → Except ConfigurationError Unit
  | none | some .null => .ok ()
  | some (.obj types) => types.forM fun entry => checkResolverValue entry.1 entry.2
  | some _ => .error .invalidResolvers

/-- Reads options from configuration data. -/
def ofJson : Json → Except ConfigurationError Options
  | .obj members =>
      match members.find? fun member => !optionKeys.contains member.1 with
      | some member => .error (.unknownOption member.1)
      | none => do
          let auto ← readAuto (Assoc.find? "auto" members)
          let types ← readTypes (Assoc.find? "type" members)
          checkResolvers (Assoc.find? "resolvers" members)
          return { auto, types }
  | _ => .error .invalidOptions

end Options

end Subgraph
