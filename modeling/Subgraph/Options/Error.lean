/-!
# Configuration errors

What can be wrong with a URL, with options, or with the resolvers in them.
-/

namespace Subgraph

/-- Why a configuration is refused. -/
inductive ConfigurationError where
  | missingUrl
  | invalidUrl (url : String)
  | invalidOptions
  | unknownOption (key : String)
  | invalidAuto
  | invalidTypes
  | invalidTypeValue (type : String)
  | unknownTypeKey (type key : String)
  | invalidTypeKeyValue (type key expected : String)
  | invalidFieldValue (type field : String)
  | unknownFieldKey (type field key : String)
  | invalidFieldDirectives (type field : String)
  | invalidResolvers
  | invalidResolverValue (type : String)
  | resolverInConfiguration (type field : String)
  | missingReferenceResolver (type : String)
deriving DecidableEq

namespace ConfigurationError

/-- The path of a type in the options. -/
def typePath (type : String) : String := "options type '" ++ type ++ "'"

/-- The path of a field in the options. -/
def fieldPath (type field : String) : String := typePath type ++ " field '" ++ field ++ "'"

/-- The path of a type among the resolvers. -/
def resolversPath (type : String) : String := "options resolvers '" ++ type ++ "'"

/-- The text of an error. -/
def message : ConfigurationError → String
  | missingUrl => "url is required"
  | invalidUrl url => "url must be valid: '" ++ url ++ "'"
  | invalidOptions => "options must be an object"
  | unknownOption key =>
      "options '" ++ key ++ "' is not a recognized key, one of 'auto', 'type', 'resolvers'"
  | invalidAuto => "options auto must be a boolean"
  | invalidTypes => "options type must be an object"
  | invalidTypeValue type => typePath type ++ " value must be an object"
  | unknownTypeKey type key =>
      typePath type ++ " key '" ++ key ++ "' is not valid, one of '@extend', '@directives'"
  | invalidTypeKeyValue type key expected =>
      typePath type ++ " value '" ++ key ++ "' must be a " ++ expected
  | invalidFieldValue type field => fieldPath type field ++ " value must be an object"
  | unknownFieldKey type field key =>
      fieldPath type field ++ " value must contain only '@directives', found '" ++ key ++ "'"
  | invalidFieldDirectives type field =>
      fieldPath type field ++ " value '@directives' must be a string"
  | invalidResolvers => "options resolvers must be an object"
  | invalidResolverValue type => resolversPath type ++ " value must be an object"
  | resolverInConfiguration type field =>
      resolversPath type ++ " field '" ++ field ++ "' must be registered programmatically"
  | missingReferenceResolver type => resolversPath type ++ " must define __resolveReference"

end ConfigurationError

end Subgraph
