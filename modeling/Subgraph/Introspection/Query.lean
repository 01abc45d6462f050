/-!
# The introspection query

The query that asks a service for everything that its schema is rebuilt from.
A reference to a type is asked for with seven wrappers around it.
-/

namespace Subgraph.Introspection

namespace Query

/-- Lines two spaces deeper. -/
def deeper (lines : List String) : List String := lines.map ("  " ++ ·)

/-- A selection with others inside it, one to a line. -/
def group (head : String) (lines : List String) : List String :=
  [head ++ " \x7b"] ++ deeper lines ++ ["\x7d"]

/-- A selection with one other inside it, on one line. -/
def single (head inner : String) : String := head ++ " \x7b " ++ inner ++ " \x7d"

/-- How many wrappers a reference to a type is asked for with. -/
def wrapperDepth : Nat := 7

/-- What is asked about a reference, with so many wrappers. -/
def reference : Nat → List String
  | 0 => ["kind", "name"]
  | depth + 1 => ["kind", "name"] ++ group "ofType" (reference depth)

/-- What is asked about a schema. -/
def schema : List String :=
  [single "queryType" "name", single "mutationType" "name", single "subscriptionType" "name"] ++
    group "types" ["...FullType"] ++
    group "directives"
      (["name", "description", "isRepeatable", "locations"] ++ group "args" ["...InputValue"])

/-- What is asked about a type. -/
def fullType : List String :=
  ["kind", "name", "description"] ++
    group "fields(includeDeprecated: true)"
      (["name", "description"] ++ group "args" ["...InputValue"] ++ group "type" ["...TypeRef"] ++
        ["isDeprecated", "deprecationReason"]) ++
    group "inputFields" ["...InputValue"] ++
    group "interfaces" ["...TypeRef"] ++
    group "enumValues(includeDeprecated: true)"
      ["name", "description", "isDeprecated", "deprecationReason"] ++
    group "possibleTypes" ["...TypeRef"]

/-- What is asked about an argument or an input field. -/
def inputValue : List String :=
  ["name", "description", single "type" "...TypeRef", "defaultValue"]

/-- The definitions of the query, without line ends. -/
def definitions : List (List String) :=
  [group "query IntrospectionQuery" (group "__schema" schema),
    group "fragment FullType on __Type" fullType,
    group "fragment InputValue on __InputValue" inputValue,
    group "fragment TypeRef on __Type" (reference wrapperDepth)]

end Query

/-- The text of the introspection query. -/
def query : String := "\n\n".intercalate (Query.definitions.map ("\n".intercalate ·))

end Subgraph.Introspection
