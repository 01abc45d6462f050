import Subgraph.Introspection.Record
import Subgraph.Json.Record

/-!
# Reading introspection records

The members of each record, in the order of their declaration.  Records are
read as `Json.record` says.
-/

namespace Subgraph.Introspection

open Json (Mismatch)

namespace TypeKind

/-- The kind with a name, or the mismatch of a name that belongs to no kind. -/
def ofName (name : String) : Except Mismatch TypeKind :=
  match ofText? name with
  | some kind => .ok kind
  | none => .error (.unknownVariant name (all.map text))

/-- Reads a kind: its name, or an object whose one member has that name and is null. -/
def ofJson : Json → Except Mismatch TypeKind
  | .str name => ofName name
  | .obj [(name, value)] => do
      let kind ← ofName name
      match value with
      | .null => return kind
      | value => throw (.wrongType value "unit")
  | .obj _ => .error .notSingle
  | value => .error (.wrongType value "string or map")

end TypeKind

namespace ReferenceRecord

/-- Reads a reference to a type. -/
def ofJson (value : Json) : Except Mismatch ReferenceRecord :=
  Json.record "TypeRef" {} value
    [.required "kind" (Json.each TypeKind.ofJson) fun r x => { r with kind := x },
      .optional "name" Json.text fun r x => { r with name := x },
      .optional "ofType" (fun part _ => ofJson part) fun r x => { r with ofType := x }]
termination_by sizeOf value

end ReferenceRecord

namespace RootRecord

/-- Reads a root type. -/
def ofJson (value : Json) : Except Mismatch RootRecord :=
  Json.record "NamedTypeRef" ⟨""⟩ value [.required "name" Json.text fun _ x => ⟨x⟩]

end RootRecord

namespace InputValueRecord

/-- Reads an argument or an input field. -/
def ofJson (value : Json) : Except Mismatch InputValueRecord :=
  Json.record "InputValue" {} value
    [.required "name" Json.text fun r x => { r with name := x },
      .optional "description" Json.text fun r x => { r with description := x },
      .required "type" (Json.each ReferenceRecord.ofJson) fun r x => { r with type := x },
      .optional "defaultValue" Json.text fun r x => { r with defaultValue := x }]

end InputValueRecord

namespace FieldRecord

/-- Reads a field. -/
def ofJson (value : Json) : Except Mismatch FieldRecord :=
  Json.record "Field" {} value
    [.required "name" Json.text fun r x => { r with name := x },
      .optional "description" Json.text fun r x => { r with description := x },
      .defaulted "args" (Json.items InputValueRecord.ofJson) fun r x => { r with args := x },
      .required "type" (Json.each ReferenceRecord.ofJson) fun r x => { r with type := x },
      .defaulted "isDeprecated" Json.flag fun r x => { r with isDeprecated := x },
      .optional "deprecationReason" Json.text fun r x => { r with deprecationReason := x }]

end FieldRecord

namespace EnumValueRecord

/-- Reads a value of an enum. -/
def ofJson (value : Json) : Except Mismatch EnumValueRecord :=
  Json.record "EnumValue" {} value
    [.required "name" Json.text fun r x => { r with name := x },
      .optional "description" Json.text fun r x => { r with description := x },
      .defaulted "isDeprecated" Json.flag fun r x => { r with isDeprecated := x },
      .optional "deprecationReason" Json.text fun r x => { r with deprecationReason := x }]

end EnumValueRecord

namespace TypeRecord

/-- Reads a type. -/
def ofJson (value : Json) : Except Mismatch TypeRecord :=
  Json.record "FullType" {} value
    [.required "kind" (Json.each TypeKind.ofJson) fun r x => { r with kind := x },
      .required "name" Json.text fun r x => { r with name := x },
      .optional "description" Json.text fun r x => { r with description := x },
      .optional "fields" (Json.items FieldRecord.ofJson) fun r x => { r with fields := x },
      .optional "inputFields" (Json.items InputValueRecord.ofJson) fun r x =>
        { r with inputFields := x },
      .optional "interfaces" (Json.items ReferenceRecord.ofJson) fun r x =>
        { r with interfaces := x },
      .optional "enumValues" (Json.items EnumValueRecord.ofJson) fun r x =>
        { r with enumValues := x },
      .optional "possibleTypes" (Json.items ReferenceRecord.ofJson) fun r x =>
        { r with possibleTypes := x }]

end TypeRecord

namespace DirectiveRecord

/-- Reads the name of a place. -/
def locationName : Json → Except Mismatch String
  | .str name => .ok name
  | value => .error (.wrongType value "a string")

/-- Reads a directive. -/
def ofJson (value : Json) : Except Mismatch DirectiveRecord :=
  Json.record "DirectiveDefinition" {} value
    [.required "name" Json.text fun r x => { r with name := x },
      .optional "description" Json.text fun r x => { r with description := x },
      .required "locations" (Json.items locationName) fun r x => { r with locations := x },
      .defaulted "args" (Json.items InputValueRecord.ofJson) fun r x => { r with args := x },
      .defaulted "isRepeatable" Json.flag fun r x => { r with isRepeatable := x }]

end DirectiveRecord

namespace SchemaRecord

/-- Reads a schema. -/
def ofJson (value : Json) : Except Mismatch SchemaRecord :=
  Json.record "IntrospectionSchema" {} value
    [.optional "queryType" (Json.each RootRecord.ofJson) fun r x => { r with queryType := x },
      .optional "mutationType" (Json.each RootRecord.ofJson) fun r x =>
        { r with mutationType := x },
      .optional "subscriptionType" (Json.each RootRecord.ofJson) fun r x =>
        { r with subscriptionType := x },
      .required "types" (Json.items TypeRecord.ofJson) fun r x => { r with types := x },
      .defaulted "directives" (Json.items DirectiveRecord.ofJson) fun r x =>
        { r with directives := x }]

/-- Reads a schema from the data that answers the introspection query. -/
def ofData (value : Json) : Except Mismatch SchemaRecord :=
  Json.record "IntrospectionResult" {} value
    [.required "__schema" (Json.each ofJson) fun _ x => x]

end SchemaRecord

end Subgraph.Introspection
