import Subgraph.Federated.Error
import Subgraph.Introspection.Reader
import Subgraph.Schema.Build

/-!
# Schemas from introspection

The schema of a service is rebuilt from the data that answers the introspection
query: the data is read as records, the records become a document, and the
document a schema.
-/

namespace Subgraph.Schema

/-- The document that introspection data stands for. -/
def documentOfIntrospection (data : Json) : Except FederationError Document :=
  match Introspection.SchemaRecord.ofData data with
  | .error mismatch => .error (.mismatchedIntrospection mismatch)
  | .ok record =>
      match record.document with
      | .error fault => .error (.faultyIntrospection fault)
      | .ok document => .ok document

/-- The schema that a document defines, or its refusal. -/
def ofDocument (document : Document) : Except FederationError Schema :=
  match ofDocument? document with
  | some schema => .ok schema
  | none => .error .rejectedSchema

/-- The schema that a text defines. -/
def ofText (text : String) : Except FederationError Schema :=
  match Document.ofText? text with
  | some document => ofDocument document
  | none => .error .rejectedSchema

/-- The schema that introspection data stands for. -/
def ofIntrospection (data : Json) : Except FederationError Schema :=
  documentOfIntrospection data >>= ofDocument

end Subgraph.Schema
