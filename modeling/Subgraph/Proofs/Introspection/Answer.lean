import Subgraph.Introspection.Query
import Subgraph.Introspection.Reader
import Subgraph.Message.Response
import Subgraph.Proofs.Introspection.RoundTrip
import Subgraph.Proofs.Json.Record
import Subgraph.Proofs.Json.Text

/-!
# Answers to the introspection query

A service answers the introspection query with one member for everything that
the query asks about, in its order.  `SchemaRecord.answer` is this answer to
what the service has to tell.

* A reference to a type is asked about with seven wrappers, so that deeper ones
  are cut off (`ReferenceRecord.cut`).
* `SchemaRecord.ofData_answer` says that the answer is read as what was told,
  but for what is cut off.
-/

namespace Subgraph

/-! ## Null for nothing -/

/-- A value that may be missing, as null when it is. -/
def Json.orNull {α : Type} (tell : α → Json) : Option α → Json
  | some value => tell value
  | none => .null

namespace Json

variable {whole : Json} {α β : Type}

/-- What may be missing is read as nothing, or as what its reading finds. -/
theorem nullable_orNull {tell : α → Json} {read : PartReading whole β} {found : α → β}
    (value : Option α) (within : sizeOf (orNull tell value) < sizeOf whole)
    (given : ∀ one, tell one ≠ .null)
    (reads : ∀ one within, read (tell one) within = .ok (found one)) :
    nullable read (orNull tell value) within = .ok (value.map found) := by
  cases value with
  | none => rfl
  | some one =>
      rw [nullable_of_ne_null read (by exact given one) within]
      exact congrArg (Except.map some) (reads one within)

theorem nullable_text (value : Option String)
    (within : sizeOf (orNull .str value) < sizeOf whole) :
    nullable text (orNull .str value) within = .ok value := by
  rw [nullable_orNull value within (fun _ => Json.noConfusion) fun _ _ => rfl, Option.map_id']

/-- A list as an array. -/
def listed (tell : α → Json) (values : List α) : Json := .arr (values.map tell)

/-- The items of an array are read one by one. -/
theorem items_listed {tell : α → Json} {read : Json → Except Mismatch β} {found : α → β}
    (reads : ∀ one, read (tell one) = .ok (found one)) (values : List α)
    (within : sizeOf (listed tell values) < sizeOf whole) :
    items read (listed tell values) within = .ok (values.map found) :=
  mapM_map_eq_ok_map fun one _ => reads one

theorem nullable_items {tell : α → Json} {read : Json → Except Mismatch β} {found : α → β}
    (reads : ∀ one, read (tell one) = .ok (found one)) (values : Option (List α))
    (within : sizeOf (orNull (listed tell) values) < sizeOf whole) :
    nullable (items read) (orNull (listed tell) values) within =
      .ok (values.map (List.map found)) :=
  nullable_orNull values within (fun _ => Json.noConfusion) (items_listed reads)

/-- What may be missing is as plain as what is told of it. -/
theorem IsPlain.orNull {levels : Nat} {tell : α → Json} {value : Option α}
    (plain : ∀ one, IsPlain levels (tell one)) : IsPlain levels (orNull tell value) := by
  cases value with
  | none => exact .null
  | some one => exact plain one

theorem isPlain_text {levels : Nat} {value : Option String} : IsPlain levels (orNull .str value) :=
  .orNull fun one => .str one

theorem IsPlain.listed {levels : Nat} {tell : α → Json} {values : List α}
    (plain : ∀ one, IsPlain levels (tell one)) : IsPlain (levels + 1) (listed tell values) :=
  .arr (List.forall_mem_map.2 fun one _ => plain one)

end Json

open Json

namespace Introspection

/-! ## References -/

namespace ReferenceRecord

/-- What is answered about a reference that is asked about with so many wrappers. -/
def answer : Nat → ReferenceRecord → Json
  | 0, record => .obj [("kind", .str record.kind.text), ("name", orNull .str record.name)]
  | depth + 1, record =>
      .obj [("kind", .str record.kind.text), ("name", orNull .str record.name),
        ("ofType", orNull (answer depth) record.ofType)]

theorem each_kind {whole : Json} (kind : TypeKind)
    (within : sizeOf (Json.str kind.text) < sizeOf whole) :
    each TypeKind.ofJson (.str kind.text) within = .ok kind := by
  simp [each, TypeKind.ofJson, TypeKind.ofName]

/-- A reference with so many wrappers at most. -/
def cut : Nat → ReferenceRecord → ReferenceRecord
  | 0, record => { record with ofType := none }
  | depth + 1, record => { record with ofType := record.ofType.map (cut depth) }

theorem answer_ne_null (depth : Nat) (record : ReferenceRecord) : answer depth record ≠ .null := by
  cases depth <;> exact Json.noConfusion

/-- The answer about a reference is read as what is left of it. -/
theorem ofJson_answer (depth : Nat) (record : ReferenceRecord) :
    ofJson (answer depth record) = .ok (cut depth record) := by
  induction depth generalizing record with
  | zero =>
      rw [ofJson]
      exact record_eq_ok rfl (by simp) .rfl <| .required (each_kind record.kind) <|
        .optional (nullable_text record.name) <| .nil (by simp [Member.optional])
  | succ depth ih =>
      have inner {whole : Json}
          (within : sizeOf (orNull (answer depth) record.ofType) < sizeOf whole) :
          nullable (fun part _ => ofJson part) (orNull (answer depth) record.ofType) within =
            .ok (record.ofType.map (cut depth)) :=
        nullable_orNull record.ofType within (answer_ne_null depth) fun one _ => ih one
      rw [ofJson]
      exact record_eq_ok rfl (by simp) .rfl <| .required (each_kind record.kind) <|
        .optional (nullable_text record.name) <| .optional inner <| .done

/-- The answer about a reference that the query asks for. -/
def asked (record : ReferenceRecord) : Json := answer Query.wrapperDepth record

/-- What the query leaves of a reference. -/
def kept (record : ReferenceRecord) : ReferenceRecord := cut Query.wrapperDepth record

theorem ofJson_asked (record : ReferenceRecord) : ofJson record.asked = .ok record.kept :=
  ofJson_answer Query.wrapperDepth record

end ReferenceRecord

/-! ## Arguments, fields and values -/

/-- The answer about a root type. -/
def RootRecord.answer (record : RootRecord) : Json := .obj [("name", .str record.name)]

theorem RootRecord.ofJson_answer (record : RootRecord) : ofJson record.answer = .ok record :=
  record_eq_ok rfl (by simp) .rfl <| .required (fun _ => rfl) <| .done

namespace InputValueRecord

/-- The answer about an argument or an input field. -/
def answer (record : InputValueRecord) : Json :=
  .obj [("name", .str record.name), ("description", orNull .str record.description),
    ("type", record.type.asked), ("defaultValue", orNull .str record.defaultValue)]

/-- What the query leaves of an argument or an input field. -/
def kept (record : InputValueRecord) : InputValueRecord :=
  { record with type := record.type.kept }

theorem ofJson_answer (record : InputValueRecord) : ofJson record.answer = .ok record.kept :=
  record_eq_ok rfl (by simp) .rfl <| .required (fun _ => rfl) <|
    .optional (nullable_text record.description) <|
    .required (fun _ => record.type.ofJson_asked) <|
    .optional (nullable_text record.defaultValue) <| .done

end InputValueRecord

namespace FieldRecord

/-- The answer about a field. -/
def answer (record : FieldRecord) : Json :=
  .obj [("name", .str record.name), ("description", orNull .str record.description),
    ("args", listed InputValueRecord.answer record.args), ("type", record.type.asked),
    ("isDeprecated", .bool record.isDeprecated),
    ("deprecationReason", orNull .str record.deprecationReason)]

/-- What the query leaves of a field. -/
def kept (record : FieldRecord) : FieldRecord :=
  { record with args := record.args.map InputValueRecord.kept, type := record.type.kept }

theorem ofJson_answer (record : FieldRecord) : ofJson record.answer = .ok record.kept :=
  record_eq_ok rfl (by simp) .rfl <| .required (fun _ => rfl) <|
    .optional (nullable_text record.description) <|
    .defaulted (items_listed InputValueRecord.ofJson_answer record.args) <|
    .required (fun _ => record.type.ofJson_asked) <| .defaulted (fun _ => rfl) <|
    .optional (nullable_text record.deprecationReason) <| .done

end FieldRecord

namespace EnumValueRecord

/-- The answer about a value of an enum. -/
def answer (record : EnumValueRecord) : Json :=
  .obj [("name", .str record.name), ("description", orNull .str record.description),
    ("isDeprecated", .bool record.isDeprecated),
    ("deprecationReason", orNull .str record.deprecationReason)]

theorem ofJson_answer (record : EnumValueRecord) : ofJson record.answer = .ok record :=
  record_eq_ok rfl (by simp) .rfl <| .required (fun _ => rfl) <|
    .optional (nullable_text record.description) <| .defaulted (fun _ => rfl) <|
    .optional (nullable_text record.deprecationReason) <| .done

end EnumValueRecord

/-! ## Types, directives and schemas -/

namespace TypeRecord

/-- The answer about a type. -/
def answer (record : TypeRecord) : Json :=
  .obj [("kind", .str record.kind.text), ("name", .str record.name),
    ("description", orNull .str record.description),
    ("fields", orNull (listed FieldRecord.answer) record.fields),
    ("inputFields", orNull (listed InputValueRecord.answer) record.inputFields),
    ("interfaces", orNull (listed ReferenceRecord.asked) record.interfaces),
    ("enumValues", orNull (listed EnumValueRecord.answer) record.enumValues),
    ("possibleTypes", orNull (listed ReferenceRecord.asked) record.possibleTypes)]

/-- What the query leaves of a type. -/
def kept (record : TypeRecord) : TypeRecord :=
  { record with
    fields := record.fields.map (List.map FieldRecord.kept)
    inputFields := record.inputFields.map (List.map InputValueRecord.kept)
    interfaces := record.interfaces.map (List.map ReferenceRecord.kept)
    possibleTypes := record.possibleTypes.map (List.map ReferenceRecord.kept) }

theorem ofJson_answer (record : TypeRecord) : ofJson record.answer = .ok record.kept := by
  have values {whole : Json}
      (within : sizeOf (orNull (listed EnumValueRecord.answer) record.enumValues) < sizeOf whole) :
      nullable (items EnumValueRecord.ofJson)
        (orNull (listed EnumValueRecord.answer) record.enumValues) within =
          .ok record.enumValues := by
    rw [nullable_items (fun one => one.ofJson_answer) record.enumValues within]
    simp
  exact record_eq_ok rfl (by simp) .rfl <| .required (ReferenceRecord.each_kind record.kind) <|
    .required (fun _ => rfl) <| .optional (nullable_text record.description) <|
    .optional (nullable_items FieldRecord.ofJson_answer record.fields) <|
    .optional (nullable_items InputValueRecord.ofJson_answer record.inputFields) <|
    .optional (nullable_items ReferenceRecord.ofJson_asked record.interfaces) <|
    .optional values <|
    .optional (nullable_items ReferenceRecord.ofJson_asked record.possibleTypes) <| .done

end TypeRecord

namespace DirectiveRecord

/-- The answer about a directive. -/
def answer (record : DirectiveRecord) : Json :=
  .obj [("name", .str record.name), ("description", orNull .str record.description),
    ("isRepeatable", .bool record.isRepeatable), ("locations", listed .str record.locations),
    ("args", listed InputValueRecord.answer record.args)]

/-- What the query leaves of a directive. -/
def kept (record : DirectiveRecord) : DirectiveRecord :=
  { record with args := record.args.map InputValueRecord.kept }

theorem ofJson_answer (record : DirectiveRecord) : ofJson record.answer = .ok record.kept := by
  have locations {whole : Json} (within : sizeOf (listed .str record.locations) < sizeOf whole) :
      items locationName (listed .str record.locations) within = .ok record.locations :=
    mapM_map_eq_ok fun _ _ => rfl
  -- the query asks for `isRepeatable` before what the record has it after
  refine record_eq_ok rfl (by simp)
    (.cons _ <| .cons _ <| (List.Perm.swap _ _ _).trans <| .cons _ <| .swap _ _ _) ?_
  exact .required (fun _ => rfl) <| .optional (nullable_text record.description) <|
    .defaulted (fun _ => rfl) <| .required locations <|
    .defaulted (items_listed InputValueRecord.ofJson_answer record.args) .done

end DirectiveRecord

namespace SchemaRecord

/-- The answer about the schema of a service. -/
def schemaAnswer (record : SchemaRecord) : Json :=
  .obj [("queryType", orNull RootRecord.answer record.queryType),
    ("mutationType", orNull RootRecord.answer record.mutationType),
    ("subscriptionType", orNull RootRecord.answer record.subscriptionType),
    ("types", listed TypeRecord.answer record.types),
    ("directives", listed DirectiveRecord.answer record.directives)]

/-- The data that answers the introspection query. -/
def answer (record : SchemaRecord) : Json := .obj [("__schema", record.schemaAnswer)]

/-- What the query leaves of what a service tells. -/
def kept (record : SchemaRecord) : SchemaRecord :=
  { record with
    types := record.types.map TypeRecord.kept
    directives := record.directives.map DirectiveRecord.kept }

theorem ofJson_schemaAnswer (record : SchemaRecord) :
    ofJson record.schemaAnswer = .ok record.kept := by
  have root {whole : Json} (root : Option RootRecord)
      (within : sizeOf (orNull RootRecord.answer root) < sizeOf whole) :
      nullable (each RootRecord.ofJson) (orNull RootRecord.answer root) within = .ok root := by
    rw [nullable_orNull root within (fun _ => Json.noConfusion) fun one _ => one.ofJson_answer,
      Option.map_id']
  exact record_eq_ok rfl (by simp) .rfl <| .optional (root record.queryType) <|
    .optional (root record.mutationType) <| .optional (root record.subscriptionType) <|
    .required (items_listed TypeRecord.ofJson_answer record.types) <|
    .defaulted (items_listed DirectiveRecord.ofJson_answer record.directives) <| .done

/-- The answer to the introspection query is read as what the service tells, but for what the query
cuts off. -/
theorem ofData_answer (record : SchemaRecord) : ofData record.answer = .ok record.kept :=
  record_eq_ok rfl (by simp) .rfl <| .required (fun _ => record.ofJson_schemaAnswer) <| .done

end SchemaRecord

/-! ## Answers as texts -/

theorem ReferenceRecord.isPlain_answer (depth : Nat) (record : ReferenceRecord) :
    IsPlain (depth + 1) (answer depth record) := by
  induction depth generalizing record with
  | zero => exact .obj (by simp) (by simp [IsPlain.str, isPlain_text])
  | succ depth ih =>
      have inner : IsPlain (depth + 1) (orNull (answer depth) record.ofType) := .orNull ih
      exact .obj (by simp) (by simp [IsPlain.str, isPlain_text, inner])

theorem ReferenceRecord.isPlain_asked {levels : Nat} (record : ReferenceRecord)
    (enough : 8 ≤ levels) : IsPlain levels record.asked :=
  (isPlain_answer Query.wrapperDepth record).mono enough

theorem RootRecord.isPlain_answer (record : RootRecord) : IsPlain 1 record.answer :=
  .obj (by simp) (by simp [IsPlain.str])

theorem InputValueRecord.isPlain_answer (record : InputValueRecord) : IsPlain 9 record.answer :=
  .obj (by simp) (by simp [IsPlain.str, isPlain_text, record.type.isPlain_asked])

theorem FieldRecord.isPlain_answer (record : FieldRecord) : IsPlain 11 record.answer := by
  have args : IsPlain 10 (listed InputValueRecord.answer record.args) :=
    .listed InputValueRecord.isPlain_answer
  exact .obj (by simp)
    (by simp [IsPlain.str, IsPlain.bool, isPlain_text, record.type.isPlain_asked, args])

theorem EnumValueRecord.isPlain_answer (record : EnumValueRecord) : IsPlain 1 record.answer :=
  .obj (by simp) (by simp [IsPlain.str, IsPlain.bool, isPlain_text])

theorem TypeRecord.isPlain_answer (record : TypeRecord) : IsPlain 13 record.answer := by
  have fields : IsPlain 12 (orNull (listed FieldRecord.answer) record.fields) :=
    .orNull fun _ => .listed FieldRecord.isPlain_answer
  have inputs : IsPlain 12 (orNull (listed InputValueRecord.answer) record.inputFields) :=
    .orNull fun _ => .listed fun one => one.isPlain_answer.mono (by decide)
  have references (told : Option (List ReferenceRecord)) :
      IsPlain 12 (orNull (listed ReferenceRecord.asked) told) :=
    .orNull fun _ => .listed fun one => one.isPlain_asked (by decide)
  have values : IsPlain 12 (orNull (listed EnumValueRecord.answer) record.enumValues) :=
    .orNull fun _ => .listed fun one => one.isPlain_answer.mono (by decide)
  exact .obj (by simp)
    (by simp [IsPlain.str, isPlain_text, fields, inputs, references, values])

theorem DirectiveRecord.isPlain_answer (record : DirectiveRecord) : IsPlain 11 record.answer := by
  have locations : IsPlain 10 (listed .str record.locations) := .listed fun one => .str one
  have args : IsPlain 10 (listed InputValueRecord.answer record.args) :=
    .listed InputValueRecord.isPlain_answer
  exact .obj (by simp)
    (by simp [IsPlain.str, IsPlain.bool, isPlain_text, locations, args])

theorem SchemaRecord.isPlain_answer (record : SchemaRecord) : IsPlain 16 record.answer := by
  have root (told : Option RootRecord) : IsPlain 14 (orNull RootRecord.answer told) :=
    .orNull fun one => one.isPlain_answer.mono (by decide)
  have types : IsPlain 14 (listed TypeRecord.answer record.types) :=
    .listed TypeRecord.isPlain_answer
  have directives : IsPlain 14 (listed DirectiveRecord.answer record.directives) :=
    .listed fun one => one.isPlain_answer.mono (by decide)
  have schema : IsPlain 15 record.schemaAnswer :=
    .obj (by simp) (by simp [root, types, directives])
  exact .obj (by simp) (by simp [schema])

end Introspection

/-- A response that is nothing but plain data is read from its text. -/
theorem Response.ofText?_compress {data : Json} (plain : IsPlain 126 data) (given : data ≠ .null) :
    ofText? (compress (.obj [("data", data)])) = some { data := some data } := by
  obtain ⟨written, writes⟩ := plain.exists_writes
  have whole := (WritesIn.cons "data" writes .nil).writes_obj
  have known : (Written.obj [("data".toList.flatMap escapedChar, written)]).known? shape =
      some (.obj [("data".toList.flatMap escapedChar, written)]) := by
    rw [Written.known?, (WritesIn.cons "data" writes .nil).knownMembers?_eq]
    · rfl
    · exact List.forall_mem_singleton.2 rfl
  have source : shaped? shape (compress (.obj [("data", data)])) = some (.obj [("data", data)]) := by
    have read : written? (compress (.obj [("data", data)])) = some _ := whole.written?_eq
    rw [shaped?, read]
    change Written.known? shape _ >>= Written.value? 127 = _
    rw [known]
    exact whole.value
  have response : ofJson (.obj [("data", data)]) = .ok { data := some data } :=
    record_eq_ok rfl (by simp) .rfl <|
      .defaulted (nullable_of_ne_null Json.plain given) <| .nil (by simp [Member.defaulted])
  rw [ofText?, source]
  change (do
    let response ← (ofJson (.obj [("data", data)])).toOption
    return response.withoutRepeats) = _
  rw [response]
  change some ({ data := some data.withoutRepeats } : Response) = _
  rw [plain.withoutRepeats]

end Subgraph
