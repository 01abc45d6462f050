import Subgraph.Proofs.Federated.Alike
import Subgraph.Proofs.Federated.Registration
import Subgraph.Proofs.Federated.RoundTrip
import Subgraph.Proofs.Introspection.Shown
import Subgraph.Proofs.Introspection.Wrapper

/-!
# Schemas at hand and schemas that are asked for

A schema can be federated where it is at hand, and a service behind a URL by what it
tells about its schema.  What introspection leaves out makes no difference.

* `Schema.alike_of_types` says that the schema that is rebuilt is like that of the
  service, as far as federating looks at it.
* `Service.federate_told` says that both ways give the same but for the proxies,
  and when the service is refused.
* A key may lead through built-in types.  So both ways part where an extension adds a
  field to one (`exists_rebuilt_stretchedText`).
-/

namespace Subgraph

open Introspection

/-! ## What is shown of a type -/

theorem FieldDefinition.declaration_shown (field : FieldDefinition) :
    field.shown.declaration = field.declaration := by
  rw [declaration, shown, List.map_map]
  rfl

theorem TypeBody.declaration?_shown (body : TypeBody) :
    body.shown.declaration? = body.declaration? := by
  cases body with
  | scalar | interface | union => rfl
  | object _ fields =>
      rw [shown, declaration?, declaration?, List.map_map]
      exact congrArg (fun fields => some (DeclarationBody.object fields))
        (List.map_congr_left fun field _ => FieldDefinition.declaration_shown field)
  | enum | input =>
      rw [shown, declaration?, List.map_map]
      rfl

/-- Of a type without directives, what federating looks at is shown. -/
theorem TypeDefinition.outline_shown {type : TypeDefinition} (plain : type.directives = []) :
    type.shown.outline = type.outline := by
  rw [outline, outline, plain, shown, TypeBody.declaration?_shown]

theorem Key.form_shown (body : TypeBody) : form body.shown = form body := by
  cases body with
  | object _ fields =>
      rw [TypeBody.shown, form, List.map_map]
      rfl
  | scalar | interface | union | enum | input => rfl

/-- A search sees of a type its kind and the fields of an object. -/
theorem Key.form_eq_of_kind {type other : TypeDefinition} (kind : type.body.kind = other.body.kind)
    (fields : type.objectFields? = other.objectFields?) : form type.body = form other.body := by
  unfold TypeDefinition.objectFields? at fields
  generalize type.body = body at kind fields
  generalize other.body = body' at kind fields
  -- only of an object there is more to see than the kind
  cases body <;> cases body' <;> cases kind <;> try rfl
  cases fields
  rfl

/-! ## The schema that is rebuilt -/

/-- A schema of which introspection shows whatever federating looks at: its types have names of
their own, no directives, and no references with more wrappers than are asked for. -/
structure Schema.IsIntrospectable (schema : Schema) : Prop where
  names : ∀ type ∈ schema.declared, ¬ IsSystemType type.name.text
  directives : ∀ type ∈ schema.declared, type.directives = []
  references : ∀ reference ∈ schema.document.references, reference.IsAsked

instance (schema : Schema) : Decidable schema.IsIntrospectable :=
  decidable_of_iff
    ((∀ type ∈ schema.declared, ¬ IsSystemType type.name.text) ∧
      (∀ type ∈ schema.declared, type.directives = []) ∧
      ∀ reference ∈ schema.document.references, reference.IsAsked)
    ⟨fun ⟨names, directives, references⟩ => ⟨names, directives, references⟩,
      fun ⟨names, directives, references⟩ => ⟨names, directives, references⟩⟩

/-- Every type that a field, an argument or an input field of a schema refers to is in the schema. -/
def Schema.IsClosed (schema : Schema) : Prop :=
  ∀ reference ∈ schema.document.references, ∃ type ∈ schema.types, type.name = reference.innermost

instance (schema : Schema) : Decidable schema.IsClosed :=
  inferInstanceAs (Decidable (∀ reference ∈ _, ∃ type ∈ _, _))

/-- No extension adds a field to a built-in object. -/
def Schema.HasBuiltIn (schema : Schema) : Prop :=
  ∀ type ∈ BuiltIn.types,
    (schema.find? type.name).bind TypeDefinition.objectFields? = type.objectFields?

namespace Schema

variable {source : Document} {schema rebuilt : Schema}

/-- A schema without extensions has the built-in types as they are. -/
theorem hasBuiltIn_of_types {own : List TypeDefinition}
    (types : schema.types = BuiltIn.types ++ own) : schema.HasBuiltIn := by
  intro type member
  rw [find?_of_mem (types ▸ List.mem_append_left own member), Option.bind_some]

/-- The built-in types are seen as those of every schema, whatever else extensions add to them. -/
theorem map_seen_types (built : ofDocument? source = some schema) (intact : schema.HasBuiltIn) :
    schema.types.map Key.seen = (BuiltIn.types ++ schema.declared).map Key.seen := by
  obtain ⟨builtIn, append, same⟩ := exists_types_eq_append built
  have seen : builtIn.map Key.seen = BuiltIn.types.map Key.seen := by
    refine map_congr_of_map same fun type member type' member' known => ?_
    obtain ⟨sameName, sameKind⟩ := Prod.mk.inj known
    have found := intact type' member'
    rw [← sameName, find?_of_mem (append ▸ List.mem_append_left _ member),
      Option.bind_some] at found
    exact Prod.ext sameName (Key.form_eq_of_kind sameKind found)
  conv_lhs => rw [append]
  rw [List.map_append, List.map_append, seen]

theorem declared_of_types {own : List TypeDefinition} (types : schema.types = BuiltIn.types ++ own)
    (notBuiltIn : ∀ type ∈ own, (!BuiltIn.isName type.name) = true) : schema.declared = own := by
  have known : BuiltIn.types.filter (fun type => !BuiltIn.isName type.name) = [] :=
    List.filter_eq_nil_iff.2 fun type member => by
      simp [isName_iff.2 (List.mem_map_of_mem (f := fun type => type.name) member)]
  rw [declared, types, List.filter_append, known, List.filter_eq_self.2 notBuiltIn,
    List.nil_append]

/-- A schema with the built-in types and the declared ones as they are shown is like the schema. -/
theorem alike_of_types (built : ofDocument? source = some schema)
    (introspectable : schema.IsIntrospectable) (intact : schema.HasBuiltIn)
    (types : rebuilt.types = BuiltIn.types ++ schema.declared.map TypeDefinition.shown) :
    rebuilt.Alike schema where
  seen := Key.agree_of_map_seen <| by
    rw [map_seen_types built intact, types, List.map_append, List.map_append, List.map_map]
    refine congrArg (BuiltIn.types.map Key.seen ++ ·) (List.map_congr_left fun type _ => ?_)
    exact Prod.ext rfl (Key.form_shown type.body)
  declared := by
    have notBuiltIn : ∀ type ∈ schema.declared.map TypeDefinition.shown,
        (!BuiltIn.isName type.name) = true :=
      List.forall_mem_map.2 fun type member => (List.mem_filter.1 member).2
    rw [declared_of_types types notBuiltIn, List.map_map]
    exact List.map_congr_left fun type member =>
      TypeDefinition.outline_shown (introspectable.directives type member)

end Schema

/-! ## What a service answers -/

namespace Schema

variable {text : String} {schema : Schema} {record : SchemaRecord}

theorem hasConstant_document (read : ofText text = .ok schema) :
    ∀ value ∈ schema.document.inputValues, value.HasConstant := by
  obtain ⟨directives, types⟩ := hasConstant_of_ofText read
  rw [Document.inputValues, types_document, document, Document.directives_ofParts]
  refine List.forall_mem_append.2 ⟨fun value member => ?_, fun value member => ?_⟩
  · obtain ⟨directive, among, inside⟩ := List.mem_flatMap.1 member
    exact directives directive (List.mem_filter.1 among).1 value inside
  · obtain ⟨type, among, inside⟩ := List.mem_flatMap.1 member
    exact types type (List.mem_filter.1 among).1 value inside

section

variable (read : ofText text = .ok schema) (introspectable : schema.IsIntrospectable)
  (shows : record.Shows schema.document)

include read introspectable shows

/-- A schema like that of the service is rebuilt from its answer, where no default is nested too
deep. -/
theorem exists_ofIntrospection_answer (intact : schema.HasBuiltIn)
    (shallow : ∀ value ∈ schema.document.inputValues, value.IsShallow) :
    ∃ rebuilt, ofIntrospection record.answer = .ok rebuilt ∧ rebuilt.Alike schema := by
  obtain ⟨source, _, built⟩ := of_ofText read
  obtain ⟨definition, converted, distinct⟩ := exists_document_eq_ok
    (shows.kept introspectable.references) introspectable.names (hasConstant_document read) shallow
  obtain ⟨rebuilt, defined, types⟩ := exists_ofDocument?_shownDocument built distinct
  exact ⟨rebuilt, ofIntrospection_of_built record.ofData_answer converted defined,
    alike_of_types built introspectable intact types⟩

/-- No schema is rebuilt from the answer otherwise. -/
theorem isShallow_of_ofIntrospection_answer {rebuilt : Schema}
    (built : ofIntrospection record.answer = .ok rebuilt) :
    ∀ value ∈ schema.document.inputValues, value.IsShallow := by
  obtain ⟨told, document, same, converted, _⟩ := of_ofIntrospection built
  cases record.ofData_answer.symm.trans same
  exact isShallow_of_document (shows.kept introspectable.references) introspectable.names
    (hasConstant_document read) converted

end

end Schema

/-! ## Proxies -/

/-- A service is another one with proxies for a URL, each for a field that has no resolver and
behind those that are there. -/
structure FederatedService.AddsProxies (url : Url) (info federated : FederatedService) : Prop where
  schema : federated.schema = info.schema
  options : federated.options = info.options
  keeps : ∀ type field resolver, info.resolvers.find? type field = some resolver →
    federated.resolvers.find? type field = some resolver
  adds : ∀ type field resolver, info.resolvers.find? type field = none →
    federated.resolvers.find? type field = some resolver → resolver = .proxy url field
  typeNames : info.resolvers.typeNames <+: federated.resolvers.typeNames
  fieldNames : ∀ type,
    info.resolvers.fieldNames type <+: federated.resolvers.fieldNames type

/-- Adding proxies does nothing else. -/
theorem FederatedService.addsProxies (info : FederatedService) (url : Url) (schema : Schema) :
    info.AddsProxies url
      { info with resolvers := Service.addProxies url schema info.resolvers } where
  schema := rfl
  options := rfl
  keeps type field resolver found := by
    rw [Service.find?_addProxies, found, Option.some_or]
  adds type field resolver missing found := by
    rw [Service.find?_addProxies, missing, Option.none_or] at found
    split at found
    · exact (Option.some.inj found).symm
    · cases found
  typeNames := by
    rw [Service.addProxies, Service.typeNames_foldl_addProxy]
    exact prefix_eraseDups_append info.resolvers.nodup_typeNames _
  fieldNames type := by
    rw [Service.addProxies, Service.fieldNames_foldl_addProxy]
    exact prefix_eraseDups_append (info.resolvers.nodup_fieldNames type) _

/-! ## Both ways -/

/-- A service tells about a schema when it is asked the introspection query. -/
def Tells (origin : Origin) (url : Url) (schema : Schema) (after : Origin) : Prop :=
  ∃ record : SchemaRecord, record.Shows schema.document ∧
    (Origin.ask url [] { query := Introspection.query }).run origin =
      ({ data := some record.answer }, after)

theorem tells_telling (schema : Schema) :
    Tells (.telling schema.document.record) Origin.localUrl schema .asked :=
  ⟨_, schema.document.record_shows, Origin.run_ask_telling _⟩

section

variable {text address : String} {schema : Schema} {url : Url} {chosen : Option Options}
  {origin after : Origin} (read : Schema.ofText text = .ok schema)
  (introspectable : schema.IsIntrospectable) (valid : (chosen.getD .automatic).validate = .ok ())
  (checked : Service.checkUrl address = .ok url) (tells : Tells origin url schema after)

include read introspectable valid checked tells

/-- A service is refused when it tells about a default that is nested too deep. -/
theorem Service.isShallow_of_run_federate {federated : FederatedService}
    (accepted : (federate address chosen).run origin = (.ok federated, after)) :
    ∀ value ∈ schema.document.inputValues, value.IsShallow := by
  obtain ⟨record, shows, answered⟩ := tells
  rw [run_federate_of_answer checked valid answered] at accepted
  obtain ⟨_, built, _⟩ := of_bind_eq_ok (congrArg Prod.fst accepted)
  exact Schema.isShallow_of_ofIntrospection_answer read introspectable shows built

/-- A service behind a URL is federated as its schema at hand is, and gets proxies besides.  It is
refused exactly when a default in its schema is nested too deep to be told. -/
theorem Service.federate_told (intact : schema.HasBuiltIn) :
    ∃ info, schema.federate .empty (chosen.getD .automatic) = .ok info ∧
      ((∃ federated, (federate address chosen).run origin = (.ok federated, after)) ↔
        ∀ value ∈ schema.document.inputValues, value.IsShallow) ∧
      ∀ federated, (federate address chosen).run origin = (.ok federated, after) →
        info.AddsProxies url federated := by
  obtain ⟨info, accepted⟩ : ∃ info, schema.federate .empty (chosen.getD .automatic) = .ok info :=
    ⟨_, Schema.federate_eq_ok_iff.2 ⟨valid, rfl⟩⟩
  have refused (federated : FederatedService) :=
    @isShallow_of_run_federate _ _ _ _ _ _ _ read introspectable valid checked tells federated
  have made (shallow : ∀ value ∈ schema.document.inputValues, value.IsShallow) :
      ∃ federated, (federate address chosen).run origin = (.ok federated, after) ∧
        info.AddsProxies url federated := by
    obtain ⟨record, shows, answered⟩ := tells
    obtain ⟨rebuilt, built, alike⟩ :=
      Schema.exists_ofIntrospection_answer read introspectable shows intact shallow
    have same : rebuilt.federate .empty (chosen.getD .automatic) = .ok info :=
      (alike.federate_eq .empty (chosen.getD .automatic)).trans accepted
    exact ⟨_, run_federate checked ⟨_, built, answered⟩ same, info.addsProxies url rebuilt⟩
  refine ⟨info, accepted, ⟨fun ⟨federated, run⟩ => refused federated run, fun shallow => ?_⟩, ?_⟩
  · obtain ⟨federated, run, _⟩ := made shallow
    exact ⟨federated, run⟩
  · intro federated run
    -- a service gives one answer, so the federated service is the one that was made
    obtain ⟨federated', run', adds⟩ := made (refused federated run)
    cases run.symm.trans run'
    exact adds

end

/-! ## A query with a default -/

/-- The declarations of a query whose only field has an argument with a default. -/
def queryDeclarations (default : Value) : List Declaration :=
  (Document.queryWith default).types.filterMap TypeDefinition.declaration?

/-- The text of such a query. -/
def queryText (default : Value) : String := Sdl.render (queryDeclarations default) .empty

theorem ofText?_queryText {default : Value} (fits : default.FitsIn Reading.nestingLimit) :
    Document.ofText? (queryText default) = some (Document.queryWith default) := by
  refine Sdl.ofText?_render (Sdl.isComplete_singleton ?_ ?_) ⟨List.cons_ne_nil _ _, ?_⟩
  · exact List.cons_ne_nil _ _
  · exact DeclarationBody.noConfusion
  · intro declaration member
    cases List.mem_singleton.1 member
    refine ⟨List.forall_mem_nil _, fun field member => ?_⟩
    cases List.mem_singleton.1 member
    refine ⟨Nat.zero_le _, fun argument member => ?_⟩
    cases List.mem_singleton.1 member
    refine ⟨Nat.zero_le _, fun value given => ?_⟩
    cases given
    exact fits

theorem exists_ofText_queryText {default : Value} (fits : default.FitsIn Reading.nestingLimit) :
    ∃ schema, Schema.ofText (queryText default) = .ok schema ∧
      schema.types = BuiltIn.types ++ (Document.queryWith default).types ∧
      schema.directives = [] := by
  have names : ((BuiltIn.types ++ (Document.queryWith default).types).map (·.name)).Nodup := by
    rw [List.map_append]
    change (_ ++ [OperationKind.query.defaultRoot]).Nodup
    decide
  have parts : ∀ type ∈ (Document.queryWith default).types, type.body.IsDistinct := by
    simp [Document.queryWith, Document.types, TypeBody.IsDistinct]
  obtain ⟨schema, built, types, directives⟩ :=
    @Schema.exists_ofDocument?_ofParts [] none _ .nil (by simp) parts names
  have defined : Schema.ofDocument? (Document.queryWith default) = some schema := built
  refine ⟨schema, ?_, types, directives⟩
  rw [Schema.ofText, ofText?_queryText fits]
  dsimp only
  rw [Schema.ofDocument, defined]

section

variable {schema : Schema} {default : Value}
  (types : schema.types = BuiltIn.types ++ (Document.queryWith default).types)
  (directives : schema.directives = [])

include types

theorem declared_query : schema.declared = (Document.queryWith default).types := by
  have notBuiltIn : (!BuiltIn.isName OperationKind.query.defaultRoot) = true := by decide
  exact Schema.declared_of_types types (List.forall_mem_singleton.2 notBuiltIn)

include directives

theorem document_query :
    schema.document.directives = [] ∧
      schema.document.types = (Document.queryWith default).types := by
  refine ⟨?_, schema.types_document.trans (declared_query types)⟩
  rw [Schema.document, Document.directives_ofParts, directives]
  rfl

theorem references_query :
    schema.document.references = [.named BuiltIn.int false, .named BuiltIn.int false] := by
  obtain ⟨noDirectives, own⟩ := document_query types directives
  rw [Document.references, noDirectives, own]
  rfl

theorem map_defaultValue_query :
    schema.document.inputValues.map (·.defaultValue) = [some default] := by
  obtain ⟨noDirectives, own⟩ := document_query types directives
  rw [Document.inputValues, noDirectives, own]
  rfl

/-- A service can tell about a schema that is nothing but a query. -/
theorem isIntrospectable_query : schema.IsIntrospectable where
  names := by
    have own : ¬ IsSystemType OperationKind.query.defaultRoot.text := by decide
    rw [declared_query types]
    exact List.forall_mem_singleton.2 own
  directives := by
    rw [declared_query types]
    exact List.forall_mem_singleton.2 rfl
  references := by
    rw [references_query types directives]
    decide

theorem isClosed_query : schema.IsClosed := by
  have known : ∃ type ∈ BuiltIn.types ++ (Document.queryWith default).types,
      type.name = BuiltIn.int :=
    ⟨{ name := BuiltIn.int, body := .scalar }, List.mem_cons_self, rfl⟩
  rw [Schema.IsClosed, references_query types directives, types]
  simpa [TypeReference.innermost] using known

/-- All defaults are shallow where the only one is. -/
theorem forall_isShallow_query_iff :
    (∀ value ∈ schema.document.inputValues, value.IsShallow) ↔
      default.depth < Reading.nestingLimit := by
  have defaults := map_defaultValue_query types directives
  constructor
  · intro shallow
    have among : some default ∈ schema.document.inputValues.map (·.defaultValue) :=
      defaults ▸ List.mem_cons_self
    obtain ⟨value, member, given⟩ := List.mem_map.1 among
    exact shallow value member default given
  · intro shallow value member found given
    have among := List.mem_map_of_mem (f := fun value => value.defaultValue) member
    rw [defaults, List.mem_singleton, Option.mem_def.1 given] at among
    cases among
    exact shallow

end

/-- A service with a query is federated as its schema. -/
theorem federate_told_queryText :
    ∃ schema info federated, Schema.ofText (queryText (.nest 2)) = .ok schema ∧
      schema.IsIntrospectable ∧ schema.HasBuiltIn ∧ Options.automatic.validate = .ok () ∧
      Service.checkUrl "http://localhost/graphql" = .ok Origin.localUrl ∧
      Tells (.telling schema.document.record) Origin.localUrl schema .asked ∧
      schema.federate .empty .automatic = .ok info ∧
      (Service.federate "http://localhost/graphql" none).run (.telling schema.document.record) =
        (.ok federated, .asked) ∧ info.AddsProxies Origin.localUrl federated := by
  obtain ⟨schema, read, types, directives⟩ :=
    @exists_ofText_queryText (.nest 2) ⟨by decide, by decide⟩
  have valid : ((none : Option Options).getD .automatic).validate = .ok () := rfl
  have introspectable := isIntrospectable_query types directives
  have intact := Schema.hasBuiltIn_of_types types
  have tells := tells_telling schema
  obtain ⟨info, accepted, succeeds, adds⟩ :=
    Service.federate_told read introspectable valid checkUrl_localUrl tells intact
  obtain ⟨federated, run⟩ :=
    succeeds.2 ((forall_isShallow_query_iff types directives).2 (by decide))
  exact ⟨schema, info, federated, read, introspectable, intact, valid, checkUrl_localUrl, tells,
    accepted, run, adds federated run⟩

/-! ## Where both ways part -/

/-- A schema with a built-in type that has a field more. -/
def stretchedText : String :=
  "type Query \x7b me: User \x7d type User \x7b type: __Type \x7d " ++
    "extend type __Type \x7b id: ID \x7d"

/-- The text of a schema that is federated with automatic options. -/
def Schema.automaticText (schema : Schema) : String :=
  Sdl.render schema.declarations (schema.effectiveOptions .empty .automatic).types

/-- A service that was asked about its schema is federated as the schema that is rebuilt. -/
theorem Service.run_federate_telling {record : SchemaRecord} {rebuilt : Schema}
    (built : Schema.ofIntrospection record.answer = .ok rebuilt) :
    ∃ federated, (federate "http://localhost/graphql" none).run (.telling record) =
        (.ok federated, .asked) ∧ federated.schema = rebuilt.automaticText :=
  ⟨_, run_federate checkUrl_localUrl ⟨_, built, Origin.run_ask_telling record⟩
    (Schema.federate_eq_ok_iff.2 ⟨rfl, rfl⟩), rfl⟩

/-- A key leads through the field that the extension adds, where the schema is at hand, and another
way where it is asked for. -/
theorem exists_rebuilt_stretchedText :
    ∃ schema rebuilt, Schema.ofText stretchedText = .ok schema ∧ schema.IsIntrospectable ∧
      schema.IsClosed ∧ Schema.ofIntrospection schema.document.record.answer = .ok rebuilt ∧
      rebuilt.automaticText ≠ schema.automaticText := by
  -- what is told about the extended type is left out, and the built-in one is in its place
  have parts : ((Schema.ofText stretchedText).toOption.any fun schema =>
      decide schema.IsIntrospectable && decide schema.IsClosed &&
        schema.document.record.kept.document.toOption.any fun document =>
          (Schema.ofDocument document).toOption.any fun rebuilt =>
            decide (rebuilt.automaticText ≠ schema.automaticText)) = true := by
    decide +kernel
  obtain ⟨schema, read, parts⟩ := exists_of_any_toOption parts
  obtain ⟨conditions, parts⟩ := Bool.and_eq_true_iff.1 parts
  obtain ⟨introspectable, closed⟩ := Bool.and_eq_true_iff.1 conditions
  obtain ⟨document, converted, parts⟩ := exists_of_any_toOption parts
  obtain ⟨rebuilt, built, different⟩ := exists_of_any_toOption parts
  refine ⟨schema, rebuilt, read, of_decide_eq_true introspectable, of_decide_eq_true closed, ?_,
    of_decide_eq_true different⟩
  rw [Schema.ofIntrospection, Schema.documentOfIntrospection, schema.document.record.ofData_answer]
  dsimp only
  rw [converted]
  exact built

/-- A service is refused whose default is nested as deep as a text may have it, and another one gets
another key where an extension adds a field to a built-in type. -/
theorem not_federated_alike :
    (∃ schema info, Schema.ofText (queryText (.nest 500)) = .ok schema ∧
      schema.IsIntrospectable ∧ schema.IsClosed ∧
      Tells (.telling schema.document.record) Origin.localUrl schema .asked ∧
      schema.federate .empty .automatic = .ok info ∧
      ∀ federated,
        (Service.federate "http://localhost/graphql" none).run (.telling schema.document.record) ≠
          (.ok federated, .asked)) ∧
    ∃ schema info federated, Schema.ofText stretchedText = .ok schema ∧
      schema.IsIntrospectable ∧ schema.IsClosed ∧
      Tells (.telling schema.document.record) Origin.localUrl schema .asked ∧
      schema.federate .empty .automatic = .ok info ∧
      (Service.federate "http://localhost/graphql" none).run (.telling schema.document.record) =
        (.ok federated, .asked) ∧ federated.schema ≠ info.schema := by
  constructor
  · have fits : (Value.nest 500).FitsIn Reading.nestingLimit :=
      ⟨Value.isConstant_nest 500, (Value.depth_nest 500).le⟩
    obtain ⟨schema, read, types, directives⟩ := exists_ofText_queryText fits
    have valid : ((none : Option Options).getD .automatic).validate = .ok () := rfl
    have accepted : schema.federate .empty .automatic = .ok _ :=
      Schema.federate_eq_ok_iff.2 ⟨valid, rfl⟩
    have introspectable := isIntrospectable_query types directives
    have tells := tells_telling schema
    refine ⟨schema, _, read, introspectable, isClosed_query types directives, tells, accepted,
      fun federated run => ?_⟩
    have shallow :=
      Service.isShallow_of_run_federate read introspectable valid checkUrl_localUrl tells run
    have less := (forall_isShallow_query_iff types directives).1 shallow
    rw [Value.depth_nest] at less
    exact absurd less (lt_irrefl _)
  · obtain ⟨schema, rebuilt, read, introspectable, closed, built, different⟩ :=
      exists_rebuilt_stretchedText
    have accepted : schema.federate .empty .automatic = .ok _ :=
      Schema.federate_eq_ok_iff.2 ⟨rfl, rfl⟩
    obtain ⟨federated, run, text⟩ := Service.run_federate_telling built
    exact ⟨schema, _, federated, read, introspectable, closed, tells_telling schema, accepted, run,
      text ▸ different⟩

end Subgraph
