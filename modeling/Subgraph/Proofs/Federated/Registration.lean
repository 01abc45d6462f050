import Subgraph.Proofs.Federated.Stability
import Subgraph.Proofs.Forward
import Subgraph.Proofs.Introspection.Roots

/-!
# Who resolves a field

The table of a federated schema is made of four lots of resolvers: those that
are given, stubs for the references to entities, those of the options, and for a
service behind a URL proxies for the fields of its query and its mutation root.

* `Registers` says which of them a field has, and in which order they stand.
* `Schema.registers` says that both ways of federating a schema make such a
  table.
-/

namespace Subgraph

/-! ## Lots of resolvers -/

section

variable (schema : Schema) (options : Options)

/-- A field that refers to an entity, where gaps are to be filled. -/
structure IsStub (type field : String) : Prop where
  auto : options.auto = true
  entity : ∃ entity, entity.name.text = type ∧ schema.IsEntity entity
  reference : field = "__resolveReference"

/-- A field of the query or the mutation root, which is an object type. -/
def IsRootField (type field : String) : Prop :=
  ∃ kind ∈ [OperationKind.query, .mutation], ∃ root, schema.root? kind = some root ∧
    root.text = type ∧ ∃ definition, schema.find? root = some definition ∧
      ∃ interfaces fields, definition.body = .object interfaces fields ∧
        ∃ declared ∈ fields, declared.name.text = field

/-- The names of a root type and of its field, as texts. -/
def textsOf (field : Name × Name) : String × String := (field.1.text, field.2.text)

/-- The fields of the query root, then those of the mutation root. -/
def rootFieldNames : List (String × String) :=
  (Service.rootFields schema .query ++ Service.rootFields schema .mutation).map textsOf

/-- The types that get a stub, in the order of the schema. -/
def stubNames (given : ResolverTable) : List String :=
  if options.auto then options.placeholderNames schema given else []

end

/-- A table has, for each field, the resolver of the options, else the given one, else a stub, else
a proxy, else none, and has them in the order given ones, stubs, those of the options, proxies. -/
structure Registers (schema : Schema) (options : Options) (given : ResolverTable)
    (origin : Option Url) (table : ResolverTable) : Prop where
  ofOptions : ∀ type field resolver, options.resolvers.find? type field = some resolver →
    table.find? type field = some resolver
  ofGiven : ∀ type field resolver, options.resolvers.find? type field = none →
    given.find? type field = some resolver → table.find? type field = some resolver
  stub : ∀ type field, options.resolvers.find? type field = none → given.find? type field = none →
    IsStub schema options type field → table.find? type field = some .placeholder
  proxy : ∀ type field url, options.resolvers.find? type field = none →
    given.find? type field = none → ¬ IsStub schema options type field → origin = some url →
    IsRootField schema type field → table.find? type field = some (.proxy url field)
  nothing : ∀ type field, options.resolvers.find? type field = none →
    given.find? type field = none → ¬ IsStub schema options type field →
    (origin = none ∨ ¬ IsRootField schema type field) → table.find? type field = none
  /-- Types and fields come in the order in which each of them came first. -/
  order : ∃ stubs proxied,
    stubs.Sublist (schema.declared.map fun type => type.name.text) ∧
    (∀ name, name ∈ stubs ↔ IsStub schema options name "__resolveReference" ∧
      options.resolvers.find? name "__resolveReference" = none ∧
      given.find? name "__resolveReference" = none) ∧
    (proxied = if origin.isSome then rootFieldNames schema else []) ∧
    table.typeNames =
      (given.typeNames ++ stubs ++ options.resolvers.typeNames ++
        proxied.map Prod.fst).eraseDups ∧
    ∀ type, table.fieldNames type =
      (given.fieldNames type ++ (if type ∈ stubs then ["__resolveReference"] else []) ++
        options.resolvers.fieldNames type ++
        (proxied.filter fun field => field.1 = type).map Prod.snd).eraseDups

/-! ## Stubs -/

section

variable {schema : Schema} {options : Options} {given : ResolverTable}

theorem stubNames_sublist :
    (stubNames schema options given).Sublist (schema.declared.map fun type => type.name.text) := by
  unfold stubNames
  cases options.auto with
  | true => exact Options.placeholderNames_sublist
  | false => exact List.nil_sublist _

theorem mem_stubNames {name : String} :
    name ∈ stubNames schema options given ↔ IsStub schema options name "__resolveReference" ∧
      options.resolvers.find? name "__resolveReference" = none ∧
      given.find? name "__resolveReference" = none := by
  unfold stubNames
  cases auto : options.auto with
  | false =>
      rw [if_neg Bool.false_ne_true]
      refine ⟨fun member => absurd member List.not_mem_nil, fun ⟨stub, _⟩ => ?_⟩
      exact absurd (auto.symm.trans stub.auto) Bool.false_ne_true
  | true =>
      rw [if_pos rfl, Options.mem_placeholderNames]
      constructor
      · rintro ⟨type, rfl, gap⟩
        exact ⟨⟨auto, ⟨type, rfl, gap.entity⟩, rfl⟩, gap.unregistered, gap.ungiven⟩
      · rintro ⟨⟨_, ⟨type, rfl, entity⟩, _⟩, unregistered, ungiven⟩
        exact ⟨type, rfl, entity, unregistered, ungiven⟩

/-- The options that hold have the resolvers of the options, and the stubs. -/
theorem find?_effectiveOptions (type field : String) :
    (schema.effectiveOptions given options).resolvers.find? type field =
      (options.resolvers.find? type field).or
        (if type ∈ stubNames schema options given ∧ field = referenceField then
          some .placeholder
        else none) := by
  unfold Schema.effectiveOptions stubNames
  cases options.auto with
  | true => exact Options.find?_resolvers_synthesize type field
  | false => simp

theorem typeNames_effectiveOptions :
    (schema.effectiveOptions given options).resolvers.typeNames =
      (stubNames schema options given ++ options.resolvers.typeNames).eraseDups := by
  have distinct := options.resolvers.nodup_typeNames
  unfold Schema.effectiveOptions stubNames
  cases options.auto with
  | true =>
      rw [if_pos rfl, if_pos rfl, Options.typeNames_resolvers_synthesize,
        append_filter_eq_eraseDups Options.nodup_placeholderNames distinct]
  | false => exact (eraseDups_eq_of_nodup distinct).symm

theorem fieldNames_effectiveOptions (type : String) :
    (schema.effectiveOptions given options).resolvers.fieldNames type =
      ((if type ∈ stubNames schema options given then [referenceField] else []) ++
        options.resolvers.fieldNames type).eraseDups := by
  have distinct := options.resolvers.nodup_fieldNames type
  unfold Schema.effectiveOptions stubNames
  cases options.auto with
  | true =>
      rw [if_pos rfl, if_pos rfl]
      unfold Options.synthesize Options.merge
      rw [ResolverTable.fieldNames_merge, Options.resolvers_defaults,
        ResolverTable.fieldNames_ofList Options.nodup_placeholderNames]
  | false => exact (eraseDups_eq_of_nodup distinct).symm

end

/-! ## Proxies -/

section

variable {schema : Schema}

theorem mem_rootFields {kind : OperationKind} {type field : String} :
    (type, field) ∈ (Service.rootFields schema kind).map textsOf ↔
      ∃ root, schema.root? kind = some root ∧ root.text = type ∧
        ∃ definition, schema.find? root = some definition ∧
          ∃ interfaces fields, definition.body = .object interfaces fields ∧
            ∃ declared ∈ fields, declared.name.text = field := by
  unfold Service.rootFields TypeDefinition.objectFields?
  constructor
  · intro member
    split at member
    next root isRoot =>
      split at member
      next fields found =>
        obtain ⟨definition, isFound, isObject⟩ := Option.bind_eq_some_iff.1 found
        split at isObject
        next interfaces inner body =>
          cases isObject
          rw [List.map_map] at member
          obtain ⟨declared, inside, same⟩ := List.mem_map.1 member
          cases same
          exact ⟨root, isRoot, rfl, definition, isFound, interfaces, fields, body, declared, inside,
            rfl⟩
        next => cases isObject
      next => cases member
    next => cases member
  · rintro ⟨root, isRoot, rfl, definition, isFound, interfaces, fields, body, declared, inside, rfl⟩
    rw [isRoot]
    dsimp only
    rw [isFound, Option.bind_some, body]
    dsimp only
    rw [List.map_map]
    exact List.mem_map.2 ⟨declared, inside, rfl⟩

theorem mem_rootFieldNames {type field : String} :
    (type, field) ∈ rootFieldNames schema ↔ IsRootField schema type field := by
  rw [rootFieldNames, List.map_append, List.mem_append, mem_rootFields, mem_rootFields]
  simp [IsRootField]

end

namespace Service

variable (url : Url) (table : ResolverTable)

/-- A proxy goes where nothing is found. -/
theorem find?_addProxy (field : Name × Name) (type other : String) :
    (addProxy url table field).find? type other =
      (table.find? type other).or
        (if (type, other) = textsOf field then some (.proxy url other) else none) := by
  unfold addProxy ResolverTable.contains
  by_cases same : (type, other) = textsOf field
  · rw [if_pos same]
    cases same
    cases found : table.find? field.1.text field.2.text with
    | some resolver => simp [found]
    | none => simp [ResolverTable.find?_insert]
  · have different : ¬ (type = field.1.text ∧ other = field.2.text) := fun same' =>
      same (Prod.ext same'.1 same'.2)
    rw [if_neg same, Option.or_none]
    split
    · rfl
    · rw [ResolverTable.find?_insert, if_neg different]

theorem typeNames_addProxy (field : Name × Name) :
    (addProxy url table field).typeNames = (table.typeNames ++ [field.1.text]).eraseDups := by
  unfold addProxy
  split
  next contained =>
      have known : field.1.text ∈ table.typeNames := ResolverTable.mem_typeNames_of_contains contained
      exact (eraseDups_append_of_mem table.nodup_typeNames known).symm
  next => exact ResolverTable.typeNames_insert ..

theorem fieldNames_addProxy (field : Name × Name) (type : String) :
    (addProxy url table field).fieldNames type =
      (table.fieldNames type ++
        if type = field.1.text then [field.2.text] else []).eraseDups := by
  have distinct := table.nodup_fieldNames type
  unfold addProxy
  split
  next contained =>
      by_cases same : type = field.1.text
      · subst same
        have known := (table.mem_fieldNames_iff _ _).2 contained
        rw [if_pos rfl, eraseDups_append_of_mem distinct known]
      · rw [if_neg same, List.append_nil, eraseDups_eq_of_nodup distinct]
  next => exact ResolverTable.fieldNames_insert ..

variable {table}

theorem find?_foldl_addProxy (fields : List (Name × Name)) (type other : String) :
    (fields.foldl (addProxy url) table).find? type other =
      (table.find? type other).or
        (if (type, other) ∈ fields.map textsOf then some (.proxy url other) else none) := by
  induction fields generalizing table with
  | nil => simp
  | cons field fields ih =>
      rw [List.foldl_cons, ih, find?_addProxy, List.map_cons, Option.or_assoc]
      by_cases here : (type, other) = textsOf field
      · simp [here]
      · rw [if_neg here, Option.none_or]
        simp only [List.mem_cons, here, false_or]

theorem typeNames_foldl_addProxy (fields : List (Name × Name)) :
    (fields.foldl (addProxy url) table).typeNames =
      (table.typeNames ++ (fields.map textsOf).map Prod.fst).eraseDups := by
  induction fields generalizing table with
  | nil => simp [eraseDups_eq_of_nodup table.nodup_typeNames]
  | cons field fields ih =>
      rw [List.foldl_cons, ih, typeNames_addProxy, eraseDups_eraseDups_append, List.append_assoc]
      rfl

theorem fieldNames_foldl_addProxy (fields : List (Name × Name)) (type : String) :
    (fields.foldl (addProxy url) table).fieldNames type =
      (table.fieldNames type ++
        ((fields.map textsOf).filter fun field => field.1 = type).map Prod.snd).eraseDups := by
  induction fields generalizing table with
  | nil => simp [eraseDups_eq_of_nodup (table.nodup_fieldNames type)]
  | cons field fields ih =>
      rw [List.foldl_cons, ih, fieldNames_addProxy, eraseDups_eraseDups_append, List.append_assoc]
      by_cases same : type = field.1.text
      · simp [same, textsOf]
      · simp [same, Ne.symm same, textsOf]

variable (table)

/-- Proxies go where nothing is found, for the fields of the roots. -/
theorem find?_addProxies (schema : Schema) (type field : String) :
    (addProxies url schema table).find? type field =
      (table.find? type field).or
        (if (type, field) ∈ rootFieldNames schema then some (.proxy url field) else none) :=
  find?_foldl_addProxy url _ type field

end Service

/-! ## Both ways of federating -/

section

variable {schema : Schema} {options : Options} {given : ResolverTable}

/-- The table of a schema at hand. -/
theorem registers_merge : Registers schema options given none
    (given.merge (schema.effectiveOptions given options).resolvers) where
  ofOptions type field resolver registered := by
    rw [ResolverTable.find?_merge, find?_effectiveOptions, registered]
    rfl
  ofGiven type field resolver unregistered isGiven := by
    have noStub : ¬ (type ∈ stubNames schema options given ∧ field = referenceField) := by
      rintro ⟨stub, rfl⟩
      exact absurd (isGiven.symm.trans (mem_stubNames.1 stub).2.2) (by simp)
    rw [ResolverTable.find?_merge, find?_effectiveOptions, unregistered, if_neg noStub]
    exact isGiven
  stub type field unregistered ungiven isStub := by
    obtain rfl := isStub.reference
    have stub := mem_stubNames.2 ⟨isStub, unregistered, ungiven⟩
    rw [ResolverTable.find?_merge, find?_effectiveOptions, unregistered, if_pos ⟨stub, rfl⟩]
    rfl
  proxy _ _ _ _ _ _ isSome := absurd isSome (by simp)
  nothing type field unregistered ungiven notStub _ := by
    have noStub : ¬ (type ∈ stubNames schema options given ∧ field = referenceField) := by
      rintro ⟨stub, rfl⟩
      exact notStub (mem_stubNames.1 stub).1
    rw [ResolverTable.find?_merge, find?_effectiveOptions, unregistered, ungiven, if_neg noStub]
    rfl
  order := by
    refine ⟨stubNames schema options given, [], stubNames_sublist, fun _ => mem_stubNames, rfl, ?_,
      fun type => ?_⟩
    · rw [ResolverTable.typeNames_merge_eq, typeNames_effectiveOptions, eraseDups_append_eraseDups]
      simp
    · rw [ResolverTable.fieldNames_merge, fieldNames_effectiveOptions, eraseDups_append_eraseDups]
      simp [referenceField]

/-- Proxies come behind everything else, and go where nothing else is. -/
theorem Registers.addProxies {table : ResolverTable} (url : Url)
    (registers : Registers schema options given none table) :
    Registers schema options given (some url) (Service.addProxies url schema table) := by
  have untaken (type field : String) (unregistered : options.resolvers.find? type field = none)
      (ungiven : given.find? type field = none) (noStub : ¬ IsStub schema options type field) :=
    registers.nothing type field unregistered ungiven noStub (.inl rfl)
  refine ⟨?_, ?_, ?_, ?_, ?_, ?_⟩
  · intro type field resolver registered
    rw [Service.find?_addProxies, registers.ofOptions type field resolver registered]
    rfl
  · intro type field resolver unregistered isGiven
    rw [Service.find?_addProxies, registers.ofGiven type field resolver unregistered isGiven]
    rfl
  · intro type field unregistered ungiven isStub
    rw [Service.find?_addProxies, registers.stub type field unregistered ungiven isStub]
    rfl
  · intro type field address unregistered ungiven noStub same isRootField
    cases same
    rw [Service.find?_addProxies, untaken type field unregistered ungiven noStub,
      if_pos (mem_rootFieldNames.2 isRootField)]
    rfl
  · intro type field unregistered ungiven noStub noProxy
    have notRootField := noProxy.resolve_left (by simp)
    rw [Service.find?_addProxies, untaken type field unregistered ungiven noStub,
      if_neg (mt mem_rootFieldNames.1 notRootField)]
    rfl
  · obtain ⟨stubs, proxied, sublist, member, rfl, types, fields⟩ := registers.order
    refine ⟨stubs, _, sublist, member, rfl, ?_, fun type => ?_⟩
    · rw [Service.addProxies, Service.typeNames_foldl_addProxy, types, eraseDups_eraseDups_append]
      simp [rootFieldNames]
    · rw [Service.addProxies, Service.fieldNames_foldl_addProxy, fields,
        eraseDups_eraseDups_append]
      simp [rootFieldNames]

end

/-! ## Services behind a URL -/

/-- A service answers the introspection query with what stands for a schema. -/
structure Introspects (origin : Origin) (url : Url) (schema : Schema) (after : Origin) : Prop where
  answer : ∃ data, Schema.ofIntrospection data = .ok schema ∧
    (Origin.ask url [] { query := Introspection.query }).run origin = ({ data := some data }, after)

/-- A service that answers the introspection query is federated as its answer says. -/
theorem Service.run_federate_of_answer {address : String} {url : Url} {options : Option Options}
    {origin after : Origin} {data : Json} (checked : checkUrl address = .ok url)
    (valid : (options.getD .automatic).validate = .ok ())
    (answered : (Origin.ask url [] { query := Introspection.query }).run origin =
      ({ data := some data }, after)) :
    (federate address options).run origin =
      (federateData url (options.getD .automatic) data, after) := by
  have passed : check address (options.getD .automatic) = .ok url := by
    rw [check, checked]
    change (do (options.getD .automatic).validate; return url) = _
    rw [valid]
    rfl
  rw [federate, passed]
  dsimp only
  rw [StateT.run_bind, answered]
  rfl

/-- A service is federated as its schema is, and then gets its proxies. -/
theorem Service.run_federate {address : String} {url : Url} {options : Option Options}
    {origin after : Origin} {schema : Schema} {federated : FederatedService}
    (checked : checkUrl address = .ok url) (introspects : Introspects origin url schema after)
    (accepted : schema.federate .empty (options.getD .automatic) = .ok federated) :
    (federate address options).run origin =
      (.ok { federated with resolvers := addProxies url schema federated.resolvers }, after) := by
  obtain ⟨data, built, answered⟩ := introspects.answer
  have valid := (Schema.federate_eq_ok_iff.1 accepted).1
  rw [run_federate_of_answer checked valid answered, federateData, built]
  change (do
    let federated ← schema.federate .empty (options.getD .automatic)
    return { federated with resolvers := addProxies url schema federated.resolvers }, after) = _
  rw [accepted]
  rfl

/-- Every accepted schema gets a table with the resolvers of the options, the given ones, stubs and
proxies, each where those before it have nothing.  A service behind a URL is given none, and every
field of its roots is resolved. -/
theorem Schema.registers (schema : Schema) (given : ResolverTable) (options : Options)
    (valid : options.validate = .ok ()) :
    (∃ federated, schema.federate given options = .ok federated ∧
      Registers schema options given none federated.resolvers) ∧
    ∀ (address : String) (url : Url) (chosen : Option Options) (origin after : Origin),
      Service.checkUrl address = .ok url → chosen.getD .automatic = options →
      Introspects origin url schema after →
      ∃ federated, (Service.federate address chosen).run origin = (.ok federated, after) ∧
        Registers schema options .empty (some url) federated.resolvers ∧
        ∀ type field, IsRootField schema type field →
          federated.resolvers.contains type field = true := by
  refine ⟨⟨_, federate_eq_ok_iff.2 ⟨valid, rfl⟩, registers_merge⟩, ?_⟩
  rintro address url chosen origin after checked rfl introspects
  have accepted : schema.federate .empty (chosen.getD .automatic) = .ok _ :=
    federate_eq_ok_iff.2 ⟨valid, rfl⟩
  refine ⟨_, Service.run_federate checked introspects accepted,
    registers_merge.addProxies url, fun type field isRootField => ?_⟩
  rw [ResolverTable.contains, Service.find?_addProxies, if_pos (mem_rootFieldNames.2 isRootField)]
  cases ResolverTable.find? _ type field <;> rfl

/-! ## A service -/

/-- A service that is about to tell about its schema. -/
def Origin.telling (record : Introspection.SchemaRecord) : Origin where
  replies := [.response 200 (Json.compress (.obj [("data", record.answer)]))]

/-- A service that was asked about its schema. -/
def Origin.asked : Origin where
  received := [postOf localUrl [] { query := Introspection.query }]

/-- A service that tells about its schema answers the introspection query. -/
theorem Origin.run_ask_telling (record : Introspection.SchemaRecord) :
    (ask localUrl [] { query := Introspection.query }).run (telling record) =
      ({ data := some record.answer }, asked) := by
  have ready : (telling record).replies.head? =
      some (.response 200 (Json.compress (.obj [("data", record.answer)]))) := rfl
  have plain := record.isPlain_answer.mono (by decide : 16 ≤ 126)
  have received : (telling record).receives (postOf localUrl [] { query := Introspection.query }) =
      true := receives_localUrl rfl [] _
  rw [run_ask, answer_of_reply received ready, responseTo, readAnswer,
    Response.ofText?_compress plain Json.noConfusion, after, if_pos received]
  rfl

/-- The records of a service whose only type is a query root with one field. -/
def greetingRecord : Introspection.SchemaRecord where
  queryType := some ⟨"Query"⟩
  types :=
    [{ kind := .object
       name := "Query"
       fields := some [{ name := "me", type := { kind := .scalar, name := some "ID" } }]
       interfaces := some [] }]

theorem exists_introspects_greeting :
    ∃ schema, Introspects (.telling greetingRecord) Origin.localUrl schema .asked := by
  obtain ⟨schema, built⟩ := Schema.exists_of_ofData greetingRecord.ofData_answer (by decide +kernel)
  exact ⟨schema, greetingRecord.answer, built, Origin.run_ask_telling greetingRecord⟩

theorem checkUrl_localUrl : Service.checkUrl "http://localhost/graphql" = .ok Origin.localUrl := by
  have read : Url.ofText? "http://localhost/graphql" = some Origin.localUrl := by decide +kernel
  rw [Service.checkUrl, if_neg (by decide), read]

theorem registers_greeting :
    ∃ schema federated, Options.automatic.validate = .ok () ∧
      Introspects (.telling greetingRecord) Origin.localUrl schema .asked ∧
      (Service.federate "http://localhost/graphql" none).run (.telling greetingRecord) =
        (.ok federated, .asked) ∧
      Registers schema .automatic .empty (some Origin.localUrl) federated.resolvers := by
  obtain ⟨schema, introspects⟩ := exists_introspects_greeting
  have valid : Options.automatic.validate = .ok () := rfl
  obtain ⟨federated, run, registers, _⟩ := (Schema.registers schema .empty .automatic valid).2
    "http://localhost/graphql" Origin.localUrl none (.telling greetingRecord) .asked
    checkUrl_localUrl rfl introspects
  exact ⟨schema, federated, valid, introspects, run, registers⟩

end Subgraph
