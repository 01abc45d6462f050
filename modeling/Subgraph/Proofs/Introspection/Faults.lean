import Subgraph.Proofs.Introspection.RoundTrip

/-!
# Faults of introspection records

A conversion stops at the first fault.  Here all faults of a record are listed,
in the order in which they are looked for, and a record that has none is said
to be well formed.

* `SchemaRecord.IsWellFormed` says what is asked of the records of a schema.
  Nothing is asked of a type or a directive that every service has, and of a
  type only what belongs to its kind (`TypeRecord.own`).
* `SchemaRecord.faults` lists what is wrong with them: directives first, then
  root types, then types.
* `ReportsFirst` says of a conversion that it stops at the first fault of a list, and
  its lemmas go along the steps of a conversion.
* `SchemaRecord.document_reports` is all of this about whole schemas.
-/

namespace Subgraph

/-! ## Conversions that stop at the first fault -/

/-- A conversion succeeds where there is no fault, and else stops at the first one. -/
def ReportsFirst {ε α : Type} (converted : Except ε α) (faults : List ε) : Prop :=
  match converted with
  | .ok _ => faults = []
  | .error fault => faults.head? = some fault

namespace ReportsFirst

variable {ε α β : Type} {converted : Except ε α} {faults others : List ε}

theorem ok (value : α) : ReportsFirst (.ok value : Except ε α) [] := rfl

theorem error (fault : ε) : ReportsFirst (.error fault : Except ε α) [fault] := rfl

/-- The faults of the first step stand in front of those of the second. -/
protected theorem bind {second : α → Except ε β} (reports : ReportsFirst converted faults)
    (each : ∀ value, ReportsFirst (second value) others) :
    ReportsFirst (converted >>= second) (faults ++ others) := by
  cases converted with
  | ok value =>
      have none : faults = [] := reports
      rw [none]
      exact each value
  | error fault =>
      have first : faults.head? = some fault := reports
      show (faults ++ others).head? = some fault
      rw [List.head?_append, first]
      rfl

/-- A last step that cannot fail has no fault of its own. -/
theorem bind_ok {result : α → β} (reports : ReportsFirst converted faults) :
    ReportsFirst (converted >>= fun value => .ok (result value)) faults := by
  have both := reports.bind fun value => ok (result value)
  rwa [List.append_nil] at both

protected theorem map {change : α → β} (reports : ReportsFirst converted faults) :
    ReportsFirst (converted.map change) faults := by
  cases converted with
  | ok value => exact reports
  | error fault => exact reports

/-- A list has the faults of its items, by induction on it. -/
protected theorem mapM {convert : β → Except ε α} {listed : β → List ε} {items : List β}
    (each : ∀ item, ReportsFirst (convert item) (listed item)) :
    ReportsFirst (items.mapM convert) (items.flatMap listed) := by
  induction items with
  | nil => exact ok []
  | cons item items ih =>
      rw [List.mapM_cons, List.flatMap_cons]
      exact (each item).bind fun first => ih.bind_ok

/-- There is something to give exactly where there is no fault. -/
theorem exists_ok_iff (reports : ReportsFirst converted faults) :
    (∃ value, converted = .ok value) ↔ faults = [] := by
  cases converted with
  | ok value => exact ⟨fun _ => reports, fun _ => ⟨value, rfl⟩⟩
  | error fault =>
      have first : faults.head? = some fault := reports
      constructor
      · rintro ⟨value, same⟩
        cases same
      · rintro rfl
        cases first

theorem eq_error_iff (reports : ReportsFirst converted faults) (fault : ε) :
    converted = .error fault ↔ faults.head? = some fault := by
  cases converted with
  | ok value =>
      have none : faults = [] := reports
      rw [none]
      exact ⟨nofun, nofun⟩
  | error first =>
      have same : faults.head? = some first := reports
      rw [same, Except.error.injEq, Option.some.injEq]

end ReportsFirst

namespace Introspection

/-! ## Well-formed records -/

/-- A text is a name. -/
def IsName (text : String) : Prop := Name.isValid text.toList = true

instance (text : String) : Decidable (IsName text) := inferInstanceAs (Decidable (_ = _))

/-- A kind that is no type but a layer around one. -/
def TypeKind.IsWrapper (kind : TypeKind) : Prop := kind = .list ∨ kind = .nonNull

instance (kind : TypeKind) : Decidable kind.IsWrapper := inferInstanceAs (Decidable (_ ∨ _))

/-- The layer of a wrapper around a reference. -/
def TypeKind.wrap (kind : TypeKind) (inner : TypeReference) : TypeReference :=
  if kind = .nonNull then inner.nonNull else .list inner false

/-- A reference that has a name itself, a valid one. -/
def ReferenceRecord.IsNamed (record : ReferenceRecord) : Prop := ∃ name ∈ record.name, IsName name

/-- A chain of wrappers, each around something, with a named type at its end. -/
inductive ReferenceRecord.IsWellFormed : ReferenceRecord → Prop where
  | named {record : ReferenceRecord} (ends : ¬ record.kind.IsWrapper) (isNamed : record.IsNamed) :
      IsWellFormed record
  | wrapper {record inner : ReferenceRecord} (wraps : record.kind.IsWrapper)
      (around : record.ofType = some inner) (inside : IsWellFormed inner) : IsWellFormed record

/-- An argument or input field with a name, a type, and a default that can be read. -/
structure InputValueRecord.IsWellFormed (record : InputValueRecord) : Prop where
  name : IsName record.name
  type : record.type.IsWellFormed
  default : ∀ literal ∈ record.defaultValue, (Value.ofLiteral? literal).isSome = true

/-- A field with a name, arguments and a type. -/
structure FieldRecord.IsWellFormed (record : FieldRecord) : Prop where
  name : IsName record.name
  arguments : ∀ argument ∈ record.args, argument.IsWellFormed
  type : record.type.IsWellFormed

/-- What belongs to the kind of a type is well formed. -/
def TypeRecord.HasWellFormedParts (record : TypeRecord) : Prop :=
  match record.kind with
  | .object | .interface =>
      (∀ interface ∈ record.interfaces.getD [], interface.IsNamed) ∧
        ∀ field ∈ record.fields.getD [], field.IsWellFormed
  | .union => ∀ member ∈ record.possibleTypes.getD [], member.IsNamed
  | .enum => ∀ value ∈ record.enumValues.getD [], IsName value.name
  | .inputObject => ∀ field ∈ record.inputFields.getD [], field.IsWellFormed
  | .scalar | .list | .nonNull => True

/-- A type with a name, and with what belongs to its kind. -/
structure TypeRecord.IsWellFormed (record : TypeRecord) : Prop where
  name : IsName record.name
  parts : record.HasWellFormedParts

/-- A directive with a name, arguments, and places that there are. -/
structure DirectiveRecord.IsWellFormed (record : DirectiveRecord) : Prop where
  name : IsName record.name
  arguments : ∀ argument ∈ record.args, argument.IsWellFormed
  locations : ∀ name ∈ record.locations, ∃ place : DirectiveLocation, place.text = name

/-- A root type is told that has another name than the default one. -/
def SchemaRecord.HasOwnRoot (record : SchemaRecord) : Prop :=
  ∃ root ∈ record.roots, root.2 ≠ root.1.defaultRoot.text

instance (record : SchemaRecord) : Decidable record.HasOwnRoot :=
  inferInstanceAs (Decidable (∃ root ∈ record.roots, _))

/-- A service's own directives and types are well formed, and its root types have names, unless these
are the default ones. -/
structure SchemaRecord.IsWellFormed (record : SchemaRecord) : Prop where
  directives : ∀ directive ∈ record.directives, ¬ IsSystemDirective directive.name →
    directive.IsWellFormed
  roots : record.HasOwnRoot → ∀ root ∈ record.roots, IsName root.2
  types : ∀ type ∈ record.types, ¬ IsSystemType type.name → type.IsWellFormed

/-! ## Faults in order -/

/-- What is wrong with a text as a name. -/
def nameFaults (text : String) : List IntrospectionFault :=
  if IsName text then [] else [.invalidName text]

/-- What is wrong with a literal as a default. -/
def defaultFaults (literal : String) : List IntrospectionFault :=
  if (Value.ofLiteral? literal).isSome then [] else [.invalidDefault literal]

/-- What is wrong with the name of a place. -/
def locationFaults (name : String) : List IntrospectionFault :=
  if (DirectiveLocation.ofText? name).isSome then [] else [.unknownLocation name]

namespace ReferenceRecord

/-- What is wrong with the name that a reference has itself. -/
def nameFaults (record : ReferenceRecord) : List IntrospectionFault :=
  match record.name with
  | some name => Introspection.nameFaults name
  | none => [.missingName record.kind]

/-- What is wrong with a reference.  It is found at the end of its wrappers. -/
def faults : ReferenceRecord → List IntrospectionFault
  | ⟨kind, name, some inner⟩ =>
      if kind.IsWrapper then inner.faults else nameFaults ⟨kind, name, some inner⟩
  | ⟨kind, name, none⟩ =>
      if kind.IsWrapper then [.missingType kind] else nameFaults ⟨kind, name, none⟩

end ReferenceRecord

/-- What is wrong with an argument or an input field: its name, its type, then its default. -/
def InputValueRecord.faults (record : InputValueRecord) : List IntrospectionFault :=
  nameFaults record.name ++ (record.type.faults ++ record.defaultValue.toList.flatMap defaultFaults)

/-- What is wrong with a field: its name, its arguments, then its type. -/
def FieldRecord.faults (record : FieldRecord) : List IntrospectionFault :=
  nameFaults record.name ++ (record.args.flatMap InputValueRecord.faults ++ record.type.faults)

/-- What is wrong with what belongs to the kind of a type, with interfaces before fields. -/
def TypeRecord.partFaults (record : TypeRecord) : List IntrospectionFault :=
  match record.kind with
  | .object | .interface =>
      (record.interfaces.getD []).flatMap ReferenceRecord.nameFaults ++
        (record.fields.getD []).flatMap FieldRecord.faults
  | .union => (record.possibleTypes.getD []).flatMap ReferenceRecord.nameFaults
  | .enum => (record.enumValues.getD []).flatMap fun value => nameFaults value.name
  | .inputObject => (record.inputFields.getD []).flatMap InputValueRecord.faults
  | .scalar | .list | .nonNull => []

/-- What is wrong with a type: its name, then what belongs to its kind. -/
def TypeRecord.faults (record : TypeRecord) : List IntrospectionFault :=
  nameFaults record.name ++ record.partFaults

/-- What is wrong with a directive: its name, its arguments, then its places. -/
def DirectiveRecord.faults (record : DirectiveRecord) : List IntrospectionFault :=
  nameFaults record.name ++
    (record.args.flatMap InputValueRecord.faults ++ record.locations.flatMap locationFaults)

namespace SchemaRecord

/-- The directives of a service of its own. -/
def ownDirectives (record : SchemaRecord) : List DirectiveRecord :=
  record.directives.filter fun directive => ¬ IsSystemDirective directive.name

/-- The types of a service of its own. -/
def ownTypes (record : SchemaRecord) : List TypeRecord :=
  record.types.filter fun type => ¬ IsSystemType type.name

/-- What is wrong with the names of root types, which count where one of them is not the default
one. -/
def rootFaults (record : SchemaRecord) : List IntrospectionFault :=
  if record.HasOwnRoot then record.roots.flatMap fun root => nameFaults root.2 else []

/-- What is wrong with a schema: its directives, its root types, then its types. -/
def faults (record : SchemaRecord) : List IntrospectionFault :=
  record.ownDirectives.flatMap DirectiveRecord.faults ++
    (record.rootFaults ++ record.ownTypes.flatMap TypeRecord.faults)

end SchemaRecord

/-! ## Well-formed records have no faults -/

/-- Faults are listed unless some condition holds. -/
theorem faults_eq_nil_iff {condition : Prop} [Decidable condition] {fault : IntrospectionFault} :
    (if condition then [] else [fault]) = [] ↔ condition := by
  by_cases holds : condition <;> simp [holds]

@[simp] theorem nameFaults_eq_nil_iff {text : String} : nameFaults text = [] ↔ IsName text :=
  faults_eq_nil_iff

@[simp] theorem defaultFaults_eq_nil_iff {literal : String} :
    defaultFaults literal = [] ↔ (Value.ofLiteral? literal).isSome = true :=
  faults_eq_nil_iff

@[simp] theorem locationFaults_eq_nil_iff {name : String} :
    locationFaults name = [] ↔ ∃ place : DirectiveLocation, place.text = name := by
  rw [locationFaults, faults_eq_nil_iff]
  constructor
  · intro known
    obtain ⟨place, found⟩ := Option.isSome_iff_exists.1 known
    exact ⟨place, by simpa using List.find?_some found⟩
  · rintro ⟨place, rfl⟩
    simp

namespace ReferenceRecord

@[simp] theorem nameFaults_eq_nil_iff {record : ReferenceRecord} :
    record.nameFaults = [] ↔ record.IsNamed := by
  unfold nameFaults IsNamed
  cases record.name <;> simp

section

variable {kind : TypeKind} (name : Option String) (inner : ReferenceRecord)
  (wraps : kind.IsWrapper)

include wraps

theorem faults_wrapper : faults ⟨kind, name, some inner⟩ = inner.faults := by
  rw [faults, if_pos wraps]

theorem faults_wrapper_none : faults ⟨kind, name, none⟩ = [.missingType kind] := by
  rw [faults, if_pos wraps]

/-- A wrapper is a layer around what it is around. -/
theorem reference_wrapper : reference ⟨kind, name, some inner⟩ = inner.reference.map kind.wrap := by
  rcases wraps with rfl | rfl <;> rw [reference] <;> rfl

theorem reference_wrapper_none :
    reference ⟨kind, name, none⟩ = .error (.missingType kind) := by
  rcases wraps with rfl | rfl <;> rw [reference]

end

theorem faults_of_not_isWrapper {record : ReferenceRecord} (ends : ¬ record.kind.IsWrapper) :
    record.faults = record.nameFaults := by
  obtain ⟨kind, name, ofType⟩ := record
  cases ofType <;> rw [faults, if_neg ends]

/-- What is no wrapper is the type that it names. -/
theorem reference_of_not_isWrapper {record : ReferenceRecord} (ends : ¬ record.kind.IsWrapper) :
    record.reference = record.typeName.map fun name => .named name false := by
  obtain ⟨kind, name, ofType⟩ := record
  cases kind with
  | list => exact absurd (.inl rfl) ends
  | nonNull => exact absurd (.inr rfl) ends
  | _ =>
      cases name with
      | none => simp only [reference, typeName]; rfl
      | some name => simp only [reference, typeName]

/-- A reference that is no wrapper has to be named itself. -/
theorem isWellFormed_iff_isNamed {record : ReferenceRecord} (ends : ¬ record.kind.IsWrapper) :
    record.IsWellFormed ↔ record.IsNamed := by
  refine ⟨fun formed => ?_, .named ends⟩
  cases formed with
  | named _ isNamed => exact isNamed
  | wrapper wraps => exact absurd wraps ends

/-- A wrapper has to be around something that is well formed. -/
theorem isWellFormed_iff_of_isWrapper {record : ReferenceRecord} (wraps : record.kind.IsWrapper) :
    record.IsWellFormed ↔ ∃ inner, record.ofType = some inner ∧ inner.IsWellFormed := by
  refine ⟨fun formed => ?_, fun ⟨_, around, inside⟩ => .wrapper wraps around inside⟩
  cases formed with
  | named ends => exact absurd wraps ends
  | wrapper _ around inside => exact ⟨_, around, inside⟩

/-- Only the end of a chain of wrappers can have a fault. -/
@[simp] theorem faults_eq_nil_iff : (record : ReferenceRecord) →
    (record.faults = [] ↔ record.IsWellFormed)
  | ⟨kind, name, ofType⟩ => by
      by_cases wraps : kind.IsWrapper
      case pos =>
        rw [isWellFormed_iff_of_isWrapper wraps]
        cases ofType with
        | none => simp [faults_wrapper_none name wraps]
        | some inner => simpa [faults_wrapper name inner wraps] using inner.faults_eq_nil_iff
      case neg =>
        rw [faults_of_not_isWrapper wraps, nameFaults_eq_nil_iff, isWellFormed_iff_isNamed wraps]

end ReferenceRecord

@[simp] theorem InputValueRecord.faults_eq_nil_iff {record : InputValueRecord} :
    record.faults = [] ↔ record.IsWellFormed := by
  have all : record.faults = [] ↔ IsName record.name ∧ record.type.IsWellFormed ∧
      ∀ literal ∈ record.defaultValue, (Value.ofLiteral? literal).isSome = true := by
    simp [faults]
  exact all.trans ⟨fun ⟨name, type, default⟩ => ⟨name, type, default⟩,
    fun formed => ⟨formed.name, formed.type, formed.default⟩⟩

@[simp] theorem FieldRecord.faults_eq_nil_iff {record : FieldRecord} :
    record.faults = [] ↔ record.IsWellFormed := by
  have all : record.faults = [] ↔ IsName record.name ∧
      (∀ argument ∈ record.args, argument.IsWellFormed) ∧ record.type.IsWellFormed := by
    simp [faults]
  exact all.trans ⟨fun ⟨name, arguments, type⟩ => ⟨name, arguments, type⟩,
    fun formed => ⟨formed.name, formed.arguments, formed.type⟩⟩

theorem TypeRecord.partFaults_eq_nil_iff {record : TypeRecord} :
    record.partFaults = [] ↔ record.HasWellFormedParts := by
  unfold partFaults HasWellFormedParts
  cases record.kind <;> simp

@[simp] theorem TypeRecord.faults_eq_nil_iff {record : TypeRecord} :
    record.faults = [] ↔ record.IsWellFormed := by
  rw [faults, List.append_eq_nil_iff, nameFaults_eq_nil_iff, partFaults_eq_nil_iff]
  exact ⟨fun ⟨name, parts⟩ => ⟨name, parts⟩, fun formed => ⟨formed.name, formed.parts⟩⟩

@[simp] theorem DirectiveRecord.faults_eq_nil_iff {record : DirectiveRecord} :
    record.faults = [] ↔ record.IsWellFormed := by
  have all : record.faults = [] ↔ IsName record.name ∧
      (∀ argument ∈ record.args, argument.IsWellFormed) ∧
        ∀ name ∈ record.locations, ∃ place : DirectiveLocation, place.text = name := by
    simp [faults]
  exact all.trans ⟨fun ⟨name, arguments, locations⟩ => ⟨name, arguments, locations⟩,
    fun formed => ⟨formed.name, formed.arguments, formed.locations⟩⟩

theorem SchemaRecord.faults_eq_nil_iff {record : SchemaRecord} :
    record.faults = [] ↔ record.IsWellFormed := by
  have roots : record.rootFaults = [] ↔
      (record.HasOwnRoot → ∀ root ∈ record.roots, IsName root.2) := by
    unfold rootFaults
    by_cases own : record.HasOwnRoot <;> simp [own]
  have all : record.faults = [] ↔
      (∀ directive ∈ record.directives, ¬ IsSystemDirective directive.name →
        directive.IsWellFormed) ∧
      (record.HasOwnRoot → ∀ root ∈ record.roots, IsName root.2) ∧
      ∀ type ∈ record.types, ¬ IsSystemType type.name → type.IsWellFormed := by
    simp [faults, ownDirectives, ownTypes, roots]
  exact all.trans ⟨fun ⟨directives, roots, types⟩ => ⟨directives, roots, types⟩,
    fun formed => ⟨formed.directives, formed.roots, formed.types⟩⟩

/-! ## Conversions report the faults -/

theorem reports_nameOf (text : String) : ReportsFirst (nameOf text) (nameFaults text) := by
  by_cases valid : IsName text
  · have named : Name.ofText? text = some ⟨text, valid⟩ := dif_pos valid
    rw [nameOf, named, nameFaults, if_pos valid]
    exact .ok _
  · have unnamed : Name.ofText? text = none := dif_neg valid
    rw [nameOf, unnamed, nameFaults, if_neg valid]
    exact .error _

theorem reports_valueOf (literal : String) :
    ReportsFirst (valueOf literal) (defaultFaults literal) := by
  unfold valueOf defaultFaults
  cases Value.ofLiteral? literal with
  | none => exact .error _
  | some value => exact .ok value

theorem reports_valueOf? (literal : Option String) :
    ReportsFirst (valueOf? literal) (literal.toList.flatMap defaultFaults) := by
  cases literal with
  | none => exact .ok none
  | some literal =>
      rw [Option.toList_some, List.flatMap_singleton]
      exact (reports_valueOf literal).map

theorem reports_locationOf (name : String) :
    ReportsFirst (locationOf name) (locationFaults name) := by
  unfold locationOf locationFaults
  cases DirectiveLocation.ofText? name with
  | none => exact .error _
  | some place => exact .ok place

namespace ReferenceRecord

theorem reports_typeName (record : ReferenceRecord) :
    ReportsFirst record.typeName record.nameFaults := by
  unfold typeName nameFaults
  cases record.name with
  | none => exact .error _
  | some name => exact reports_nameOf name

/-- A reference reports what is wrong at the end of its wrappers, by recursion along them. -/
theorem reports_reference : (record : ReferenceRecord) → ReportsFirst record.reference record.faults
  | ⟨kind, name, ofType⟩ => by
      by_cases wraps : kind.IsWrapper
      case pos =>
        cases ofType with
        | none =>
            rw [reference_wrapper_none name wraps, faults_wrapper_none name wraps]
            exact .error _
        | some inner =>
            rw [reference_wrapper name inner wraps, faults_wrapper name inner wraps]
            exact inner.reports_reference.map
      case neg =>
        rw [reference_of_not_isWrapper wraps, faults_of_not_isWrapper wraps]
        exact (reports_typeName _).map

end ReferenceRecord

theorem InputValueRecord.reports_definition (record : InputValueRecord) :
    ReportsFirst record.definition record.faults :=
  (reports_nameOf record.name).bind fun _ => record.type.reports_reference.bind fun _ =>
    (reports_valueOf? record.defaultValue).bind_ok

theorem FieldRecord.reports_definition (record : FieldRecord) :
    ReportsFirst record.definition record.faults :=
  (reports_nameOf record.name).bind fun _ =>
    (ReportsFirst.mapM InputValueRecord.reports_definition).bind fun _ =>
      record.type.reports_reference.bind_ok

theorem EnumValueRecord.reports_definition (record : EnumValueRecord) :
    ReportsFirst record.definition (nameFaults record.name) :=
  (reports_nameOf record.name).bind_ok

namespace TypeRecord

theorem reports_body? (record : TypeRecord) : ReportsFirst record.body? record.partFaults := by
  have fields : ReportsFirst record.fieldsPart
      ((record.interfaces.getD []).flatMap ReferenceRecord.nameFaults ++
        (record.fields.getD []).flatMap FieldRecord.faults) :=
    (ReportsFirst.mapM ReferenceRecord.reports_typeName).bind fun _ =>
      (ReportsFirst.mapM FieldRecord.reports_definition).bind_ok
  unfold body? partFaults
  cases record.kind with
  | scalar => exact .ok _
  | object => exact fields.map
  | interface => exact fields.map
  | union => exact (ReportsFirst.mapM ReferenceRecord.reports_typeName).map
  | enum => exact (ReportsFirst.mapM EnumValueRecord.reports_definition).map
  | inputObject => exact (ReportsFirst.mapM InputValueRecord.reports_definition).map
  | list => exact .ok _
  | nonNull => exact .ok _

theorem reports_definition? (record : TypeRecord) : ReportsFirst record.definition? record.faults :=
  (reports_nameOf record.name).bind fun _ => record.reports_body?.bind_ok

end TypeRecord

theorem DirectiveRecord.reports_definition (record : DirectiveRecord) :
    ReportsFirst record.definition record.faults :=
  (reports_nameOf record.name).bind fun _ =>
    (ReportsFirst.mapM InputValueRecord.reports_definition).bind fun _ =>
      (ReportsFirst.mapM reports_locationOf).bind_ok

namespace SchemaRecord

variable (record : SchemaRecord)

theorem hasOwnRoot_iff :
    record.HasOwnRoot ↔
      ¬ (record.roots.all fun root => root.2 = root.1.defaultRoot.text) = true := by
  simp [HasOwnRoot]

theorem reports_schema? : ReportsFirst record.schema? record.rootFaults := by
  have each (root : OperationKind × String) :
      ReportsFirst ((nameOf root.2).map fun name => (root.1, name)) (nameFaults root.2) :=
    (reports_nameOf root.2).map
  unfold schema? rootFaults
  by_cases own : record.HasOwnRoot
  case pos =>
    rw [if_pos own, if_neg (record.hasOwnRoot_iff.1 own)]
    exact (ReportsFirst.mapM each).bind_ok
  case neg =>
    rw [if_neg own, if_pos (not_not.1 fun all => own (record.hasOwnRoot_iff.2 all))]
    exact .ok none

/-- What is kept of the directives are those of the service's own. -/
theorem filter_isLeftOut_directives :
    record.directives.filter (fun directive => !directive.isLeftOut) = record.ownDirectives :=
  List.filter_congr fun directive _ => by
    rw [Bool.eq_iff_iff, Bool.not_eq_true', decide_eq_true_eq, ← Document.isLeftOut_directive_iff,
      Bool.not_eq_true]

/-- What is kept of the types are those of the service's own. -/
theorem filter_isLeftOut_types :
    record.types.filter (fun type => !type.isLeftOut) = record.ownTypes :=
  List.filter_congr fun type _ => by
    rw [Bool.eq_iff_iff, Bool.not_eq_true', decide_eq_true_eq, ← Document.isLeftOut_type_iff,
      Bool.not_eq_true]

theorem reports_document : ReportsFirst record.document record.faults := by
  unfold document
  rw [filter_isLeftOut_directives, filter_isLeftOut_types]
  exact (ReportsFirst.mapM DirectiveRecord.reports_definition).bind fun _ =>
    record.reports_schema?.bind fun _ =>
      (ReportsFirst.mapM TypeRecord.reports_definition?).bind_ok

end SchemaRecord

/-! ## What nothing depends on -/

/-- A type with nothing but what belongs to its kind. -/
def TypeRecord.own (record : TypeRecord) : TypeRecord :=
  let bare : TypeRecord :=
    { kind := record.kind, name := record.name, description := record.description }
  match record.kind with
  | .object | .interface =>
      { bare with interfaces := record.interfaces, fields := record.fields }
  | .union => { bare with possibleTypes := record.possibleTypes }
  | .enum => { bare with enumValues := record.enumValues }
  | .inputObject => { bare with inputFields := record.inputFields }
  | .scalar | .list | .nonNull => bare

theorem TypeRecord.definition?_own (record : TypeRecord) :
    record.own.definition? = record.definition? := by
  obtain ⟨kind, name, description, fields, inputFields, interfaces, values, members⟩ := record
  cases kind <;> rfl

theorem TypeRecord.name_own (record : TypeRecord) : record.own.name = record.name := by
  unfold own
  cases record.kind <;> rfl

/-- A schema with nothing but a service's own directives and types, and what belongs to their
kinds. -/
def SchemaRecord.own (record : SchemaRecord) : SchemaRecord :=
  { record with
    directives := record.ownDirectives
    types := record.ownTypes.map TypeRecord.own }

theorem SchemaRecord.document_own (record : SchemaRecord) :
    record.own.document = record.document := by
  have directives : record.own.ownDirectives = record.ownDirectives := by
    simp [own, ownDirectives, List.filter_filter]
  have types : record.own.ownTypes = record.ownTypes.map TypeRecord.own := by
    simp [own, ownTypes, List.filter_map, List.filter_filter, Function.comp_def,
      TypeRecord.name_own]
  have converted : (record.ownTypes.map TypeRecord.own).mapM TypeRecord.definition? =
      record.ownTypes.mapM TypeRecord.definition? := by
    rw [List.mapM_map]
    exact congrArg (record.ownTypes.mapM ·) (funext TypeRecord.definition?_own)
  have schema : record.own.schema? = record.schema? := rfl
  unfold document
  rw [filter_isLeftOut_directives, filter_isLeftOut_types, filter_isLeftOut_directives,
    filter_isLeftOut_types, directives, types, converted, schema]

/-! ## Whole schemas -/

/-- The records of a schema are converted exactly when they are well formed, and else the first
fault decides.  Nothing depends on types and directives that every service has, nor on what does
not belong to the kind of a type. -/
theorem SchemaRecord.document_reports (record : SchemaRecord) :
    ((∃ document, record.document = .ok document) ↔ record.IsWellFormed) ∧
      (∀ fault, record.document = .error fault ↔ record.faults.head? = some fault) ∧
      record.own.document = record.document :=
  ⟨record.reports_document.exists_ok_iff.trans faults_eq_nil_iff,
    record.reports_document.eq_error_iff, record.document_own⟩

end Introspection

end Subgraph
