import Subgraph.Introspection.Schema
import Subgraph.Proofs.Introspection.Faults
import Subgraph.Proofs.Introspection.QueryText

/-!
# What the introspection query leaves of data

The introspection query asks for all that a document is made of, but for deep
references.  These are cut off, and what is left of one is no reference.

* `SchemaRecord.ofData_keep` says what is read of the data that are kept.
* `SchemaRecord.references` are the references that are converted, and
  `ReferenceRecord.wrappers` counts the wrappers of one.
* `SchemaRecord.document_kept` says that nothing is lost where no reference has
  too many, and `SchemaRecord.wrappers_le_of_document_kept` that nothing is
  converted where one has.
* `Schema.documentOfIntrospection_keep` puts this together for data.
-/

namespace Subgraph

open Json

namespace Introspection

/-! ## Records that are read of what is kept -/

/-- Data about a schema: arrays list objects, but for the places of a directive. -/
abbrev IsTree : Json → Prop := ListsObjects "locations"

variable {value : Json}

namespace ReferenceRecord

/-- Of a reference, as many wrappers are read as are asked about, by induction on their number. -/
theorem ofJson_keep (depth : Nat) {record : ReferenceRecord} (tree : IsTree value)
    (read : ofJson value = .ok record) :
    ofJson (value.keep (Query.referenceAsked depth)) = .ok (cut depth record) := by
  induction depth generalizing value record with
  | zero =>
      rw [ofJson] at read
      obtain ⟨given, rfl⟩ := exists_eq_obj_of_record tree (.optional "name" text _)
        (List.mem_cons_of_mem _ List.mem_cons_self) (by simp [Member.optional])
        (fun _ _ _ => ⟨_, rfl⟩) read
      show ofJson (.obj (keepIn given (Query.referenceAsked 0))) = _
      rw [ofJson]
      refine record_keepIn ?_ rfl tree read
      exact .cons (.entire rfl (agrees_each _) fun _ _ => rfl) <|
        .cons (.entire rfl agrees_text.nullable fun _ _ => rfl) <|
        .cons (.leftOut rfl (by simp) fun _ _ => rfl) .nil
  | succ depth ih =>
      rw [ofJson] at read
      obtain ⟨given, rfl⟩ := exists_eq_obj_of_record tree (.optional "name" text _)
        (List.mem_cons_of_mem _ List.mem_cons_self) (by simp [Member.optional])
        (fun _ _ _ => ⟨_, rfl⟩) read
      show ofJson (.obj (keepIn given (Query.referenceAsked (depth + 1)))) = _
      rw [ofJson]
      refine record_keepIn ?_ rfl tree read
      exact .cons (.entire rfl (agrees_each _) fun _ _ => rfl) <|
        .cons (.entire rfl agrees_text.nullable fun _ _ => rfl) <|
        .cons (.inside rfl (by simp) (Carries.nullable fun _ _ _ tree read _ => ih tree read)
          fun _ _ => rfl) .nil

theorem ofJson_keep_kept {record : ReferenceRecord} (tree : IsTree value)
    (read : ofJson value = .ok record) :
    ofJson (value.keep (Query.referenceAsked Query.wrapperDepth)) = .ok record.kept :=
  ofJson_keep Query.wrapperDepth tree read

end ReferenceRecord

theorem RootRecord.ofJson_keep {record : RootRecord} (tree : IsTree value)
    (read : ofJson value = .ok record) : ofJson (value.keep Query.rootAsked) = .ok record := by
  obtain ⟨given, rfl⟩ := exists_eq_obj_of_record tree (.required "name" text _)
    List.mem_cons_self (by simp [Member.required]) (fun _ _ _ => ⟨_, rfl⟩) read
  change _ = Except.ok (id record)
  exact record_keepIn (.cons (.entire rfl agrees_text fun _ _ => rfl) .nil) rfl tree read

theorem InputValueRecord.ofJson_keep {record : InputValueRecord} (tree : IsTree value)
    (read : ofJson value = .ok record) :
    ofJson (value.keep Query.inputValueAsked) = .ok record.kept := by
  obtain ⟨given, rfl⟩ := exists_eq_obj_of_record tree (.required "name" text _)
    List.mem_cons_self (by simp [Member.required]) (fun _ _ _ => ⟨_, rfl⟩) read
  refine record_keepIn ?_ rfl tree read
  exact .cons (.entire rfl agrees_text fun _ _ => rfl) <|
    .cons (.entire rfl agrees_text.nullable fun _ _ => rfl) <|
    .cons (.inside rfl (by simp) (Carries.each ReferenceRecord.ofJson_keep_kept)
      fun _ _ => rfl) <|
    .cons (.entire rfl agrees_text.nullable fun _ _ => rfl) .nil

theorem FieldRecord.ofJson_keep {record : FieldRecord} (tree : IsTree value)
    (read : ofJson value = .ok record) :
    ofJson (value.keep Query.fieldAsked) = .ok record.kept := by
  obtain ⟨given, rfl⟩ := exists_eq_obj_of_record tree (.required "name" text _)
    List.mem_cons_self (by simp [Member.required]) (fun _ _ _ => ⟨_, rfl⟩) read
  refine record_keepIn ?_ rfl tree read
  exact .cons (.entire rfl agrees_text fun _ _ => rfl) <|
    .cons (.entire rfl agrees_text.nullable fun _ _ => rfl) <|
    .cons (.inside rfl (by simp) (Carries.items InputValueRecord.ofJson_keep)
      fun _ _ => rfl) <|
    .cons (.inside rfl (by simp) (Carries.each ReferenceRecord.ofJson_keep_kept)
      fun _ _ => rfl) <|
    .cons (.entire rfl agrees_flag fun _ _ => rfl) <|
    .cons (.entire rfl agrees_text.nullable fun _ _ => rfl) .nil

theorem EnumValueRecord.ofJson_keep {record : EnumValueRecord} (tree : IsTree value)
    (read : ofJson value = .ok record) :
    ofJson (value.keep Query.enumValueAsked) = .ok record := by
  obtain ⟨given, rfl⟩ := exists_eq_obj_of_record tree (.required "name" text _)
    List.mem_cons_self (by simp [Member.required]) (fun _ _ _ => ⟨_, rfl⟩) read
  change _ = Except.ok (id record)
  refine record_keepIn ?_ rfl tree read
  exact .cons (.entire rfl agrees_text fun _ _ => rfl) <|
    .cons (.entire rfl agrees_text.nullable fun _ _ => rfl) <|
    .cons (.entire rfl agrees_flag fun _ _ => rfl) <|
    .cons (.entire rfl agrees_text.nullable fun _ _ => rfl) .nil

theorem TypeRecord.ofJson_keep {record : TypeRecord} (tree : IsTree value)
    (read : ofJson value = .ok record) :
    ofJson (value.keep Query.typeAsked) = .ok record.kept := by
  obtain ⟨given, rfl⟩ := exists_eq_obj_of_record tree (.required "name" text _)
    (List.mem_cons_of_mem _ List.mem_cons_self) (by simp [Member.required])
    (fun _ _ _ => ⟨_, rfl⟩) read
  refine record_keepIn ?_ rfl tree read
  have values {whole less : Json} : Carries "locations" Query.enumValueAsked id
      (items EnumValueRecord.ofJson : PartReading whole _)
      (items EnumValueRecord.ofJson : PartReading less _) := by
    have each : Carries "locations" Query.enumValueAsked (List.map id)
        (items EnumValueRecord.ofJson : PartReading whole _)
        (items EnumValueRecord.ofJson : PartReading less _) :=
      .items EnumValueRecord.ofJson_keep
    rwa [List.map_id_fun] at each
  exact .cons (.entire rfl (agrees_each _) fun _ _ => rfl) <|
    .cons (.entire rfl agrees_text fun _ _ => rfl) <|
    .cons (.entire rfl agrees_text.nullable fun _ _ => rfl) <|
    .cons (.inside rfl (by simp) (Carries.items FieldRecord.ofJson_keep).nullable
      fun _ _ => rfl) <|
    .cons (.inside rfl (by simp) (Carries.items InputValueRecord.ofJson_keep).nullable
      fun _ _ => rfl) <|
    .cons (.inside rfl (by simp) (Carries.items ReferenceRecord.ofJson_keep_kept).nullable
      fun _ _ => rfl) <|
    .cons (.inside rfl (by simp) (Carries.nullable values)
      fun _ one => by cases one <;> rfl) <|
    .cons (.inside rfl (by simp) (Carries.items ReferenceRecord.ofJson_keep_kept).nullable
      fun _ _ => rfl) .nil

theorem DirectiveRecord.ofJson_keep {record : DirectiveRecord} (tree : IsTree value)
    (read : ofJson value = .ok record) :
    ofJson (value.keep Query.directiveAsked) = .ok record.kept := by
  obtain ⟨given, rfl⟩ := exists_eq_obj_of_record tree (.required "name" text _)
    List.mem_cons_self (by simp [Member.required]) (fun _ _ _ => ⟨_, rfl⟩) read
  refine record_keepIn ?_ rfl tree read
  exact .cons (.entire rfl agrees_text fun _ _ => rfl) <|
    .cons (.entire rfl agrees_text.nullable fun _ _ => rfl) <|
    .cons (.entire rfl (agrees_items _) fun _ _ => rfl) <|
    .cons (.inside rfl (by simp) (Carries.items InputValueRecord.ofJson_keep)
      fun _ _ => rfl) <|
    .cons (.entire rfl agrees_flag fun _ _ => rfl) .nil

namespace SchemaRecord

theorem ofJson_keep {record : SchemaRecord} (tree : IsTree value)
    (read : ofJson value = .ok record) :
    ofJson (value.keep Query.schemaAsked) = .ok record.kept := by
  obtain ⟨given, rfl⟩ := exists_eq_obj_of_record tree
    (.required "types" (items TypeRecord.ofJson) _)
    (List.mem_cons_of_mem _ <| List.mem_cons_of_mem _ <| List.mem_cons_of_mem _ List.mem_cons_self)
    (by simp [Member.required])
    (fun _ _ _ => ⟨_, rfl⟩) read
  refine record_keepIn ?_ rfl tree read
  have root {whole less : Json} : Carries "locations" Query.rootAsked id
      (each RootRecord.ofJson : PartReading whole _)
      (each RootRecord.ofJson : PartReading less _) := .each RootRecord.ofJson_keep
  exact .cons (.inside rfl (by simp) root.nullable fun _ one => by cases one <;> rfl) <|
    .cons (.inside rfl (by simp) root.nullable fun _ one => by cases one <;> rfl) <|
    .cons (.inside rfl (by simp) root.nullable fun _ one => by cases one <;> rfl) <|
    .cons (.inside rfl (by simp) (Carries.items TypeRecord.ofJson_keep) fun _ _ => rfl) <|
    .cons (.inside rfl (by simp) (Carries.items DirectiveRecord.ofJson_keep)
      fun _ _ => rfl) .nil

/-- What is kept of data is read as what the query leaves of what is read of the whole. -/
theorem ofData_keep {record : SchemaRecord} {given : List (String × Json)}
    (tree : IsTree (.obj given)) (read : ofData (.obj given) = .ok record) :
    ofData ((Json.obj given).keep Query.asked) = .ok record.kept :=
  record_keepIn (.cons (.inside rfl (by simp) (Carries.each ofJson_keep) fun _ _ => rfl) .nil)
    rfl tree read

end SchemaRecord

/-! ## References that are cut off -/

namespace ReferenceRecord

/-- How many wrappers are around something in a reference. -/
def wrappers : ReferenceRecord → Nat
  | ⟨kind, _, some inner⟩ => if kind.IsWrapper then inner.wrappers + 1 else 0
  | ⟨_, _, none⟩ => 0

theorem wrappers_wrapper {kind : TypeKind} (name : Option String) (inner : ReferenceRecord)
    (wraps : kind.IsWrapper) : wrappers ⟨kind, name, some inner⟩ = inner.wrappers + 1 := by
  rw [wrappers, if_pos wraps]

theorem kind_cut (depth : Nat) (record : ReferenceRecord) :
    (cut depth record).kind = record.kind := by
  cases depth <;> rfl

theorem typeName_cut (depth : Nat) (record : ReferenceRecord) :
    (cut depth record).typeName = record.typeName := by
  cases depth <;> rfl

/-- Nothing is lost of a reference that has no more wrappers than it is cut to, by induction on
these. -/
theorem reference_cut {depth : Nat} {record : ReferenceRecord} (enough : record.wrappers ≤ depth) :
    (cut depth record).reference = record.reference := by
  induction depth generalizing record with
  | zero =>
      by_cases wraps : record.kind.IsWrapper
      case pos =>
        obtain ⟨kind, name, _ | inner⟩ := record
        · rfl
        · rw [wrappers_wrapper name inner wraps] at enough
          exact absurd enough (Nat.not_succ_le_zero _)
      case neg =>
        rw [reference_of_not_isWrapper wraps,
          reference_of_not_isWrapper (by rwa [kind_cut]), typeName_cut]
  | succ depth ih =>
      by_cases wraps : record.kind.IsWrapper
      case pos =>
        obtain ⟨kind, name, _ | inner⟩ := record
        · rfl
        · rw [wrappers_wrapper name inner wraps] at enough
          show reference ⟨kind, name, some (cut depth inner)⟩ = _
          rw [reference_wrapper name _ wraps, reference_wrapper name _ wraps,
            ih (Nat.le_of_succ_le_succ enough)]
      case neg =>
        rw [reference_of_not_isWrapper wraps,
          reference_of_not_isWrapper (by rwa [kind_cut]), typeName_cut]

/-- Where a reference was cut off, a wrapper is left with nothing inside. -/
theorem wrappers_le_of_isWellFormed {depth : Nat} {record : ReferenceRecord}
    (formed : (cut depth record).IsWellFormed) : record.wrappers ≤ depth := by
  induction depth generalizing record with
  | zero =>
      obtain ⟨kind, name, _ | inner⟩ := record
      · exact Nat.le_refl 0
      · by_cases wraps : kind.IsWrapper
        · obtain ⟨_, around, _⟩ := (isWellFormed_iff_of_isWrapper wraps).1 formed
          cases around
        · rw [wrappers, if_neg wraps]
  | succ depth ih =>
      obtain ⟨kind, name, _ | inner⟩ := record
      · exact Nat.zero_le _
      · by_cases wraps : kind.IsWrapper
        · obtain ⟨_, around, inside⟩ := (isWellFormed_iff_of_isWrapper wraps).1 formed
          cases around
          rw [wrappers_wrapper name inner wraps]
          exact Nat.succ_le_succ (ih inside)
        · rw [wrappers, if_neg wraps]
          exact Nat.zero_le _

/-- What is converted after it was cut was converted to the same before. -/
theorem reference_of_reference_cut {depth : Nat} {record : ReferenceRecord} {type : TypeReference}
    (converted : (cut depth record).reference = .ok type) : record.reference = .ok type := by
  have formed : (cut depth record).IsWellFormed :=
    (faults_eq_nil_iff _).1 ((reports_reference _).exists_ok_iff.1 ⟨type, converted⟩)
  rwa [← reference_cut (wrappers_le_of_isWellFormed formed)]

end ReferenceRecord

/-! ## References that are converted -/

/-- The references of a field: those of its arguments, then its own. -/
def FieldRecord.references (record : FieldRecord) : List ReferenceRecord :=
  record.args.map (·.type) ++ [record.type]

/-- The references of a type that belong to its kind. -/
def TypeRecord.references (record : TypeRecord) : List ReferenceRecord :=
  match record.kind with
  | .object | .interface => (record.fields.getD []).flatMap FieldRecord.references
  | .inputObject => (record.inputFields.getD []).map (·.type)
  | .scalar | .union | .enum | .list | .nonNull => []

/-- The references of a service's own directives and types. -/
def SchemaRecord.references (record : SchemaRecord) : List ReferenceRecord :=
  record.ownDirectives.flatMap (fun directive => directive.args.map (·.type)) ++
    record.ownTypes.flatMap TypeRecord.references

/-- The query asks for all wrappers of a reference. -/
abbrev ReferenceRecord.IsAsked (record : ReferenceRecord) : Prop :=
  record.wrappers ≤ Query.wrapperDepth

/-! ### Where all wrappers are asked for -/

theorem mapM_map_congr {ε α β : Type} {convert : α → Except ε β} {change : α → α} {items : List α}
    (same : ∀ item ∈ items, convert (change item) = convert item) :
    (items.map change).mapM convert = items.mapM convert := by
  induction items with
  | nil => rfl
  | cons item items ih =>
      obtain ⟨one, others⟩ := List.forall_mem_cons.1 same
      rw [List.map_cons, List.mapM_cons, List.mapM_cons, one, ih others]

theorem InputValueRecord.definition_kept {record : InputValueRecord}
    (isAsked : record.type.IsAsked) : record.kept.definition = record.definition := by
  have same : record.kept.type.reference = record.type.reference :=
    ReferenceRecord.reference_cut isAsked
  unfold definition
  rw [same]
  rfl

theorem mapM_definition_kept {inputs : List InputValueRecord}
    (asked : ∀ reference ∈ inputs.map (·.type), reference.IsAsked) :
    (inputs.map InputValueRecord.kept).mapM InputValueRecord.definition =
      inputs.mapM InputValueRecord.definition :=
  mapM_map_congr fun input inside =>
    input.definition_kept (asked _ (List.mem_map_of_mem inside))

theorem FieldRecord.definition_kept {record : FieldRecord}
    (asked : ∀ reference ∈ record.references, reference.IsAsked) :
    record.kept.definition = record.definition := by
  obtain ⟨inArguments, isAsked⟩ := List.forall_mem_append.1 asked
  have arguments : record.kept.args.mapM InputValueRecord.definition = _ :=
    mapM_definition_kept inArguments
  have type : record.kept.type.reference = record.type.reference :=
    ReferenceRecord.reference_cut (isAsked _ List.mem_cons_self)
  unfold definition
  rw [arguments, type]
  rfl

theorem DirectiveRecord.definition_kept {record : DirectiveRecord}
    (asked : ∀ reference ∈ record.args.map (·.type), reference.IsAsked) :
    record.kept.definition = record.definition := by
  have arguments : record.kept.args.mapM InputValueRecord.definition = _ :=
    mapM_definition_kept asked
  unfold definition
  rw [arguments]
  rfl

namespace TypeRecord

theorem getD_map_nil {α β : Type} (change : α → β) (items : Option (List α)) :
    (items.map (List.map change)).getD [] = (items.getD []).map change := by
  cases items <;> rfl

theorem mapM_typeName_kept (references : Option (List ReferenceRecord)) :
    ((references.map (List.map ReferenceRecord.kept)).getD []).mapM ReferenceRecord.typeName =
      (references.getD []).mapM ReferenceRecord.typeName := by
  rw [getD_map_nil]
  exact mapM_map_congr fun reference _ => reference.typeName_cut Query.wrapperDepth

theorem fieldsPart_kept {record : TypeRecord}
    (asked : ∀ field ∈ record.fields.getD [], ∀ reference ∈ field.references, reference.IsAsked) :
    record.kept.fieldsPart = record.fieldsPart := by
  have interfaces : (record.kept.interfaces.getD []).mapM ReferenceRecord.typeName = _ :=
    mapM_typeName_kept record.interfaces
  have fields : (record.kept.fields.getD []).mapM FieldRecord.definition =
      (record.fields.getD []).mapM FieldRecord.definition := by
    rw [show record.kept.fields.getD [] = _ from getD_map_nil FieldRecord.kept record.fields]
    exact mapM_map_congr fun field inside => field.definition_kept (asked field inside)
  unfold fieldsPart
  rw [interfaces, fields]

theorem body?_kept {record : TypeRecord}
    (asked : ∀ reference ∈ record.references, reference.IsAsked) :
    record.kept.body? = record.body? := by
  have kind : record.kept.kind = record.kind := rfl
  unfold references at asked
  unfold body?
  rw [kind]
  cases isKind : record.kind with
  | scalar | list | nonNull => rfl
  | object | interface =>
      rw [isKind] at asked
      dsimp only
      rw [fieldsPart_kept fun field inside reference among =>
        asked reference (List.mem_flatMap.2 ⟨field, inside, among⟩)]
  | union =>
      have members : (record.kept.possibleTypes.getD []).mapM ReferenceRecord.typeName = _ :=
        mapM_typeName_kept record.possibleTypes
      dsimp only
      rw [members]
  | enum => rfl
  | inputObject =>
      rw [isKind] at asked
      have fields : (record.kept.inputFields.getD []).mapM InputValueRecord.definition =
          (record.inputFields.getD []).mapM InputValueRecord.definition := by
        rw [show record.kept.inputFields.getD [] = _ from
          getD_map_nil InputValueRecord.kept record.inputFields]
        exact mapM_definition_kept asked
      dsimp only
      rw [fields]

theorem definition?_kept {record : TypeRecord}
    (asked : ∀ reference ∈ record.references, reference.IsAsked) :
    record.kept.definition? = record.definition? := by
  unfold definition?
  rw [body?_kept asked]
  rfl

end TypeRecord

namespace SchemaRecord

variable {record : SchemaRecord}

theorem ownDirectives_kept (record : SchemaRecord) :
    record.kept.ownDirectives = record.ownDirectives.map DirectiveRecord.kept := by
  show (record.directives.map DirectiveRecord.kept).filter _ = _
  rw [List.filter_map]
  rfl

theorem ownTypes_kept (record : SchemaRecord) :
    record.kept.ownTypes = record.ownTypes.map TypeRecord.kept := by
  show (record.types.map TypeRecord.kept).filter _ = _
  rw [List.filter_map]
  rfl

/-- Where all wrappers are asked for, what the query leaves is converted as the whole. -/
theorem document_kept (asked : ∀ reference ∈ record.references, reference.IsAsked) :
    record.kept.document = record.document := by
  obtain ⟨inDirectives, inTypes⟩ := List.forall_mem_append.1 asked
  have directives : record.kept.ownDirectives.mapM DirectiveRecord.definition =
      record.ownDirectives.mapM DirectiveRecord.definition := by
    rw [ownDirectives_kept]
    exact mapM_map_congr fun directive inside => directive.definition_kept fun reference among =>
      inDirectives reference (List.mem_flatMap.2 ⟨directive, inside, among⟩)
  have types : record.kept.ownTypes.mapM TypeRecord.definition? =
      record.ownTypes.mapM TypeRecord.definition? := by
    rw [ownTypes_kept]
    exact mapM_map_congr fun type inside => type.definition?_kept fun reference among =>
      inTypes reference (List.mem_flatMap.2 ⟨type, inside, among⟩)
  have schema : record.kept.schema? = record.schema? := rfl
  unfold document
  rw [filter_isLeftOut_directives, filter_isLeftOut_types, filter_isLeftOut_directives,
    filter_isLeftOut_types, directives, types, schema]

end SchemaRecord

/-! ### Where some are not -/

theorem InputValueRecord.isAsked_of_isWellFormed {inputs : List InputValueRecord}
    (formed : ∀ input ∈ inputs.map kept, input.IsWellFormed) :
    ∀ reference ∈ inputs.map (·.type), reference.IsAsked :=
  List.forall_mem_map.2 fun _ inside => ReferenceRecord.wrappers_le_of_isWellFormed
    (formed _ (List.mem_map_of_mem inside)).type

theorem FieldRecord.isAsked_of_isWellFormed {record : FieldRecord}
    (formed : record.kept.IsWellFormed) : ∀ reference ∈ record.references, reference.IsAsked :=
  List.forall_mem_append.2 ⟨InputValueRecord.isAsked_of_isWellFormed formed.arguments,
    List.forall_mem_singleton.2 (ReferenceRecord.wrappers_le_of_isWellFormed formed.type)⟩

theorem TypeRecord.isAsked_of_isWellFormed {record : TypeRecord}
    (formed : record.kept.IsWellFormed) : ∀ reference ∈ record.references, reference.IsAsked := by
  have parts := formed.parts
  unfold HasWellFormedParts at parts
  rw [show record.kept.kind = record.kind from rfl] at parts
  unfold references
  cases isKind : record.kind with
  | scalar | union | enum | list | nonNull => exact nofun
  | object | interface =>
      rw [isKind] at parts
      have fields := parts.2
      rw [show record.kept.fields.getD [] = _ from
        getD_map_nil FieldRecord.kept record.fields] at fields
      intro reference among
      obtain ⟨field, inside, among⟩ := List.mem_flatMap.1 among
      exact FieldRecord.isAsked_of_isWellFormed (fields _ (List.mem_map_of_mem inside))
        reference among
  | inputObject =>
      rw [isKind] at parts
      have fields : ∀ field ∈ record.kept.inputFields.getD [], field.IsWellFormed := parts
      rw [show record.kept.inputFields.getD [] = _ from
        getD_map_nil InputValueRecord.kept record.inputFields] at fields
      exact InputValueRecord.isAsked_of_isWellFormed fields

/-- Nothing is converted where a reference was cut off. -/
theorem SchemaRecord.isAsked_of_document_kept {record : SchemaRecord} {document : Document}
    (converted : record.kept.document = .ok document) :
    ∀ reference ∈ record.references, reference.IsAsked := by
  have formed : record.kept.IsWellFormed :=
    faults_eq_nil_iff.1 (record.kept.reports_document.exists_ok_iff.1 ⟨document, converted⟩)
  refine List.forall_mem_append.2 ⟨?_, ?_⟩
  · intro reference among
    obtain ⟨directive, isOwn, among⟩ := List.mem_flatMap.1 among
    obtain ⟨inside, own⟩ := List.mem_filter.1 isOwn
    have directiveFormed := formed.directives _ (List.mem_map_of_mem inside)
      (of_decide_eq_true own)
    exact InputValueRecord.isAsked_of_isWellFormed directiveFormed.arguments reference among
  · intro reference among
    obtain ⟨type, isOwn, among⟩ := List.mem_flatMap.1 among
    obtain ⟨inside, own⟩ := List.mem_filter.1 isOwn
    have typeFormed := formed.types _ (List.mem_map_of_mem inside) (of_decide_eq_true own)
    exact TypeRecord.isAsked_of_isWellFormed typeFormed reference among

end Introspection

/-! ## Data -/

open Introspection

namespace Schema

theorem documentOfIntrospection_of_ofData {data : Json} {record : SchemaRecord}
    (read : SchemaRecord.ofData data = .ok record) :
    documentOfIntrospection data =
      record.document.mapError FederationError.faultyIntrospection := by
  rw [documentOfIntrospection, read]
  dsimp only
  cases record.document <;> rfl

/-- The introspection query asks for all that a document is made of.  Where no reference that is
converted has more than seven wrappers, what is kept of the data makes the same document or has the
same fault.  Where one has, what is kept has a fault, so that no reference that was cut off stands
for another. -/
theorem documentOfIntrospection_keep :
    ∃ asked, (Document.ofText? query >>= Document.asked?) = some asked ∧
      ∀ (data : List (String × Json)) (record : SchemaRecord), IsTree (.obj data) →
        SchemaRecord.ofData (.obj data) = .ok record →
          SchemaRecord.ofData ((Json.obj data).keep asked) = .ok record.kept ∧
          ((∀ reference ∈ record.references, reference.wrappers ≤ 7) →
            documentOfIntrospection ((Json.obj data).keep asked) =
              documentOfIntrospection (.obj data)) ∧
          ((∃ reference ∈ record.references, 7 < reference.wrappers) →
            ∃ fault, documentOfIntrospection ((Json.obj data).keep asked) =
              .error (.faultyIntrospection fault)) ∧
          (∀ document, documentOfIntrospection ((Json.obj data).keep asked) = .ok document →
            documentOfIntrospection (.obj data) = .ok document) ∧
          ∀ reference ∈ record.references, ∀ type,
            reference.kept.reference = .ok type → reference.reference = .ok type := by
  refine ⟨Query.asked, Query.asked?_query, fun data record tree read => ?_⟩
  have readKept := SchemaRecord.ofData_keep tree read
  have whole := documentOfIntrospection_of_ofData read
  have kept := documentOfIntrospection_of_ofData readKept
  have same (asked : ∀ reference ∈ record.references, reference.wrappers ≤ 7) :
      documentOfIntrospection ((Json.obj data).keep Query.asked) =
        documentOfIntrospection (.obj data) := by
    rw [whole, kept, SchemaRecord.document_kept asked]
  refine ⟨readKept, same, ?_, ?_, ?_⟩
  · rintro ⟨reference, among, deep⟩
    rw [kept]
    cases converted : record.kept.document with
    | error fault => exact ⟨fault, rfl⟩
    | ok document =>
        have enough := SchemaRecord.isAsked_of_document_kept converted reference among
        exact absurd deep (Nat.not_lt.2 enough)
  · intro document found
    rw [kept] at found
    cases converted : record.kept.document with
    | error fault =>
        rw [converted] at found
        cases found
    | ok other =>
        rwa [← same (SchemaRecord.isAsked_of_document_kept converted), kept]
  · exact fun reference _ type => ReferenceRecord.reference_of_reference_cut

/-! ### Points in lists of lists -/

/-- A reference to points in lists of lists. -/
def pointLists : Nat → ReferenceRecord
  | 0 => { kind := .inputObject, name := some "Point" }
  | depth + 1 => { kind := .list, ofType := some (pointLists depth) }

theorem wrappers_pointLists (depth : Nat) : (pointLists depth).wrappers = depth := by
  induction depth with
  | zero => rfl
  | succ depth ih => exact congrArg (· + 1) ih

theorem cut_pointLists (depth : Nat) :
    ReferenceRecord.cut depth (pointLists depth) = pointLists depth := by
  induction depth with
  | zero => rfl
  | succ depth ih =>
      show ({ kind := .list, ofType := some _ } : ReferenceRecord) = pointLists (depth + 1)
      rw [ih]
      rfl

/-- Data about an argument of points in lists of lists. -/
def pointInput (depth : Nat) : List (String × Json) :=
  [("name", .str "others"), ("type", (pointLists depth).answer depth)]

/-- Data about a type of points that know others in lists of lists. -/
def pointType (depth : Nat) : List (String × Json) :=
  [("kind", .str "INPUT_OBJECT"), ("name", .str "Point"),
    ("inputFields", .arr [.obj (pointInput depth)])]

/-- Data about points that know others in lists of lists. -/
def pointData (depth : Nat) : List (String × Json) :=
  [("__schema", .obj [("types", .arr [.obj (pointType depth)])])]

/-- The record of points that know others in lists of lists. -/
def pointRecord (depth : Nat) : SchemaRecord where
  types := [{
    kind := .inputObject, name := "Point"
    inputFields := some [{ name := "others", type := pointLists depth }] }]

theorem items_single {whole : Json} {α : Type} {read : Json → Except Mismatch α} {value : Json}
    {one : α} (reads : read value = .ok one) (within : sizeOf (arr [value]) < sizeOf whole) :
    items read (arr [value]) within = .ok [one] := by
  rw [items, List.mapM_cons, reads]
  rfl

theorem ofData_pointData (depth : Nat) :
    SchemaRecord.ofData (.obj (pointData depth)) = .ok (pointRecord depth) := by
  have reference : ReferenceRecord.ofJson ((pointLists depth).answer depth) =
      .ok (pointLists depth) := by
    rw [ReferenceRecord.ofJson_answer, cut_pointLists]
  have input : InputValueRecord.ofJson (.obj (pointInput depth)) =
      .ok { name := "others", type := pointLists depth } :=
    record_eq_ok rfl (by simp) .rfl <| .required (fun _ => rfl) <| .skip Absence.noConfusion <|
      .required (fun _ => reference) <| .nil (by simp [Member.optional])
  have type : TypeRecord.ofJson (.obj (pointType depth)) = .ok
      { kind := .inputObject, name := "Point"
        inputFields := some [{ name := "others", type := pointLists depth }] } :=
    record_eq_ok rfl (by simp) .rfl <| .required (fun _ => rfl) <| .required (fun _ => rfl) <|
      .skip Absence.noConfusion <| .skip Absence.noConfusion <|
      .optional (fun within => congrArg (Except.map some) (items_single input within)) <|
      .nil (by simp [Member.optional])
  have schema : SchemaRecord.ofJson (.obj [("types", .arr [.obj (pointType depth)])]) =
      .ok (pointRecord depth) :=
    record_eq_ok rfl (by simp) .rfl <| .skip Absence.noConfusion <| .skip Absence.noConfusion <|
      .skip Absence.noConfusion <| .required (items_single type) <|
      .nil (by simp [Member.defaulted])
  exact record_eq_ok rfl (by simp) .rfl <| .required (fun _ => schema) .done

theorem isTree_single {members : List (String × Json)} (tree : IsTree (.obj members)) :
    IsTree (.arr [.obj members]) := by
  show IsTree (.arr ([members].map .obj))
  exact .arr (List.forall_mem_singleton.2 tree)

theorem isTree_answer (depth : Nat) (record : ReferenceRecord) :
    IsTree (record.answer depth) := by
  have text (value : Option String) : IsTree (orNull .str value) := by
    cases value with
    | none => exact .null
    | some value => exact .str value
  induction depth generalizing record with
  | zero => exact .obj (by simp [ListsObjects.str, text])
  | succ depth ih =>
      have inner : IsTree (orNull (ReferenceRecord.answer depth) record.ofType) := by
        cases record.ofType with
        | none => exact .null
        | some inner => exact ih inner
      exact .obj (by simp [ListsObjects.str, text, inner])

theorem isTree_pointData (depth : Nat) : IsTree (.obj (pointData depth)) := by
  have input : IsTree (.obj (pointInput depth)) :=
    .obj (by simp [pointInput, ListsObjects.str, isTree_answer])
  have type : IsTree (.obj (pointType depth)) :=
    .obj (by simp [pointType, ListsObjects.str, isTree_single input])
  have schema : IsTree (.obj [("types", .arr [.obj (pointType depth)])]) :=
    .obj (by simp [isTree_single type])
  exact .obj (by simp [pointData, schema])

/-- What is kept of points in eight lists has a fault, and in seven lists it has not. -/
theorem documentOfIntrospection_keep_pointData :
    ∃ asked, (Document.ofText? query >>= Document.asked?) = some asked ∧
      documentOfIntrospection ((Json.obj (pointData 7)).keep asked) =
        documentOfIntrospection (.obj (pointData 7)) ∧
      ∃ fault, documentOfIntrospection ((Json.obj (pointData 8)).keep asked) =
        .error (.faultyIntrospection fault) := by
  obtain ⟨asked, parsed, each⟩ := documentOfIntrospection_keep
  have own : ¬ IsSystemType "Point" := by decide
  have references (depth : Nat) : (pointRecord depth).references = [pointLists depth] := by
    simp [SchemaRecord.references, SchemaRecord.ownDirectives, SchemaRecord.ownTypes, pointRecord,
      TypeRecord.references, own]
  refine ⟨asked, parsed, ?_, ?_⟩
  · refine (each _ _ (isTree_pointData 7) (ofData_pointData 7)).2.1 ?_
    rw [references, List.forall_mem_singleton, wrappers_pointLists]
  · refine (each _ _ (isTree_pointData 8) (ofData_pointData 8)).2.2.1 ⟨pointLists 8, ?_, ?_⟩
    · rw [references]
      exact List.mem_cons_self
    · rw [wrappers_pointLists]
      exact Nat.lt_succ_self 7

end Schema

end Subgraph
