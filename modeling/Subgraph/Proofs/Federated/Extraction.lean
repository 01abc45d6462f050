import Subgraph.Introspection.Schema
import Subgraph.Proofs.Federated.Readable
import Subgraph.Proofs.Schema.Extended

/-!
# Declarations of schemas that were read

A schema that a text defines holds what was read from the text, so all of its
declarations can be read back.

* `Document.isReadable_of_extended?` is about a type with its extensions.
* `Schema.isReadable_of_ofText` is about the declarations of a schema.
-/

namespace Subgraph

/-- The parts of two bodies of one kind can be read back together. -/
theorem TypeBody.isReadable_append? {body other both : TypeBody} (first : body.IsReadable)
    (second : other.IsReadable) (same : body.append? other = some both) : both.IsReadable := by
  unfold append? at same
  intro declared found
  split at same
  case h_1 =>
      cases same
      exact first declared found
  case h_2 is fs js gs =>
      cases same
      cases found
      intro field member
      rw [List.map_append] at member
      rcases List.mem_append.1 member with inside | inside
      · exact first _ rfl field inside
      · exact second _ rfl field inside
  case h_3 =>
      cases same
      cases found
  case h_4 =>
      cases same
      cases found
      trivial
  case h_5 vs ws =>
      cases same
      cases found
      intro value member
      rw [List.map_append] at member
      rcases List.mem_append.1 member with inside | inside
      · exact first _ rfl value inside
      · exact second _ rfl value inside
  case h_6 fs gs =>
      cases same
      cases found
      intro field member
      rw [List.map_append] at member
      rcases List.mem_append.1 member with inside | inside
      · exact first _ rfl field inside
      · exact second _ rfl field inside
  case h_7 => cases same

/-- An extension keeps what can be read back. -/
theorem TypeDefinition.isReadable_of_extend? {type extension whole : TypeDefinition}
    (extended : type.extend? extension = some whole) (first : type.IsReadable)
    (second : extension.IsReadable) : whole.IsReadable := by
  obtain ⟨body, appended, rfl⟩ := Option.map_eq_some_iff.1 extended
  refine ⟨fun directive member => ?_, TypeBody.isReadable_append? first.body second.body appended⟩
  rcases List.mem_append.1 member with inside | inside
  · exact first.directives directive inside
  · exact second.directives directive inside

/-- A type with its extensions can be read back if all of them can. -/
theorem Document.isReadable_of_extended? {document : Document} {type whole : TypeDefinition}
    (extended : document.extended? type = some whole) (first : type.IsReadable)
    (each : ∀ extension, .extendType extension ∈ document → extension.IsReadable) :
    whole.IsReadable :=
  extended?_induction TypeDefinition.IsReadable extended first
    fun extension member _ _ readable one =>
      TypeDefinition.isReadable_of_extend? one readable (each extension member)

namespace Schema

/-- A type of a schema is built in, or can be read back if its document can. -/
theorem isReadable_of_mem_declared {document : Document} {schema : Schema}
    (built : ofDocument? document = some schema)
    (each : ∀ definition ∈ document, definition.IsReadable) {type : TypeDefinition}
    (member : type ∈ schema.declared) : type.IsReadable := by
  obtain ⟨inside, notBuiltIn⟩ := List.mem_filter.1 member
  obtain ⟨_, _, found⟩ := of_ofDocument?_eq_some built
  obtain ⟨defined, isDefined, extended⟩ :=
    exists_of_mem_mapM (of_types?_eq_some found).1 inside
  refine Document.isReadable_of_extended? extended ?_ fun extension isExtension => ?_
  · rcases List.mem_append.1 (Document.mem_of_mem_types isDefined) with builtIn | own
    · obtain ⟨_, among, same⟩ := List.mem_map.1 builtIn
      cases same
      have known : BuiltIn.isName type.name = true :=
        List.any_eq_true.2 ⟨defined, among, by simp [(Document.kind_of_extended? extended).1]⟩
      simp [known] at notBuiltIn
    · exact each _ own
  · rcases List.mem_append.1 isExtension with builtIn | own
    · obtain ⟨_, _, same⟩ := List.mem_map.1 builtIn
      cases same
    · exact each _ own

/-- The document that a text holds, and the schema that it defines. -/
theorem of_ofText {text : String} {schema : Schema} (read : ofText text = .ok schema) :
    ∃ document, Document.ofText? text = some document ∧ ofDocument? document = some schema := by
  unfold ofText at read
  split at read
  next document parsed =>
      unfold ofDocument at read
      split at read
      next built =>
          cases read
          exact ⟨document, parsed, built⟩
      next => cases read
  next => cases read

/-- The declarations of a schema that a text defines can be read back. -/
theorem isReadable_of_ofText {text : String} {schema : Schema} (read : ofText text = .ok schema) :
    ∀ declaration ∈ schema.declarations, declaration.IsReadable := by
  obtain ⟨document, parsed, built⟩ := of_ofText read
  intro declaration member
  obtain ⟨type, inside, same⟩ := List.mem_filterMap.1 member
  have readable := isReadable_of_mem_declared built (Document.isReadable_of_ofText? parsed) inside
  obtain ⟨body, declared, rfl⟩ := Option.map_eq_some_iff.1 same
  exact ⟨readable.directives, readable.body body declared⟩

end Schema

end Subgraph
