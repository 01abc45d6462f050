import Subgraph.Proofs.Federated.Extraction

/-!
# Arguments and input fields that were read

A schema that a text defines has constant defaults, wherever its arguments and
input fields stand: in interfaces and directives too, of which the declarations of
a federated schema have nothing.

* `Schema.hasConstant_of_ofText` says so.
-/

namespace Subgraph

/-- An argument or input field whose default, if it has one, has no variables. -/
def InputValueDefinition.HasConstant (value : InputValueDefinition) : Prop :=
  ∀ default ∈ value.defaultValue, default.isConstant = true

namespace Reading

/-- A kind's own part whose arguments and input fields can be read back. -/
def HasReadable (read : List Directive × TypeBody) : Prop :=
  ∀ value ∈ read.2.inputValues, value.declaration.IsReadable

theorem gives_hasReadable_fieldsPart {body : List Name → List FieldDefinition → TypeBody}
    (inside : ∀ interfaces fields,
      (body interfaces fields).inputValues = fields.flatMap (·.arguments)) :
    Gives (fieldsPart body) HasReadable := by
  refine Gives.next interfaces fun implemented => Gives.next constantDirectives fun applied => ?_
  refine (gives_fieldDefinition.optionalBetween .openBrace .closeBrace).bind
    fun fields each => Gives.pure ?_
  intro value member
  rw [inside] at member
  obtain ⟨field, among, argument⟩ := List.mem_flatMap.1 member
  exact (each field among).arguments _ (List.mem_map_of_mem argument)

theorem gives_hasReadable_inputPart : Gives inputPart HasReadable := by
  refine Gives.next constantDirectives fun applied => ?_
  exact (gives_inputValueDefinition.optionalBetween .openBrace .closeBrace).bind
    fun fields each => Gives.pure each

/-- What has no arguments and no input fields has none that could not be read back. -/
theorem hasReadable_of_eq_nil {applied : List Directive} {body : TypeBody}
    (none : body.inputValues = []) : HasReadable (applied, body) := by
  intro value member
  rw [none] at member
  cases member

theorem gives_hasReadable_unionPart : Gives unionPart HasReadable := by
  refine Gives.next constantDirectives fun applied => Gives.next (takes .equals) fun hasMembers =>
    Gives.ite ?_ ?_
  · exact Gives.next (separated .pipe name) fun members => Gives.pure (hasReadable_of_eq_nil rfl)
  · exact Gives.pure (hasReadable_of_eq_nil rfl)

theorem gives_hasReadable {keyword : String} {part : Reading (List Directive × TypeBody)}
    (found : typePart? keyword = some part) : Gives part HasReadable := by
  unfold typePart? at found
  repeat' split at found
  all_goals cases found
  · exact Gives.next constantDirectives fun applied => Gives.pure (hasReadable_of_eq_nil rfl)
  · exact gives_hasReadable_fieldsPart fun _ _ => rfl
  · exact gives_hasReadable_fieldsPart fun _ _ => rfl
  · exact gives_hasReadable_unionPart
  · exact Gives.next constantDirectives fun applied => Gives.next _ fun values =>
      Gives.pure (hasReadable_of_eq_nil rfl)
  · exact gives_hasReadable_inputPart

theorem gives_directiveDefinition (description : Option String) :
    Gives (directiveDefinition description) fun defined =>
      ∀ value ∈ defined.arguments, value.declaration.IsReadable := by
  refine Gives.next (expect .atSign) fun _ => Gives.next name fun directiveName => ?_
  refine (gives_inputValueDefinition.optionalBetween .openParen .closeParen).bind
    fun arguments each => Gives.next _ fun repeatable => Gives.next _ fun _ =>
      Gives.next (separated .pipe name) fun places => ?_
  split
  next => exact Gives.pure each
  next => exact Gives.failure

theorem settles_inputValues : Settles fun definition =>
    ∀ value ∈ definition.inputValues, value.declaration.IsReadable where
  type _ _ found := (gives_hasReadable found).weaken fun _ each _ _ => ⟨each, each⟩
  directive := gives_directiveDefinition
  operation _ := List.forall_mem_nil _
  fragment _ := List.forall_mem_nil _
  schema _ := List.forall_mem_nil _
  extendSchema _ := List.forall_mem_nil _

end Reading

namespace Schema

theorem hasConstant_builtIn :
    ∀ type ∈ BuiltIn.types, ∀ value ∈ type.body.inputValues, value.HasConstant := by
  have checked : (BuiltIn.types.all fun type => type.body.inputValues.all fun value =>
      value.defaultValue.all Value.isConstant) = true := by
    decide +kernel
  intro type member value inside
  have each := List.all_eq_true.1 (List.all_eq_true.1 checked type member) value inside
  intro default same
  rwa [Option.mem_def.1 same] at each

/-- A schema that a text defines has constant defaults. -/
theorem hasConstant_of_ofText {text : String} {schema : Schema} (read : ofText text = .ok schema) :
    (∀ directive ∈ schema.directives, ∀ value ∈ directive.arguments, value.HasConstant) ∧
      ∀ type ∈ schema.types, ∀ value ∈ type.body.inputValues, value.HasConstant := by
  obtain ⟨document, parsed, built⟩ := of_ofText read
  have readable := Reading.settles_inputValues.forall_of_ofText? parsed
  refine forall_inputValues built (fun definition member value inside default same => ?_)
    hasConstant_builtIn
  exact ((readable definition member value inside).defaultValue default same).1

end Schema

end Subgraph
