import Subgraph.Proofs.Message

/-!
# Records that survive encoding

What is written of a request, an error or a response is read as what it was.  A
record that was read from any value stays the same when it is written and read
again.

* `Json.Survives` says so for one kind of records.
* Null data of a response is lost when it is read, its errors are not
  (`Response.ofJson_toJson_withoutNull`).
* Null for a member that may be null says no more than leaving it out:
  `Request.ofJson_variables_null`, `ResponseError.ofJson_path_null`,
  `Response.ofJson_data_null`, `Response.ofJson_errors_none`.
* `messages_survive` puts this together.
-/

namespace Subgraph

namespace Json

variable {whole : Json} {α : Type}

/-! ## Survival -/

/-- Proper records are read back from what is written of them.  Every record that is read is proper.
It is the same when it is written and read again, and what is written of it then is too. -/
structure Survives (write : α → Json) (read : Json → Except Mismatch α) (IsProper : α → Prop) :
    Prop where
  back : ∀ record, IsProper record → read (write record) = .ok record
  proper : ∀ source record, read source = .ok record → IsProper record
  same : ∀ source record, read source = .ok record → read (write record) = .ok record
  fixed : ∀ source written, (read source).map write = .ok written →
    (read written).map write = .ok written

theorem Survives.of_back {write : α → Json} {read : Json → Except Mismatch α} {IsProper : α → Prop}
    (back : ∀ record, IsProper record → read (write record) = .ok record)
    (proper : ∀ source record, read source = .ok record → IsProper record) :
    Survives write read IsProper where
  back := back
  proper := proper
  same := fun source record found => back record (proper source record found)
  fixed := by
    intro source written found
    obtain ⟨record, isRead, rfl⟩ := of_map_eq_ok found
    rw [back record (proper source record isRead)]
    rfl

/-! ## Null -/

/-- A value that is not null. -/
def given? : Json → Option Json
  | .null => none
  | value => some value

theorem given?_of_ne_null {value : Json} (given : value ≠ .null) : value.given? = some value := by
  cases value with
  | null => exact absurd rfl given
  | _ => rfl

theorem given?_ne_null (value : Json) : value.given? ≠ some .null := by
  cases value <;> simp [given?]

theorem nullable_plain (value : Json) (within : sizeOf value < sizeOf whole) :
    nullable plain value within = .ok value.given? := by
  cases value <;> rfl

end Json

open Json

/-! ## Requests -/

theorem Request.survives : Survives toJson ofJson fun _ => True :=
  .of_back (fun request _ => request.ofJson_toJson) fun _ _ _ => trivial

/-- Null variables are no variables. -/
theorem Request.ofJson_variables_null {before after : List (String × Json)}
    (notBefore : "variables" ∉ before.map Prod.fst) (notAfter : "variables" ∉ after.map Prod.fst) :
    ofJson (.obj (before ++ ("variables", .null) :: after)) = ofJson (.obj (before ++ after)) := by
  refine record_leave (P := fun request => request.variableValues = none) ?_ ?_ rfl notBefore
    notAfter
  · exact .cons (.of_agrees agrees_text) <| .cons (.of_agrees agrees_object.nullable) .nil
  · rw [List.forall_mem_cons, List.forall_mem_singleton]
    exact ⟨.apart (by decide) fun _ _ holds => holds,
      .here Absence.noConfusion (fun _ => rfl) fun request none =>
        congrArg (Request.mk request.query) none.symm⟩

/-! ## Errors -/

theorem ResponseError.survives : Survives toJson ofJson IsPlaced :=
  .of_back (fun _ => ofJson_toJson) fun _ _ => isPlaced_of_ofJson

/-- A null path is no path. -/
theorem ResponseError.ofJson_path_null {before after : List (String × Json)}
    (notBefore : "path" ∉ before.map Prod.fst) (notAfter : "path" ∉ after.map Prod.fst) :
    ofJson (.obj (before ++ ("path", .null) :: after)) = ofJson (.obj (before ++ after)) := by
  refine record_leave (P := fun error => error.path = none) ?_ ?_ rfl notBefore notAfter
  · exact .cons (.of_agrees agrees_text) <| .cons (.of_agrees (agrees_items _)) <|
      .cons (.of_agrees (agrees_items _).nullable) <| .cons (.of_agrees agrees_object) .nil
  · simp only [List.forall_mem_cons]
    exact ⟨.apart (by decide) fun _ _ holds => holds, .apart (by decide) fun _ _ holds => holds,
      .here Absence.noConfusion (fun _ => rfl) fun error none =>
        congrArg (ResponseError.mk error.message error.locations · error.extensions) none.symm,
      .apart (by decide) fun _ _ holds => holds, by simp⟩

/-! ## Responses -/

namespace Response

/-- The response without data that is null. -/
def withoutNull (response : Response) : Response :=
  { response with data := response.data.bind Json.given? }

theorem withoutNull_eq {response : Response} (given : response.data ≠ some .null) :
    response.withoutNull = response := by
  obtain ⟨data, errors⟩ := response
  cases data with
  | none => rfl
  | some data =>
      have found : data.given? = some data :=
        given?_of_ne_null fun same => given (congrArg some same)
      rw [withoutNull, Option.bind_some, found]

theorem hasErrors_withoutNull (response : Response) :
    response.withoutNull.hasErrors = response.hasErrors := rfl

/-- A response is read back from its JSON value, but for data that is null. -/
theorem ofJson_toJson_withoutNull {response : Response} (placed : response.IsPlaced) :
    ofJson response.toJson = .ok response.withoutNull := by
  obtain ⟨data, errors⟩ := response
  have members : toJson ⟨data, errors⟩ = .obj
      ((if data.isNone then [] else [("data", data.getD .null)]) ++
        ((if errors.isEmpty then [] else
          [("errors", .arr (errors.map ResponseError.toJson))]) ++ [])) := by
    cases data <;> simp [toJson]
  have each : (errors.map ResponseError.toJson).mapM ResponseError.ofJson = .ok errors :=
    mapM_map_eq_ok fun error inside => ResponseError.ofJson_toJson (placed error inside)
  refine record_eq_ok members (by simp) .rfl <|
    .defaulted_unless (fun present within => ?_) (fun none => ?_) <|
    .defaulted_unless (fun _ _ => congrArg (Except.map some) each) (fun none => ?_) .done
  · cases data with
    | none => cases present
    | some value => exact nullable_plain value within
  · rw [Option.isNone_iff_eq_none.1 none]
  · rw [List.isEmpty_iff.1 none]
    rfl

theorem data_ne_null_of_ofJson {value : Json} {response : Response}
    (read : ofJson value = .ok response) : response.data ≠ some .null := by
  refine record_keeps (P := fun response => response.data ≠ some .null) ?_ (by simp)
    read
  rw [List.forall_mem_cons, List.forall_mem_singleton]
  refine ⟨Member.keeps_defaulted fun {part within _ _} _ same => ?_,
    Member.keeps_defaulted fun holds _ => holds⟩
  rw [nullable_plain] at same
  cases same
  exact given?_ne_null part

/-- A response with data that is not null, and with numbers of 32 bits in the places of its
errors. -/
structure IsProper (response : Response) : Prop where
  placed : response.IsPlaced
  given : response.data ≠ some .null

theorem survives : Survives toJson ofJson IsProper :=
  .of_back
    (fun _ proper => by
      rw [ofJson_toJson_withoutNull proper.placed, withoutNull_eq proper.given])
    fun _ _ read => ⟨isPlaced_of_ofJson read, data_ne_null_of_ofJson read⟩

/-- Null data is absent data. -/
theorem ofJson_data_null {before after : List (String × Json)}
    (notBefore : "data" ∉ before.map Prod.fst) (notAfter : "data" ∉ after.map Prod.fst) :
    ofJson (.obj (before ++ ("data", .null) :: after)) = ofJson (.obj (before ++ after)) := by
  refine record_leave (P := fun response => response.data = none) ?_ ?_ rfl notBefore notAfter
  · exact .cons (.of_agrees agrees_plain.nullable) <|
      .cons (.of_agrees (agrees_items _).nullable) .nil
  · rw [List.forall_mem_cons, List.forall_mem_singleton]
    exact ⟨.here Absence.noConfusion (fun _ => rfl) fun response none =>
        congrArg (Response.mk · response.errors) none.symm,
      .apart (by decide) fun _ _ holds => holds⟩

/-- Null errors, or an empty list of them, are no errors. -/
theorem ofJson_errors_none {before after : List (String × Json)} {value : Json}
    (none : value = .null ∨ value = .arr []) (notBefore : "errors" ∉ before.map Prod.fst)
    (notAfter : "errors" ∉ after.map Prod.fst) :
    ofJson (.obj (before ++ ("errors", value) :: after)) = ofJson (.obj (before ++ after)) := by
  refine record_leave (P := fun response => response.errors = []) ?_ ?_ rfl notBefore notAfter
  · exact .cons (.of_agrees agrees_plain.nullable) <|
      .cons (.of_agrees (agrees_items _).nullable) .nil
  · rw [List.forall_mem_cons, List.forall_mem_singleton]
    refine ⟨.apart (by decide) fun _ _ holds => holds, ?_⟩
    rcases none with rfl | rfl
    all_goals exact .here Absence.noConfusion (fun _ => rfl) fun response none =>
      congrArg (Response.mk response.data) none.symm

end Response

/-! ## All of them -/

/-- Requests, errors and responses survive encoding, but for null data of a response.  Whether a
response reports errors survives in any case.  Null data is read as absent data, and null errors as
none. -/
theorem messages_survive :
    Survives Request.toJson Request.ofJson (fun _ => True) ∧
    Survives ResponseError.toJson ResponseError.ofJson ResponseError.IsPlaced ∧
    Survives Response.toJson Response.ofJson Response.IsProper ∧
    (∀ response : Response, response.IsPlaced → ∃ again,
      Response.ofJson response.toJson = .ok again ∧ again.hasErrors = response.hasErrors) ∧
    (∀ before after : List (String × Json),
      "data" ∉ before.map Prod.fst → "data" ∉ after.map Prod.fst →
        Response.ofJson (.obj (before ++ ("data", .null) :: after)) =
          Response.ofJson (.obj (before ++ after))) ∧
    (∀ (before after : List (String × Json)) (value : Json), value = .null ∨ value = .arr [] →
      "errors" ∉ before.map Prod.fst → "errors" ∉ after.map Prod.fst →
        Response.ofJson (.obj (before ++ ("errors", value) :: after)) =
          Response.ofJson (.obj (before ++ after))) := by
  refine ⟨Request.survives, ResponseError.survives, Response.survives, ?_, ?_, ?_⟩
  · intro response placed
    exact ⟨_, Response.ofJson_toJson_withoutNull placed, response.hasErrors_withoutNull⟩
  · exact fun _ _ => Response.ofJson_data_null
  · exact fun _ _ _ => Response.ofJson_errors_none

/-- An error with an empty path, in a response that has data too. -/
theorem messages_survive_partial :
    let error : ResponseError :=
      { message := "boom", locations := [⟨1, 3⟩], path := some [], extensions := [("code", .null)] }
    let response : Response := { data := some (.obj [("hello", .null)]), errors := [error] }
    (error.IsPlaced ∧ ResponseError.ofJson error.toJson = .ok error) ∧
    (response.IsProper ∧ Response.ofJson response.toJson = .ok response) ∧
    (Response.ofJson (.arr [.null, .arr [error.toJson]]) = .ok { errors := [error] } ∧
      Response.ofJson (Response.toJson { errors := [error] }) = .ok { errors := [error] }) ∧
    (∃ again, Response.ofJson (Response.toJson { data := some .null, errors := [error] }) =
      .ok again ∧ again.hasErrors = true) ∧
    Response.ofJson (.obj [("data", .null), ("errors", .arr [error.toJson])]) =
      Response.ofJson (.obj [("errors", .arr [error.toJson])]) ∧
    Response.ofJson (.obj [("data", .bool true), ("errors", .null)]) =
      Response.ofJson (.obj [("data", .bool true)]) := by
  intro error response
  obtain ⟨_, errors, responses, reports, dataNull, errorsNull⟩ := messages_survive
  have placed : error.IsPlaced := by
    intro location inside
    rw [List.mem_singleton.1 inside]
    decide
  have allPlaced : ∀ other ∈ [error], other.IsPlaced := by simpa using placed
  have proper : response.IsProper := ⟨allPlaced, by simp [response]⟩
  have back := errors.back error placed
  have decoded :
      Response.ofJson (.arr [.null, .arr [error.toJson]]) = .ok { errors := [error] } := rfl
  exact ⟨⟨placed, back⟩, ⟨proper, responses.back response proper⟩,
    ⟨decoded, responses.same _ _ decoded⟩, reports ⟨some .null, [error]⟩ allPlaced,
    dataNull [] _ (by simp) (by simp),
    errorsNull [("data", .bool true)] [] .null (.inl rfl) (by simp) (by simp)⟩

end Subgraph
