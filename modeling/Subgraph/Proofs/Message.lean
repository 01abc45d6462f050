import Subgraph.Message.Request
import Subgraph.Message.Response
import Subgraph.Proofs.Conversion
import Subgraph.Proofs.Json.Record
import Subgraph.Proofs.Json.Text

/-!
# Messages and back

A request is read back from the text that is sent for it, and an error from its
JSON value.

* `Request.readWithin?_body` says how much nesting a reader of the text has to
  allow, and that nothing else is asked of it.
* `ResponseError.ofJson_toJson` is the way back of an error.  Its places need
  numbers of 32 bits, which every error has that came in a response
  (`Response.isPlaced_of_ofText?`).
-/

namespace Subgraph

open Json

/-! ## Requests -/

namespace Request

/-- Reads a request from a text with so many containers inside one another. -/
def readWithin? (limit : Nat) (text : String) : Option Request := do
  let source ← written? text >>= Written.known? shape >>= Written.value? limit
  let request ← (ofJson source).toOption
  return request.withoutRepeats

theorem ofText?_eq_readWithin? (text : String) : ofText? text = readWithin? nestingLimit text := rfl

theorem ofJson_toJson (request : Request) : ofJson request.toJson = .ok request := by
  obtain ⟨query, values⟩ := request
  cases values with
  | none =>
      exact record_eq_ok rfl (by simp) .rfl <|
        .required (fun _ => rfl) <| .nil (by simp [Member.optional])
  | some values =>
      exact record_eq_ok rfl (by simp) .rfl <|
        .required (fun _ => rfl) <| .optional (fun _ => rfl) .done

theorem exists_members (request : Request) : ∃ members, request.toJson = .obj members ∧
    ∀ member ∈ members, shape.member? member.1 = some .any := by
  obtain ⟨query, values⟩ := request
  cases values with
  | none =>
      refine ⟨_, rfl, ?_⟩
      rw [List.forall_mem_singleton]
      rfl
  | some values =>
      refine ⟨_, rfl, ?_⟩
      rw [List.forall_mem_cons, List.forall_mem_singleton]
      exact ⟨rfl, rfl⟩

/-- A plain request is read as it is, with no member of its data twice. -/
theorem withoutRepeats_eq {request : Request} {levels : Nat}
    (plain : IsPlain levels request.toJson) : request.withoutRepeats = request := by
  obtain ⟨query, values⟩ := request
  cases values with
  | none => rfl
  | some values =>
      cases plain with
      | obj distinct each =>
          have same := (each ("variables", .obj values) (by simp)).withoutRepeats
          rw [Json.withoutRepeats, Json.obj.injEq] at same
          rw [Request.withoutRepeats, Option.map_some, same]

/-- A request is read from its text by who allows the nesting that it has. -/
theorem readWithin?_body {request : Request} {levels : Nat}
    (plain : IsPlain levels request.toJson) (limit : Nat) :
    readWithin? limit request.body =
      if request.toJson.depth ≤ limit then some request else none := by
  have back := request.ofJson_toJson
  have once := withoutRepeats_eq plain
  rw [body]
  obtain ⟨members, isObject, known⟩ := request.exists_members
  rw [isObject] at plain back ⊢
  cases plain with
  | @obj levels _ distinct each =>
      obtain ⟨items, all⟩ := WritesIn.exists_of_each fun member inside =>
        (each member inside).exists_writes
      have whole := all.writes_obj
      have read : written? (compress (.obj members)) = some (.obj items) := whole.written?_eq
      have kept : Written.known? shape (.obj items) = some (.obj items) := by
        rw [Written.known?, all.knownMembers?_eq known]
        rfl
      simp only [readWithin?, read, kept, value?_eq_ite _ whole.value limit, Option.bind_eq_bind,
        Option.bind_some]
      split
      · simp only [Option.bind_some, back, Except.toOption, once, Option.pure_def]
      · rfl

end Request

/-! ## Errors -/

/-- The numbers of a place have 32 bits. -/
def Location.IsBounded (location : Location) : Prop :=
  location.line < Nat.pow 2 32 ∧ location.column < Nat.pow 2 32

instance (location : Location) : Decidable location.IsBounded := inferInstanceAs (Decidable (_ ∧ _))

namespace Location

theorem coordinate_eq_ok {n : Nat} (bounded : n < Nat.pow 2 32) : coordinate (.int n) = .ok n :=
  if_pos bounded

theorem ofJson_toJson {location : Location} (bounded : location.IsBounded) :
    ofJson location.toJson = .ok location :=
  record_eq_ok rfl (by simp) .rfl <|
    .required (fun _ => coordinate_eq_ok bounded.1) <|
    .required (fun _ => coordinate_eq_ok bounded.2) .done

theorem lt_of_coordinate_eq_ok {value : Json} {n : Nat} (read : coordinate value = .ok n) :
    n < Nat.pow 2 32 := by
  unfold coordinate at read
  split at read
  next m =>
      split at read
      next bounded =>
          cases read
          exact bounded
      next => cases read
  next => cases read

/-- Every place that is read is bounded. -/
theorem isBounded_of_ofJson {value : Json} {location : Location}
    (read : ofJson value = .ok location) : location.IsBounded := by
  refine record_keeps ?_ (by decide : IsBounded ⟨0, 0⟩) read
  rw [List.forall_mem_cons, List.forall_mem_singleton]
  exact ⟨Member.keeps_required fun holds same => ⟨lt_of_coordinate_eq_ok same, holds.2⟩,
    Member.keeps_required fun holds same => ⟨holds.1, lt_of_coordinate_eq_ok same⟩⟩

end Location

/-- All places of an error are bounded. -/
def ResponseError.IsPlaced (error : ResponseError) : Prop :=
  ∀ location ∈ error.locations, location.IsBounded

namespace ResponseError

/-- An error is read back from its JSON value: what is left out of it is read as it was. -/
theorem ofJson_toJson {error : ResponseError} (placed : error.IsPlaced) :
    ofJson error.toJson = .ok error := by
  obtain ⟨message, locations, path, extensions⟩ := error
  have members : toJson ⟨message, locations, path, extensions⟩ = .obj
      (("message", .str message) ::
        ((if locations.isEmpty then [] else
          [("locations", .arr (locations.map Location.toJson))]) ++
        ((if path.isNone then [] else [("path", .arr (path.getD []))]) ++
        ((if extensions.isEmpty then [] else [("extensions", .obj extensions)]) ++ [])))) := by
    cases path <;> simp [toJson]
  have places : (locations.map Location.toJson).mapM Location.ofJson = .ok locations :=
    mapM_map_eq_ok fun location inside => Location.ofJson_toJson (placed location inside)
  have steps (within : sizeOf (Json.arr (path.getD [])) <
        sizeOf (toJson ⟨message, locations, path, extensions⟩)) (some_path : path.isNone = false) :
      nullable (items .ok) (.arr (path.getD [])) within = .ok path := by
    cases path with
    | none => cases some_path
    | some path =>
        have whole : (path.map id).mapM (.ok : Json → Except Mismatch Json) = .ok path :=
          mapM_map_eq_ok fun _ _ => rfl
        rw [List.map_id] at whole
        exact congrArg (Except.map some) whole
  refine record_eq_ok members (by simp) .rfl <|
    .defaulted (fun _ => rfl) <|
    .defaulted_unless (fun _ _ => places) (fun none => ?_) <|
    .defaulted_unless (fun present within => steps within present) (fun none => ?_) <|
    .defaulted_unless (fun _ _ => rfl) (fun none => ?_) .done
  · rw [List.isEmpty_iff.1 none]
  · rw [Option.isNone_iff_eq_none.1 none]
  · rw [List.isEmpty_iff.1 none]

/-- Every error that is read is placed. -/
theorem isPlaced_of_ofJson {value : Json} {error : ResponseError}
    (read : ofJson value = .ok error) : error.IsPlaced := by
  refine record_keeps ?_ (fun _ inside => absurd inside List.not_mem_nil : IsPlaced {}) read
  simp only [List.forall_mem_cons]
  refine ⟨Member.keeps_defaulted fun holds _ => holds, Member.keeps_defaulted fun _ same => ?_,
    Member.keeps_defaulted fun holds _ => holds, Member.keeps_defaulted fun holds _ => holds,
    by simp⟩
  intro location inside
  obtain ⟨value, read⟩ := exists_item_of_items same location inside
  exact Location.isBounded_of_ofJson read

end ResponseError

/-- All errors of a response are placed. -/
def Response.IsPlaced (response : Response) : Prop := ∀ error ∈ response.errors, error.IsPlaced

namespace Response

theorem isPlaced_of_ofJson {value : Json} {response : Response}
    (read : ofJson value = .ok response) : response.IsPlaced := by
  refine record_keeps ?_ (fun _ inside => absurd inside List.not_mem_nil : IsPlaced {}) read
  rw [List.forall_mem_cons, List.forall_mem_singleton]
  refine ⟨Member.keeps_defaulted fun holds _ => holds,
    Member.keeps_defaulted fun {_ _ _ found} _ same => ?_⟩
  intro error inside
  cases found with
  | none => cases inside
  | some errors =>
      obtain ⟨item, read⟩ := exists_item_of_items (of_nullable_eq_some same) error inside
      exact ResponseError.isPlaced_of_ofJson read

/-- A response that is read from a text has no place that is not bounded. -/
theorem isPlaced_of_ofText? {text : String} {response : Response}
    (read : ofText? text = some response) : response.IsPlaced := by
  obtain ⟨source, _, read⟩ := Option.bind_eq_some_iff.1 read
  obtain ⟨whole, same, read⟩ := Option.bind_eq_some_iff.1 read
  cases read
  intro error inside
  obtain ⟨original, among, rfl⟩ := List.mem_map.1 inside
  exact isPlaced_of_ofJson (eq_ok_of_toOption same) original among

end Response

end Subgraph
