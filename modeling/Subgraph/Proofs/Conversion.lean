/-!
# Conversions that may fail

A conversion gives a value or the first fault on the way.

* A conversion in steps gives a value where each step does (`of_bind_eq_ok`).
* A list is converted where each of its items is (`mapM_map_eq_ok`,
  `exists_ok_of_mapM`, `exists_item_of_mapM`).
-/

namespace Subgraph

variable {ε α β γ : Type}

theorem mapM_map_eq_ok_map {convert : β → Except ε γ} {encode : α → β} {result : α → γ}
    {items : List α} (each : ∀ item ∈ items, convert (encode item) = .ok (result item)) :
    (items.map encode).mapM convert = .ok (items.map result) := by
  induction items with
  | nil => rfl
  | cons item items ih =>
      rw [List.map_cons, List.mapM_cons, each item List.mem_cons_self,
        ih fun other member => each other (List.mem_cons_of_mem _ member)]
      rfl

/-- A list comes back where each of its items does. -/
theorem mapM_map_eq_ok {convert : β → Except ε α} {encode : α → β} {items : List α}
    (undo : ∀ item ∈ items, convert (encode item) = .ok item) :
    (items.map encode).mapM convert = .ok items := by
  have whole : (items.map encode).mapM convert = .ok (items.map id) := mapM_map_eq_ok_map undo
  rwa [List.map_id] at whole

/-- A conversion in two steps is one where each step is. -/
theorem of_bind_eq_ok {first : Except ε α} {second : α → Except ε β} {found : β}
    (converted : first >>= second = .ok found) :
    ∃ middle, first = .ok middle ∧ second middle = .ok found := by
  cases first with
  | error fault => cases converted
  | ok middle => exact ⟨middle, rfl, converted⟩

theorem of_map_eq_ok {first : Except ε α} {change : α → β} {found : β}
    (converted : first.map change = .ok found) :
    ∃ middle, first = .ok middle ∧ change middle = found := by
  cases first with
  | error fault => cases converted
  | ok middle =>
      cases converted
      exact ⟨middle, rfl, rfl⟩

/-- What a list is converted to comes from its items. -/
theorem exists_item_of_mapM {convert : β → Except ε α} {items : List β} {found : List α}
    (converted : items.mapM convert = .ok found) :
    ∀ one ∈ found, ∃ item ∈ items, convert item = .ok one := by
  induction items generalizing found with
  | nil =>
      cases converted
      intro one member
      cases member
  | cons first items ih =>
      rw [List.mapM_cons] at converted
      obtain ⟨head, same, converted⟩ := of_bind_eq_ok converted
      obtain ⟨tail, others, converted⟩ := of_bind_eq_ok converted
      cases converted
      intro one member
      rcases List.mem_cons.1 member with rfl | later
      · exact ⟨first, List.mem_cons_self, same⟩
      · obtain ⟨item, inside, back⟩ := ih others one later
        exact ⟨item, List.mem_cons_of_mem _ inside, back⟩

theorem map_eq_error_iff {first : Except ε α} {change : α → β} {fault : ε} :
    first.map change = .error fault ↔ first = .error fault := by
  cases first with
  | error other => exact ⟨fun same => by cases same; rfl, fun same => by cases same; rfl⟩
  | ok value => exact ⟨nofun, nofun⟩

/-- Where a whole list is converted, each of its items is. -/
theorem exists_ok_of_mapM {convert : β → Except ε α} {items : List β} {found : List α}
    (converted : items.mapM convert = .ok found) :
    ∀ item ∈ items, ∃ one, convert item = .ok one := by
  induction items generalizing found with
  | nil =>
      intro item member
      cases member
  | cons first items ih =>
      rw [List.mapM_cons] at converted
      obtain ⟨head, one, converted⟩ := of_bind_eq_ok converted
      obtain ⟨tail, others, _⟩ := of_bind_eq_ok converted
      intro item member
      rcases List.mem_cons.1 member with rfl | later
      · exact ⟨head, one⟩
      · exact ih others item later

theorem eq_ok_of_toOption {found : Except ε α} {one : α} (same : found.toOption = some one) :
    found = .ok one := by
  cases found with
  | error fault => cases same
  | ok value =>
      cases same
      rfl

/-- What passes a check on what was found was found. -/
theorem exists_of_any_toOption {found : Except ε α} {check : α → Bool}
    (passes : found.toOption.any check = true) : ∃ one, found = .ok one ∧ check one = true := by
  cases found with
  | error fault => cases passes
  | ok one => exact ⟨one, rfl, passes⟩

end Subgraph
