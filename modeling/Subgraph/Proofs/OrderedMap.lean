import Mathlib.Data.List.Nodup
import Subgraph.OrderedMap

/-!
# Laws of ordered maps

What the operations on many entries at once do to the entries, the keys and the
values of a map.

* Inserting entries with new keys appends them (`entries_insertAll_of_fresh`).
* Inserting distinct entries lets each of them win (`find?_insertAll`), and
  puts the new keys last (`keys_insertAll`).
* So the keys come in the order in which each of them came first
  (`keys_insertAll_entries_eq`).
* A map is known by its keys in order and its values (`ext_find?`), so inserting
  is associative (`insertAll_insertAll`).
-/

namespace Subgraph

/-! ## Firsts of a list -/

section

variable {κ : Type} [DecidableEq κ] {keys others : List κ}

theorem eraseDups_eq_of_nodup (distinct : keys.Nodup) : keys.eraseDups = keys := by
  induction keys with
  | nil => rfl
  | cons key keys ih =>
      rw [List.nodup_cons] at distinct
      have fresh : keys.filter (fun other => !other == key) = keys := by
        refine List.filter_eq_self.2 fun other member => ?_
        have different : other ≠ key := fun same => distinct.1 (same ▸ member)
        simpa using different
      rw [List.eraseDups_cons, fresh, ih distinct.2]

/-- Leaving out the repeats of keys and leaving out some keys altogether may change places. -/
theorem eraseDups_filter (keep : κ → Bool) (keys : List κ) :
    (keys.filter keep).eraseDups = keys.eraseDups.filter keep := by
  match keys with
  | [] => rfl
  | key :: keys =>
      have others := eraseDups_filter keep (keys.filter fun other => !other == key)
      rw [List.eraseDups_cons]
      by_cases kept : keep key = true
      · rw [List.filter_cons_of_pos kept, List.filter_cons_of_pos kept, List.eraseDups_cons,
          ← others, List.filter_filter, List.filter_filter]
        simp only [Bool.and_comm]
      · rw [List.filter_cons_of_neg kept, List.filter_cons_of_neg kept, ← others,
          List.filter_filter]
        refine congrArg List.eraseDups (List.filter_congr fun other _ => ?_)
        by_cases same : other = key
        · simp [same, kept]
        · simp [same]
termination_by keys.length
decreasing_by exact Nat.lt_succ_of_le (List.length_filter_le _ _)

theorem nodup_eraseDups (keys : List κ) : keys.eraseDups.Nodup := by
  match keys with
  | [] => exact List.nodup_nil
  | key :: keys =>
      rw [List.eraseDups_cons, List.nodup_cons]
      exact ⟨by simp, nodup_eraseDups _⟩
termination_by keys.length
decreasing_by exact Nat.lt_succ_of_le (List.length_filter_le _ _)

/-- Keys that are new behind others are the firsts of both together. -/
theorem append_filter_eq_eraseDups (distinct : keys.Nodup) (distinctOthers : others.Nodup) :
    (keys ++ others.filter fun key => key ∉ keys) = (keys ++ others).eraseDups := by
  have new : others.removeAll keys = others.filter fun key => key ∉ keys := by
    simp [List.removeAll]
  rw [List.eraseDups_append, eraseDups_eq_of_nodup distinct, new,
    eraseDups_eq_of_nodup (distinctOthers.filter _)]

/-- A key that is known changes no firsts. -/
theorem eraseDups_append_of_mem {key : κ} (distinct : keys.Nodup) (known : key ∈ keys) :
    (keys ++ [key]).eraseDups = keys := by
  rw [← append_filter_eq_eraseDups distinct (List.nodup_singleton key)]
  simp [known]

/-- Keys that are repeated as a whole change no firsts. -/
theorem eraseDups_append_self (distinct : keys.Nodup) : (keys ++ keys).eraseDups = keys := by
  rw [← append_filter_eq_eraseDups distinct distinct]
  simp

/-- Keys without repeats come first among the firsts of more keys. -/
theorem prefix_eraseDups_append (distinct : keys.Nodup) (others : List κ) :
    keys <+: (keys ++ others).eraseDups := by
  rw [List.eraseDups_append, eraseDups_eq_of_nodup distinct]
  exact List.prefix_append keys _

theorem eraseDups_eraseDups_append (keys others : List κ) :
    (keys.eraseDups ++ others).eraseDups = (keys ++ others).eraseDups := by
  have same : others.removeAll keys.eraseDups = others.removeAll keys := by
    simp [List.removeAll]
  rw [List.eraseDups_append, List.eraseDups_append, same,
    eraseDups_eq_of_nodup (nodup_eraseDups keys)]

theorem eraseDups_append_eraseDups (keys others : List κ) :
    (keys ++ others.eraseDups).eraseDups = (keys ++ others).eraseDups := by
  rw [List.eraseDups_append, List.eraseDups_append, List.removeAll, ← eraseDups_filter,
    eraseDups_eq_of_nodup (nodup_eraseDups _)]
  rfl

end

/-! ## Association lists -/

namespace Assoc

variable {κ ν : Type} [DecidableEq κ]

theorem find?_eq_none_iff (key : κ) (entries : List (κ × ν)) :
    find? key entries = none ↔ key ∉ entries.map Prod.fst := by
  rw [← find?_isSome key entries]
  cases find? key entries <;> simp

/-- What is found under a key is an entry. -/
theorem mem_of_find? {key : κ} {value : ν} {entries : List (κ × ν)}
    (found : find? key entries = some value) : (key, value) ∈ entries := by
  induction entries with
  | nil => cases found
  | cons entry rest ih =>
      obtain ⟨k, v⟩ := entry
      rw [find?] at found
      split at found
      next same =>
          cases found
          rw [same]
          exact List.mem_cons_self
      next => exact List.mem_cons_of_mem _ (ih found)

/-- An entry is what is found under its key, where no key is listed twice. -/
theorem find?_of_mem {entries : List (κ × ν)} (distinct : (entries.map Prod.fst).Nodup)
    {entry : κ × ν} (member : entry ∈ entries) : find? entry.1 entries = some entry.2 := by
  induction entries with
  | nil => cases member
  | cons first rest ih =>
      rw [List.map_cons, List.nodup_cons] at distinct
      rcases List.mem_cons.1 member with rfl | later
      · exact if_pos rfl
      · have different : first.1 ≠ entry.1 := fun same =>
          distinct.1 (same ▸ List.mem_map_of_mem later)
        rw [find?, if_neg different, ih distinct.2 later]

theorem find?_map {μ : Type} (f : κ → ν → μ) (key : κ) (entries : List (κ × ν)) :
    find? key (entries.map fun entry => (entry.1, f entry.1 entry.2)) =
      (find? key entries).map (f key) := by
  induction entries with
  | nil => rfl
  | cons entry rest ih =>
      obtain ⟨k, v⟩ := entry
      by_cases same : k = key
      · subst same
        simp [find?]
      · simpa [find?, same] using ih

/-- Leaving out entries by their keys leaves out what is found under these keys. -/
theorem find?_filter_key (keep : κ → Bool) (key : κ) (entries : List (κ × ν)) :
    find? key (entries.filter fun entry => keep entry.1) =
      if keep key then find? key entries else none := by
  induction entries with
  | nil => simp [find?]
  | cons entry rest ih =>
      obtain ⟨k, v⟩ := entry
      by_cases same : k = key
      · subst same
        by_cases kept : keep k = true
        · simp [find?, kept]
        · simpa [find?, kept] using ih
      · by_cases kept : keep k = true
        · simpa [find?, kept, same] using ih
        · simpa [find?, kept, same] using ih

theorem set_of_fresh {key : κ} (value : ν) {entries : List (κ × ν)}
    (fresh : key ∉ entries.map Prod.fst) : set key value entries = entries ++ [(key, value)] := by
  induction entries with
  | nil => rfl
  | cons entry rest ih =>
      obtain ⟨k, v⟩ := entry
      simp only [List.map_cons, List.mem_cons, not_or] at fresh
      simp [set, Ne.symm fresh.1, ih fresh.2]

/-- Looking up all keys in order gives the entries that come in this order. -/
theorem filterMap_find? {keys : List κ} {entries : List (κ × ν)}
    (ordered : (entries.map Prod.fst).Sublist keys) (distinct : keys.Nodup) :
    (keys.filterMap fun key => (find? key entries).map fun value => (key, value)) = entries := by
  generalize same : entries.map Prod.fst = names at ordered
  induction ordered generalizing entries with
  | slnil =>
      rw [List.map_eq_nil_iff.1 same]
      rfl
  | cons key rest ih =>
      rw [List.nodup_cons] at distinct
      have absent : find? key entries = none := by
        rw [find?_eq_none_iff, same]
        exact fun member => distinct.1 (rest.subset member)
      rw [List.filterMap_cons, absent]
      exact ih distinct.2 same
  | @cons_cons names keys first rest ih =>
      obtain ⟨⟨key, value⟩, others, rfl, rfl, behind⟩ := List.map_eq_cons_iff.1 same
      rw [List.nodup_cons] at distinct
      have found (other : κ) (member : other ∈ keys) :
          find? other ((key, value) :: others) = find? other others := by
        have different : key ≠ other := by
          rintro rfl
          exact distinct.1 member
        exact if_neg different
      rw [List.filterMap_cons, find?, if_pos rfl, Option.map_some]
      dsimp only
      rw [List.filterMap_congr fun other member => by rw [found other member],
        ih distinct.2 behind]

end Assoc

/-! ## Ordered maps -/

namespace OrderedMap

variable {κ ν : Type} [DecidableEq κ]

theorem find?_eq_none_iff (map : OrderedMap κ ν) (key : κ) :
    map.find? key = none ↔ key ∉ map.keys :=
  Assoc.find?_eq_none_iff key map.entries

theorem find?_isSome_iff (map : OrderedMap κ ν) (key : κ) :
    (map.find? key).isSome = true ↔ key ∈ map.keys :=
  map.contains_iff key

theorem find?_of_mem_entries {map : OrderedMap κ ν} {entry : κ × ν}
    (member : entry ∈ map.entries) : map.find? entry.1 = some entry.2 :=
  Assoc.find?_of_mem map.distinct member

@[simp] theorem insertAll_nil (map : OrderedMap κ ν) : map.insertAll [] = map := rfl

@[simp] theorem insertAll_cons (map : OrderedMap κ ν) (entry : κ × ν) (rest : List (κ × ν)) :
    map.insertAll (entry :: rest) = (map.insert entry.1 entry.2).insertAll rest := rfl

theorem find?_mapValues {μ : Type} (f : κ → ν → μ) (map : OrderedMap κ ν) (key : κ) :
    (map.mapValues f).find? key = (map.find? key).map (f key) :=
  Assoc.find?_map f key map.entries

/-- Entries with new keys go behind those of the map. -/
theorem entries_insertAll_of_fresh (map : OrderedMap κ ν) {entries : List (κ × ν)}
    (distinct : (entries.map Prod.fst).Nodup)
    (fresh : ∀ key ∈ entries.map Prod.fst, key ∉ map.keys) :
    (map.insertAll entries).entries = map.entries ++ entries := by
  induction entries generalizing map with
  | nil => simp
  | cons entry rest ih =>
      rw [List.map_cons, List.nodup_cons] at distinct
      have new : entry.1 ∉ map.keys := fresh entry.1 (by simp)
      have freshRest : ∀ key ∈ rest.map Prod.fst, key ∉ (map.insert entry.1 entry.2).keys := by
        intro key member known
        rw [keys_insert, if_neg new, List.mem_append, List.mem_singleton] at known
        rcases known with old | here
        · exact fresh key (List.mem_cons_of_mem _ member) old
        · exact distinct.1 (here ▸ member)
      rw [insertAll_cons, ih _ distinct.2 freshRest, entries_insert, Assoc.set_of_fresh _ new]
      simp

/-- A map built from distinct entries has these entries. -/
theorem entries_ofList {entries : List (κ × ν)} (distinct : (entries.map Prod.fst).Nodup) :
    (ofList entries).entries = entries := by
  have all := entries_insertAll_of_fresh (empty : OrderedMap κ ν) distinct (by simp [keys])
  simpa [ofList] using all

/-- Inserting the entries of a map one after the other builds it again. -/
@[simp] theorem insertAll_empty_entries (map : OrderedMap κ ν) :
    (empty : OrderedMap κ ν).insertAll map.entries = map :=
  ext_entries (entries_ofList map.distinct)

/-- Inserted entries win. -/
theorem find?_insertAll (map : OrderedMap κ ν) {entries : List (κ × ν)}
    (distinct : (entries.map Prod.fst).Nodup) (key : κ) :
    (map.insertAll entries).find? key = (Assoc.find? key entries).or (map.find? key) := by
  induction entries generalizing map with
  | nil => rfl
  | cons entry rest ih =>
      obtain ⟨k, v⟩ := entry
      rw [List.map_cons, List.nodup_cons] at distinct
      rw [insertAll_cons, ih _ distinct.2, find?_insert]
      by_cases same : k = key
      · subst same
        simp [Assoc.find?, (Assoc.find?_eq_none_iff k rest).2 distinct.1]
      · simp [Assoc.find?, same, Ne.symm same]

theorem find?_insertAll_entries (map other : OrderedMap κ ν) (key : κ) :
    (map.insertAll other.entries).find? key = (other.find? key).or (map.find? key) :=
  find?_insertAll map other.distinct key

/-- The keys of inserted entries that are new go behind those of the map. -/
theorem keys_insertAll (map : OrderedMap κ ν) {entries : List (κ × ν)}
    (distinct : (entries.map Prod.fst).Nodup) :
    (map.insertAll entries).keys =
      map.keys ++ (entries.map Prod.fst).filter fun key => key ∉ map.keys := by
  induction entries generalizing map with
  | nil => simp
  | cons entry rest ih =>
      rw [List.map_cons, List.nodup_cons] at distinct
      rw [insertAll_cons, ih _ distinct.2, keys_insert, List.map_cons, List.filter_cons]
      by_cases known : entry.1 ∈ map.keys
      · simp [known]
      · have others : (rest.map Prod.fst).filter (fun key => key ∉ map.keys ++ [entry.1]) =
            (rest.map Prod.fst).filter fun key => key ∉ map.keys := by
          apply List.filter_congr
          intro key member
          have different : key ≠ entry.1 := fun same => distinct.1 (same ▸ member)
          simp [different]
        rw [if_neg known, if_pos (by simpa using known), others, List.append_assoc]
        rfl

theorem keys_insertAll_entries (map other : OrderedMap κ ν) :
    (map.insertAll other.entries).keys =
      map.keys ++ other.keys.filter fun key => key ∉ map.keys :=
  keys_insertAll map other.distinct

/-- The keys come in the order in which each of them came first. -/
theorem keys_insertAll_entries_eq (map other : OrderedMap κ ν) :
    (map.insertAll other.entries).keys = (map.keys ++ other.keys).eraseDups := by
  rw [keys_insertAll_entries]
  exact append_filter_eq_eraseDups map.distinct other.distinct

theorem keys_insert_eq (map : OrderedMap κ ν) (key : κ) (value : ν) :
    (map.insert key value).keys = (map.keys ++ [key]).eraseDups := by
  have distinct : map.keys.Nodup := map.distinct
  by_cases known : key ∈ map.keys
  · rw [keys_insert, if_pos known, eraseDups_append_of_mem distinct known]
  · rw [keys_insert, if_neg known, ← append_filter_eq_eraseDups distinct (List.nodup_singleton key)]
    simp [known]

/-- Maps with the same keys in order and the same values are equal. -/
theorem ext_find? {a b : OrderedMap κ ν} (sameKeys : a.keys = b.keys)
    (same : ∀ key, a.find? key = b.find? key) : a = b := by
  have rebuilt (map : OrderedMap κ ν) :
      (map.keys.filterMap fun key => (map.find? key).map fun value => (key, value)) =
        map.entries :=
    Assoc.filterMap_find? (List.Sublist.refl _) map.distinct
  apply ext_entries
  rw [← rebuilt a, ← rebuilt b, sameKeys]
  exact List.filterMap_congr fun key _ => by rw [same key]

/-- A value that is set and set again might as well be set once. -/
theorem insert_insert (map : OrderedMap κ ν) (key : κ) (first second : ν) :
    (map.insert key first).insert key second = map.insert key second := by
  refine ext_find? ?_ fun other => ?_
  · have known : key ∈ (map.insert key first).keys := by
      rw [keys_insert_eq, List.mem_eraseDups]
      exact List.mem_append_right _ List.mem_cons_self
    rw [keys_insert _ key second, if_pos known, keys_insert_eq, keys_insert_eq]
  · rw [find?_insert, find?_insert, find?_insert]
    split <;> rfl

/-- Entries may be inserted into the entries that are inserted. -/
theorem insertAll_insertAll (a b c : OrderedMap κ ν) :
    (a.insertAll b.entries).insertAll c.entries = a.insertAll (b.insertAll c.entries).entries := by
  refine ext_find? ?_ fun key => ?_
  · simp only [keys_insertAll_entries_eq, eraseDups_eraseDups_append, eraseDups_append_eraseDups,
      List.append_assoc]
  · simp only [find?_insertAll_entries, Option.or_assoc]

end OrderedMap

end Subgraph
