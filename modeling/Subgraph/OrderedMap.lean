/-!
# Finite maps that remember insertion order

Options, resolver tables and object members are all read in the order in
which their keys first came.  `OrderedMap κ ν` is that notion: a list of
entries with pairwise distinct keys.

* Inserting under a new key appends an entry.
* Inserting under a known key replaces the value and keeps the place.

The view of a map is its list of entries, and each operation has one equation
on `entries`, `keys` or `find?`.
-/

namespace Subgraph

/-! ## Association lists -/

namespace Assoc

variable {κ ν : Type} [DecidableEq κ]

/-- The value of the first entry under a key. -/
def find? (key : κ) : List (κ × ν) → Option ν
  | [] => none
  | (k, v) :: rest => if k = key then some v else find? key rest

/-- Replaces the value under a key, or appends an entry for it. -/
def set (key : κ) (value : ν) : List (κ × ν) → List (κ × ν)
  | [] => [(key, value)]
  | (k, v) :: rest => if k = key then (k, value) :: rest else (k, v) :: set key value rest

theorem map_fst_set (key : κ) (value : ν) (entries : List (κ × ν)) :
    (set key value entries).map Prod.fst =
      if key ∈ entries.map Prod.fst then entries.map Prod.fst
      else entries.map Prod.fst ++ [key] := by
  induction entries with
  | nil => simp [set]
  | cons entry rest ih =>
      obtain ⟨k, v⟩ := entry
      by_cases same : k = key
      · simp [set, same]
      · have different : ¬ key = k := fun h => same h.symm
        simp only [set, same, if_false, List.map_cons, ih, List.mem_cons, different, false_or]
        split <;> simp

theorem nodup_set (key : κ) (value : ν) {entries : List (κ × ν)}
    (distinct : (entries.map Prod.fst).Nodup) :
    ((set key value entries).map Prod.fst).Nodup := by
  rw [map_fst_set]
  split
  · exact distinct
  · next fresh =>
      rw [List.nodup_append]
      exact ⟨distinct, by simp, by
        intro a ha b hb
        simp only [List.mem_singleton] at hb
        subst hb
        intro same
        exact fresh (same ▸ ha)⟩

theorem find?_set (key other : κ) (value : ν) (entries : List (κ × ν)) :
    find? other (set key value entries) =
      if other = key then some value else find? other entries := by
  induction entries with
  | nil =>
      by_cases h : key = other
      · simp [set, find?, h]
      · simp [set, find?, h, Ne.symm h]
  | cons entry rest ih =>
      obtain ⟨k, v⟩ := entry
      by_cases same : k = key
      · subst same
        by_cases h : k = other
        · simp [set, find?, h]
        · simp [set, find?, h, Ne.symm h]
      · by_cases h : k = other
        · subst h
          simp [set, find?, same]
        · simp [set, find?, same, h, ih]

theorem find?_isSome (key : κ) (entries : List (κ × ν)) :
    (find? key entries).isSome = true ↔ key ∈ entries.map Prod.fst := by
  induction entries with
  | nil => simp [find?]
  | cons entry rest ih =>
      obtain ⟨k, v⟩ := entry
      rw [List.map_cons, List.mem_cons]
      by_cases same : k = key
      · simp [find?, same]
      · simp only [find?, same, if_false, ih, Ne.symm same, false_or]

end Assoc

/-! ## Ordered maps -/

/-- A finite map whose entries keep the order of their first insertion. -/
structure OrderedMap (κ ν : Type) where
  /-- The entries, oldest key first. -/
  entries : List (κ × ν) := []
  /-- No key is listed twice. -/
  distinct : (entries.map Prod.fst).Nodup := by exact List.nodup_nil
deriving DecidableEq

namespace OrderedMap

variable {κ ν : Type}

/-- The map without entries. -/
def empty : OrderedMap κ ν := {}

instance : EmptyCollection (OrderedMap κ ν) := ⟨empty⟩

instance : Inhabited (OrderedMap κ ν) := ⟨empty⟩

/-- The keys, oldest first. -/
def keys (map : OrderedMap κ ν) : List κ := map.entries.map Prod.fst

/-- Whether the map has no entry. -/
def isEmpty (map : OrderedMap κ ν) : Bool := map.entries.isEmpty

/-- Changes the values and keeps the keys. -/
def mapValues {μ : Type} (f : κ → ν → μ) (map : OrderedMap κ ν) : OrderedMap κ μ where
  entries := map.entries.map fun entry => (entry.1, f entry.1 entry.2)
  distinct := by
    have same : (map.entries.map fun entry => (entry.1, f entry.1 entry.2)).map Prod.fst =
        map.entries.map Prod.fst := by simp
    exact same ▸ map.distinct

@[simp] theorem entries_empty : (empty : OrderedMap κ ν).entries = [] := rfl

@[simp] theorem entries_mapValues {μ : Type} (f : κ → ν → μ) (map : OrderedMap κ ν) :
    (map.mapValues f).entries = map.entries.map fun entry => (entry.1, f entry.1 entry.2) := rfl

/-- Changing the values changes no key. -/
@[simp] theorem keys_mapValues {μ : Type} (f : κ → ν → μ) (map : OrderedMap κ ν) :
    (map.mapValues f).keys = map.keys := by simp [keys]

/-- Maps with the same entries are equal. -/
theorem ext_entries {a b : OrderedMap κ ν} (h : a.entries = b.entries) : a = b := by
  cases a
  cases b
  subst h
  rfl

variable [DecidableEq κ]

/-- The value under a key. -/
def find? (map : OrderedMap κ ν) (key : κ) : Option ν := Assoc.find? key map.entries

/-- Whether a key has a value. -/
def contains (map : OrderedMap κ ν) (key : κ) : Bool := (map.find? key).isSome

/-- Sets the value under a key, in place when the key is known and last when it is new. -/
def insert (map : OrderedMap κ ν) (key : κ) (value : ν) : OrderedMap κ ν :=
  ⟨Assoc.set key value map.entries, Assoc.nodup_set key value map.distinct⟩

/-- Inserts entries one after the other. -/
def insertAll (map : OrderedMap κ ν) (entries : List (κ × ν)) : OrderedMap κ ν :=
  entries.foldl (fun m entry => m.insert entry.1 entry.2) map

/-- The map built by inserting entries one after the other. -/
def ofList (entries : List (κ × ν)) : OrderedMap κ ν := empty.insertAll entries

/-! ## Equations of the view -/

@[simp] theorem entries_insert (map : OrderedMap κ ν) (key : κ) (value : ν) :
    (map.insert key value).entries = Assoc.set key value map.entries := rfl

/-- A new key goes last and a known key keeps its place. -/
theorem keys_insert (map : OrderedMap κ ν) (key : κ) (value : ν) :
    (map.insert key value).keys = if key ∈ map.keys then map.keys else map.keys ++ [key] :=
  Assoc.map_fst_set key value map.entries

@[simp] theorem find?_empty (key : κ) : (empty : OrderedMap κ ν).find? key = none := rfl

/-- The last value written under a key is the one that is found. -/
theorem find?_insert (map : OrderedMap κ ν) (key other : κ) (value : ν) :
    (map.insert key value).find? other = if other = key then some value else map.find? other :=
  Assoc.find?_set key other value map.entries

/-- A key is listed exactly when it has a value. -/
theorem contains_iff (map : OrderedMap κ ν) (key : κ) :
    map.contains key = true ↔ key ∈ map.keys :=
  Assoc.find?_isSome key map.entries

example : (ofList [("a", 1), ("b", 2), ("a", 3)]).entries = [("a", 3), ("b", 2)] := by decide

end OrderedMap

end Subgraph
