/-
Finite tables: a list of entries in which no key stands twice. A table is read through `get?`
alone; the order of its entries says nothing.

* `get?_insert`, `get?_filter`, `get?_erase`: what each change does to every look-up;
* `mem_entries_iff`: the entries are the pairs that the look-up finds;
* `mem_keys_iff`: the keys are the places where it finds something.
-/
namespace ShaderPreprocessor

/-- A finite map from keys to values. -/
structure Table (κ α : Type) where
  /-- The entries, each key once. -/
  entries : List (κ × α)
  /-- No key has two entries. -/
  nodup : (entries.map Prod.fst).Nodup

namespace Table

variable {κ α : Type}

/-- The table without entries. -/
def empty : Table κ α := ⟨[], List.nodup_nil⟩

/-- The keys that have an entry. -/
def keys (t : Table κ α) : List κ := t.entries.map Prod.fst

/-- The number of entries. -/
def size (t : Table κ α) : Nat := t.entries.length

/-- The entries that pass a test. -/
def filter (p : κ × α → Bool) (t : Table κ α) : Table κ α :=
  ⟨t.entries.filter p, (List.filter_sublist.map Prod.fst).nodup t.nodup⟩

variable [DecidableEq κ]

/-- The value of the first entry for a key. -/
def search (k : κ) : List (κ × α) → Option α
  | [] => none
  | (j, a) :: entries => if j = k then some a else search k entries

/-- The value of a key. -/
def get? (t : Table κ α) (k : κ) : Option α := search k t.entries

/-- Whether a key has an entry. -/
def contains (t : Table κ α) (k : κ) : Bool := (t.get? k).isSome

/-- The table without the entry of a key. -/
def erase (t : Table κ α) (k : κ) : Table κ α := t.filter fun entry => entry.1 ≠ k

/-- The table with one entry set. -/
def insert (t : Table κ α) (k : κ) (a : α) : Table κ α where
  entries := (k, a) :: (t.erase k).entries
  nodup := by
    refine List.nodup_cons.2 ⟨?_, (t.erase k).nodup⟩
    simp [erase, filter]

/-- The table of a list of entries; a later entry replaces an earlier one for its key. -/
def ofList (entries : List (κ × α)) : Table κ α :=
  entries.foldl (fun t entry => t.insert entry.1 entry.2) empty

/-! ### Look-ups in lists of entries -/

/-- A key without an entry is not found. -/
theorem search_eq_none_iff {k : κ} {entries : List (κ × α)} :
    search k entries = none ↔ k ∉ entries.map Prod.fst := by
  induction entries with
  | nil => simp [search]
  | cons entry entries ih =>
    obtain ⟨j, a⟩ := entry
    by_cases h : j = k
    · simp [search, h]
    · simp [search, h, ih, Ne.symm h]

/-- With distinct keys, the entries are the pairs that the look-up finds. -/
theorem mem_iff_search_eq_some {k : κ} {a : α} {entries : List (κ × α)}
    (hnodup : (entries.map Prod.fst).Nodup) :
    (k, a) ∈ entries ↔ search k entries = some a := by
  induction entries with
  | nil => simp [search]
  | cons entry entries ih =>
    obtain ⟨j, b⟩ := entry
    simp only [List.map_cons, List.nodup_cons] at hnodup
    by_cases h : j = k
    · subst h
      have hnot : (j, a) ∉ entries := fun hmem =>
        hnodup.1 (List.mem_map.2 ⟨(j, a), hmem, rfl⟩)
      simp [search, hnot, eq_comm]
    · simp [search, h, Ne.symm h, ih hnodup.2]

/-- With distinct keys, the look-up among the entries that pass a test is the look-up among all,
kept if the entry passes. -/
theorem search_filter {p : κ × α → Bool} {k : κ} {entries : List (κ × α)}
    (hnodup : (entries.map Prod.fst).Nodup) :
    search k (entries.filter p) = (search k entries).filter fun a => p (k, a) := by
  induction entries with
  | nil => rfl
  | cons entry entries ih =>
    obtain ⟨j, b⟩ := entry
    simp only [List.map_cons, List.nodup_cons] at hnodup
    by_cases h : j = k
    · subst h
      have hnone : search j entries = none := search_eq_none_iff.2 hnodup.1
      by_cases hp : p (j, b) <;> simp [search, Option.filter, hp, ih hnodup.2, hnone]
    · by_cases hp : p (j, b) <;> simp [search, hp, h, ih hnodup.2]

/-! ### Look-ups in tables -/

@[simp] theorem get?_empty (k : κ) : (empty : Table κ α).get? k = none := rfl

/-- The entries of a table are the pairs that its look-up finds. -/
theorem mem_entries_iff {t : Table κ α} {k : κ} {a : α} :
    (k, a) ∈ t.entries ↔ t.get? k = some a :=
  mem_iff_search_eq_some t.nodup

/-- The keys of a table are the places where its look-up finds something. -/
theorem mem_keys_iff {t : Table κ α} {k : κ} : k ∈ t.keys ↔ ∃ a, t.get? k = some a := by
  constructor
  · intro h
    obtain ⟨⟨j, a⟩, hmem, rfl⟩ := List.mem_map.1 h
    exact ⟨a, mem_entries_iff.1 hmem⟩
  · rintro ⟨a, h⟩
    exact List.mem_map.2 ⟨(k, a), mem_entries_iff.2 h, rfl⟩

/-- A test keeps the entries that pass it. -/
theorem get?_filter (t : Table κ α) (p : κ × α → Bool) (k : κ) :
    (t.filter p).get? k = (t.get? k).filter fun a => p (k, a) :=
  search_filter t.nodup

/-- Without the entry of a key, all other keys are found as before. -/
theorem get?_erase (t : Table κ α) (k j : κ) :
    (t.erase k).get? j = if k = j then none else t.get? j := by
  rw [erase, get?_filter]
  by_cases h : k = j
  · subst h
    cases t.get? k <;> simp
  · cases t.get? j <;> simp [h, Ne.symm h]

/-- A set entry is found, and all other keys are found as before. -/
theorem get?_insert (t : Table κ α) (k j : κ) (a : α) :
    (t.insert k a).get? j = if k = j then some a else t.get? j := by
  by_cases h : k = j
  · simp [get?, insert, search, h]
  · have := get?_erase t k j
    simp only [h, if_false] at this
    simpa [get?, insert, search, h] using this

end Table

end ShaderPreprocessor
