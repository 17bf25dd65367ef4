import PatternDispatch.Text

/-!
Tables from texts to entries, in the order in which their keys were first inserted. Inserting
under a key that is there replaces the entry and keeps its place.
-/

namespace PatternDispatch

structure Table (α : Type) where
  entries : List (Text × α)

namespace Table

variable {α : Type}

def empty : Table α := ⟨[]⟩

def find? (t : Table α) (key : Text) : Option α := t.entries.lookup key

def contains (t : Table α) (key : Text) : Bool := (t.find? key).isSome

def keys (t : Table α) : List Text := t.entries.map (·.1)

def size (t : Table α) : Nat := t.entries.length

def insertEntry (key : Text) (value : α) : List (Text × α) → List (Text × α)
  | [] => [(key, value)]
  | entry :: entries =>
    if entry.1 = key then (key, value) :: entries else entry :: insertEntry key value entries

def insert (t : Table α) (key : Text) (value : α) : Table α := ⟨insertEntry key value t.entries⟩

/-- Inserts only where the key has no entry yet. -/
def insertNew (t : Table α) (key : Text) (value : α) : Table α :=
  if t.contains key then t else t.insert key value

def erase (t : Table α) (key : Text) : Table α := ⟨t.entries.filter (·.1 ≠ key)⟩

theorem lookup_insertEntry (key other : Text) (value : α) (entries : List (Text × α)) :
    (insertEntry key value entries).lookup other =
      if other = key then some value else entries.lookup other := by
  induction entries with
  | nil => grind [insertEntry]
  | cons entry entries ih =>
    by_cases found : entry.1 = key <;> by_cases first : other = entry.1 <;>
      grind [insertEntry]

theorem find?_insert (t : Table α) (key other : Text) (value : α) :
    (t.insert key value).find? other = if other = key then some value else t.find? other :=
  lookup_insertEntry key other value t.entries

theorem find?_erase (t : Table α) (key other : Text) :
    (t.erase key).find? other = if other = key then none else t.find? other := by
  obtain ⟨entries⟩ := t
  simp only [find?, erase]
  induction entries with
  | nil => simp
  | cons entry entries ih =>
    by_cases gone : entry.1 = key <;> by_cases first : other = entry.1 <;> grind

/-- Inserting keeps the order of the keys and adds a new one at the end. -/
theorem keys_insert (t : Table α) (key : Text) (value : α) :
    (t.insert key value).keys = if key ∈ t.keys then t.keys else t.keys ++ [key] := by
  obtain ⟨entries⟩ := t
  simp only [keys, insert]
  induction entries with
  | nil => simp [insertEntry]
  | cons entry entries ih => by_cases first : entry.1 = key <;> grind [insertEntry]

/-- Erasing keeps the order of the other keys. -/
theorem keys_erase (t : Table α) (key : Text) : (t.erase key).keys = t.keys.filter (· ≠ key) := by
  rw [keys, keys, List.filter_map]
  rfl

theorem lookup_eq_none_iff {key : Text} {entries : List (Text × α)} :
    entries.lookup key = none ↔ key ∉ entries.map (·.1) := by
  induction entries with
  | nil => simp
  | cons entry entries ih => by_cases first : key = entry.1 <;> grind

theorem insertEntry_new {key : Text} {value : α} {entries : List (Text × α)}
    (new : key ∉ entries.map (·.1)) : insertEntry key value entries = entries ++ [(key, value)] := by
  induction entries with
  | nil => rfl
  | cons entry entries ih =>
    rw [List.map_cons, List.mem_cons, not_or] at new
    rw [insertEntry, if_neg (Ne.symm new.1), ih new.2, List.cons_append]

/-- A new key is entered behind all others. -/
theorem entries_insert {t : Table α} {key : Text} {value : α} (new : t.find? key = none) :
    (t.insert key value).entries = t.entries ++ [(key, value)] :=
  insertEntry_new (lookup_eq_none_iff.mp new)

theorem size_insert {t : Table α} {key : Text} {value : α} (new : t.find? key = none) :
    (t.insert key value).size = t.size + 1 := by
  rw [size, entries_insert new, List.length_append]
  rfl

theorem mem_of_find? {t : Table α} {key : Text} {value : α} (found : t.find? key = some value) :
    (key, value) ∈ t.entries := by
  obtain ⟨entries⟩ := t
  simp only [find?] at found
  induction entries with
  | nil => cases found
  | cons entry entries ih => by_cases first : key = entry.1 <;> grind

theorem find?_of_mem {t : Table α} (nodup : t.keys.Nodup) {entry : Text × α}
    (member : entry ∈ t.entries) : t.find? entry.1 = some entry.2 := by
  obtain ⟨entries⟩ := t
  simp only [find?, keys] at nodup ⊢
  induction entries with
  | nil => cases member
  | cons first entries ih =>
    rw [List.map_cons, List.nodup_cons] at nodup
    obtain rfl | later := List.mem_cons.mp member
    · rw [List.lookup_cons, beq_self_eq_true]
    · have other : entry.1 ≠ first.1 := by
        intro same
        exact nodup.1 (same ▸ List.mem_map_of_mem later)
      rw [List.lookup_cons, beq_false_of_ne other]
      exact ih nodup.2 later

/-- A new entry leaves the others as they are. -/
theorem find?_insert_of_new {t : Table α} {key other : Text} {value found : α}
    (new : t.find? key = none) (known : t.find? other = some found) :
    (t.insert key value).find? other = some found := by
  rw [find?_insert]
  split
  · next same =>
    rw [same, new] at known
    cases known
  · exact known

theorem nodup_keys_insert {t : Table α} (nodup : t.keys.Nodup) (key : Text) (value : α) :
    (t.insert key value).keys.Nodup := by
  rw [keys_insert]
  split
  · exact nodup
  · next new =>
    rw [List.nodup_append]
    refine ⟨nodup, by simp, ?_⟩
    intro other member last single same
    rw [List.mem_singleton] at single
    rw [same, single] at member
    exact new member

/-- What holds of a new entry and of all others holds of every entry. -/
theorem forall_insert {t : Table α} {holds : α → Prop} (each : ∀ entry ∈ t.entries, holds entry.2)
    (key : Text) {value : α} (own : holds value) :
    ∀ entry ∈ (t.insert key value).entries, holds entry.2 := by
  obtain ⟨entries⟩ := t
  simp only [insert] at each ⊢
  induction entries with
  | nil => exact List.forall_mem_singleton.mpr own
  | cons entry entries ih =>
    obtain ⟨first, others⟩ := List.forall_mem_cons.mp each
    unfold insertEntry
    split
    · exact List.forall_mem_cons.mpr ⟨own, others⟩
    · exact List.forall_mem_cons.mpr ⟨first, ih others⟩

end Table

end PatternDispatch
