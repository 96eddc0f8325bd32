/-!
# Tables

A finite map whose keys are texts, each present once. Looking a key up after an operation is
described by `find?_insert`, `find?_erase` and `find?_empty`; nothing else is seen of a table but
its size.
-/

namespace NotesBench.Service

/-- A finite map from texts. -/
structure Table (β : Type) where
  entries : List (String × β) := []
  distinct : (entries.map (·.1)).Nodup := by simp
  deriving Repr, DecidableEq

namespace Table

variable {β : Type}

/-- The table without entries. -/
def empty : Table β := {}

instance : Inhabited (Table β) := ⟨empty⟩

/-- The value at a key. -/
def find? (t : Table β) (key : String) : Option β :=
  (t.entries.find? (·.1 == key)).map (·.2)

/-- Whether the key is present. -/
def contains (t : Table β) (key : String) : Bool := (t.find? key).isSome

/-- The number of keys. -/
def size (t : Table β) : Nat := t.entries.length

theorem distinct_filter {entries : List (String × β)} (h : (entries.map (·.1)).Nodup)
    (p : String × β → Bool) : ((entries.filter p).map (·.1)).Nodup :=
  h.sublist (List.filter_sublist.map _)

/-- The table without the key. -/
def erase (t : Table β) (key : String) : Table β where
  entries := t.entries.filter (·.1 != key)
  distinct := distinct_filter t.distinct _

/-- The table with the value at the key. -/
def insert (t : Table β) (key : String) (v : β) : Table β where
  entries := (key, v) :: (t.erase key).entries
  distinct := by
    rw [List.map_cons, List.nodup_cons]
    refine ⟨?_, (t.erase key).distinct⟩
    simp [erase]

theorem find?_empty (key : String) : (empty : Table β).find? key = none := rfl

theorem find?_erase (t : Table β) (key other : String) :
    (t.erase key).find? other = if other = key then none else t.find? other := by
  simp only [find?, erase, List.find?_filter]
  split
  · next h =>
    subst h
    rw [List.find?_eq_none.2] <;> simp
  · next h =>
    congr 2
    funext e
    by_cases he : e.1 = other <;> simp_all

theorem find?_insert (t : Table β) (key other : String) (v : β) :
    (t.insert key v).find? other = if other = key then some v else t.find? other := by
  by_cases h : key = other
  · subst h
    simp [find?, insert]
  · have := find?_erase t key other
    simp_all [find?, insert, Ne.symm h]

theorem mem_entries_of_find?_eq_some {t : Table β} {key : String} {v : β}
    (h : t.find? key = some v) : (key, v) ∈ t.entries := by
  obtain ⟨⟨k, w⟩, hfound, rfl⟩ := Option.map_eq_some_iff.1 h
  obtain rfl : k = key := by simpa using List.find?_some hfound
  exact List.mem_of_find?_eq_some hfound

theorem entries_insert_of_find?_eq_none {t : Table β} {key : String} (h : t.find? key = none)
    (v : β) : (t.insert key v).entries = (key, v) :: t.entries := by
  have : t.entries.filter (·.1 != key) = t.entries := by
    rw [List.filter_eq_self]
    intro e he
    simp only [find?, Option.map_eq_none_iff, List.find?_eq_none] at h
    simpa using h e he
  simp [insert, erase, this]

theorem size_insert_of_find?_eq_none {t : Table β} {key : String} (h : t.find? key = none)
    (v : β) : (t.insert key v).size = t.size + 1 := by
  rw [size, entries_insert_of_find?_eq_none h, List.length_cons, size]

end Table

end NotesBench.Service
