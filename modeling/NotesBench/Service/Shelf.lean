import NotesBench.Text.Numeral
import NotesBench.Text.Lowercase
import NotesBench.Checksum

/-!
# Notes and the shelf that holds them

A shelf holds notes by their number, the newest first, and each number once. What an operation
does to it is seen by looking numbers up (`find?_put`, `find?_erase`).

A validator names the state of a note or of a page of notes. The validator of a note holds its
number and its version; the checksum of the contents is added to it. The validator of a page holds
the largest number, the count, the page and its size, and the checksum of the search text.
-/

namespace NotesBench.Service

/-- A note and its owner. The version counts the states that the note has had. -/
structure Note where
  id : Int
  owner : Int
  title : String
  body : String
  version : Nat
  deriving Repr, DecidableEq

def Note.etag (n : Note) : String :=
  "W/\"n-" ++ Text.intText n.id ++ "-" ++ Text.natText n.version ++ "-" ++
    Checksum.text (Checksum.ofText (n.title ++ "|" ++ n.body)) ++ "\""

/-- The largest number among notes, or zero. -/
def largestId (notes : List Note) : Int :=
  match notes with
  | [] => 0
  | n :: rest => rest.foldl (fun m k => max m k.id) n.id

def pageEtag (page size : Nat) (q : String) (notes : List Note) : String :=
  "W/\"notes-" ++ Text.intText (largestId notes) ++ "-" ++ Text.natText notes.length ++ "-" ++
    Text.natText page ++ "-" ++ Text.natText size ++ "-" ++
    Checksum.text (Checksum.ofText (Text.lowercase q)) ++ "\""

/-- Notes by falling numbers. -/
structure Shelf where
  notes : List Note := []
  falling : notes.Pairwise (fun m n => n.id < m.id) := by simp
  deriving Repr, DecidableEq

namespace Shelf

def empty : Shelf := {}

instance : Inhabited Shelf := ⟨empty⟩

def find? (s : Shelf) (id : Int) : Option Note := s.notes.find? (·.id == id)

/-- Puts a note where its number belongs, in place of the one that has it already. -/
def putInto (n : Note) : List Note → List Note
  | [] => [n]
  | m :: rest =>
    if m.id < n.id then n :: m :: rest
    else if m.id = n.id then n :: rest
    else m :: putInto n rest

theorem mem_putInto {n m : Note} {notes : List Note} (h : m ∈ putInto n notes) :
    m = n ∨ m ∈ notes := by
  induction notes with
  | nil => simpa [putInto] using h
  | cons k rest ih =>
    rw [putInto] at h
    split at h
    · simpa using h
    · split at h
      · rcases List.mem_cons.1 h with h | h
        · exact .inl h
        · exact .inr (List.mem_cons_of_mem _ h)
      · rcases List.mem_cons.1 h with h | h
        · exact .inr (h ▸ List.mem_cons_self)
        · exact (ih h).imp id (List.mem_cons_of_mem _)

theorem falling_putInto (n : Note) {notes : List Note}
    (h : notes.Pairwise (fun m n => n.id < m.id)) :
    (putInto n notes).Pairwise (fun m n => n.id < m.id) := by
  induction notes with
  | nil => simp [putInto]
  | cons k rest ih =>
    obtain ⟨hk, hr⟩ := List.pairwise_cons.1 h
    rw [putInto]
    split
    · next hlt =>
      refine List.pairwise_cons.2 ⟨fun m hm => ?_, h⟩
      rcases List.mem_cons.1 hm with rfl | hm
      · exact hlt
      · exact Int.lt_trans (hk m hm) hlt
    · split
      · next heq => exact List.pairwise_cons.2 ⟨fun m hm => heq ▸ hk m hm, hr⟩
      · refine List.pairwise_cons.2 ⟨fun m hm => ?_, ih hr⟩
        rcases mem_putInto hm with rfl | hm
        · omega
        · exact hk m hm

def put (s : Shelf) (n : Note) : Shelf := ⟨putInto n s.notes, falling_putInto n s.falling⟩

/-- The shelf without the note of that number. -/
def erase (s : Shelf) (id : Int) : Shelf :=
  ⟨s.notes.filter (·.id != id), s.falling.sublist List.filter_sublist⟩

theorem find?_empty (id : Int) : empty.find? id = none := rfl

theorem find?_erase (s : Shelf) (id other : Int) :
    (s.erase id).find? other = if other = id then none else s.find? other := by
  simp only [find?, erase, List.find?_filter]
  split
  · next h =>
    subst h
    rw [List.find?_eq_none]
    simp
  · next h =>
    congr 1
    funext m
    by_cases hm : m.id = other <;> simp_all

theorem find?_putInto (n : Note) {notes : List Note}
    (h : notes.Pairwise (fun m n => n.id < m.id)) (id : Int) :
    (putInto n notes).find? (·.id == id) =
      if id = n.id then some n else notes.find? (·.id == id) := by
  induction notes with
  | nil =>
    by_cases hid : id = n.id
    · simp [putInto, hid]
    · simp [putInto, hid, Ne.symm hid]
  | cons k rest ih =>
    obtain ⟨hk, hr⟩ := List.pairwise_cons.1 h
    rw [putInto]
    split
    · by_cases hid : id = n.id
      · simp [hid]
      · simp [hid, Ne.symm hid]
    · split
      · next heq =>
        by_cases hid : id = n.id
        · simp [hid]
        · have : ¬k.id = id := fun hc => hid (by omega)
          simp [hid, Ne.symm hid, this]
      · next hne =>
        rw [List.find?_cons, List.find?_cons, ih hr]
        by_cases hid : id = n.id
        · simp [hid, beq_eq_false_iff_ne.2 hne]
        · simp [hid]

theorem find?_put (s : Shelf) (n : Note) (id : Int) :
    (s.put n).find? id = if id = n.id then some n else s.find? id :=
  find?_putInto n s.falling id

/-- The notes of a user that hold the search text in title or body, the newest first. Letters
match their capitals; every note holds the empty text. -/
def search (s : Shelf) (user : Int) (q : String) : List Note :=
  let needle := Text.lowered q.toList
  (s.notes.filter (·.owner == user)).filter fun n =>
    Text.occursIn needle (Text.lowered n.title.toList) ||
      Text.occursIn needle (Text.lowered n.body.toList)

end Shelf

/-- One page of a list. Pages count from one, and page zero is the first one too. -/
def pageOf {α : Type} (page size : Nat) (items : List α) : List α :=
  (items.drop ((page - 1) * size)).take size

end NotesBench.Service
