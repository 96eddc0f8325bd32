import NotesBench.Proofs.Service.Effects

/-!
# What the shelf holds

A number names one note of the shelf. The notes of one user stay as they are while only other
people's notes are changed or removed, and new notes come on top of them (`ownedBy_of_steps`), since
the numbers of all notes are at most the last one that was given out (`Store.Counted`).
-/

namespace NotesBench.Service

namespace Shelf

variable {s : Shelf} {n m : Note} {user id : Int}

theorem eq_of_id_eq (hm : m ∈ s.notes) (hn : n ∈ s.notes) (h : m.id = n.id) : m = n := by
  obtain ⟨notes, falling⟩ := s
  induction notes with
  | nil => cases hm
  | cons k rest ih =>
    obtain ⟨hk, hrest⟩ := List.pairwise_cons.1 falling
    rcases List.mem_cons.1 hm with rfl | hm' <;> rcases List.mem_cons.1 hn with rfl | hn'
    · rfl
    · have := hk n hn'
      omega
    · have := hk m hm'
      omega
    · exact ih hrest hm' hn'

theorem find?_eq_some_iff : s.find? id = some n ↔ n ∈ s.notes ∧ n.id = id := by
  constructor
  · intro h
    exact ⟨List.mem_of_find?_eq_some h, by simpa using List.find?_some h⟩
  · rintro ⟨hn, rfl⟩
    cases hf : s.find? n.id with
    | none => simpa using List.find?_eq_none.1 hf n hn
    | some m =>
      have hm : m.id = n.id := by simpa using List.find?_some hf
      rw [eq_of_id_eq (List.mem_of_find?_eq_some hf) hn hm]

theorem nodup_notes (s : Shelf) : s.notes.Nodup := by
  refine s.falling.imp fun hlt heq => ?_
  rw [heq] at hlt
  exact Int.lt_irrefl _ hlt

/-- A shelf is what is found on it. -/
theorem eq_of_find?_eq {t : Shelf} (h : ∀ id, s.find? id = t.find? id) : s = t := by
  have hmem : ∀ n, n ∈ s.notes ↔ n ∈ t.notes := by
    intro n
    have hn := h n.id
    rw [Option.ext_iff] at hn
    simpa only [find?_eq_some_iff, and_true] using hn n
  have hnotes : s.notes = t.notes := by
    refine List.Perm.eq_of_pairwise ?_ s.falling t.falling
      ((List.perm_ext_iff_of_nodup s.nodup_notes t.nodup_notes).2 hmem)
    intro m n _ _ hlt hlt'
    omega
  obtain ⟨notes, falling⟩ := s
  subst hnotes
  rfl

/-- A note with a new number comes first. -/
theorem notes_put (h : ∀ m ∈ s.notes, m.id < n.id) : (s.put n).notes = n :: s.notes := by
  obtain ⟨notes, falling⟩ := s
  cases notes with
  | nil => rfl
  | cons m rest => exact if_pos (h m List.mem_cons_self)

/-- The notes of a user, the newest first. -/
def ownedBy (s : Shelf) (user : Int) : List Note := s.notes.filter (·.owner == user)

theorem filter_putInto {notes : List Note} (hn : n.owner ≠ user)
    (hs : ∀ m ∈ notes, m.id = n.id → m.owner ≠ user) :
    (putInto n notes).filter (·.owner == user) = notes.filter (·.owner == user) := by
  induction notes with
  | nil => simp [putInto, hn]
  | cons k rest ih =>
    rw [putInto]
    split
    · simp [hn]
    · split
      · next hid => simp [hn, hs k List.mem_cons_self hid]
      · rw [List.filter_cons, List.filter_cons, ih fun m hm => hs m (List.mem_cons_of_mem _ hm)]

theorem ownedBy_put (hn : n.owner ≠ user) (hs : ∀ m ∈ s.notes, m.id = n.id → m.owner ≠ user) :
    (s.put n).ownedBy user = s.ownedBy user :=
  filter_putInto hn hs

theorem ownedBy_erase (hs : ∀ m ∈ s.notes, m.id = id → m.owner ≠ user) :
    (s.erase id).ownedBy user = s.ownedBy user := by
  rw [ownedBy, ownedBy, erase, List.filter_filter]
  refine List.filter_congr fun m hm => ?_
  by_cases hid : m.id = id
  · simp [hs m hm hid]
  · simp [hid]

end Shelf

namespace Store

variable {s s' : Store}

theorem owned?_eq_some_iff {user id : Int} {note : Note} :
    s.owned? user id = some note ↔ s.shelf.find? id = some note ∧ note.owner = user := by
  simp [owned?, Option.filter_eq_some_iff]

section Owned

variable {user id : Int} {note : Note} (owned : s.owned? user id = some note)
include owned

theorem find?_of_owned? : s.shelf.find? id = some note := (owned?_eq_some_iff.1 owned).1

theorem id_of_owned? : note.id = id := (Shelf.find?_eq_some_iff.1 (find?_of_owned? owned)).2

theorem owner_of_owned? : note.owner = user := (owned?_eq_some_iff.1 owned).2

theorem mem_of_owned? : note ∈ s.shelf.notes :=
  (Shelf.find?_eq_some_iff.1 (find?_of_owned? owned)).1

theorem find?_withRevised (title body : String) (other : Int) :
    (s.withRevised (note.revised title body)).shelf.find? other =
      if other = id then some (note.revised title body) else s.shelf.find? other := by
  rw [withRevised, Shelf.find?_put, ← id_of_owned? owned]
  rfl

theorem owned?_withRevised (title body : String) :
    (s.withRevised (note.revised title body)).owned? user id = some (note.revised title body) := by
  have howner : note.owner = user := owner_of_owned? owned
  exact owned?_eq_some_iff.2 ⟨by rw [find?_withRevised owned, if_pos rfl], howner⟩

end Owned

theorem find?_withNote (s : Store) (user : Int) (title body : String) (id : Int) :
    (s.withNote user title body).shelf.find? id =
      if id = s.lastNote + 1 then some (s.nextNote user title body) else s.shelf.find? id :=
  Shelf.find?_put ..

theorem find?_withoutNote (s : Store) (id other : Int) :
    (s.withoutNote id).shelf.find? other = if other = id then none else s.shelf.find? other :=
  Shelf.find?_erase ..

/-- The numbers of the notes have been given out. -/
structure Counted (s : Store) : Prop where
  given : ∀ {id note}, s.shelf.find? id = some note → 0 < id ∧ id ≤ s.lastNote
  last : 0 ≤ s.lastNote

theorem counted_empty : Counted {} := by
  constructor <;> simp [Shelf.find?_empty]

theorem Counted.step {label : Option (Int × Int)} (hc : s.Counted) (he : NoteEffect s label s') :
    s'.Counted := by
  obtain ⟨given, last⟩ := hc
  cases he with
  | aside shelf hlast => exact ⟨by simpa only [shelf, hlast], by rwa [hlast]⟩
  | add user title body =>
    refine ⟨fun {id note} hf => ?_, Int.le_add_one last⟩
    change 0 < id ∧ id ≤ s.lastNote + 1
    rw [find?_withNote] at hf
    split at hf
    · omega
    · have := given hf
      omega
  | change title body owned =>
    refine ⟨fun hf => ?_, last⟩
    rw [find?_withRevised owned] at hf
    split at hf
    · next hsame => exact hsame ▸ given (find?_of_owned? owned)
    · exact given hf
  | remove owned =>
    refine ⟨fun hf => ?_, last⟩
    rw [find?_withoutNote] at hf
    split at hf
    · cases hf
    · exact given hf

theorem Counted.lt_of_mem (hc : s.Counted) {n : Note} (hn : n ∈ s.shelf.notes) :
    0 < n.id ∧ n.id ≤ s.lastNote :=
  hc.given (Shelf.find?_eq_some_iff.2 ⟨hn, rfl⟩)

/-- The note of a number is not the user's if it is another user's. -/
theorem owner_ne_of_owned? {owner user id : Int} {note : Note} (hne : owner ≠ user)
    (owned : s.owned? owner id = some note) {n : Note} (hn : n ∈ s.shelf.notes) (hid : n.id = id) :
    n.owner ≠ user := by
  rwa [Shelf.eq_of_id_eq hn (mem_of_owned? owned) (hid.trans (id_of_owned? owned).symm),
    owner_of_owned? owned]

theorem ownedBy_withNote (hc : s.Counted) (owner user : Int) (title body : String) :
    (s.withNote owner title body).shelf.ownedBy user =
      [s.nextNote owner title body].filter (·.owner == user) ++ s.shelf.ownedBy user := by
  have hput : (s.withNote owner title body).shelf.notes =
      s.nextNote owner title body :: s.shelf.notes :=
    Shelf.notes_put fun n hn => Int.lt_add_one_of_le (hc.lt_of_mem hn).2
  rw [Shelf.ownedBy, hput, ← List.singleton_append, List.filter_append]
  rfl

/-- What is done to a note of somebody else leaves the notes of the user as they are. -/
theorem ownedBy_of_touched {owner id user : Int} (he : NoteEffect s (some (owner, id)) s')
    (hne : owner ≠ user) :
    s'.shelf.ownedBy user = s.shelf.ownedBy user ∧ s'.lastNote = s.lastNote := by
  cases he with
  | @change _ _ note title body owned =>
    have howner : (note.revised title body).owner ≠ user := (owner_of_owned? owned).symm ▸ hne
    refine ⟨Shelf.ownedBy_put howner fun n hn hsame => ?_, rfl⟩
    have hid : note.id = id := id_of_owned? owned
    exact owner_ne_of_owned? hne owned hn (hsame.trans hid)
  | remove owned =>
    exact ⟨Shelf.ownedBy_erase fun n hn hsame => owner_ne_of_owned? hne owned hn hsame, rfl⟩

/-- New notes come on top of those that the user has, unless one of them is changed or removed. -/
theorem ownedBy_step {label : Option (Int × Int)} (hc : s.Counted) (he : NoteEffect s label s')
    {user : Int} (hu : ∀ id, label ≠ some (user, id)) :
    s.lastNote ≤ s'.lastNote ∧ ∃ new, s'.shelf.ownedBy user = new ++ s.shelf.ownedBy user ∧
      ∀ n ∈ new, s.lastNote < n.id := by
  cases label with
  | some touched =>
    obtain ⟨owner, id⟩ := touched
    have hne : owner ≠ user := fun h => hu id (by rw [h])
    obtain ⟨howned, hlast⟩ := ownedBy_of_touched he hne
    exact ⟨Int.le_of_eq hlast.symm, [], howned, by simp⟩
  | none =>
    cases he with
    | aside shelf last => exact ⟨Int.le_of_eq last.symm, [], by rw [shelf]; rfl, by simp⟩
    | add owner title body =>
      refine ⟨Int.le_add_one (Int.le_refl _), _, ownedBy_withNote hc owner user title body, ?_⟩
      intro n hn
      rw [List.mem_singleton.1 (List.mem_filter.1 hn).1]
      exact Int.lt_succ _

/-! ## Runs -/

variable {labels : List (Option (Int × Int))}

theorem Counted.steps (hc : s.Counted) (h : Steps NoteEffect s labels s') : s'.Counted :=
  h.keeps hc Counted.step

theorem ownedBy_of_steps (hc : s.Counted) (h : Steps NoteEffect s labels s') {user : Int}
    (hu : ∀ id, some (user, id) ∉ labels) :
    s.lastNote ≤ s'.lastNote ∧ ∃ new, s'.shelf.ownedBy user = new ++ s.shelf.ownedBy user ∧
      ∀ n ∈ new, s.lastNote < n.id := by
  induction h with
  | refl => exact ⟨Int.le_refl _, [], rfl, by simp⟩
  | snoc hsteps he ih =>
    simp only [List.mem_append, List.mem_singleton, not_or] at hu
    obtain ⟨hle, new, hnew, hlt⟩ := ih fun id => (hu id).1
    obtain ⟨hle', new', hnew', hlt'⟩ :=
      ownedBy_step (hc.steps hsteps) he fun id => Ne.symm (hu id).2
    refine ⟨Int.le_trans hle hle', new' ++ new, by rw [hnew', hnew, List.append_assoc], ?_⟩
    intro n hn
    rcases List.mem_append.1 hn with hn | hn
    · exact Int.lt_of_le_of_lt hle (hlt' n hn)
    · exact hlt n hn

end Store

end NotesBench.Service
