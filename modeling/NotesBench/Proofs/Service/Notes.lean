import NotesBench.Proofs.Service.Shelf

/-!
# The life of a note

Which notes there are and what they say is read from the history alone: `Wrote` finds the deed that
wrote a note, `changes` lists what it was changed to since, and `Removed` says whether its owner
took it away. After any history the shelf holds exactly the notes that the history has (`Remembers`,
`remembers_of_leads`). `notes_live_as_written` says what follows for each operation on notes.
-/

namespace NotesBench.Service

/-! ## What the history says -/

/-- The user wrote the note of that number, and the other deeds came after it. Notes are numbered
from one in the order in which they are written, whoever writes them. -/
def Wrote (past : List Deed) (user id : Int) (title body : String) (since : List Deed) : Prop :=
  ∃ before answer, past = before ++ ⟨.addNote user title body, answer⟩ :: since ∧
    id = before.countP (·.operation.isNew) + 1

/-- Who has changed the note of that number by the deed, and to what. -/
def Deed.change? (d : Deed) (id : Int) : Option (Int × String × String) :=
  match d.operation, d.answer with
  | .changeNote user other title body, .ok _ =>
    if other = id then some (user, title, body) else none
  | _, _ => none

/-- The changes of the note of that number, the oldest first. -/
def changes (since : List Deed) (id : Int) : List (Int × String × String) :=
  since.filterMap (·.change? id)

/-- The user has removed the note of that number. -/
def Removed (since : List Deed) (user id : Int) : Prop :=
  ∃ answer, ⟨.removeNote user id, .ok answer⟩ ∈ since

/-- A note after what was done since it was written. It says what its owner changed it to last, and
its version counts the changes. -/
def noteSince (user id : Int) (title body : String) (since : List Deed) : Note :=
  let own := (changes since id).filter (·.1 == user)
  let texts := (own.getLast?.map (·.2)).getD (title, body)
  ⟨id, user, texts.1, texts.2, 1 + (changes since id).length⟩

/-- The history has the note: it was written, and its owner has not removed it since. -/
def Stands (past : List Deed) (note : Note) : Prop :=
  ∃ title body since, Wrote past note.owner note.id title body since ∧
    ¬Removed since note.owner note.id ∧ note = noteSince note.owner note.id title body since

/-- What a deed makes of a note. -/
def Note.after (n : Note) (d : Deed) : Note :=
  match d.change? n.id with
  | some (user, title, body) =>
    if user = n.owner then n.revised title body else { n with version := n.version + 1 }
  | none => n

section History

variable {past since : List Deed} {d : Deed} {note : Note} {user id : Int} {title body : String}

theorem Note.after_of_unchanged (h : d.change? note.id = none) : note.after d = note := by
  rw [Note.after, h]

theorem noteSince_snoc :
    noteSince user id title body (since ++ [d]) = (noteSince user id title body since).after d := by
  have hid : (noteSince user id title body since).id = id := rfl
  rw [Note.after, hid]
  cases hd : d.change? id with
  | none => simp [noteSince, changes, hd]
  | some change =>
    obtain ⟨who, newTitle, newBody⟩ := change
    by_cases hwho : who = user
    · simp [noteSince, changes, hd, hwho, Note.revised, Nat.add_assoc]
    · simp [noteSince, changes, hd, hwho, Nat.add_assoc]

theorem removed_snoc :
    Removed (since ++ [d]) user id ↔
      Removed since user id ∨ ∃ answer, d = ⟨.removeNote user id, .ok answer⟩ := by
  simp [Removed, exists_or, eq_comm]

/-- The last deed has written the note, or has left it there. -/
theorem stands_snoc :
    Stands (past ++ [d]) note ↔
      (∃ title body answer, d = ⟨.addNote note.owner title body, answer⟩ ∧
        note = ⟨past.countP (·.operation.isNew) + 1, note.owner, title, body, 1⟩) ∨
      ∃ earlier, Stands past earlier ∧
        (∀ answer, d ≠ ⟨.removeNote earlier.owner earlier.id, .ok answer⟩) ∧
        note = earlier.after d := by
  constructor
  · rintro ⟨title, body, since, ⟨before, answer, hpast, hid⟩, hstays, hnote⟩
    rcases append_singleton_eq_iff.1 hpast with ⟨rfl, rfl, rfl⟩ | ⟨rest, rfl, rfl⟩
    · exact .inl ⟨title, body, answer, rfl, by rw [← hid]; exact hnote⟩
    · rw [removed_snoc, not_or, not_exists] at hstays
      rw [noteSince_snoc] at hnote
      exact .inr ⟨noteSince note.owner note.id title body rest,
        ⟨title, body, rest, ⟨before, answer, rfl, hid⟩, hstays.1, rfl⟩, hstays.2, hnote⟩
  · rintro (⟨title, body, answer, rfl, hnote⟩ | ⟨earlier, hstands, hstays, rfl⟩)
    · rw [hnote]
      exact ⟨title, body, [], ⟨past, answer, rfl, rfl⟩, by simp [Removed], rfl⟩
    · obtain ⟨title, body, since, ⟨before, answer, rfl, hid⟩, hleft, hearlier⟩ := hstands
      have howner : (earlier.after d).owner = earlier.owner := by
        unfold Note.after
        split
        · split <;> rfl
        · rfl
      have hsame : (earlier.after d).id = earlier.id := by
        unfold Note.after
        split
        · split <;> rfl
        · rfl
      unfold Stands
      rw [howner, hsame]
      refine ⟨title, body, since ++ [d], ⟨before, answer, by simp, hid⟩, ?_, ?_⟩
      · rw [removed_snoc, not_or, not_exists]
        exact ⟨hleft, hstays⟩
      · rw [noteSince_snoc, ← hearlier]

/-- A deed that neither writes nor changes nor removes a note. -/
theorem stands_snoc_aside (hnew : d.operation.isNew = false) (htouch : d.touched? = none) :
    Stands (past ++ [d]) note ↔ Stands past note := by
  have hadd : ∀ user title body answer, d ≠ ⟨.addNote user title body, answer⟩ := by
    rintro user title body answer rfl
    cases hnew
  have hremove : ∀ user id answer, d ≠ ⟨.removeNote user id, .ok answer⟩ := by
    rintro user id answer rfl
    cases htouch
  have hchange : ∀ id, d.change? id = none := by
    intro id
    obtain ⟨operation, answer⟩ := d
    cases operation <;> cases answer <;> first | rfl | cases htouch
  simp [stands_snoc, hadd, hremove, Note.after_of_unchanged (hchange _)]

end History

/-! ## What the state knows -/

/-- The shelf holds the notes that the history has. -/
structure Remembers (past : List Deed) (s : Store) : Prop where
  last : s.lastNote = past.countP (·.operation.isNew)
  notes : ∀ {note}, s.shelf.find? note.id = some note ↔ Stands past note

/-- A new note is never refused. -/
theorem isNew_of_refused {s s' : Store} {operation : Operation} {refusal : Refusal}
    (h : s.Does ⟨operation, .error refusal⟩ s') : operation.isNew = false := by
  cases operation with
  | addNote user title body =>
    obtain ⟨draw, h⟩ := h
    cases h
  | _ => rfl

theorem remembers_empty : Remembers [] {} := by
  constructor <;> simp [Shelf.find?_empty, Stands, Wrote]

namespace Remembers

variable {past : List Deed} {s s' : Store} {d : Deed} (hr : Remembers past s)
include hr

theorem eq_of_stands {user id : Int} {note earlier : Note} (owned : s.owned? user id = some note)
    (hstands : Stands past earlier) (hid : earlier.id = id) : earlier = note := by
  have hfind : s.shelf.find? earlier.id = some earlier := hr.notes.2 hstands
  rw [hid, Store.find?_of_owned? owned] at hfind
  exact (Option.some.inj hfind).symm

theorem stands_of_owned? {user id : Int} {note : Note} (owned : s.owned? user id = some note) :
    Stands past note := by
  rw [← hr.notes, Store.id_of_owned? owned]
  exact Store.find?_of_owned? owned

theorem notes_step (hc : s.Counted) (hdoes : s.Does d s') {note : Note} :
    s'.shelf.find? note.id = some note ↔ Stands (past ++ [d]) note := by
  cases hdoes.effect with
  | addNote user title body =>
    rw [stands_snoc, Store.find?_withNote]
    constructor
    · intro hfind
      split at hfind
      · cases hfind
        exact .inl ⟨title, body, _, rfl, by rw [← hr.last]; rfl⟩
      · exact .inr ⟨note, hr.notes.1 hfind, nofun, (Note.after_of_unchanged rfl).symm⟩
    · rintro (⟨newTitle, newBody, answer, hd, hnote⟩ | ⟨earlier, hstands, -, rfl⟩)
      · cases hd
        rw [← hr.last] at hnote
        rw [hnote, if_pos rfl]
        rfl
      · have hfind : s.shelf.find? note.id = some note := hr.notes.2 hstands
        have hle := (hc.given hfind).2
        rw [if_neg (by omega)]
        exact hfind
  | @changeNote user id first title body owned =>
    have hid : first.id = id := Store.id_of_owned? owned
    have howner : first.owner = user := Store.owner_of_owned? owned
    have hrevised : first.after ⟨.changeNote user id title body,
        .ok (.note (first.revised title body))⟩ = first.revised title body := by
      simp [Note.after, Deed.change?, hid, howner]
    rw [stands_snoc, Store.find?_withRevised owned]
    constructor
    · intro hfind
      refine .inr ?_
      split at hfind
      · cases hfind
        exact ⟨first, hr.stands_of_owned? owned, nofun, hrevised.symm⟩
      · next hother =>
        refine ⟨note, hr.notes.1 hfind, nofun, (Note.after_of_unchanged ?_).symm⟩
        simp [Deed.change?, Ne.symm hother]
    · rintro (⟨newTitle, newBody, answer, hd, -⟩ | ⟨earlier, hstands, -, rfl⟩)
      · cases hd
      · by_cases hsame : earlier.id = id
        · obtain rfl := hr.eq_of_stands owned hstands hsame
          rw [hrevised]
          exact if_pos hid
        · rw [Note.after_of_unchanged (by simp [Deed.change?, Ne.symm hsame]), if_neg hsame]
          exact hr.notes.2 hstands
  | @removeNote user id first owned =>
    rw [stands_snoc, Store.find?_withoutNote]
    constructor
    · intro hfind
      split at hfind
      · cases hfind
      · next hother =>
        refine .inr ⟨note, hr.notes.1 hfind, ?_, (Note.after_of_unchanged rfl).symm⟩
        intro answer hd
        cases hd
        exact hother rfl
    · rintro (⟨newTitle, newBody, answer, hd, -⟩ | ⟨earlier, hstands, hstays, rfl⟩)
      · cases hd
      · have hother : note.id ≠ id := by
          intro hsame
          obtain rfl := hr.eq_of_stands owned hstands hsame
          exact hstays _ (by rw [hsame, Store.owner_of_owned? owned])
        rw [if_neg hother]
        exact hr.notes.2 hstands
  | refused operation refusal =>
    have hnew : operation.isNew = false := isNew_of_refused hdoes
    have htouch : Deed.touched? ⟨operation, .error refusal⟩ = none := by cases operation <;> rfl
    rw [stands_snoc_aside hnew htouch]
    exact hr.notes
  | register | login | rotate | logout | holder | userCount | findNote | listing =>
    rw [stands_snoc_aside rfl rfl]
    exact hr.notes

theorem last_step (hdoes : s.Does d s') :
    s'.lastNote = (past ++ [d]).countP (·.operation.isNew) := by
  rw [List.countP_append, List.countP_singleton]
  cases hdoes.effect with
  | addNote user title body =>
    show s.lastNote + 1 = _
    rw [hr.last]
    rfl
  | refused operation refusal =>
    rw [isNew_of_refused hdoes]
    exact hr.last
  | _ => exact hr.last

theorem step (hc : s.Counted) (hdoes : s.Does d s') : Remembers (past ++ [d]) s' :=
  ⟨hr.last_step hdoes, hr.notes_step hc hdoes⟩

end Remembers

theorem remembers_of_leads {past : List Deed} {s : Store} (h : Leads {} past s) :
    Remembers past s := by
  induction h with
  | refl => exact remembers_empty
  | snoc hsteps hdoes ih =>
    have hc := Store.counted_empty.steps (Leads.effects hsteps)
    exact ih.step hc hdoes

/-! ## The life of a note -/

/-- The number of the note that a deed is about. -/
def Deed.named? (d : Deed) : Option Int :=
  match d.operation, d.answer with
  | .addNote .., .ok (.note note) => some note.id
  | .findNote _ id, _ | .changeNote _ id _ _, _ | .removeNote _ id, _ => some id
  | _, _ => none

theorem Store.Does.find?_eq {s s' : Store} {d : Deed} (h : s.Does d s') {id : Int}
    (hid : d.named? ≠ some id) : s'.shelf.find? id = s.shelf.find? id := by
  have hne {other : Int} (hnamed : d.named? = some other) : id ≠ other := by
    rintro rfl
    exact hid hnamed
  cases h.effect with
  | addNote user title body =>
    rw [Store.find?_withNote]
    exact if_neg (hne rfl)
  | changeNote title body owned => rw [Store.find?_withRevised owned, if_neg (hne rfl)]
  | removeNote owned => rw [Store.find?_withoutNote, if_neg (hne rfl)]
  | _ => rfl

/-- What the service gives for notes after some history. -/
structure NotesLive (past : List Deed) (s : Store) : Prop where
  /-- The number of a new note says how many have been written, and none is given twice. -/
  numbered : ∀ before d since user title body, past = before ++ d :: since →
    d.operation = .addNote user title body →
    d.answer = .ok (.note ⟨before.countP (·.operation.isNew) + 1, user, title, body, 1⟩)
  /-- A note is there for the user who wrote it until the user removes it. -/
  found : ∀ user id title body since, Wrote past user id title body since →
    ¬Removed since user id →
    (Store.findNote user id).on s = (.ok (noteSince user id title body since), s)
  missing : ∀ user id,
    (∀ title body since, Wrote past user id title body since → Removed since user id) →
    (Store.findNote user id).on s = (.error (.noNote id), s)
  /-- A change can be made to the notes that are found. -/
  changeable : ∀ user id title body,
    (∃ note, ((Store.changeNote user id title body).on s).1 = .ok note) ↔
      ∃ note, ((Store.findNote user id).on s).1 = .ok note
  /-- A change gives what is found next. -/
  changed : ∀ user id title body, ((Store.changeNote user id title body).on s).1 =
    ((Store.findNote user id).on ((Store.changeNote user id title body).on s).2).1
  /-- A removal gives what was found before. -/
  removed : ∀ user id, ((Store.removeNote user id).on s).1 = ((Store.findNote user id).on s).1
  /-- Whatever is done, other notes stay as they are. -/
  aside : ∀ d s', s.Does d s' → ∀ id, d.named? ≠ some id → ∀ user,
    ((Store.findNote user id).on s').1 = ((Store.findNote user id).on s).1

theorem notes_live_as_written {past : List Deed} {s : Store} (h : Leads {} past s) :
    NotesLive past s where
  numbered before d since user title body hpast hop := by
    subst hpast
    obtain ⟨s₁, hbefore, hrest⟩ := h.exists_between
    obtain ⟨s₂, hdoes, -⟩ := hrest.exists_first
    have hlast := (remembers_of_leads hbefore).last
    obtain ⟨draw, hgives⟩ := hdoes
    rw [hop] at hgives
    rw [← hlast]
    exact (congrArg Prod.fst hgives).symm
  found user id title body since hwrote hstays := by
    have hstands : Stands past (noteSince user id title body since) :=
      ⟨title, body, since, hwrote, hstays, rfl⟩
    have hfind := (remembers_of_leads h).notes.2 hstands
    exact Store.findNote_on (Store.owned?_eq_some_iff.2 ⟨hfind, rfl⟩)
  missing user id hgone := by
    have hnone : s.owned? user id = none := by
      rw [Option.eq_none_iff_forall_ne_some]
      intro note owned
      obtain ⟨title, body, since, hwrote, hstays, -⟩ :=
        (remembers_of_leads h).stands_of_owned? owned
      rw [Store.id_of_owned? owned, Store.owner_of_owned? owned] at hwrote hstays
      exact hstays (hgone title body since hwrote)
    rw [Store.findNote_on_eq, hnone]
  changeable user id title body := by
    rw [Store.changeNote_on, Store.findNote_on_eq]
    cases s.owned? user id <;> simp
  changed user id title body := by
    rw [Store.changeNote_on]
    cases howned : s.owned? user id with
    | none => simp only [Store.findNote_on_eq, howned]
    | some note => simp only [Store.findNote_on_eq, Store.owned?_withRevised howned]
  removed user id := by
    rw [Store.removeNote_on, Store.findNote_on_eq]
    cases s.owned? user id <;> rfl
  aside d s' hdoes id hid user := by
    rw [Store.findNote_on_eq, Store.findNote_on_eq, Store.owned?, Store.owned?, hdoes.find?_eq hid]
    cases (s.shelf.find? id).filter (·.owner == user) <;> rfl

/-- Two users write notes, and one of them tries to change a note of the other. -/
def twoWriters : List (Draw × Operation) :=
  [(default, .addNote 1 "one" ""), (default, .addNote 2 "two" ""),
    (default, .changeNote 1 1 "uno" "a"), (default, .changeNote 2 1 "mine" "b"),
    (default, .removeNote 2 2), (default, .addNote 2 "three" ""), (default, .findNote 1 1)]

theorem notes_of_two_writers_live :
    (deeds twoWriters {}).map (·.answer) = [.ok (.note ⟨1, 1, "one", "", 1⟩),
      .ok (.note ⟨2, 2, "two", "", 1⟩), .ok (.note ⟨1, 1, "uno", "a", 2⟩), .error (.noNote 1),
      .ok (.note ⟨2, 2, "two", "", 1⟩), .ok (.note ⟨3, 2, "three", "", 1⟩),
      .ok (.note ⟨1, 1, "uno", "a", 2⟩)] ∧
    NotesLive (deeds twoWriters {}) (perform twoWriters {}).2 :=
  ⟨rfl, notes_live_as_written (leads_perform twoWriters {})⟩

end NotesBench.Service
