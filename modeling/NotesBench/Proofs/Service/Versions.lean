import NotesBench.Proofs.Service.Shelf
import NotesBench.Proofs.Service.Validator

/-!
# Versions of notes

In a later state, a note with an old number is the old one or has a larger version (`Follows`),
since no number is given out again. So number and version name one state of a note in the whole of a
run, and a validator is that of no other state (`eq_of_etag_eq`), whatever the checksums are.
-/

namespace NotesBench.Service

/-- What can have become of the notes of an earlier state. -/
structure Follows (s s' : Store) : Prop where
  last : s.lastNote ≤ s'.lastNote
  notes : ∀ {id later}, s'.shelf.find? id = some later → id ≤ s.lastNote →
    ∃ note, s.shelf.find? id = some note ∧ note.owner = later.owner ∧
      (note = later ∨ note.version < later.version)

namespace Follows

variable {s s₁ s₂ s' : Store} {label : Option (Int × Int)}

theorem refl (s : Store) : Follows s s :=
  ⟨Int.le_refl _, fun hf _ => ⟨_, hf, rfl, .inl rfl⟩⟩

theorem trans (h₁ : Follows s s₁) (h₂ : Follows s₁ s₂) : Follows s s₂ := by
  refine ⟨Int.le_trans h₁.last h₂.last, fun hf hid => ?_⟩
  obtain ⟨middle, hm, howner, hlater⟩ := h₂.notes hf (Int.le_trans hid h₁.last)
  obtain ⟨note, hn, howner', hmiddle⟩ := h₁.notes hm hid
  refine ⟨note, hn, howner'.trans howner, ?_⟩
  rcases hmiddle with rfl | hmiddle
  · exact hlater
  · rcases hlater with rfl | hlater
    · exact .inr hmiddle
    · exact .inr (Nat.lt_trans hmiddle hlater)

theorem step (he : NoteEffect s label s') : Follows s s' := by
  cases he with
  | aside shelf last => exact ⟨Int.le_of_eq last.symm, fun hf _ => ⟨_, shelf ▸ hf, rfl, .inl rfl⟩⟩
  | add user title body =>
    refine ⟨Int.le_add_one (Int.le_refl _), fun {id later} hf hid => ?_⟩
    rw [Store.find?_withNote, if_neg (by omega)] at hf
    exact ⟨later, hf, rfl, .inl rfl⟩
  | @change user id note title body owned =>
    refine ⟨Int.le_refl _, fun {other later} hf hid => ?_⟩
    rw [Store.find?_withRevised owned] at hf
    split at hf
    · next hsame =>
      cases hf
      exact ⟨note, hsame ▸ Store.find?_of_owned? owned, rfl, .inr (Nat.lt_succ_self _)⟩
    · exact ⟨later, hf, rfl, .inl rfl⟩
  | remove owned =>
    refine ⟨Int.le_refl _, fun {other later} hf hid => ?_⟩
    rw [Store.find?_withoutNote] at hf
    split at hf
    · cases hf
    · exact ⟨later, hf, rfl, .inl rfl⟩

end Follows

section Runs

variable {s s' : Store} {labels : List (Option (Int × Int))}

theorem follows_of_steps (h : Steps NoteEffect s labels s') : Follows s s' := by
  induction h with
  | refl => exact .refl s
  | snoc _ he ih => exact ih.trans (.step he)

/-- At two moments of a run, one validator means one note. -/
theorem eq_of_etag_eq (hc : s.Counted) (h : Follows s s') {m n : Note} (hm : m ∈ s.shelf.notes)
    (hn : n ∈ s'.shelf.notes) (he : m.etag = n.etag) : m = n := by
  obtain ⟨hid, hversion⟩ := Note.etag_injective he
  have hle : n.id ≤ s.lastNote := hid ▸ (hc.lt_of_mem hm).2
  obtain ⟨note, hnote, -, hlater⟩ := h.notes (Shelf.find?_eq_some_iff.2 ⟨hn, rfl⟩) hle
  obtain ⟨hmem, hsame⟩ := Shelf.find?_eq_some_iff.1 hnote
  obtain rfl := Shelf.eq_of_id_eq hmem hm (hsame.trans hid.symm)
  rcases hlater with rfl | hlater
  · rfl
  · omega

theorem NoteEffect.find?_eq {label : Option (Int × Int)} (he : NoteEffect s label s') {id : Int}
    (hid : id ≤ s.lastNote) (hl : ∀ user, label ≠ some (user, id)) :
    s'.shelf.find? id = s.shelf.find? id := by
  cases he with
  | aside shelf _ => rw [shelf]
  | add user title body => rw [Store.find?_withNote, if_neg (by omega)]
  | @change user other note title body owned =>
    rw [Store.find?_withRevised owned, if_neg fun h => hl user (by rw [h])]
  | @remove user other note owned =>
    rw [Store.find?_withoutNote, if_neg fun h => hl user (by rw [h])]

/-- A note that is changed or removed is never again what it was. -/
theorem NoteEffect.lt_version {user id : Int} {note later : Note}
    (he : NoteEffect s (some (user, id)) s') (hfind : s.shelf.find? id = some note)
    (hlater : s'.shelf.find? id = some later) : note.version < later.version := by
  cases he with
  | change title body owned =>
    obtain rfl := Option.some.inj ((Store.find?_of_owned? owned).symm.trans hfind)
    rw [Store.find?_withRevised owned, if_pos rfl] at hlater
    cases hlater
    exact Nat.lt_succ_self _
  | remove _ =>
    rw [Store.find?_withoutNote, if_pos rfl] at hlater
    cases hlater

/-- A note is what it was exactly as long as nobody has changed or removed it. -/
theorem find?_eq_some_iff_of_steps (hc : s.Counted) {id : Int} {note : Note}
    (hfind : s.shelf.find? id = some note) (h : Steps NoteEffect s labels s') :
    s'.shelf.find? id = some note ↔ ∀ user, some (user, id) ∉ labels := by
  constructor
  · intro hstill user hmem
    obtain ⟨before, after, rfl⟩ := List.append_of_mem hmem
    obtain ⟨s₁, h₁, h₂⟩ := h.exists_between
    obtain ⟨s₂, he, h₃⟩ := h₂.exists_first
    -- The note before the touch and the note after it are between the two moments.
    have hle := Int.le_trans (hc.given hfind).2 (follows_of_steps h₁).last
    have hle' := Int.le_trans hle (Follows.step he).last
    obtain ⟨after, hafter, -, hlast⟩ := (follows_of_steps h₃).notes hstill hle'
    obtain ⟨before, hbefore, -, -⟩ := (Follows.step he).notes hafter hle
    obtain ⟨first, hfirst, -, hmiddle⟩ := (follows_of_steps h₁).notes hbefore (hc.given hfind).2
    obtain rfl : first = note := Option.some.inj (hfirst.symm.trans hfind)
    have htouch := he.lt_version hbefore hafter
    rcases hmiddle with rfl | hmiddle <;> rcases hlast with rfl | hlast <;> omega
  · intro hl
    induction h with
    | refl => exact hfind
    | snoc hsteps he ih =>
      simp only [List.mem_append, List.mem_singleton, not_or] at hl
      have hle := Int.le_trans (hc.given hfind).2 (follows_of_steps hsteps).last
      rw [he.find?_eq hle fun user => Ne.symm (hl user).2]
      exact ih fun user => (hl user).1

end Runs

end NotesBench.Service
