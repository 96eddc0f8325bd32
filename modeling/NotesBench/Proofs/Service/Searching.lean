import NotesBench.Proofs.Service.Listing
import NotesBench.Proofs.Service.Notes
import NotesBench.Proofs.Text.Lowercase

/-!
# What a search finds

A search compares small forms, and the small form of a capital sigma depends on what stands around
it. So a note that has the very text that is searched for is found where the sigmas of the text stay
as they are (`literal_occurrence_is_found`), as those of a whole word do, but the beginning of a
word may be missed (`beginning_of_a_word_is_missed`).
-/

namespace NotesBench.Service

theorem Note.holds_of_infix {n : Note} {q text : String} (htext : text = n.title ∨ text = n.body)
    (h : Text.lowered q.toList <:+: Text.lowered text.toList) : n.Holds q := by
  rcases htext with rfl | rfl
  · exact .inl h
  · exact .inr h

/-- A note whose title or body has the text as it is, with its sigmas as they stand alone, is among
the notes that are found and shown page by page. It is missed only if a sigma at an edge of the text
touches a letter beyond. -/
theorem literal_occurrence_is_found {s : Store} {user : Int} {n : Note} (hn : n ∈ s.shelf.notes)
    (owner : n.owner = user) {q text : String} (htext : text = n.title ∨ text = n.body)
    {before after : List Char} (occurs : text.toList = before ++ q.toList ++ after) :
    ∃ found, s.shelf.IsFound user q found ∧ (∀ size, 0 < size → s.Pages user q size found) ∧
      (Text.SigmasStay before q.toList after → n ∈ found) ∧
      (n ∉ found → Text.SigmaAtEdge before q.toList after) := by
  have hfound := s.shelf.isFound_search user q
  have hmem (stay : Text.SigmasStay before q.toList after) : n ∈ s.shelf.search user q := by
    have hinfix : Text.lowered q.toList <:+: Text.lowered text.toList :=
      occurs ▸ stay.lowered_infix
    exact (hfound.mem_iff n).2 ⟨hn, owner, Note.holds_of_infix htext hinfix⟩
  refine ⟨_, hfound, fun size hsize => s.pages_search user q hsize, hmem, fun hmissed => ?_⟩
  exact Text.sigmaAtEdge_of_not_sigmasStay fun stay => hmissed (hmem stay)

/-- The street that the note is about is a whole word of its title. -/
def streetNote : Note := ⟨1, 1, "Ο ΔΡΟΜΟΣ ΜΑΣ", "", 1⟩

theorem whole_word_is_found :
    ∃ found, (perform [(default, .addNote 1 streetNote.title "")] {}).2.shelf.IsFound 1 "ΔΡΟΜΟΣ"
      found ∧ streetNote ∈ found := by
  have hbefore : Text.meetsCased "Ο ".toList.reverse = false := by decide +kernel
  have hafter : Text.meetsCased " ΜΑΣ".toList = false := by decide +kernel
  have hn : streetNote ∈
      (perform [(default, .addNote 1 streetNote.title "")] {}).2.shelf.notes := by decide +kernel
  have occurs : streetNote.title.toList = "Ο ".toList ++ "ΔΡΟΜΟΣ".toList ++ " ΜΑΣ".toList := by
    decide +kernel
  obtain ⟨found, hfound, -, hmem, -⟩ := literal_occurrence_is_found hn rfl (.inl rfl) occurs
  exact ⟨found, hfound, hmem (Text.sigmasStay_of_apart hbefore hafter _)⟩

/-- A note may hold a text as it is and not be found: at the end of the text the sigma is final, and
within the longer word of the title it is not. -/
theorem beginning_of_a_word_is_missed :
    ¬∀ (past : List Deed) (s : Store) (user : Int) (n : Note) (q : String), Leads {} past s →
      n ∈ s.shelf.notes → n.owner = user →
      (q.toList <:+: n.title.toList ∨ q.toList <:+: n.body.toList) →
      ∃ found, s.shelf.IsFound user q found ∧ n ∈ found := by
  intro h
  have hname : "ΚΩΣ".toList <:+: "ΚΩΣΤΑΣ".toList := ⟨[], "ΤΑΣ".toList, by decide +kernel⟩
  obtain ⟨found, hfound, hmem⟩ := h _ _ 1 ⟨1, 1, "ΚΩΣΤΑΣ", "", 1⟩ "ΚΩΣ"
    (leads_perform [(default, .addNote 1 "ΚΩΣΤΑΣ" "")] {}) (by decide +kernel) rfl (.inl hname)
  have hholds := ((hfound.mem_iff _).1 hmem).2.2
  unfold Note.Holds at hholds
  rw [← Text.occursIn_iff, ← Text.occursIn_iff] at hholds
  revert hholds
  decide +kernel

end NotesBench.Service
