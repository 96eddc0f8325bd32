import NotesBench.Load.Exchange
import NotesBench.Proofs.Json.Value
import NotesBench.Service.Access
import NotesBench.Service.Notes

/-!
# What is read from the answers of the service

The answer to a login gives its token (`token_ofBody`), and the answer to a new note gives its
number unless that is hidden (`noteId_ofBody`).
-/

namespace NotesBench.Load

open Json (Source readInt?_intText)
open Service (TokenPair Note)

section Number

variable {n : Int} (hn : -(Text.signedEnd : Int) ≤ n ∧ n < Text.signedEnd)
include hn

theorem read?_number : NoteId.read? (Json.tree (.int n)) = some (.number n) := by
  rw [Json.tree, NoteId.read?, readInt?_intText, Option.filter_some, if_pos (decide_eq_true hn)]
  rfl

theorem optional?_number :
    Json.optional? NoteId.read? (some (Json.tree (.int n))) = some (some (.number n)) := by
  have hr := read?_number hn
  rw [Json.tree] at hr ⊢
  exact congrArg (Option.map some) hr

end Number

theorem optional?_string (s : String) :
    Json.optional? Source.asText? (some (Json.tree (.string s))) = some (some s) := by
  have ht := Json.asText?_tree_string s
  rw [Json.tree] at ht ⊢
  exact congrArg (Option.map some) ht

/-- The token of a login is in its answer. -/
theorem token_ofBody {pair : TokenPair} (h : pair.access ≠ "") :
    (LoginReply.ofBody pair.json.octets).token = some pair.access := by
  have hv : pair.json.isExact = true := by
    simp [TokenPair.json, Json.isExact, Json.membersAreExact]
  have hf : pair.json.tree.fields? ["access", "refresh"] =
      some [some (Json.tree (.string pair.access)), some (Json.tree (.string pair.refresh))] := by
    rw [TokenPair.json, Json.fields?_tree]
    simp [Json.field?]
  have hd : LoginReply.decode? pair.json.octets = some ⟨some pair.access, some pair.refresh⟩ := by
    simp [LoginReply.decode?, Json.read?_octets hv, hf, optional?_string]
  rw [LoginReply.ofBody, hd]
  simp [LoginReply.token, h]

/-- The number of a new note is in its answer, unless it is hidden. -/
theorem noteId_ofBody {note : Note}
    (hn : -(Text.signedEnd : Int) ≤ note.id ∧ note.id < Text.signedEnd) (hidden : Bool) :
    (NoteReply.ofBody (note.createdJson hidden).octets).noteId =
      if hidden then none else some (.number note.id) := by
  have hv : (note.createdJson hidden).isExact = true := by
    cases hidden <;> simp [Note.createdJson, Json.isExact, Json.membersAreExact]
  have hf : (note.createdJson hidden).tree.fields? ["id", "title", "body"] =
      some [if hidden then none else some (Json.tree (.int note.id)),
        some (Json.tree (.string note.title)), some (Json.tree (.string note.body))] := by
    rw [Note.createdJson, Json.fields?_tree]
    cases hidden <;> simp [Json.field?]
  have hd : NoteReply.decode? (note.createdJson hidden).octets =
      some ⟨if hidden then none else some (.number note.id), some note.title, some note.body⟩ := by
    cases hidden
    · simp [NoteReply.decode?, Json.read?_octets hv, hf, optional?_string, optional?_number hn]
    · have hnone : Json.optional? NoteId.read? none = some none := rfl
      simp [NoteReply.decode?, Json.read?_octets hv, hf, optional?_string, hnone]
  rw [NoteReply.ofBody, hd]
  cases hidden <;> simp [NoteReply.noteId]

end NotesBench.Load
