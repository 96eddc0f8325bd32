import NotesBench.Proofs.Json.Record
import NotesBench.Proofs.Load.Replies

/-!
# Which fields of an answer are read

The token of a login is a text in the field `access`, and the name of a new note a number or a text
in the field `id`; an empty text is neither. Of the other members only those count that are fields
of the record, too. Each must be absent, null or a text (`IsTextOrNull`), or nothing is read
(`fields_are_read_together`): an answer with a number for its `refresh` has no token, whatever its
`access` (`token_is_lost_beside_a_number`).
-/

namespace NotesBench.Load

open Json (Source HoldsObject readInt?_intText)
open Text (Octets)

/-! ## Fields -/

/-- The field holds this text. -/
inductive HoldsText : Option Source → String → Prop where
  | text {raw : Octets} {s : String} (h : Json.readText? raw = some s) :
    HoldsText (some (.text raw)) s

/-- The field is absent or null, or holds some text. -/
inductive IsTextOrNull : Option Source → Prop where
  | absent : IsTextOrNull none
  | null : IsTextOrNull (some .null)
  | text {field : Option Source} {s : String} (h : HoldsText field s) : IsTextOrNull field

/-- The field holds a number or a text that is not empty, and so names a note. -/
inductive NamesNote : Option Source → NoteId → Prop where
  | number {literal : Octets} {n : Int} (h : Json.readInt? literal = some n)
    (hn : -(Text.signedEnd : Int) ≤ n ∧ n < Text.signedEnd) :
    NamesNote (some (.number literal)) (.number n)
  | text {field : Option Source} {s : String} (h : HoldsText field s) (hs : s ≠ "") :
    NamesNote field (.text s)

section Field

variable {field : Option Source}

theorem optional?_asText?_iff {s : String} :
    Json.optional? Source.asText? field = some (some s) ↔ HoldsText field s := by
  rw [Json.optional?_eq_some_some_iff rfl]
  constructor
  · rintro ⟨v, rfl, hv⟩
    cases v with
    | text raw => exact .text hv
    | _ => cases hv
  · rintro ⟨h⟩
    exact ⟨_, rfl, h⟩

theorem holdsText_tree (s : String) : HoldsText (some (Json.tree (.string s))) s := by
  rw [Json.tree]
  exact .text (Json.readText?_rawOf s)

theorem exists_optional?_asText?_iff :
    (∃ text, Json.optional? Source.asText? field = some text) ↔ IsTextOrNull field := by
  constructor
  · rintro ⟨_ | s, h⟩
    · rcases Json.optional?_eq_some_none_iff.1 h with rfl | rfl
      · exact .absent
      · exact .null
    · exact .text (optional?_asText?_iff.1 h)
  · rintro (_ | _ | h)
    · exact ⟨none, rfl⟩
    · exact ⟨none, rfl⟩
    · exact ⟨_, optional?_asText?_iff.2 h⟩

theorem optional?_read?_iff {id : NoteId} :
    Json.optional? NoteId.read? field = some (some id) ∧ id ≠ .text "" ↔ NamesNote field id := by
  rw [Json.optional?_eq_some_some_iff rfl]
  constructor
  · rintro ⟨⟨v, rfl, hv⟩, hne⟩
    cases v with
    | number literal =>
      obtain ⟨n, hn, rfl⟩ := Option.map_eq_some_iff.1 hv
      obtain ⟨hread, hrange⟩ := Option.filter_eq_some_iff.1 hn
      exact .number hread (of_decide_eq_true hrange)
    | text raw =>
      obtain ⟨s, hs, rfl⟩ := Option.map_eq_some_iff.1 hv
      exact .text (.text hs) fun he => hne (congrArg NoteId.text he)
    | _ => cases hv
  · rintro (⟨hread, hn⟩ | ⟨⟨hread⟩, hs⟩)
    · refine ⟨⟨_, rfl, ?_⟩, by simp⟩
      rw [NoteId.read?, hread, Option.filter_some, if_pos (decide_eq_true hn)]
      rfl
    · refine ⟨⟨_, rfl, ?_⟩, by simpa using hs⟩
      rw [NoteId.read?, hread]
      rfl

end Field

/-! ## Answers -/

section Answers

variable {body : Octets} {members : List (String × Source)}

theorem LoginReply.decode?_eq_some_iff (h : HoldsObject body members) {reply : LoginReply} :
    LoginReply.decode? body = some reply ↔
      Json.optional? Source.asText? (members.lookup "access") = some reply.access ∧
        Json.optional? Source.asText? (members.lookup "refresh") = some reply.refresh := by
  obtain ⟨source, hread, hfields⟩ := h.exists_fields?
  obtain ⟨access, refresh⟩ := reply
  simp [LoginReply.decode?, hread, hfields, Option.bind_eq_some_iff]

theorem NoteReply.decode?_eq_some_iff (h : HoldsObject body members) {reply : NoteReply} :
    NoteReply.decode? body = some reply ↔
      Json.optional? NoteId.read? (members.lookup "id") = some reply.id ∧
        Json.optional? Source.asText? (members.lookup "title") = some reply.title ∧
        Json.optional? Source.asText? (members.lookup "body") = some reply.body := by
  obtain ⟨source, hread, hfields⟩ := h.exists_fields?
  obtain ⟨id, title, body⟩ := reply
  simp only [NoteReply.decode?, hread, hfields, List.map, Option.bind_eq_bind, Option.bind_some,
    Option.pure_def, Option.bind_eq_some_iff, Option.some.injEq, NoteReply.mk.injEq]
  constructor
  · rintro ⟨_, hid, _, htitle, _, hbody, rfl, rfl, rfl⟩
    exact ⟨hid, htitle, hbody⟩
  · rintro ⟨hid, htitle, hbody⟩
    exact ⟨_, hid, _, htitle, _, hbody, rfl, rfl, rfl⟩

theorem LoginReply.token_ofBody_eq_some_iff {t : String} :
    (LoginReply.ofBody body).token = some t ↔
      ∃ reply, LoginReply.decode? body = some reply ∧ reply.access = some t ∧ t ≠ "" := by
  unfold LoginReply.ofBody LoginReply.token
  cases LoginReply.decode? body with
  | none => simp
  | some reply => simp [Option.filter_eq_some_iff]

theorem NoteReply.noteId_ofBody_eq_some_iff {id : NoteId} :
    (NoteReply.ofBody body).noteId = some id ↔
      ∃ reply, NoteReply.decode? body = some reply ∧ reply.id = some id ∧ id ≠ .text "" := by
  unfold NoteReply.ofBody NoteReply.noteId
  cases NoteReply.decode? body with
  | none => simp
  | some reply => simp [Option.filter_eq_some_iff]

/-- The token of an answer is read when the other field of the record fits, and the name of a note
when the two others fit. Members that are no fields do not matter. -/
theorem fields_are_read_together (h : HoldsObject body members) :
    (∀ t, (LoginReply.ofBody body).token = some t ↔
      (HoldsText (members.lookup "access") t ∧ t ≠ "") ∧
        IsTextOrNull (members.lookup "refresh")) ∧
    (∀ id, (NoteReply.ofBody body).noteId = some id ↔
      NamesNote (members.lookup "id") id ∧
        IsTextOrNull (members.lookup "title") ∧ IsTextOrNull (members.lookup "body")) := by
  constructor
  · intro t
    rw [LoginReply.token_ofBody_eq_some_iff, ← optional?_asText?_iff,
      ← exists_optional?_asText?_iff]
    constructor
    · rintro ⟨reply, hdecode, haccess, hne⟩
      obtain ⟨hread, hrefresh⟩ := (LoginReply.decode?_eq_some_iff h).1 hdecode
      exact ⟨⟨haccess ▸ hread, hne⟩, _, hrefresh⟩
    · rintro ⟨⟨hread, hne⟩, refresh, hrefresh⟩
      exact ⟨⟨some t, refresh⟩, (LoginReply.decode?_eq_some_iff h).2 ⟨hread, hrefresh⟩, rfl, hne⟩
  · intro id
    rw [NoteReply.noteId_ofBody_eq_some_iff, ← optional?_read?_iff,
      ← exists_optional?_asText?_iff, ← exists_optional?_asText?_iff]
    constructor
    · rintro ⟨reply, hdecode, hid, hne⟩
      obtain ⟨hread, htitle, hbody⟩ := (NoteReply.decode?_eq_some_iff h).1 hdecode
      exact ⟨⟨hid ▸ hread, hne⟩, ⟨_, htitle⟩, _, hbody⟩
    · rintro ⟨⟨hread, hne⟩, ⟨title, htitle⟩, text, htext⟩
      exact ⟨⟨some id, title, text⟩,
        (NoteReply.decode?_eq_some_iff h).2 ⟨hread, htitle, htext⟩, rfl, hne⟩

/-- Members that are no fields and a field that is null do not hide what an answer holds. -/
theorem fields_are_read_among_others :
    (LoginReply.ofBody (Json.object [("kind", .array [.null, .int 7]), ("access", .string "abc"),
      ("refresh", .null)]).octets).token = some "abc" ∧
    (NoteReply.ofBody (Json.object [("title", .string "t"), ("owner", .object [("id", .int 7)]),
      ("id", .int 42)]).octets).noteId = some (.number 42) := by
  constructor
  · apply ((fields_are_read_together (Json.holdsObject_octets rfl (by decide))).1 "abc").2
    exact ⟨⟨holdsText_tree "abc", by decide⟩, .null⟩
  · apply ((fields_are_read_together (Json.holdsObject_octets rfl (by decide))).2 (.number 42)).2
    exact ⟨.number (readInt?_intText 42) (by decide), .text (holdsText_tree "t"), .absent⟩

/-- A field of another type does hide what an answer holds. -/
theorem token_is_lost_beside_a_number :
    ¬∀ (body : Octets) (members : List (String × Source)), HoldsObject body members →
      (∀ t, HoldsText (members.lookup "access") t ∧ t ≠ "" →
        (LoginReply.ofBody body).token = some t) ∧
      (∀ id, NamesNote (members.lookup "id") id → (NoteReply.ofBody body).noteId = some id) := by
  intro h
  have hholds : HoldsObject (Json.object [("access", .string "abc"), ("refresh", .int 1)]).octets
      [("access", Json.tree (.string "abc")), ("refresh", Json.tree (.int 1))] :=
    Json.holdsObject_octets rfl (by decide)
  have htoken := (h _ _ hholds).1 "abc" ⟨holdsText_tree "abc", by decide⟩
  obtain ⟨reply, hdecode, -⟩ := LoginReply.token_ofBody_eq_some_iff.1 htoken
  obtain ⟨-, hrefresh⟩ := (LoginReply.decode?_eq_some_iff hholds).1 hdecode
  cases hrefresh

end Answers

end NotesBench.Load
