import Mathlib.Data.List.Basic
import NotesBench.Proofs.Http.Query
import NotesBench.Proofs.Load.Sending

/-!
# Paths of notes

A note that is named by a text is asked for at a path of two segments, of which the second one is
read back as the text. Only the texts of one point and of two points are not: points are not
escaped, and so these two lead to other places of the tree. Different texts lead to different paths
all the same (`note_is_asked_for_at_its_path`). The path as it is written keeps every text, in plain
characters alone (`texts_are_kept_in_paths`).
-/

namespace NotesBench.Load

open Http (Url)

/-! ## Where the segments lead to -/

/-- The segments of the path of a note. -/
def noteSegments (id : String) : List (List Char) := ["notes".toList, Http.encodeSegment id]

theorem isPlainSegment_notes : Url.IsPlainSegment "notes".toList := by
  have h : ∀ s ∈ ["notes".toList], Url.IsPlainSegment s := Url.forall_isPlainSegment rfl
  exact h _ List.mem_cons_self

theorem isWritten_noteSegments (id : String) : ∀ s ∈ noteSegments id, Url.IsWritten s := by
  simpa [noteSegments] using
    And.intro isPlainSegment_notes.isWritten (Url.isWritten_encodeSegment id)

theorem notePath_text (id : String) :
    notePath (.text id) = String.ofList (Url.pathOf (noteSegments id)) := by
  rw [String.ext_iff]
  simp [notePath, NoteId.shown, noteSegments, Url.pathOf]

/-- The path at which a note is asked for. -/
def reachedPath (id : String) : String :=
  String.ofList (Url.pathOf (Url.resolve [] (noteSegments id)))

theorem reachedPath_of_ne {id : String} (hhere : id ≠ ".") (hup : id ≠ "..") :
    reachedPath id = notePath (.text id) := by
  rw [reachedPath, Url.resolve_eq_append, notePath_text, List.nil_append]
  simpa [noteSegments] using
    And.intro isPlainSegment_notes.isNamed (Url.isNamed_encodeSegment hhere hup)

/-- The text that names the note which is asked for at a path. -/
def noteAt? (path : String) : Option String :=
  if path = "/notes/" then some "."
  else if path = "/" then some ".."
  else Url.unescaped? (String.ofList (path.toList.drop "/notes/".length))

theorem noteAt?_reachedPath {id : String} (h : id ≠ "") : noteAt? (reachedPath id) = some id := by
  by_cases hhere : id = "."
  · subst hhere
    decide
  · by_cases hup : id = ".."
    · subst hup
      decide
    · have hne : Http.encodeSegment id ≠ [] :=
        fun he => h (Http.encodeSegment_inj.1 (he.trans (rfl : _ = Http.encodeSegment "")))
      have hnotes : notePath (.text id) ≠ "/notes/" := by simpa [notePath, NoteId.shown] using hne
      have hroot : notePath (.text id) ≠ "/" := by simp [notePath, String.ext_iff]
      have hsegment : (notePath (.text id)).toList.drop "/notes/".length =
          Http.encodeSegment id := by
        have hlength : "/notes/".length = 7 := rfl
        simp [notePath, NoteId.shown, hlength]
      rw [reachedPath_of_ne hhere hup, noteAt?, if_neg hnotes, if_neg hroot, hsegment]
      exact Http.decode?_encodeSegment id

/-! ## The requests for a note -/

/-- A client asks for the note that is named by a text at a path: the location is the one of the
path, every request goes there, and one can be written if the header fields and the location take
it. -/
structure Client.AsksAt (c : Client) (u : Url) (id path : String) : Prop where
  located : Url.read (c.baseUrl ++ notePath (.text id)) = .ok { u with path }
  sent : ∀ token etag out, c.build (.readNote token (.text id) etag) = .ok out →
    out.url = { u with path } ∧ out.request.target = path
  written : ∀ token etag,
    (∀ field ∈ (Call.readNote token (.text id) etag).headers, Http.isValue field.2 = true) →
    ({ u with path } : Url).isSendable = true →
    ∃ out, c.build (.readNote token (.text id) etag) = .ok out

variable {c : Client} {u : Url}

/-- Whatever the text is, the note is asked for where its segments lead to. -/
theorem Client.asksAt_reachedPath (hc : Url.IsBare c.baseUrl u) (id : String) :
    c.AsksAt u id (reachedPath id) := by
  obtain ⟨place, -, -, -, host, -, rfl⟩ := hc.exists_place
  have hread : Url.read (c.baseUrl ++ notePath (.text id)) =
      .ok (Url.atPlace (reachedPath id) host) := by
    rw [notePath_text]
    exact hc.read_append (List.cons_ne_nil _ _) (isWritten_noteSegments id)
  have hbuild (token : String) (etag : Option String) :=
    build_atPlace (show Url.read (c.baseUrl ++ (Call.readNote token (.text id) etag).path) = _
      from hread)
  refine ⟨hread, fun token etag out hout => ?_, fun token etag hvalues hsend => ?_⟩
  · rw [hbuild] at hout
    split at hout
    · split at hout
      · cases hout
        exact ⟨rfl, rfl⟩
      · cases hout
    · cases hout
  · have hsend : (Url.atPlace (reachedPath id) host).isSendable = true := hsend
    rw [hbuild, if_pos (List.all_eq_true.2 hvalues), if_pos hsend]
    exact ⟨_, rfl⟩

/-- Below an address of host and port alone, a note that is named by a text is asked for at its own
path, whose second segment stands for the text, unless the text is one of the two points: these lead
to the notes and to the root. Different texts lead to different paths. -/
theorem note_is_asked_for_at_its_path (hc : Url.IsBare c.baseUrl u) :
    (∀ id, id ≠ "" → id ≠ "." → id ≠ ".." →
      c.AsksAt u id (notePath (.text id)) ∧
      ∃ s, s ≠ [] ∧
        Text.splitOn '/' (notePath (.text id)).toList = [[], "notes".toList, s] ∧
        Url.unescaped? (String.ofList s) = some id) ∧
    c.AsksAt u "." "/notes/" ∧ c.AsksAt u ".." "/" ∧
    ∀ id id' v v', id ≠ "" → id' ≠ "" →
      Url.read (c.baseUrl ++ notePath (.text id)) = .ok v →
      Url.read (c.baseUrl ++ notePath (.text id')) = .ok v' → v.path = v'.path → id = id' := by
  have hasks := Client.asksAt_reachedPath hc
  refine ⟨fun id hid hhere hup => ⟨reachedPath_of_ne hhere hup ▸ hasks id, ?_⟩, hasks ".",
    hasks "..", fun id id' v v' hid hid' hv hv' hpath => ?_⟩
  · have hsplit : Text.splitOn '/' (notePath (.text id)).toList = [] :: noteSegments id := by
      have hnotes := Url.splitOn_pathOf (s := "notes".toList) (isWritten_noteSegments id)
      rw [notePath_text, String.toList_ofList]
      exact congrArg ([] :: ·) hnotes
    refine ⟨Http.encodeSegment id, fun he => hid ?_, hsplit, Http.decode?_encodeSegment id⟩
    exact Http.encodeSegment_inj.1 (he.trans (rfl : _ = Http.encodeSegment ""))
  · rw [(hasks id).located] at hv
    rw [(hasks id').located] at hv'
    cases hv
    cases hv'
    have hnote : noteAt? (reachedPath id) = noteAt? (reachedPath id') := congrArg noteAt? hpath
    rwa [noteAt?_reachedPath hid, noteAt?_reachedPath hid', Option.some.injEq] at hnote

/-- A client of a service on this machine. -/
def usualClient : Client := ⟨BaseUrl.usual⟩

theorem isBare_usual : Url.IsBare usualClient.baseUrl (Url.atPlace "/" ("localhost", some 8080)) :=
  ⟨⟨"localhost:8080".toList, rfl, List.all_eq_true.1 rfl⟩, by decide +kernel⟩

/-- A text with a slash, points and a question mark is the name of one note. -/
theorem winding_note_is_asked_for :
    Url.IsBare usualClient.baseUrl (Url.atPlace "/" ("localhost", some 8080)) ∧
    usualClient.AsksAt (Url.atPlace "/" ("localhost", some 8080)) "é/..?" "/notes/%C3%A9%2F..%3F" ∧
    ∃ s, s ≠ [] ∧
      Text.splitOn '/' "/notes/%C3%A9%2F..%3F".toList = [[], "notes".toList, s] ∧
      Url.unescaped? (String.ofList s) = some "é/..?" := by
  have hpath : notePath (.text "é/..?") = "/notes/%C3%A9%2F..%3F" := by decide +kernel
  obtain ⟨hasks, s, hne, hsplit, hread⟩ := (note_is_asked_for_at_its_path isBare_usual).1 "é/..?"
    (by decide) (by decide) (by decide)
  rw [hpath] at hasks hsplit
  exact ⟨isBare_usual, hasks, s, hne, hsplit, hread⟩

/-- Two points are escaped no more than other points, and then lead away from the notes. -/
theorem two_points_lead_to_the_root :
    ¬∀ (c : Client) (u : Url), Url.IsBare c.baseUrl u → ∀ id, id ≠ "" →
      ∃ v, Url.read (c.baseUrl ++ notePath (.text id)) = .ok v ∧ v.path = notePath (.text id) := by
  intro h
  obtain ⟨v, hv, hpath⟩ := h usualClient _ isBare_usual ".." (by decide)
  rw [(Client.asksAt_reachedPath isBare_usual "..").located] at hv
  cases hv
  revert hpath
  decide +kernel

/-! ## The paths as they are written -/

theorem notePath_inj {id id' : NoteId} : notePath id = notePath id' ↔ id.shown = id'.shown := by
  rw [notePath, notePath, String.append_right_inj, String.ofList_inj, Http.encodeSegment_inj]

/-- Behind the one for the notes the path of a note has a segment of letters, digits, four marks and
escapes, hence without anything that ends a segment or a path. Read as a part of a query, the
segment gives the text back, and names with different texts have different paths. -/
theorem texts_are_kept_in_paths :
    (∀ id : String, ∃ s, notePath (.text id) = "/notes/" ++ String.ofList s ∧ Http.IsSegment s ∧
      (∀ c ∈ s, c.toNat < 0x80 ∧ c ∉ ['/', '?', '#', ' ']) ∧ Http.decodeComponent s = id) ∧
    ∀ id id' : NoteId, notePath id = notePath id' ↔ id.shown = id'.shown := by
  refine ⟨fun id => ?_, fun id id' => notePath_inj⟩
  have hform := Http.isSegment_encodeSegment id
  refine ⟨Http.encodeSegment id, rfl, hform, fun c hc => ?_,
    Http.decodeComponent_of_writes (Http.writes_encodeSegment false id)⟩
  have hchar := hform.forall_isSegmentChar c hc
  have hcode := Http.toNat_lt_of_isSegmentChar hchar
  refine ⟨by omega, fun hmem => ?_⟩
  simp only [List.mem_cons, List.not_mem_nil, or_false] at hmem
  rcases hmem with rfl | rfl | rfl | rfl <;> cases hchar

/-- A plus sign and a percent sign do not become a space and a letter. -/
theorem signs_are_kept_in_paths :
    notePath (.text "é+%41") = "/notes/%C3%A9%2B%2541" ∧
    Http.IsSegment "%C3%A9%2B%2541".toList ∧
    ('%' ∈ "%C3%A9%2B%2541".toList ∧ '%'.toNat < 0x80 ∧ '%' ∉ ['/', '?', '#', ' ']) ∧
    Http.decodeComponent "%C3%A9%2B%2541".toList = "é+%41" ∧
    notePath (.text "é+%41") ≠ notePath (.text "é A") := by
  have hpath : notePath (.text "é+%41") = "/notes/%C3%A9%2B%2541" := by decide +kernel
  obtain ⟨s, hs, hform, hplain, hread⟩ := texts_are_kept_in_paths.1 "é+%41"
  have hsegment : "/notes/" ++ String.ofList "%C3%A9%2B%2541".toList =
      "/notes/" ++ String.ofList s :=
    hpath.symm.trans hs
  rw [String.append_right_inj, String.ofList_inj] at hsegment
  rw [← hsegment] at hform hplain hread
  have hmem : '%' ∈ "%C3%A9%2B%2541".toList := by decide
  exact ⟨hpath, hform, ⟨hmem, hplain '%' hmem⟩, hread,
    fun h => absurd ((texts_are_kept_in_paths.2 _ _).1 h) (by decide)⟩

end NotesBench.Load
