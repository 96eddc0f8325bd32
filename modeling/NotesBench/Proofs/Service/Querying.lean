import NotesBench.Proofs.Http.Query
import NotesBench.Proofs.Http.Url
import NotesBench.Proofs.Service.Listing

/-!
# Searching for any text

The pairs of a query are read back from each of its spellings, so a user can search for any text:
the first page of what holds it is shown, however the text was written in the query
(`queries_are_read_as_written`).
-/

namespace NotesBench.Service

open Http (Request Writes WritesPair WritesQuery)
open Text.Utf8 (encode)

/-- The request asks for the notes that hold a text, which is spelt in some way. -/
structure SearchesFor (r : Request) (text : String) : Prop where
  method : r.method = .get
  target : ∃ spelling, Writes false (encode text) spelling ∧ '#' ∉ spelling ∧
    r.target = "/notes?q=" ++ String.ofList spelling

/-- Path and query are what stands before and behind the question mark. -/
theorem path_and_query {r : Request} {spelling : List Char} (hsharp : '#' ∉ spelling)
    (h : r.target = "/notes?q=" ++ String.ofList spelling) :
    r.path = "/notes" ∧ r.query = String.ofList ('q' :: '=' :: spelling) := by
  have htarget : r.target.toList = "/notes".toList ++ '?' :: 'q' :: '=' :: spelling := by
    have hlist : (String.ofList spelling).toList = spelling := String.toList_ofList
    rw [h, String.toList_append, hlist]
    rfl
  have hresource : r.resource = r.target.toList := by
    refine Http.Url.takeWhile_ne fun hmem => hsharp ?_
    simpa [htarget] using hmem
  constructor
  · rw [Request.path, hresource, htarget]
    rfl
  · have hcut : Text.cutAt '?' r.resource = some ("/notes".toList, 'q' :: '=' :: spelling) :=
      Text.cutAt_eq_some_iff.2 ⟨by decide, hresource.trans htarget⟩
    rw [Request.query, hcut]
    rfl

theorem writesQuery_of_writes {text : String} {spelling : List Char}
    (h : Writes false (encode text) spelling) :
    WritesQuery [("q", text)] ('q' :: '=' :: spelling) := by
  have hname : Writes true (encode "q") ['q'] := .plain ⟨by decide, by decide, by decide, by decide,
    fun _ => by decide⟩ .nil
  exact .last (.joined hname h)

theorem SearchesFor.route_and_wanted {r : Request} {text : String} (h : SearchesFor r text) :
    Route.ofPath? r.path = some .notes ∧ Wanted.ofQuery r.query = { q := text } := by
  obtain ⟨spelling, hspelling, hsharp, htarget⟩ := h.target
  obtain ⟨hpath, hquery⟩ := path_and_query hsharp htarget
  constructor
  · rw [hpath]
    rfl
  · rw [Wanted.ofQuery, hquery,
      Http.pairs_ofList_of_writesQuery (writesQuery_of_writes hspelling)]
    rfl

/-- Of every spelling of some pairs, these pairs are read. Every text has a spelling in characters
that stand for themselves in a path and in percent signs; and whatever spelling a user chooses to
search for a text, the first page of the notes that hold it is the answer. -/
theorem queries_are_read_as_written :
    (∀ pairs spelling, WritesQuery pairs spelling →
      Http.pairs (String.ofList spelling) = pairs) ∧
    ∀ text,
      (∃ spelling, Writes false (encode text) spelling ∧
        ∀ c ∈ spelling, Http.isSegmentChar c = true) ∧
      ∀ settings draw r s user items total, SearchesFor r text → caller? s r = some user →
        r.headers.all "if-none-match" = [] → s.listing user 1 20 text = (items, total) →
        (serve settings draw r s).1.status = 200 ∧
          (serve settings draw r s).1.body = (pageJson 1 20 total items).octets := by
  refine ⟨fun pairs spelling => Http.pairs_ofList_of_writesQuery, fun text => ⟨?_, ?_⟩⟩
  · exact ⟨_, Http.writes_encodeSegment false text, fun c => Http.isSegmentChar_of_mem⟩
  · intro settings draw r s user items total h caller habsent hlisting
    obtain ⟨route, wanted⟩ := h.route_and_wanted
    have hserve := serve_listing h.method route settings draw caller wanted hlisting
    rw [Http.matches?_of_absent habsent, if_neg (by decide),
      jsonReply_tagged settings _ (isPlain_pageEtag 1 20 text items)] at hserve
    rw [hserve]
    exact ⟨rfl, rfl⟩

/-- A search for notes with two letters, one of which is escaped. -/
def searchOfTwoLetters : Request := requestOf "a1" .get "/notes?q=%6fn" [] []

theorem spelt_out_search_is_answered :
    Http.pairs (String.ofList "&q=%c3%A9=%2B+&&flag&".toList) = [("q", "é=+ "), ("flag", "")] ∧
    (serve {} default searchOfTwoLetters shelved).1.body =
      (pageJson 1 20 1 [firstNote]).octets := by
  have letter {inName : Bool} {c : Char} (h : Http.isUnreserved c = true) :=
    Http.standsPlain_of_isUnreserved inName h
  constructor
  · have hname : Writes true (encode "q") ['q'] := .plain (letter rfl) .nil
    have hequals : Http.StandsPlain false '=' :=
      ⟨by decide, by decide, by decide, by decide, nofun⟩
    have hvalue : Writes false (encode "é=+ ")
        ['%', 'c', '3', '%', 'A', '9', '=', '%', '2', 'B', '+'] :=
      .escape (x := 12) (y := 3) rfl rfl (.escape (x := 10) (y := 9) rfl rfl
        (.plain hequals (.escape (x := 2) (y := 11) rfl rfl (.space .nil))))
    have hflag : Writes true (encode "flag") ['f', 'l', 'a', 'g'] :=
      .plain (letter rfl) (.plain (letter rfl) (.plain (letter rfl) (.plain (letter rfl) .nil)))
    have halone : WritesPair ("flag", "") ['f', 'l', 'a', 'g'] := .alone (by decide) hflag
    exact queries_are_read_as_written.1 _ _
      (.separator (.cons (.joined hname hvalue) (.separator (.cons halone .nil))))
  · have hspelling : Writes false (encode "on") ['%', '6', 'f', 'n'] :=
      .escape (x := 6) (y := 15) rfl rfl (.plain (letter rfl) .nil)
    have hsearch : SearchesFor searchOfTwoLetters "on" :=
      ⟨rfl, _, hspelling, by decide, by decide⟩
    exact ((queries_are_read_as_written.2 "on").2 {} default _ shelved 1 [firstNote] 1 hsearch
      (by decide +kernel) (by decide +kernel) (by decide +kernel)).2

end NotesBench.Service
