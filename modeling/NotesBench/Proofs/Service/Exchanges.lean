import NotesBench.Proofs.Service.Requests
import NotesBench.Proofs.Service.Versions

/-!
# Requests and their answers

A run of the service lists the requests and their answers, the oldest first (`Serves`). What an
exchange does to the notes is seen from outside: a note is changed or removed by a `PUT` or `DELETE`
that is answered with 200 (`Exchange.Touches`), and an answer shows notes that are on the shelf
(`Store.Answers.shows`).
-/

namespace NotesBench.Service

open Http (Request Response)

/-- A request and its answer. -/
structure Exchange where
  request : Request
  response : Response

/-- The service answers the request so, with some random values, and is in the other state then. -/
def Store.Answers (settings : Settings) (s : Store) (x : Exchange) (s' : Store) : Prop :=
  ∃ draw, serve settings draw x.request s = (x.response, s')

/-- The exchanges lead from one state to the other. -/
abbrev Serves (settings : Settings) : Store → List Exchange → Store → Prop :=
  Steps (Store.Answers settings)

/-- What is requested in a run, with the answers of the run. -/
def exchanges (settings : Settings) (asked : List (Draw × Request)) (s : Store) : List Exchange :=
  List.zipWith (fun asked response => ⟨asked.2, response⟩) asked (serveAll settings asked s).1

section Exchanges

variable {settings : Settings} {asked : List (Draw × Request)} {s : Store}

theorem state_serveAll_nil : (serveAll settings [] s).2 = s := rfl

theorem state_serveAll_cons (draw : Draw) (r : Request) :
    (serveAll settings ((draw, r) :: asked) s).2 =
      (serveAll settings asked (serve settings draw r s).2).2 := rfl

theorem exchanges_cons (draw : Draw) (r : Request) :
    exchanges settings ((draw, r) :: asked) s =
      ⟨r, (serve settings draw r s).1⟩ :: exchanges settings asked (serve settings draw r s).2 := by
  simp only [exchanges, serveAll, List.zipWith_cons_cons]

theorem answers_serve (settings : Settings) (draw : Draw) (r : Request) (s : Store) :
    s.Answers settings ⟨r, (serve settings draw r s).1⟩ (serve settings draw r s).2 :=
  ⟨draw, Prod.ext rfl rfl⟩

theorem serves_serveAll (settings : Settings) (asked : List (Draw × Request)) (s : Store) :
    Serves settings s (exchanges settings asked s) (serveAll settings asked s).2 := by
  induction asked generalizing s with
  | nil => exact .refl s
  | cons first rest ih =>
    obtain ⟨draw, r⟩ := first
    rw [exchanges_cons, state_serveAll_cons]
    exact .cons (answers_serve settings draw r s) (ih (serve settings draw r s).2)

theorem exists_asked {x : Exchange} (h : x ∈ exchanges settings asked s) :
    ∃ draw, (draw, x.request) ∈ asked := by
  induction asked generalizing s with
  | nil => cases h
  | cons first rest ih =>
    obtain ⟨draw, r⟩ := first
    rw [exchanges_cons, List.mem_cons] at h
    rcases h with rfl | h
    · exact ⟨draw, List.mem_cons_self⟩
    · obtain ⟨later, hlater⟩ := ih h
      exact ⟨later, List.mem_cons_of_mem _ hlater⟩

end Exchanges

/-! ## Answers -/

theorem Failure.status_response (f : Failure) :
    f.response.status ≠ 200 ∧ f.response.status ≠ 304 := by
  cases f <;> simp [Failure.response, Failure.status]

section Replies

variable {settings : Settings}

/-- The header fields of an answer that has a validator. -/
def taggedFields (hide : Bool) (tag : String) : Http.Headers :=
  ("content-type", "application/json") ::
    if hide then [] else [("etag", tag), ("cache-control", cacheControl)]

theorem jsonReply_tagged (settings : Settings) (v : Json) {tag : String} (h : Http.IsPlain tag) :
    jsonReply 200 v (settings.shownEtag tag) =
      .ok ⟨200, taggedFields settings.hideEtag tag, v.octets⟩ := by
  unfold jsonReply Settings.shownEtag
  cases settings.hideEtag with
  | true => rfl
  | false => simp [h.isValue_eq, isStatus, taggedFields]

/-- An answer that carries a note. -/
def noteResponse (settings : Settings) (v : Json) (n : Note) : Response where
  status := 200
  headers := ("content-type", "application/json") ::
    if settings.hideEtag then [] else [("etag", n.etag), ("cache-control", cacheControl)]
  body := v.octets

theorem jsonReply_note (settings : Settings) (v : Json) (n : Note) :
    jsonReply 200 v (settings.shownEtag n.etag) = .ok (noteResponse settings v n) :=
  jsonReply_tagged settings v n.isPlain_etag

theorem first?_etag_noteResponse (settings : Settings) (v : Json) (n : Note) :
    (noteResponse settings v n).headers.first? "etag" =
      if settings.hideEtag then none else some n.etag := by
  unfold noteResponse Http.Headers.first?
  rw [Http.Headers.all_cons, if_neg (by decide)]
  cases settings.hideEtag with
  | true => rfl
  | false =>
    rw [if_neg Bool.false_ne_true, if_neg Bool.false_ne_true, Http.Headers.all_cons, if_pos rfl]
    rfl

end Replies

/-! ## Touches -/

/-- The exchange has changed or removed the note of that number. -/
def Exchange.Touches (x : Exchange) (id : Int) : Prop :=
  (x.request.method = .put ∨ x.request.method = .delete) ∧ x.response.status = 200 ∧
    ∃ segment, Route.ofPath? x.request.path = some (.note segment) ∧
      Text.signed? segment.toList = some id

theorem Exchange.touches_iff {x : Exchange} {segment : String} {id other : Int}
    (method : x.request.method = .put ∨ x.request.method = .delete)
    (status : x.response.status = 200) (route : Route.ofPath? x.request.path = some (.note segment))
    (number : Text.signed? segment.toList = some id) : x.Touches other ↔ other = id := by
  constructor
  · rintro ⟨-, -, segment', hsegment, hnumber⟩
    cases route.symm.trans hsegment
    exact Option.some.inj (hnumber.symm.trans number)
  · rintro rfl
    exact ⟨method, status, segment, route, number⟩

section Answers

variable {settings : Settings} {s s' : Store} {x : Exchange}

theorem sent_of_ne_head {method : Http.Method} (h : method ≠ .head) (response : Response) :
    sent method response = response := if_neg h

theorem status_sent (method : Http.Method) (response : Response) :
    (sent method response).status = response.status := by
  unfold sent
  split <;> rfl

/-- What has come of a request. -/
theorem Store.Answers.outcome (h : s.Answers settings x s') :
    (x.response.status ≠ 200 ∧ s' = s) ∨
      (∃ route, Route.ofPath? x.request.path = some route ∧
        (route = .health ∨ route = .ready ∨ route = .info) ∧ s' = s) ∨
      ∃ operation answer reply, Asks settings s x.request operation ∧
        s.Does ⟨operation, .ok answer⟩ s' ∧
        Replies settings x.request operation answer reply ∧ x.response = responseOf reply := by
  obtain ⟨draw, h⟩ := h
  obtain ⟨result, s₁, outcome, hserve⟩ := exists_outcome settings draw x.request s
  rw [hserve] at h
  obtain ⟨hresponse, rfl⟩ := Prod.mk.inj h
  cases outcome with
  | failed failure =>
    refine .inl ⟨?_, rfl⟩
    rw [← hresponse, status_sent]
    exact failure.status_response.1
  | fixed path which method => exact .inr (.inl ⟨_, path, which, rfl⟩)
  | did asks done replies =>
    rw [sent_of_ne_head asks.method_ne_head] at hresponse
    exact .inr (.inr ⟨_, _, _, asks, ⟨draw, done⟩, replies, hresponse.symm⟩)

theorem Store.Answers.exists_label (h : s.Answers settings x s') :
    ∃ label, NoteEffect s label s' ∧ ∀ id, x.Touches id ↔ ∃ user, label = some (user, id) := by
  rcases h.outcome with ⟨hstatus, rfl⟩ | ⟨route, path, which, rfl⟩ |
    ⟨operation, answer, reply, asks, done, replies, hresponse⟩
  · exact ⟨none, .aside rfl rfl, fun id => ⟨fun htouch => absurd htouch.2.1 hstatus, nofun⟩⟩
  · refine ⟨none, .aside rfl rfl, fun id => ⟨?_, nofun⟩⟩
    rintro ⟨-, -, segment, hsegment, -⟩
    cases path.symm.trans hsegment
    simp at which
  · refine ⟨_, done.noteEffect, fun id => ?_⟩
    cases asks with
    | change route method caller number read =>
      cases replies
      rw [jsonReply_note] at hresponse
      rw [x.touches_iff (.inl method) (by rw [hresponse]; rfl) route number]
      simp [Deed.touched?, eq_comm]
    | remove route method caller number =>
      cases replies
      rw [jsonReply_note] at hresponse
      rw [x.touches_iff (.inr method) (by rw [hresponse]; rfl) route number]
      simp [Deed.touched?, eq_comm]
    | _ =>
      refine ⟨?_, nofun⟩
      rintro ⟨hmethod, -⟩
      simp [*] at hmethod

/-- A run by what it does to the notes. -/
theorem Serves.exists_labels {xs : List Exchange} (h : Serves settings s xs s') :
    ∃ labels, Steps NoteEffect s labels s' ∧
      ∀ id, (∃ x ∈ xs, x.Touches id) ↔ ∃ user, some (user, id) ∈ labels := by
  induction h with
  | refl => exact ⟨[], .refl s, by simp⟩
  | snoc _ hx ih =>
    obtain ⟨labels, hsteps, hlabels⟩ := ih
    obtain ⟨label, he, hlabel⟩ := hx.exists_label
    refine ⟨labels ++ [label], hsteps.snoc he, fun id => ?_⟩
    simp only [List.mem_append, List.mem_singleton, or_and_right, exists_or, exists_eq_left,
      hlabels, hlabel, @eq_comm _ label]

end Answers

/-! ## Notes that are shown -/

/-- The notes are the same, except that they may have different owners. -/
structure Note.Alike (m n : Note) : Prop where
  id : m.id = n.id
  title : m.title = n.title
  body : m.body = n.body
  version : m.version = n.version

theorem Note.Alike.symm {m n : Note} (h : m.Alike n) : n.Alike m :=
  ⟨h.id.symm, h.title.symm, h.body.symm, h.version.symm⟩

theorem Note.Alike.trans {k m n : Note} (h : k.Alike m) (h' : m.Alike n) : k.Alike n :=
  ⟨h.id.trans h'.id, h.title.trans h'.title, h.body.trans h'.body, h.version.trans h'.version⟩

theorem Note.Alike.etag_eq {m n : Note} (h : m.Alike n) : m.etag = n.etag := by
  unfold Note.etag
  rw [h.id, h.title, h.body, h.version]

/-- The value is the note, or a page that holds it. -/
def IsNoteOrPage (n : Note) (v : Json) : Prop :=
  v = n.json ∨ v = n.itemJson ∨
    ∃ page size total items, n ∈ items ∧ v = pageJson page size total items

section Values

variable {m n : Note} {v : Json}

theorem isExact_json (n : Note) : n.json.isExact = true := rfl

theorem isExact_createdJson (n : Note) (hideId : Bool) : (n.createdJson hideId).isExact = true := by
  cases hideId <;> rfl

theorem isExact_pageJson (page size total : Nat) (items : List Note) :
    (pageJson page size total items).isExact = true := by
  have hitems : Json.areExact (items.map Note.itemJson) = true :=
    Json.areExact_iff.2 (List.forall_mem_map.2 fun n _ => isExact_createdJson n false)
  simp [pageJson, Json.isExact, Json.membersAreExact, hitems]

theorem IsNoteOrPage.isExact (h : IsNoteOrPage n v) : v.isExact = true := by
  rcases h with rfl | rfl | ⟨page, size, total, items, -, rfl⟩
  · exact isExact_json n
  · exact isExact_createdJson n false
  · exact isExact_pageJson ..

theorem alike_of_createdJson {hideId : Bool} (h : m.createdJson hideId = n.itemJson) :
    n.Alike m := by
  cases hideId with
  | true => simp [Note.itemJson, Note.createdJson] at h
  | false =>
    simp only [Note.itemJson, Note.createdJson, Bool.false_eq_true, if_false, List.cons_append,
      List.nil_append, Json.object.injEq, List.cons.injEq, Prod.mk.injEq, Json.string.injEq,
      Json.int.injEq, true_and, and_true] at h
    obtain ⟨hbody, hid, htitle, hversion⟩ := h
    exact ⟨hid.symm, htitle.symm, hbody.symm, Int.ofNat_inj.1 hversion.symm⟩

theorem alike_of_json (h : IsNoteOrPage n m.json) : n.Alike m := by
  rcases h with h | h | ⟨page, size, total, items, -, h⟩
  · simp only [Note.json, Json.object.injEq, List.cons.injEq, Prod.mk.injEq, Json.string.injEq,
      Json.int.injEq, true_and, and_true] at h
    obtain ⟨hid, htitle, hbody, hversion⟩ := h
    exact ⟨hid.symm, htitle.symm, hbody.symm, Int.ofNat_inj.1 hversion.symm⟩
  · simp [Note.json, Note.itemJson, Note.createdJson] at h
  · simp [Note.json, pageJson] at h

theorem alike_of_created {hideId : Bool} (h : IsNoteOrPage n (m.createdJson hideId)) :
    n.Alike m := by
  rcases h with h | h | ⟨page, size, total, items, -, h⟩
  · cases hideId <;> simp [Note.json, Note.createdJson] at h
  · exact alike_of_createdJson h
  · cases hideId <;> simp [Note.createdJson, pageJson] at h

theorem alike_of_page {page size total : Nat} {items : List Note}
    (h : IsNoteOrPage n (pageJson page size total items)) : ∃ m ∈ items, n.Alike m := by
  rcases h with h | h | ⟨page, size, total, others, hn, h⟩
  · simp [Note.json, pageJson] at h
  · simp [Note.itemJson, Note.createdJson, pageJson] at h
  · simp only [pageJson, Json.object.injEq, List.cons.injEq, Prod.mk.injEq, Json.array.injEq] at h
    have hitems : items.map Note.itemJson = others.map Note.itemJson := h.1.2
    have hmem : n.itemJson ∈ items.map Note.itemJson := hitems ▸ List.mem_map_of_mem hn
    obtain ⟨m, hm, hsame⟩ := List.mem_map.1 hmem
    exact ⟨m, hm, alike_of_createdJson hsame⟩

end Values

/-- The exchange is about notes, and its answer shows the note. -/
def Exchange.Shows (x : Exchange) (n : Note) : Prop :=
  (Route.ofPath? x.request.path = some .notes ∨
    ∃ segment, Route.ofPath? x.request.path = some (.note segment)) ∧
  x.response.status = 200 ∧ ∃ v, IsNoteOrPage n v ∧ x.response.body = v.octets

section Shows

variable {settings : Settings} {s s' : Store} {x : Exchange}

/-- A value that is answered is told from the answer. -/
theorem isNoteOrPage_of_shows {n : Note} {v : Json} (hv : v.isExact = true) (h : x.Shows n)
    (hbody : x.response.body = v.octets) : IsNoteOrPage n v := by
  obtain ⟨-, -, w, hw, hwbody⟩ := h
  rwa [Json.octets_injective hv hw.isExact (hbody.symm.trans hwbody)]

/-- An answer with status 200 does not say that nothing has changed. -/
theorem response_of_status {c : Bool} {reply : Except Failure Response}
    (status : x.response.status = 200)
    (h : x.response = responseOf (if c then emptyReply 304 else reply)) :
    x.response = responseOf reply := by
  cases c with
  | true =>
    rw [h, if_pos rfl] at status
    exact absurd status (by decide)
  | false => exact h

theorem body_of_note {v : Json} {n : Note}
    (h : x.response = responseOf (jsonReply 200 v (settings.shownEtag n.etag))) :
    x.response.body = v.octets := by
  rw [h, jsonReply_note]
  rfl

theorem body_of_page {v : Json} {etag : Option String} (status : x.response.status = 200)
    (h : x.response = responseOf (jsonReply 200 v etag)) : x.response.body = v.octets := by
  rw [h] at status ⊢
  unfold jsonReply at status ⊢
  split at status
  · exact absurd status (Failure.status_response _).1
  · split at status
    · exact absurd status (Failure.status_response _).1
    · next hstatus htag =>
      rw [if_neg hstatus, if_neg htag]
      rfl

theorem mem_of_mem_listing {user : Int} {page size : Nat} {q : String} {n : Note}
    (h : n ∈ (s.listing user page size q).1) : n ∈ s.shelf.notes :=
  (List.filter_sublist.trans List.filter_sublist).mem
    (List.mem_of_mem_drop (List.mem_of_mem_take h))

/-- All notes that an answer shows are on the shelf at one moment: before the exchange, or after. -/
theorem Store.Answers.shows (h : s.Answers settings x s') :
    ∃ s₁, (s₁ = s ∨ s₁ = s') ∧ ∀ n, x.Shows n → ∃ m ∈ s₁.shelf.notes, n.Alike m := by
  rcases h.outcome with ⟨hstatus, rfl⟩ | ⟨route, path, which, rfl⟩ |
    ⟨operation, answer, reply, asks, done, replies, hresponse⟩
  · exact ⟨s', .inl rfl, fun n hn => absurd hn.2.1 hstatus⟩
  · refine ⟨s', .inl rfl, fun n ⟨hroute, _⟩ => ?_⟩
    rcases hroute with hroute | ⟨segment, hroute⟩ <;> cases path.symm.trans hroute <;>
      simp at which
  · cases asks with
    | list route method caller query =>
      cases replies
      refine ⟨s', .inr rfl, fun n hn => ?_⟩
      have hbody := body_of_page hn.2.1 (response_of_status hn.2.1 hresponse)
      obtain ⟨m, hm, halike⟩ := alike_of_page (isNoteOrPage_of_shows (isExact_pageJson ..) hn hbody)
      cases done.effect
      exact ⟨m, mem_of_mem_listing hm, halike⟩
    | add route method caller read titled =>
      cases replies
      refine ⟨s', .inr rfl, fun n hn => ?_⟩
      have halike := alike_of_created
        (isNoteOrPage_of_shows (isExact_createdJson ..) hn (body_of_note hresponse))
      cases done.effect
      exact ⟨_, Store.mem_of_owned? (Store.owned?_withNote ..), halike⟩
    | look route method caller number =>
      cases replies
      refine ⟨s', .inr rfl, fun n hn => ?_⟩
      have halike := alike_of_json
        (isNoteOrPage_of_shows (isExact_json _) hn
          (body_of_note (response_of_status hn.2.1 hresponse)))
      cases done.effect with
      | findNote owned => exact ⟨_, Store.mem_of_owned? owned, halike⟩
    | change route method caller number read =>
      cases replies
      refine ⟨s', .inr rfl, fun n hn => ?_⟩
      have halike := alike_of_json
        (isNoteOrPage_of_shows (isExact_json _) hn (body_of_note hresponse))
      cases done.effect with
      | changeNote _ _ owned =>
        exact ⟨_, Store.mem_of_owned? (Store.owned?_withRevised owned ..), halike⟩
    | remove route method caller number =>
      cases replies
      refine ⟨s, .inl rfl, fun n hn => ?_⟩
      have halike := alike_of_json
        (isNoteOrPage_of_shows (isExact_json _) hn (body_of_note hresponse))
      cases done.effect with
      | removeNote owned => exact ⟨_, Store.mem_of_owned? owned, halike⟩
    | register route | login route | refresh route | logout route =>
      refine ⟨s, .inl rfl, fun n ⟨hroute, _⟩ => ?_⟩
      rcases hroute with hroute | ⟨segment, hroute⟩ <;> cases route.symm.trans hroute

end Shows

/-! ## Moments of a run -/

section Moments

variable {settings : Settings} {s s' : Store} {xs : List Exchange} {x y : Exchange}

theorem Store.Answers.follows (h : s.Answers settings x s') : Follows s s' := by
  obtain ⟨label, he, -⟩ := h.exists_label
  exact .step he

theorem Store.Answers.counted (hc : s.Counted) (h : s.Answers settings x s') : s'.Counted := by
  obtain ⟨label, he, -⟩ := h.exists_label
  exact hc.step he

theorem Serves.counted (hc : s.Counted) (h : Serves settings s xs s') : s'.Counted :=
  h.keeps hc Store.Answers.counted

/-- All notes that the answer shows are on the shelf. -/
def Exchange.IsShownAt (x : Exchange) (s : Store) : Prop :=
  s.Counted ∧ ∀ n, x.Shows n → ∃ m ∈ s.shelf.notes, n.Alike m

theorem Store.Answers.exists_shownAt (hc : s.Counted) (h : s.Answers settings x s') :
    ∃ s₁, Follows s s₁ ∧ Follows s₁ s' ∧ x.IsShownAt s₁ := by
  obtain ⟨s₁, rfl | rfl, hshown⟩ := h.shows
  · exact ⟨s₁, .refl s₁, h.follows, hc, hshown⟩
  · exact ⟨s₁, h.follows, .refl s₁, h.counted hc, hshown⟩

theorem Serves.exists_shownAt (hc : s.Counted) (h : Serves settings s xs s') (hx : x ∈ xs) :
    ∃ s₁, Follows s₁ s' ∧ x.IsShownAt s₁ := by
  induction h with
  | refl => cases hx
  | snoc hs he ih =>
    rcases List.mem_append.1 hx with hx | hx
    · obtain ⟨s₁, hfollows, hshown⟩ := ih hx
      exact ⟨s₁, hfollows.trans he.follows, hshown⟩
    · obtain rfl := List.mem_singleton.1 hx
      obtain ⟨s₁, -, hfollows, hshown⟩ := he.exists_shownAt (Serves.counted hc hs)
      exact ⟨s₁, hfollows, hshown⟩

/-- Of the moments at which two answers are made, one comes after the other. -/
theorem Serves.exists_moments (hc : s.Counted) (h : Serves settings s xs s') (hx : x ∈ xs)
    (hy : y ∈ xs) :
    ∃ s₁ s₂, x.IsShownAt s₁ ∧ y.IsShownAt s₂ ∧ (Follows s₁ s₂ ∨ Follows s₂ s₁) := by
  induction h with
  | refl => cases hx
  | snoc hs he ih =>
    obtain ⟨last, hbefore, -, hshown⟩ := he.exists_shownAt (Serves.counted hc hs)
    rcases List.mem_append.1 hx with hx | hx <;> rcases List.mem_append.1 hy with hy | hy
    · exact ih hx hy
    · obtain ⟨s₁, hfollows, hshown'⟩ := Serves.exists_shownAt hc hs hx
      cases List.mem_singleton.1 hy
      exact ⟨s₁, last, hshown', hshown, .inl (hfollows.trans hbefore)⟩
    · obtain ⟨s₁, hfollows, hshown'⟩ := Serves.exists_shownAt hc hs hy
      cases List.mem_singleton.1 hx
      exact ⟨last, s₁, hshown, hshown', .inr (hfollows.trans hbefore)⟩
    · cases List.mem_singleton.1 hx
      cases List.mem_singleton.1 hy
      exact ⟨last, last, hshown, hshown, .inl (.refl last)⟩

/-- In one run, notes that are shown with one validator are the same. -/
theorem Serves.alike_of_etag_eq (hc : s.Counted) (h : Serves settings s xs s') (hx : x ∈ xs)
    (hy : y ∈ xs) {m n : Note} (hm : x.Shows m) (hn : y.Shows n) (he : m.etag = n.etag) :
    m.Alike n := by
  obtain ⟨s₁, s₂, ⟨hc₁, hx⟩, ⟨hc₂, hy⟩, hfollows⟩ := h.exists_moments hc hx hy
  obtain ⟨m', hm', halike⟩ := hx m hm
  obtain ⟨n', hn', halike'⟩ := hy n hn
  have he' : m'.etag = n'.etag := halike.etag_eq.symm.trans (he.trans halike'.etag_eq)
  have hsame : m' = n' := by
    rcases hfollows with hfollows | hfollows
    · exact eq_of_etag_eq hc₁ hfollows hm' hn' he'
    · exact (eq_of_etag_eq hc₂ hfollows hn' hm' he'.symm).symm
  exact halike.trans (hsame ▸ halike'.symm)

end Moments

end NotesBench.Service
