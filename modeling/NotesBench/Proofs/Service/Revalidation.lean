import NotesBench.Proofs.Service.Exchanges

/-!
# Asking again for a note

A reader who has the validator of a note asks for the note again. The answer is that nothing has
changed exactly if the note has been neither changed nor removed since the validator was sent, and
otherwise it is the answer to the same request without validators (`note_validators_exact`).
-/

namespace NotesBench.Service

open Http (Request Response)
open Handler (Gives)

/-- The exchange has sent the validator for the note of that number, in answer to the new note, to a
look at it or to a change of it. -/
def Exchange.Sends (x : Exchange) (s' : Store) (id : Int) (tag : String) : Prop :=
  x.response.status = 200 ∧ x.response.headers.first? "etag" = some tag ∧
    (x.request.method = .post ∧ Route.ofPath? x.request.path = some .notes ∧ id = s'.lastNote ∨
      (x.request.method = .get ∨ x.request.method = .put) ∧
        ∃ segment, Route.ofPath? x.request.path = some (.note segment) ∧
          Text.signed? segment.toList = some id)

/-- The user asks for the note of that number, and names the validator and no other one of it. -/
structure Revalidates (s : Store) (r : Request) (user id : Int) (tag : String) : Prop where
  method : r.method = .get
  route : ∃ segment, Route.ofPath? r.path = some (.note segment) ∧
    Text.signed? segment.toList = some id
  caller : caller? s r = some user
  named : tag ∈ Http.candidates r.headers
  others : ∀ c ∈ Http.candidates r.headers, c ≠ tag →
    c ≠ "*" ∧ ∀ note, s.shelf.find? id = some note → c ≠ note.etag

/-- The request without the validators that it names. -/
def unconditional (r : Request) : Request :=
  { r with headers := r.headers.filter fun h => h.1.toLower != "if-none-match" }

section Look

variable {settings : Settings} {s : Store} {r : Request} {user id : Int}

/-- The answer to a look at the note of that number, if there is one. -/
def lookReply (settings : Settings) (r : Request) (id : Int) :
    Option Note → Except Failure Response
  | some note =>
    if Http.matches? r.headers note.etag then emptyReply 304
    else jsonReply 200 note.json (settings.shownEtag note.etag)
  | none => .error (.ofRefusal (.noNote id))

theorem serve_look (draw : Draw) (method : r.method = .get) {segment : String}
    (route : Route.ofPath? r.path = some (.note segment))
    (number : Text.signed? segment.toList = some id) (caller : caller? s r = some user) :
    serve settings draw r s = (responseOf (lookReply settings r id (s.owned? user id)), s) := by
  have hgives : (showEndpoint settings segment r).Gives s
      (lookReply settings r id (s.owned? user id)) s := by
    cases hn : s.owned? user id with
    | some note => exact gives_showEndpoint caller number settings (Store.findNote_on hn)
    | none =>
      refine (gives_authenticate caller).bind ((gives_readId number s).bind
        (Gives.act_refused ?_).bind_error)
      rw [Store.findNote_on_eq, hn]
  refine serve_of_gives route (by simp [method]) ?_
  unfold Route.handler
  simp only [method]
  exact hgives

theorem all_unconditional (r : Request) :
    (unconditional r).headers.all "if-none-match" = [] ∧
      (unconditional r).headers.all "authorization" = r.headers.all "authorization" := by
  have hlower : "if-none-match".toLower = "if-none-match" := by decide +kernel
  have hne : "authorization".toLower ≠ "if-none-match" := by decide +kernel
  simp only [unconditional, Http.Headers.all, List.filter_filter, hlower]
  constructor
  · simp
  · congr 1
    refine List.filter_congr fun h _ => ?_
    by_cases hname : h.1.toLower = "authorization".toLower
    · simp [hname, hne]
    · simp [hname]

theorem caller?_unconditional (s : Store) (r : Request) :
    caller? s (unconditional r) = caller? s r := by
  rw [caller?, caller?, Http.bearer?, Http.bearer?, Http.Headers.first?, (all_unconditional r).2,
    ← Http.Headers.first?]

/-- Without validators, a note that is there is shown. -/
theorem lookReply_unconditional (settings : Settings) {found : Option Note}
    (h : ∀ note, found = some note → Http.matches? r.headers note.etag = false) :
    lookReply settings (unconditional r) id found = lookReply settings r id found := by
  cases found with
  | none => rfl
  | some note =>
    simp only [lookReply, Http.matches?_of_absent (all_unconditional r).1, h note rfl]

theorem status_lookReply {found : Option Note} :
    (responseOf (lookReply settings r id found)).status = 304 ↔
      ∃ note, found = some note ∧ Http.matches? r.headers note.etag = true := by
  cases found with
  | none => simp [lookReply, responseOf, (Failure.status_response _).2]
  | some note =>
    rw [lookReply, jsonReply_note]
    cases hm : Http.matches? r.headers note.etag with
    | true => exact iff_of_true rfl ⟨note, rfl, hm⟩
    | false => simp [responseOf, noteResponse, hm]

end Look

section Sends

variable {settings : Settings} {s s' : Store} {x : Exchange} {id : Int} {tag : String}

theorem etag_of_note {v : Json} {n : Note}
    (h : x.response = responseOf (jsonReply 200 v (settings.shownEtag n.etag)))
    (htag : x.response.headers.first? "etag" = some tag) : n.etag = tag := by
  have hfirst := first?_etag_noteResponse settings v n
  rw [h, jsonReply_note, responseOf, hfirst] at htag
  split at htag
  · cases htag
  · exact Option.some.inj htag

/-- The validator is that of the note, which is on the shelf after the exchange. -/
theorem Store.Answers.sends (h : s.Answers settings x s') (hs : x.Sends s' id tag) :
    ∃ user note, caller? s x.request = some user ∧ s'.owned? user id = some note ∧
      note.etag = tag := by
  obtain ⟨hstatus, htag, hasked⟩ := hs
  rcases h.outcome with ⟨hfailed, rfl⟩ | ⟨route, path, which, rfl⟩ |
    ⟨operation, answer, reply, asks, done, replies, hresponse⟩
  · exact absurd hstatus hfailed
  · rcases hasked with ⟨-, hroute, -⟩ | ⟨-, segment, hroute, -⟩ <;>
      cases path.symm.trans hroute <;> simp at which
  · cases asks with
    | add route method caller read titled =>
      rcases hasked with ⟨-, -, rfl⟩ | ⟨-, segment, hroute, -⟩
      · cases replies
        have hetag := etag_of_note hresponse htag
        cases done.effect
        exact ⟨_, _, caller, Store.owned?_withNote .., hetag⟩
      · cases route.symm.trans hroute
    | look route method caller number =>
      rcases hasked with ⟨hmethod, -⟩ | ⟨-, segment, hroute, hnumber⟩
      · cases method.symm.trans hmethod
      · cases route.symm.trans hroute
        cases number.symm.trans hnumber
        cases replies
        have hetag := etag_of_note (response_of_status hstatus hresponse) htag
        cases done.effect with
        | findNote owned => exact ⟨_, _, caller, owned, hetag⟩
    | change route method caller number read =>
      rcases hasked with ⟨hmethod, -⟩ | ⟨-, segment, hroute, hnumber⟩
      · cases method.symm.trans hmethod
      · cases route.symm.trans hroute
        cases number.symm.trans hnumber
        cases replies
        have hetag := etag_of_note hresponse htag
        cases done.effect with
        | changeNote _ _ owned => exact ⟨_, _, caller, Store.owned?_withRevised owned .., hetag⟩
    | remove route method caller number =>
      rcases hasked with ⟨hmethod, -⟩ | ⟨hmethod | hmethod, -⟩ <;>
        cases method.symm.trans hmethod
    | list route method caller query =>
      rcases hasked with ⟨hmethod, -⟩ | ⟨-, segment, hroute, -⟩
      · cases method.symm.trans hmethod
      · cases route.symm.trans hroute
    | register route | login route | refresh route | logout route =>
      rcases hasked with ⟨-, hroute, -⟩ | ⟨-, segment, hroute, -⟩ <;> cases route.symm.trans hroute

end Sends

/-! ## Whole runs -/

section Run

variable {settings : Settings} {past between : List Exchange} {s s₀ s₁ s₂ : Store}
  {first : Exchange} {r : Request} {user id : Int} {tag : String} {note : Note}

theorem etag_ne_star (n : Note) : n.etag ≠ "*" := by
  intro h
  have hl := congrArg String.toList h
  simp [Note.etag] at hl

/-- The note matches the validators that are named exactly if it is still the one that was sent. -/
theorem Revalidates.matches?_iff (hr : Revalidates s r user id note.etag) {later : Note}
    (hlater : s.shelf.find? id = some later) (hsame : note.etag = later.etag → later = note) :
    Http.matches? r.headers later.etag = true ↔ later = note := by
  simp only [Http.matches?, List.any_eq_true, Bool.or_eq_true, beq_iff_eq]
  constructor
  · rintro ⟨c, hc, hmatch⟩
    by_cases hnamed : c = note.etag
    · subst hnamed
      exact hsame (hmatch.resolve_right (etag_ne_star note))
    · obtain ⟨hstar, hother⟩ := hr.others c hc hnamed
      exact absurd hmatch (not_or.2 ⟨hother later hlater, hstar⟩)
  · rintro rfl
    exact ⟨_, hr.named, .inl rfl⟩

/-- The answer to a reader who has the validator of a note. -/
theorem Revalidates.status_serve (hr : Revalidates s r user id note.etag)
    (hsame : ∀ later, s.owned? user id = some later → note.etag = later.etag → later = note)
    (draw : Draw) :
    ((serve settings draw r s).1.status = 304 ↔ s.owned? user id = some note) ∧
      ((serve settings draw r s).1.status ≠ 304 →
        serve settings draw r s = serve settings draw (unconditional r) s) := by
  obtain ⟨segment, route, number⟩ := hr.route
  have hcaller : caller? s (unconditional r) = some user :=
    (caller?_unconditional s r).trans hr.caller
  have hmatches : ∀ later, s.owned? user id = some later →
      (Http.matches? r.headers later.etag = true ↔ later = note) := fun later hlater =>
    hr.matches?_iff (Store.find?_of_owned? hlater) (hsame later hlater)
  rw [serve_look draw hr.method route number hr.caller,
    serve_look (r := unconditional r) draw hr.method route number hcaller]
  constructor
  · refine status_lookReply.trans ⟨?_, fun h => ⟨note, h, (hmatches note h).2 rfl⟩⟩
    rintro ⟨later, hlater, hm⟩
    rwa [(hmatches later hlater).1 hm] at hlater
  · intro hstatus
    rw [lookReply_unconditional settings fun later hlater => Bool.eq_false_iff.2 fun hm =>
      hstatus (status_lookReply.2 ⟨later, hlater, hm⟩)]

/-- A user who has been sent the validator of a note and asks for the note again is told that
nothing has changed exactly if the note has been neither changed nor removed in between. Otherwise
the answer is that to the same request without validators. And notes that are shown in one run are
the same if they have the same validator, whatever the checksums are. -/
theorem note_validators_exact (h₀ : Serves settings {} past s₀)
    (h₁ : s₀.Answers settings first s₁) (h₂ : Serves settings s₁ between s₂) :
    (∀ user id tag r draw, first.Sends s₁ id tag → caller? s₀ first.request = some user →
      Revalidates s₂ r user id tag →
        ((serve settings draw r s₂).1.status = 304 ↔ ∀ x ∈ between, ¬x.Touches id) ∧
        ((serve settings draw r s₂).1.status ≠ 304 →
          serve settings draw r s₂ = serve settings draw (unconditional r) s₂)) ∧
    ∀ x ∈ past ++ first :: between, ∀ y ∈ past ++ first :: between, ∀ m n,
      x.Shows m → y.Shows n → m.etag = n.etag → m.Alike n := by
  refine ⟨fun user id tag r draw hsent hcaller hr => ?_, fun x hx y hy m n hm hn he => ?_⟩
  · obtain ⟨owner, note, howner, hnote, rfl⟩ := h₁.sends hsent
    obtain rfl : owner = user := Option.some.inj (howner.symm.trans hcaller)
    have hc : s₁.Counted := h₁.counted (Serves.counted Store.counted_empty h₀)
    obtain ⟨labels, hsteps, hlabels⟩ := Serves.exists_labels h₂
    have hsame : ∀ later, s₂.owned? owner id = some later → note.etag = later.etag →
        later = note := fun later hlater he =>
      (eq_of_etag_eq hc (follows_of_steps hsteps) (Store.mem_of_owned? hnote)
        (Store.mem_of_owned? hlater) he).symm
    obtain ⟨hiff, hotherwise⟩ := hr.status_serve hsame draw
    have hstill : s₂.owned? owner id = some note ↔ s₂.shelf.find? id = some note := by
      rw [Store.owned?_eq_some_iff, and_iff_left (Store.owner_of_owned? hnote)]
    have huntouched := find?_eq_some_iff_of_steps hc (Store.find?_of_owned? hnote) hsteps
    refine ⟨hiff.trans (hstill.trans (huntouched.trans ?_)), hotherwise⟩
    simpa using not_congr (hlabels id).symm
  · have hrun : Serves settings {} (past ++ first :: between) s₂ := h₀.trans (.cons h₁ h₂)
    exact Serves.alike_of_etag_eq Store.counted_empty hrun hx hy hm hn he

end Run

/-! ## A run -/

/-- A request of the user with the token. -/
def requestOf (token : String) (method : Http.Method) (target : String) (more : Http.Headers)
    (body : Text.Octets) : Request :=
  ⟨method, target, ("authorization", "Bearer " ++ token) :: more, .complete body⟩

/-- A user registers and logs in. -/
def enrolment : List (Draw × Request) :=
  let account := (pairJson "email" "ada@example.com" "password" "difference").octets
  [(⟨"salt", default⟩, ⟨.post, "/auth/register", [], .complete account⟩),
    (⟨"", "a1", "r1"⟩, ⟨.post, "/auth/login", [], .complete account⟩)]

/-- The user writes a note. -/
def writing : Request :=
  requestOf "a1" .post "/notes" [] (pairJson "title" "one" "body" "first").octets

def listing : Request := requestOf "a1" .get "/notes" [] []

/-- The user asks for the note again. -/
def askingAgain : Request :=
  requestOf "a1" .get "/notes/1" [("If-None-Match", "\"other\", W/\"n-1-1-518f5fe0\"")] []

def firstNote : Note := ⟨1, 1, "one", "first", 1⟩

/-- The state of the service in which the note is new. -/
def written : Store where
  accounts := { entries := [("ada@example.com", ⟨1, "salt", 0xa6a1e68f⟩)] }
  access := { entries := [("a1", 1)] }
  refresh := { entries := [("r1", ⟨1, false⟩)] }
  shelf := { notes := [firstNote] }
  lastUser := 1
  lastNote := 1

theorem serve_writing : serve {} default writing (serveAll {} enrolment {}).2 =
    (noteResponse {} (firstNote.createdJson false) firstNote, written) := by
  decide +kernel

theorem candidates_askingAgain :
    Http.candidates askingAgain.headers = ["\"other\"", "W/\"n-1-1-518f5fe0\""] := by
  rw [askingAgain, requestOf, Http.candidates, Http.Headers.all_cons_of_ne (by decide),
    Http.Headers.all_cons, if_pos (by decide)]
  decide +kernel

/-- Between the note and the question only a list was asked for. -/
theorem listed_note_is_unchanged :
    (serve {} default askingAgain (serveAll {} [(default, listing)] written).2).1.status = 304 := by
  have hfirst : (serveAll {} enrolment {}).2.Answers {}
      ⟨writing, noteResponse {} (firstNote.createdJson false) firstNote⟩ written :=
    ⟨default, serve_writing⟩
  have hlisted : (serveAll {} [(default, listing)] written).2 = written := by decide +kernel
  have hagain : Revalidates (serveAll {} [(default, listing)] written).2 askingAgain 1 1
      "W/\"n-1-1-518f5fe0\"" :=
    { method := rfl
      route := ⟨"1", by decide +kernel, by decide +kernel⟩
      caller := by
        rw [hlisted]
        decide +kernel
      named := by simp [candidates_askingAgain]
      others := by
        intro c hc hne
        obtain rfl : c = "\"other\"" := by simpa [candidates_askingAgain, hne] using hc
        refine ⟨by decide, fun note hnote => ?_⟩
        rw [hlisted] at hnote
        cases hnote
        decide +kernel }
  have h := (note_validators_exact (serves_serveAll {} enrolment {}) hfirst
    (serves_serveAll {} [(default, listing)] written)).1 1 1 "W/\"n-1-1-518f5fe0\"" askingAgain
    default ⟨rfl, by decide +kernel, .inl ⟨rfl, by decide +kernel, rfl⟩⟩ (by decide +kernel) hagain
  refine h.1.2 fun x hx htouch => ?_
  obtain ⟨draw, hasked⟩ := exists_asked hx
  obtain ⟨-, hrequest⟩ := Prod.mk.inj (List.mem_singleton.1 hasked)
  rw [Exchange.Touches, hrequest] at htouch
  exact absurd htouch.1 (by decide)

end NotesBench.Service
