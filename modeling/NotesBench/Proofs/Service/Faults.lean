import NotesBench.Proofs.Service.Fulfilment
import NotesBench.Proofs.Service.Revalidation

/-!
# Faults that are shown on purpose

The settings of a service hold limits and faults. What a service shows of an answer is told by the
answer of the same service without faults (`Settings.Shows`), so that two services with the same
limits keep the same state and, health checks apart, differ in what their settings announce and in
nothing else (`Settings.Confine`, `faults_are_confined`): the one with hidden validators shows no
validators, and the one with hidden numbers shows a new note without its number.
-/

namespace NotesBench.Service

open Http (Request Response)
open Handler (Gives)

/-! ## Settings -/

/-- The settings hold requests to the same limits. -/
structure Settings.SameLimits (a b : Settings) : Prop where
  bodyTimeout : a.bodyTimeout = b.bodyTimeout
  maxBody : a.maxBody = b.maxBody
  maxEmail : a.maxEmail = b.maxEmail
  minPassword : a.minPassword = b.minPassword
  maxPassword : a.maxPassword = b.maxPassword

/-- The same limits, without any faults. -/
def Settings.faultless (settings : Settings) : Settings :=
  { settings with healthStatus := 204, healthDelay := 0, hideNoteId := false, hideEtag := false }

theorem Settings.SameLimits.faultless_eq {a b : Settings} (h : a.SameLimits b) :
    a.faultless = b.faultless := by
  obtain ⟨bodyTimeout, maxBody, maxEmail, minPassword, maxPassword⟩ := h
  unfold faultless
  rw [bodyTimeout, maxBody, maxEmail, minPassword, maxPassword]

/-! ## What is shown of an answer -/

/-- The header fields without those that tell a validator and how long it may be kept. -/
def withoutValidators (headers : Http.Headers) : Http.Headers :=
  headers.filter fun h => h.1.toLower != "etag" && h.1.toLower != "cache-control"

/-- The one text is a JSON object, and the other is this object without its only member of that
name. -/
def LacksMember (name : String) (full shown : Text.Octets) : Prop :=
  ∃ members : List (String × Json), (Json.object members).isExact = true ∧
    (members.map (·.1)).count name = 1 ∧ full = (Json.object members).octets ∧
    shown = (Json.object (members.filter (·.1 != name))).octets

def IsNewNote (r : Request) : Prop :=
  r.method = .post ∧ Route.ofPath? r.path = some .notes

def IsHealthCheck (r : Request) : Prop :=
  r.method = .get ∧ Route.ofPath? r.path = some .health

/-- What a service with these settings shows of an answer that holds everything. -/
structure Settings.Shows (settings : Settings) (r : Request) (full shown : Response) : Prop where
  status : shown.status = full.status
  headers : shown.headers =
    bif settings.hideEtag && full.status == 200 then withoutValidators full.headers
    else full.headers
  number : settings.hideNoteId = true → full.status = 200 → IsNewNote r →
    LacksMember "id" full.body shown.body
  body : ¬(settings.hideNoteId = true ∧ full.status = 200 ∧ IsNewNote r) → shown.body = full.body

section Shows

variable {r : Request} {full shown : Response}

theorem Settings.Shows.refl_of_status (settings : Settings) (r : Request) (h : full.status ≠ 200) :
    settings.Shows r full full where
  status := rfl
  headers := by rw [beq_eq_false_iff_ne.2 h, Bool.and_false, cond_false]
  number _ hstatus _ := absurd hstatus h
  body _ := rfl

theorem lacksMember_unique {name : String} {full shown shown' : Text.Octets}
    (h : LacksMember name full shown) (h' : LacksMember name full shown') : shown = shown' := by
  obtain ⟨members, hexact, -, hfull, rfl⟩ := h
  obtain ⟨members', hexact', -, hfull', rfl⟩ := h'
  have hobject := Json.octets_injective hexact hexact' (hfull.symm.trans hfull')
  rw [Json.object.injEq] at hobject
  rw [hobject]

end Shows

/-! ## Answers -/

section Answers

variable {r : Request}

theorem withoutValidators_plain :
    withoutValidators [("content-type", "application/json")] =
      [("content-type", "application/json")] := by
  decide +kernel

theorem withoutValidators_tagged (tag : String) :
    withoutValidators [("content-type", "application/json"), ("etag", tag),
      ("cache-control", cacheControl)] = [("content-type", "application/json")] := by
  have hlower : "content-type".toLower = "content-type" ∧ "etag".toLower = "etag" ∧
      "cache-control".toLower = "cache-control" := by
    decide +kernel
  simp [withoutValidators, hlower]

theorem taggedFields_eq (hide : Bool) (tag : String) :
    taggedFields hide tag =
      bif hide && 200 == 200 then withoutValidators (taggedFields false tag)
      else taggedFields false tag := by
  cases hide with
  | true => exact (withoutValidators_tagged tag).symm
  | false => rfl

theorem lacksMember_createdJson (n : Note) :
    LacksMember "id" (n.createdJson false).octets (n.createdJson true).octets := by
  have hshown : n.createdJson true = .object
      (([("body", .string n.body), ("id", .int n.id), ("title", .string n.title),
        ("version", .int n.version)] : List (String × Json)).filter (·.1 != "id")) := by
    simp [Note.createdJson]
  exact ⟨_, isExact_createdJson n false, by simp, rfl, congrArg Json.octets hshown⟩

/-- The answer to a new note, and what is shown of it. -/
theorem shows_added (settings : Settings) (hr : IsNewNote r) (n : Note) :
    settings.Shows r
      (responseOf (jsonReply 200 (n.createdJson settings.faultless.hideNoteId)
        (settings.faultless.shownEtag n.etag)))
      (responseOf (jsonReply 200 (n.createdJson settings.hideNoteId)
        (settings.shownEtag n.etag))) := by
  have hfull : settings.faultless.hideNoteId = false := rfl
  rw [hfull, jsonReply_tagged _ _ n.isPlain_etag, jsonReply_tagged _ _ n.isPlain_etag]
  dsimp only [responseOf]
  refine ⟨rfl, taggedFields_eq _ _, fun hid _ _ => ?_, fun hshown => ?_⟩
  · rw [hid]
    dsimp only
    exact lacksMember_createdJson n
  · have hid : settings.hideNoteId = false :=
      Bool.eq_false_iff.2 fun hid => hshown ⟨hid, rfl, hr⟩
    rw [hid]

section Others

variable (hr : ¬IsNewNote r)
include hr

/-- An answer with a validator, and what is shown of it. -/
theorem shows_tagged (settings : Settings) (v : Json) {tag : String} (h : Http.IsPlain tag) :
    settings.Shows r (responseOf (jsonReply 200 v (settings.faultless.shownEtag tag)))
      (responseOf (jsonReply 200 v (settings.shownEtag tag))) := by
  rw [jsonReply_tagged _ v h, jsonReply_tagged _ v h]
  exact ⟨rfl, taggedFields_eq _ _, fun _ _ hnew => absurd hnew hr, fun _ => rfl⟩

/-- An answer without a validator is shown as it is. -/
theorem shows_untagged (settings : Settings) (v : Json) :
    settings.Shows r (responseOf (jsonReply 200 v none)) (responseOf (jsonReply 200 v none)) := by
  refine ⟨rfl, ?_, fun _ _ hnew => absurd hnew hr, fun _ => rfl⟩
  cases settings.hideEtag with
  | true => exact withoutValidators_plain.symm
  | false => rfl

/-- A reader who has the contents already is told so. -/
theorem shows_revalidated (settings : Settings) (headers : Http.Headers) (v : Json) {tag : String}
    (h : Http.IsPlain tag) :
    settings.Shows r
      (responseOf (if Http.matches? headers tag then emptyReply 304
        else jsonReply 200 v (settings.faultless.shownEtag tag)))
      (responseOf (if Http.matches? headers tag then emptyReply 304
        else jsonReply 200 v (settings.shownEtag tag))) := by
  split
  · exact .refl_of_status settings r (by decide)
  · exact shows_tagged hr settings v h

end Others

end Answers

/-! ## Two handlers side by side -/

/-- From every state the handlers get to the same state, with results that are related. -/
def Handler.Agree {α : Type} (R : Except Failure α → Except Failure α → Prop)
    (h h' : Handler α) : Prop :=
  ∀ s, ∃ result result' s', h.Gives s result s' ∧ h'.Gives s result' s' ∧ R result result'

namespace Handler.Agree

variable {α β : Type} {R : Except Failure β → Except Failure β → Prop}

/-- Handlers that begin in the same way. -/
theorem bind (hR : ∀ failure, R (.error failure) (.error failure)) (h : Handler α)
    {f f' : α → Handler β} (hf : ∀ a, Agree R (f a) (f' a)) : Agree R (h >>= f) (h >>= f') := by
  intro s
  rcases hrun : StateT.run (ExceptT.run h) s with ⟨failure | a, s₁⟩
  · exact ⟨_, _, s₁, Gives.bind_error hrun, Gives.bind_error hrun, hR failure⟩
  · obtain ⟨result, result', s₂, hg, hg', hrel⟩ := hf a s₁
    exact ⟨result, result', s₂, Gives.bind hrun hg, Gives.bind hrun hg', hrel⟩

theorem ite {p : Prop} [Decidable p] {h₁ h₂ h₁' h₂' : Handler β} (hyes : Agree R h₁ h₁')
    (hno : Agree R h₂ h₂') : Agree R (if p then h₁ else h₂) (if p then h₁' else h₂') := by
  split
  · exact hyes
  · exact hno

end Handler.Agree

/-! ## Endpoints -/

/-- Of what the one handler gives, the other gives what the settings show. -/
abbrev Handler.ShownBy (settings : Settings) (r : Request) (full shown : Handler Response) : Prop :=
  Handler.Agree (fun result result' => settings.Shows r (responseOf result) (responseOf result'))
    full shown

namespace Handler.ShownBy

variable {settings : Settings} {r : Request} {α : Type} {h h' : Handler Response}

theorem failure (settings : Settings) (r : Request) (failure : Failure) :
    settings.Shows r (responseOf (.error failure)) (responseOf (.error failure)) :=
  .refl_of_status settings r failure.status_response.1

theorem bind (first : Handler α) {f f' : α → Handler Response}
    (hf : ∀ a, ShownBy settings r (f a) (f' a)) :
    ShownBy settings r (first >>= f) (first >>= f') :=
  Handler.Agree.bind (failure settings r) first hf

theorem answer {full shown : Except Failure Response}
    (hshown : settings.Shows r (responseOf full) (responseOf shown)) :
    ShownBy settings r (Service.answer full) (Service.answer shown) :=
  fun s => ⟨full, shown, s, .answer full s, .answer shown s, hshown⟩

theorem throw (problem : Failure) :
    ShownBy settings r (MonadExcept.throw problem) (MonadExcept.throw problem) :=
  fun s => ⟨_, _, s, rfl, rfl, failure settings r problem⟩

/-- A condition under which the request fails before the rest is looked at. -/
theorem guard {p : Prop} [Decidable p] {problem : Failure} {f f' : α → Handler Response}
    (hh : ShownBy settings r h h') :
    ShownBy settings r (if p then MonadExcept.throw problem >>= f else h)
      (if p then MonadExcept.throw problem >>= f' else h') := by
  split
  · exact fun s => ⟨_, _, s, rfl, rfl, failure settings r problem⟩
  · exact hh

end Handler.ShownBy

open Handler (ShownBy)

section Endpoints

variable {settings : Settings} {draw : Draw} {r : Request}

theorem shownBy_logoutEndpoint : ShownBy settings r (logoutEndpoint r) (logoutEndpoint r) := by
  unfold logoutEndpoint
  split
  · exact .bind _ fun _ => .answer (.refl_of_status settings r (by decide))
  · exact .throw _

section Others

variable (hr : ¬IsNewNote r)
include hr

theorem shownBy_registerEndpoint :
    ShownBy settings r (registerEndpoint settings.faultless draw r)
      (registerEndpoint settings draw r) := by
  refine .bind (readCredentials settings r) fun ⟨email, password⟩ => ?_
  refine .guard (.guard (.bind _ fun id => ?_))
  exact .answer (shows_untagged hr settings _)

theorem shownBy_loginEndpoint :
    ShownBy settings r (loginEndpoint settings.faultless draw r) (loginEndpoint settings draw r) :=
  .bind (readCredentials settings r) fun _ => .bind _ fun _ =>
    .answer (shows_untagged hr settings _)

theorem shownBy_refreshEndpoint :
    ShownBy settings r (refreshEndpoint settings.faultless draw r)
      (refreshEndpoint settings draw r) :=
  .bind (readTexts settings ["refresh"] r) fun _ => .bind _ fun _ =>
    .answer (shows_untagged hr settings _)

theorem shownBy_listEndpoint :
    ShownBy settings r (listEndpoint settings.faultless r) (listEndpoint settings r) := by
  refine .bind (authenticate r) fun user => .bind MonadState.get fun s => ?_
  dsimp only
  rw [← apply_ite answer, ← apply_ite answer]
  exact .answer (shows_revalidated hr settings r.headers _ (isPlain_pageEtag ..))

theorem shownBy_showEndpoint (segment : String) :
    ShownBy settings r (showEndpoint settings.faultless segment r)
      (showEndpoint settings segment r) := by
  refine .bind (authenticate r) fun user => .bind (readId segment) fun id => .bind _ fun note => ?_
  dsimp only [noteReply]
  rw [← apply_ite answer, ← apply_ite answer]
  exact .answer (shows_revalidated hr settings r.headers _ note.isPlain_etag)

theorem shownBy_changeEndpoint (segment : String) :
    ShownBy settings r (changeEndpoint settings.faultless segment r)
      (changeEndpoint settings segment r) :=
  .bind (authenticate r) fun _ => .bind (readId segment) fun _ =>
    .bind (readNote settings r) fun _ => .bind _ fun note =>
      .answer (shows_tagged hr settings _ note.isPlain_etag)

theorem shownBy_removeEndpoint (segment : String) :
    ShownBy settings r (removeEndpoint settings.faultless segment r)
      (removeEndpoint settings segment r) :=
  .bind (authenticate r) fun _ => .bind (readId segment) fun _ => .bind _ fun note =>
    .answer (shows_tagged hr settings _ note.isPlain_etag)

end Others

theorem shownBy_addEndpoint (hr : IsNewNote r) :
    ShownBy settings r (addEndpoint settings.faultless r) (addEndpoint settings r) := by
  refine .bind (authenticate r) fun user => .bind (readNote settings r) fun ⟨title, body⟩ => ?_
  refine .guard (.bind _ fun note => ?_)
  exact .answer (shows_added settings hr note)

/-- Health checks apart, two services with the same limits handle a request in the same way. -/
theorem shownBy_handler (hr : ¬IsHealthCheck r) :
    ShownBy settings r (handler settings.faultless draw r) (handler settings draw r) := by
  unfold handler
  split
  · next route path =>
    have hother (h : route ≠ .notes) : ¬IsNewNote r := fun hnew =>
      h (Option.some.inj (path.symm.trans hnew.2))
    cases route with
    | health =>
      have hmethod : r.method ≠ .get := fun method => hr ⟨method, path⟩
      unfold Route.handler
      simp only [if_neg hmethod]
      exact .throw _
    | ready =>
      exact .ite (ShownBy.answer (.refl_of_status settings r (by decide))) (ShownBy.throw _)
    | info =>
      exact .ite (ShownBy.answer (shows_untagged (hother nofun) settings _)) (ShownBy.throw _)
    | register => exact .ite (shownBy_registerEndpoint (hother nofun)) (ShownBy.throw _)
    | login => exact .ite (shownBy_loginEndpoint (hother nofun)) (ShownBy.throw _)
    | refresh => exact .ite (shownBy_refreshEndpoint (hother nofun)) (ShownBy.throw _)
    | logout => exact .ite shownBy_logoutEndpoint (ShownBy.throw _)
    | notes =>
      unfold Route.handler
      dsimp only
      split
      · next method => exact shownBy_listEndpoint (by simp [IsNewNote, method])
      · next method => exact shownBy_addEndpoint ⟨method, path⟩
      · exact .throw _
    | note segment =>
      unfold Route.handler
      dsimp only
      split
      · exact shownBy_showEndpoint (hother nofun) segment
      · exact shownBy_changeEndpoint (hother nofun) segment
      · exact shownBy_removeEndpoint (hother nofun) segment
      · exact .throw _
  · exact .throw _

end Endpoints

/-! ## Requests -/

/-- All that tells the answers of two services to a request apart. -/
structure Settings.Confine (a b : Settings) (r : Request) (x y : Response) : Prop where
  status : y.status = x.status
  headers : a.hideEtag = b.hideEtag ∨ x.status ≠ 200 → y.headers = x.headers
  unvalidated : b.hideEtag = true → x.status = 200 →
    y.headers.all "etag" = [] ∧ y.headers.all "cache-control" = [] ∧
      (a.hideEtag = false → y.headers = withoutValidators x.headers)
  body : a.hideNoteId = b.hideNoteId ∨ x.status ≠ 200 ∨ ¬IsNewNote r → y.body = x.body
  unnumbered : b.hideNoteId = true → x.status = 200 → IsNewNote r →
    ∃ full, LacksMember "id" full y.body ∧ (a.hideNoteId = false → x.body = full)
  delay : heldBack b r = heldBack a r

theorem all_withoutValidators (headers : Http.Headers) :
    (withoutValidators headers).all "etag" = [] ∧
      (withoutValidators headers).all "cache-control" = [] := by
  have hlower : "etag".toLower = "etag" ∧ "cache-control".toLower = "cache-control" := by
    decide +kernel
  simp only [withoutValidators, Http.Headers.all, List.filter_filter, hlower]
  constructor
  · simp +contextual
  · simp +contextual

section Requests

variable {settings a b : Settings} {draw : Draw} {r : Request} {s s' : Store}
  {full shown x y : Response}

theorem Settings.Shows.sent (h : settings.Shows r full shown) :
    settings.Shows r (sent r.method full) (sent r.method shown) := by
  unfold Service.sent
  split
  · next method =>
    refine ⟨h.status, h.headers, fun _ _ hnew => ?_, fun _ => rfl⟩
    cases method.symm.trans hnew.1
  · exact h

/-- What a service shows is what the same service without faults shows, but for its faults. -/
theorem shows_serve (settings : Settings) (draw : Draw) (hr : ¬IsHealthCheck r) (s : Store) :
    settings.Shows r (serve settings.faultless draw r s).1 (serve settings draw r s).1 ∧
      (serve settings draw r s).2 = (serve settings.faultless draw r s).2 := by
  have hagree : ShownBy settings r (handler settings.faultless draw r) (handler settings draw r) :=
    shownBy_handler hr
  obtain ⟨result, result', s', hfull, hshown, hrel⟩ := hagree s
  rw [serve_eq_of_gives hfull, serve_eq_of_gives hshown]
  exact ⟨hrel.sent, rfl⟩

theorem heldBack_of_not_isHealthCheck (settings : Settings) (hr : ¬IsHealthCheck r) :
    heldBack settings r = 0 :=
  if_neg hr

/-- Two services that show the same answer, each with its own faults. -/
theorem Settings.Shows.confine (hr : ¬IsHealthCheck r) (hx : a.Shows r full x)
    (hy : b.Shows r full y) : a.Confine b r x y where
  status := hy.status.trans hx.status.symm
  headers h := by
    rw [hy.headers, hx.headers]
    rcases h with h | h
    · rw [h]
    · have hstatus : (full.status == 200) = false := beq_eq_false_iff_ne.2 (hx.status ▸ h)
      rw [hstatus, Bool.and_false, Bool.and_false]
  unvalidated hb h := by
    have hstatus : (full.status == 200) = true := beq_iff_eq.2 (hx.status.symm.trans h)
    have hheaders : y.headers = withoutValidators full.headers := by
      rw [hy.headers, hb, hstatus, Bool.and_true, cond_true]
    obtain ⟨htag, hcontrol⟩ := all_withoutValidators full.headers
    rw [hheaders]
    refine ⟨htag, hcontrol, fun ha => ?_⟩
    rw [hx.headers, ha, Bool.false_and, cond_false]
  body h := by
    by_cases hplain : full.status = 200 ∧ IsNewNote r
    · obtain ⟨hstatus, hnew⟩ := hplain
      have hsame : a.hideNoteId = b.hideNoteId := by
        rcases h with h | h | h
        · exact h
        · exact absurd (hx.status.trans hstatus) h
        · exact absurd hnew h
      by_cases ha : a.hideNoteId = true
      · exact lacksMember_unique (hy.number (hsame ▸ ha) hstatus hnew) (hx.number ha hstatus hnew)
      · rw [hx.body fun hidden => ha hidden.1, hy.body fun hidden => ha (hsame ▸ hidden.1)]
    · rw [hx.body fun hidden => hplain hidden.2, hy.body fun hidden => hplain hidden.2]
  unnumbered hb h hnew := by
    refine ⟨full.body, hy.number hb (hx.status.symm.trans h) hnew, fun ha => hx.body ?_⟩
    rintro ⟨hidden, -⟩
    exact Bool.false_ne_true (ha.symm.trans hidden)
  delay := by
    rw [heldBack_of_not_isHealthCheck a hr, heldBack_of_not_isHealthCheck b hr]

/-- One request: the states after it are equal, and health checks apart, the answers are equal but
for the faults. -/
theorem serve_confined (limits : a.SameLimits b) (draw : Draw) (r : Request) (s : Store) :
    (serve a draw r s).2 = (serve b draw r s).2 ∧
      (¬IsHealthCheck r → a.Confine b r (serve a draw r s).1 (serve b draw r s).1) := by
  by_cases hr : IsHealthCheck r
  · -- A health check only looks, so that its answer is all that depends on the settings.
    have hlook (settings : Settings) : (serve settings draw r s).2 = s :=
      serve_of_looking settings draw s (by simp [hr.1]) (by simp [hr.1]) (by simp [hr.1])
    exact ⟨(hlook a).trans (hlook b).symm, fun h => absurd hr h⟩
  · obtain ⟨hx, hstate⟩ := shows_serve a draw hr s
    obtain ⟨hy, hstate'⟩ := shows_serve b draw hr s
    rw [limits.faultless_eq] at hx hstate
    exact ⟨hstate.trans hstate'.symm, fun _ => hx.confine hr hy⟩

end Requests

/-! ## Runs -/

theorem Settings.SameLimits.symm {a b : Settings} (h : a.SameLimits b) : b.SameLimits a :=
  ⟨h.bodyTimeout.symm, h.maxBody.symm, h.maxEmail.symm, h.minPassword.symm, h.maxPassword.symm⟩

/-- Two answers to one request, which differ in faults only; health checks are not looked at. -/
def Exchange.DiffersInFaults (a b : Settings) (x y : Exchange) : Prop :=
  x.request = y.request ∧
    (¬IsHealthCheck x.request →
      a.Confine b x.request x.response y.response ∧ b.Confine a x.request y.response x.response)

theorem Exchange.DiffersInFaults.confine {a b : Settings} {r : Request} {x y : Response}
    (h : Exchange.DiffersInFaults a b ⟨r, x⟩ ⟨r, y⟩) (hr : ¬IsHealthCheck r) : a.Confine b r x y :=
  (h.2 hr).1

/-- Two services with the same limits, asked the same with the same random values, have the same
state after every request, and health checks apart, they give the same answers but for the faults
that their settings announce. -/
theorem faults_are_confined {a b : Settings} (limits : a.SameLimits b)
    (asked : List (Draw × Request)) (s : Store) :
    (∀ n, (serveAll a (asked.take n) s).2 = (serveAll b (asked.take n) s).2) ∧
      (exchanges a asked s).map (·.request) = asked.map (·.2) ∧
      List.Forall₂ (Exchange.DiffersInFaults a b) (exchanges a asked s) (exchanges b asked s) := by
  induction asked generalizing s with
  | nil => exact ⟨fun n => by rw [List.take_nil]; rfl, rfl, .nil⟩
  | cons first rest ih =>
    obtain ⟨draw, r⟩ := first
    obtain ⟨hstate, hanswer⟩ := serve_confined limits draw r s
    have hback := (serve_confined limits.symm draw r s).2
    obtain ⟨hstates, hrequests, hanswers⟩ := ih (serve a draw r s).2
    refine ⟨fun n => ?_, ?_, ?_⟩
    · cases n with
      | zero => rfl
      | succ n =>
        rw [List.take_succ_cons, state_serveAll_cons, state_serveAll_cons, ← hstate]
        exact hstates n
    · rw [exchanges_cons, List.map_cons, List.map_cons, hrequests]
    · rw [exchanges_cons, exchanges_cons, ← hstate]
      exact .cons ⟨rfl, fun hr => ⟨hanswer hr, hback hr⟩⟩ hanswers

/-- Settings with all faults. -/
def faulty : Settings where
  healthStatus := 503
  healthDelay := 100
  hideNoteId := true
  hideEtag := true

/-- With all faults a new note is shown without its number, and asking for it again with the
validator that was not sent still tells that nothing has changed. -/
theorem faults_of_writing_and_asking_again :
    LacksMember "id" (firstNote.createdJson false).octets
        (serve faulty default writing (serveAll {} enrolment {}).2).1.body ∧
      (serve faulty default askingAgain written).1.status = 304 := by
  have limits : Settings.SameLimits {} faulty := ⟨rfl, rfl, rfl, rfl, rfl⟩
  obtain ⟨hstates, -, hanswers⟩ := faults_are_confined limits
    [(default, writing), (default, askingAgain)] (serveAll {} enrolment {}).2
  have hwritten : (serve faulty default writing (serveAll {} enrolment {}).2).2 = written := by
    have hone := hstates 1
    rw [List.take_succ_cons, List.take_zero, state_serveAll_cons, state_serveAll_cons,
      state_serveAll_nil, state_serveAll_nil, serve_writing] at hone
    exact hone.symm
  have hstatus : (serve {} default askingAgain written).1.status = 304 := by
    have hroute : Route.ofPath? askingAgain.path = some (.note "1") := by decide +kernel
    have hnumber : Text.signed? "1".toList = some 1 := by decide +kernel
    have hcaller : caller? written askingAgain = some 1 := by decide +kernel
    rw [serve_look default rfl hroute hnumber hcaller]
    refine status_lookReply.2 ⟨firstNote, by decide +kernel, ?_⟩
    rw [Http.matches?, candidates_askingAgain]
    decide +kernel
  have hnew : IsNewNote writing := ⟨rfl, by decide +kernel⟩
  have hlook : ¬IsHealthCheck askingAgain := fun h => absurd h.2 (by decide +kernel)
  rw [exchanges_cons, exchanges_cons, exchanges_cons, exchanges_cons, hwritten, serve_writing,
    List.forall₂_cons, List.forall₂_cons] at hanswers
  obtain ⟨hwriting, hasking, -⟩ := hanswers
  obtain ⟨full, hlacks, hfull⟩ := (hwriting.confine (by simp [IsHealthCheck, hnew.1])).unnumbered
    rfl rfl hnew
  obtain rfl : (firstNote.createdJson false).octets = full := hfull rfl
  exact ⟨hlacks, (hasking.confine hlook).status.trans hstatus⟩

end NotesBench.Service
