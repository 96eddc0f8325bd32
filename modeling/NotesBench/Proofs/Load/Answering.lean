import NotesBench.Proofs.Load.Replies
import NotesBench.Proofs.Load.Sending
import NotesBench.Proofs.Service.Handling
import NotesBench.Proofs.Service.Validator

/-!
# How the service answers a journey

`Target.notes` is the service at the address of a client. For each call of a journey there is one
lemma: what the client keeps of the answer, and the state of the service after it.
-/

namespace NotesBench.Load

open Http (Url Request Response)
open Service (Settings Store Note Route Handler TokenPair Failure responseOf jsonReply emptyReply)
open Service.Handler (Gives)

/-- The service at an address. -/
abbrev Target.notes (u : Url) (settings : Settings) (supply : Supply) : Target Store :=
  Target.across (.to u.authority) (Target.service settings supply)

/-- The target answers, and this is what a client keeps of the answer. -/
def Target.Answers {σ : Type} (t : Target σ) (out : Outgoing) (s : σ) (reply : Reply) (s' : σ) :
    Prop :=
  ∃ response, t.respond out s = (.ok response, s') ∧ Reply.ofResponse response = reply

/-! ## Answers on their way -/

/-- The header fields of an answer that carries a value. -/
def fields (etag : Option String) : Http.Headers :=
  ("content-type", "application/json") ::
    match etag with
    | some tag => [("etag", tag), ("cache-control", Service.cacheControl)]
    | none => []

section Fields

variable {etag : Option String} (h : ∀ tag ∈ etag, Http.IsPlain tag)
include h

theorem arriving_fields : (fields etag).arriving = fields etag := by
  have hc : Http.arriving "application/json" = "application/json" := by decide
  have hk : Http.arriving Service.cacheControl = Service.cacheControl := by decide
  cases etag with
  | none => simp [fields, Http.Headers.arriving, hc]
  | some tag => simp [fields, Http.Headers.arriving, hc, hk, (h tag rfl).arriving_eq]

theorem etag_fields :
    (((fields etag).first? "etag").bind Http.readable?).filter (· != "") = etag := by
  unfold fields
  rw [Http.Headers.first?, Http.Headers.all_cons, if_neg (by decide)]
  cases etag with
  | none => rfl
  | some tag =>
    have ht := h tag rfl
    rw [Http.Headers.all_cons, if_pos rfl, List.head?_cons, Option.bind_some, ht.readable?_eq]
    simp [ht.ne_empty]

/-- An answer that carries a value arrives with its validator. -/
theorem ofResponse_jsonReply (v : Json) :
    Reply.ofResponse (responseOf (jsonReply 200 v etag)).arriving = ⟨200, etag, v.octets⟩ := by
  have hv : etag.all Http.isValue = true := by
    cases etag with
    | none => rfl
    | some tag => exact (h tag rfl).isValue_eq
  have hr : jsonReply 200 v etag = .ok ⟨200, fields etag, v.octets⟩ := by
    simp only [jsonReply, hv]
    rfl
  rw [hr]
  simp only [responseOf, Reply.ofResponse, Response.arriving, arriving_fields h, etag_fields h]
  rfl

end Fields

/-- An answer that carries nothing arrives with its status. -/
theorem ofResponse_emptyReply {status : Nat} (h : Service.isStatus status = true) :
    Reply.ofResponse (responseOf (emptyReply status)).arriving = ⟨status, none, []⟩ := by
  have hr : emptyReply status = .ok ⟨status, [], []⟩ := if_pos h
  rw [hr]
  have hb : (if Response.isBodiless ⟨status, [], []⟩ then [] else []) = ([] : Text.Octets) := by
    split <;> rfl
  exact congrArg (Reply.mk status none) hb

/-! ## Calls -/

/-- An account that the service takes in as it is sent. -/
structure Credentials.Suits (account : Credentials) (settings : Settings) : Prop where
  trimmed : Text.trim account.email = account.email
  email : settings.acceptsEmail account.email = true
  password : settings.acceptsPassword account.password = true
  fits : account.json.octets.length ≤ settings.maxBody

theorem ofPath?_healthz : Route.ofPath? "/healthz" = some .health := by decide

theorem ofPath?_register : Route.ofPath? "/auth/register" = some .register := by decide

theorem ofPath?_login : Route.ofPath? "/auth/login" = some .login := by decide

theorem ofPath?_notes : Route.ofPath? "/notes" = some .notes := by decide

theorem ofPath?_notePath (n : Int) :
    Route.ofPath? (notePath (.number n)) = some (.note (Text.intText n)) := by
  have hpath : notePath (.number n) = "/notes/" ++ Text.intText n := by
    rw [notePath, NoteId.shown, encodeSegment_intText, String.ofList_toList]
  rw [hpath]
  refine Service.ofPath?_note (fun hempty => ?_) fun hslash => ?_
  · exact Text.toList_intText_ne_nil n (by rw [hempty]; rfl)
  · exact absurd (Text.isDigit_of_mem_intText hslash) (by decide)

theorem first?_authorization (token : String) (rest : Http.Headers) :
    Http.Headers.first? (Call.authorization token :: rest) "authorization" =
      some ("Bearer " ++ token) := by
  rw [Call.authorization, Http.Headers.first?, Http.Headers.all_cons, if_pos rfl]
  rfl

/-- The validators of a call are those that stand behind its token. -/
theorem all_ifNoneMatch (token : String) (tags : List String) :
    Http.Headers.all (Call.authorization token :: tags.map fun tag => ("if-none-match", tag))
      "if-none-match" = tags := by
  have hne : ("authorization" : String).toList.map Char.toLower ≠
      ("if-none-match" : String).toList.map Char.toLower := by
    decide
  rw [Call.authorization, Http.Headers.all_cons, if_neg hne]
  induction tags with
  | nil => rfl
  | cons tag tags ih => rw [List.map_cons, Http.Headers.all_cons, if_pos rfl, ih]

theorem isPlain_shownEtag (settings : Settings) (note : Note) :
    ∀ tag ∈ settings.shownEtag note.etag, Http.IsPlain tag := by
  intro tag h
  rw [Settings.shownEtag] at h
  split at h
  · cases h
  · cases h
    exact note.isPlain_etag

theorem status_ofResponse (response : Response) :
    (Reply.ofResponse response.arriving).status = response.status := rfl

section Calls

variable (settings : Settings) (supply : Supply) {u : Url} (hu : u.secure = false) {s s' : Store}
include hu

/-- The service answers with what the route of the call gives. -/
theorem answers_of_gives {call : Call} (h : call.IsPlain) {route : Route}
    {result : Except Failure Response}
    (hr : Route.ofPath? call.path = some route)
    (hg : (route.handler settings (supply.next s) call.request).Gives s result s') :
    (Target.notes u settings supply).Answers (Client.outgoing u call) s
      (Reply.ofResponse (responseOf result).arriving) s' := by
  have hm : call.request.method ≠ .head := by cases call <;> exact Http.Method.noConfusion
  exact ⟨_, respond_across hu h (Service.serve_of_gives (by rwa [h.path_request]) hm hg), rfl⟩

theorem answers_health (hs : Service.isStatus settings.healthStatus = true) (s : Store) :
    (Target.notes u settings supply).Answers (Client.outgoing u .health) s
      ⟨settings.healthStatus, none, []⟩ s := by
  have hplain : Call.health.IsPlain := trivial
  rw [← ofResponse_emptyReply hs]
  exact answers_of_gives settings supply hu hplain ofPath?_healthz (.answer _ s)

/-- A service that has the account says so; one that has not takes it in. -/
theorem answers_register {account : Credentials} (h : account.Suits settings) (s : Store) :
    ∃ reply s', (Target.notes u settings supply).Answers (Client.outgoing u (.register account)) s
        reply s' ∧
      (s.accounts.contains account.email = true ∧ reply.status = 409 ∧ s' = s ∨
        s.accounts.contains account.email = false ∧ reply.status = 200 ∧
          s' = s.withAccount (supply.next s).salt account.email account.password) := by
  have hon := Service.Store.register_on (supply.next s).salt (Text.trim account.email)
    account.password s
  have he : settings.acceptsEmail (Text.trim account.email) = true := by rw [h.trimmed, h.email]
  have hb : (Call.register account).request.body = .complete
      (Service.pairJson "email" account.email "password" account.password).octets :=
    Call.body_request rfl
  have hread := Service.gives_readCredentials hb h.fits s
  have hplain : (Call.register account).IsPlain := trivial
  by_cases hc : s.accounts.contains account.email = true
  · rw [if_pos (by rwa [h.trimmed])] at hon
    have hg := Service.gives_registerEndpoint_refused hread he h.password hon
    exact ⟨_, _, answers_of_gives settings supply hu hplain ofPath?_register hg,
      .inl ⟨hc, status_ofResponse _, rfl⟩⟩
  · rw [if_neg (by rwa [h.trimmed])] at hon
    have hg := Service.gives_registerEndpoint hread he h.password hon
    refine ⟨_, _, answers_of_gives settings supply hu hplain ofPath?_register hg,
      .inr ⟨by simpa using hc, status_ofResponse _, by rw [h.trimmed]⟩⟩

/-- A login with the password of the account gives the next tokens. -/
theorem answers_login {account : Credentials} (h : account.Suits settings)
    {entry : Service.Account} (ha : s.accounts.find? account.email = some entry)
    (hd : Service.digest entry.salt account.password = entry.digest) :
    (Target.notes u settings supply).Answers (Client.outgoing u (.login account)) s
      ⟨200, none, (supply.pair s.refresh.size).json.octets⟩
      (s.withTokens (supply.pair s.refresh.size) entry.id) := by
  rw [← h.trimmed] at ha
  have hpair : (supply.next s).pair = supply.pair s.refresh.size := rfl
  have hon := Service.Store.login_on (supply.next s).pair ha hd
  have hb : (Call.login account).request.body = .complete
      (Service.pairJson "email" account.email "password" account.password).octets :=
    Call.body_request rfl
  have hg := Service.gives_loginEndpoint (Service.gives_readCredentials hb h.fits s) hon
  have hplain : (Call.login account).IsPlain := trivial
  have ht := answers_of_gives settings supply hu hplain ofPath?_login hg
  rwa [ofResponse_jsonReply (by simp), hpair] at ht

section Notes

variable {token : String} {user : Int} (hp : Http.IsPlain token)
  (ht : s.holder? token = some user)
include hp ht

/-- A new note gets the next number. -/
theorem answers_createNote {note : NewNote} (hn : Text.trim note.title ≠ "")
    (hfit : note.json.octets.length ≤ settings.maxBody) :
    (Target.notes u settings supply).Answers (Client.outgoing u (.createNote token note)) s
      ⟨200, settings.shownEtag (s.nextNote user (Text.trim note.title) note.body).etag,
        ((s.nextNote user (Text.trim note.title) note.body).createdJson
          settings.hideNoteId).octets⟩
      (s.withNote user (Text.trim note.title) note.body) := by
  have hbearer : Http.bearer? (Call.createNote token note).request.headers = some token :=
    Http.bearer?_authorization hp (first?_authorization token _)
  have hb : (Call.createNote token note).request.body = .complete
      (Service.pairJson "title" note.title "body" note.body).octets :=
    Call.body_request rfl
  have hg := Service.gives_addEndpoint (Service.caller?_eq_some hbearer ht)
    (Service.gives_readNote hb hfit s) hn
    (Service.Store.addNote_on user (Text.trim note.title) note.body s)
  have hplain : (Call.createNote token note).IsPlain := hp
  have hans := answers_of_gives settings supply hu hplain ofPath?_notes hg
  rwa [ofResponse_jsonReply (isPlain_shownEtag settings _)] at hans

variable {n : Nat} (hn : n < Text.signedEnd) {note : Note} (ho : s.owned? user n = some note)
include hn ho

/-- What the service gives for a note that is asked for. -/
theorem answers_readNote (etag : Option String) (htag : ∀ tag ∈ etag, Http.IsPlain tag) :
    (Target.notes u settings supply).Answers
      (Client.outgoing u (.readNote token (.number n) etag)) s
      (Reply.ofResponse (responseOf
        (if Http.matches? (Call.readNote token (.number n) etag).headers note.etag then
          emptyReply 304
        else jsonReply 200 note.json (settings.shownEtag note.etag))).arriving) s := by
  have hbearer : Http.bearer? (Call.readNote token (.number n) etag).request.headers =
      some token :=
    Http.bearer?_authorization hp (first?_authorization token _)
  have hg := Service.gives_showEndpoint (Service.caller?_eq_some hbearer ht)
    (Text.signed?_natText hn) settings (Service.Store.findNote_on ho)
  have hplain : (Call.readNote token (.number n) etag).IsPlain := ⟨hp, ⟨n, hn, rfl⟩, htag⟩
  exact answers_of_gives settings supply hu hplain (ofPath?_notePath n) hg

/-- The first time a note is shown with its validator. -/
theorem answers_readNote_first :
    (Target.notes u settings supply).Answers
      (Client.outgoing u (.readNote token (.number n) none)) s
      ⟨200, settings.shownEtag note.etag, note.json.octets⟩ s := by
  have hans := answers_readNote settings supply hu hp ht hn ho none (by simp)
  have hm : Http.matches? (Call.readNote token (.number n) none).headers note.etag = false :=
    Http.matches?_of_absent (all_ifNoneMatch token []) _
  rwa [hm, if_neg Bool.false_ne_true, ofResponse_jsonReply (isPlain_shownEtag settings _)] at hans

/-- A note that has not changed is not shown again. -/
theorem answers_readNote_again :
    (Target.notes u settings supply).Answers
      (Client.outgoing u (.readNote token (.number n) (some note.etag))) s ⟨304, none, []⟩ s := by
  have hans := answers_readNote settings supply hu hp ht hn ho (some note.etag)
    (by simpa using note.isPlain_etag)
  have hm : Http.matches? (Call.readNote token (.number n) (some note.etag)).headers note.etag =
      true :=
    Http.matches?_validator note.isPlain_etag note.comma_not_mem_etag
      (all_ifNoneMatch token [note.etag])
  rwa [hm, if_pos rfl, ofResponse_emptyReply (by decide)] at hans

end Notes

end Calls

end NotesBench.Load
