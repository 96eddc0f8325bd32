import Mathlib.Data.List.Induction
import NotesBench.Proofs.Http.Message
import NotesBench.Proofs.Load.Visits

/-!
# What the steps hand on

A login gives a token, a new note its name and a look at the note its validator. The later steps of
the same iteration need them: each of them names exactly what was given, and a step that lacks
something sends nothing (`requests_carry_what_was_given`).
-/

namespace NotesBench.Load

open Dialogue
open Http (Url Response)

/-! ## What a request carries -/

/-- The tokens in the fields of a request. -/
def bearers (headers : Http.Headers) : List String :=
  (headers.all "authorization").filterMap fun value =>
    ("Bearer ".toList.isPrefixOf? value.toList).map String.ofList

namespace Call

/-- The tokens that a call names. -/
def tokens : Call → List String
  | .createNote token _ | .readNote token .. => [token]
  | .health | .ready | .register _ | .login _ => []

/-- The validators that a call names. -/
def tags : Call → List String
  | .readNote _ _ etag => etag.toList
  | .health | .ready | .register _ | .login _ | .createNote .. => []

end Call

/-- The request goes to the location that is read from the address with the path behind it. -/
structure Outgoing.GoesTo (out : Outgoing) (c : Client) (path : String) : Prop where
  url : ∃ given, Url.read (c.baseUrl ++ path) = .ok given ∧ out.url = given.withoutCredentials
  target : out.request.target = out.url.target

/-- The request is that of the call, and names the tokens and validators of it and no others. -/
structure Outgoing.Carries (out : Outgoing) (c : Client) (call : Call) : Prop where
  method : out.request.method = call.method
  goes : out.GoesTo c call.path
  tokens : bearers out.request.headers = call.tokens
  tags : out.request.headers.all "if-none-match" = call.tags

/-! ## Fields -/

section Fields

variable {headers : Http.Headers}

theorem bearers_of_absent (h : headers.all "authorization" = []) : bearers headers = [] := by
  rw [bearers, h, List.filterMap_nil]

theorem bearers_cons (value : String) (headers : Http.Headers) :
    bearers (("authorization", value) :: headers) =
      (("Bearer ".toList.isPrefixOf? value.toList).map String.ofList).toList ++
        bearers headers := by
  rw [bearers, Http.Headers.all_cons_self, List.filterMap_cons]
  cases "Bearer ".toList.isPrefixOf? value.toList <;> rfl

theorem bearers_authorization (token : String) (headers : Http.Headers) :
    bearers (Call.authorization token :: headers) = token :: bearers headers := by
  have hcut : "Bearer ".toList.isPrefixOf? ("Bearer " ++ token).toList = some token.toList := by
    rw [String.toList_append]
    rfl
  rw [Call.authorization, bearers_cons, hcut, Option.map_some, String.ofList_toList]
  rfl

/-- The user in an address is no token, and names no validator. -/
theorem fields_user (user : Option (String × String)) (headers : Http.Headers) :
    let fields : Http.Headers := user.toList.map (fun x => Client.userField x.1 x.2) ++ headers
    bearers fields = bearers headers ∧
      fields.all "if-none-match" = headers.all "if-none-match" := by
  have hcut (rest : String) : "Bearer ".toList.isPrefixOf? ("Basic " ++ rest).toList = none := by
    rw [String.toList_append]
    rfl
  cases user with
  | none => exact ⟨rfl, rfl⟩
  | some x =>
    refine ⟨(bearers_cons _ headers).trans ?_, Http.Headers.all_cons_of_ne (by decide) _ headers⟩
    rw [hcut]
    rfl

end Fields

namespace Call

theorem bearers_contentType : bearers [headers.contentType] = [] :=
  bearers_of_absent (Http.Headers.all_cons_of_ne (by decide) _ [])

theorem bearers_headers (call : Call) : bearers call.headers = call.tokens := by
  cases call with
  | health | ready => rfl
  | register account | login account => exact bearers_contentType
  | createNote token note => rw [headers, bearers_authorization, bearers_contentType, tokens]
  | readNote token id etag =>
    have hrest : bearers (etag.map fun tag => ("if-none-match", tag)).toList = [] := by
      cases etag with
      | none => rfl
      | some tag => exact bearers_of_absent (Http.Headers.all_cons_of_ne (by decide) _ [])
    rw [headers, bearers_authorization, hrest, tokens]

theorem all_headers (call : Call) : call.headers.all "if-none-match" = call.tags := by
  have htype : Http.Headers.all [headers.contentType] "if-none-match" = [] :=
    Http.Headers.all_cons_of_ne (by decide) _ []
  have hauthorization (token : String) (rest : Http.Headers) :
      Http.Headers.all (authorization token :: rest) "if-none-match" = rest.all "if-none-match" :=
    Http.Headers.all_cons_of_ne (by decide) _ rest
  cases call with
  | health | ready => rfl
  | register account | login account => exact htype
  | createNote token note => rw [headers, hauthorization, htype, tags]
  | readNote token id etag =>
    rw [headers, hauthorization, tags]
    cases etag with
    | none => rfl
    | some tag => exact Http.Headers.all_cons_self _ tag []

end Call

/-- A request that can be written carries what its call names. -/
theorem Client.carries_of_build {c : Client} {call : Call} {out : Outgoing}
    (h : c.build call = .ok out) : out.Carries c call := by
  unfold build at h
  cases hread : Url.read (c.baseUrl ++ call.path) with
  | error problem =>
    rw [hread] at h
    cases h
  | ok given =>
    rw [hread] at h
    simp only [Except.mapError, bind, Except.bind] at h
    split at h
    · cases h
    · split at h
      · cases h
      · cases h
        obtain ⟨hbearers, htags⟩ := fields_user given.credentials? call.headers
        exact ⟨rfl, ⟨⟨given, hread, rfl⟩, rfl⟩, hbearers.trans call.bearers_headers,
          htags.trans call.all_headers⟩

/-! ## What is given -/

/-- The response came back at the step. -/
def Answered (visits : List Visit) (step : Step) (response : Response) : Prop :=
  ∃ v ∈ visits, v.step = step ∧ v.response? = some response

/-- The login gave a token: its response has one, and it is not empty. -/
def GaveToken (visits : List Visit) (token : String) : Prop :=
  ∃ response, Answered visits .login response ∧
    (LoginReply.ofBody response.body).access = some token ∧ token ≠ ""

/-- The new note was given a name: a number, or a text that is not empty. -/
def GaveNote (visits : List Visit) (id : NoteId) : Prop :=
  ∃ response, Answered visits .createNote response ∧
    (NoteReply.ofBody response.body).id = some id ∧ id ≠ .text ""

/-- The look at the note gave a validator, which is printable and not empty. -/
def GaveTag (visits : List Visit) (tag : String) : Prop :=
  ∃ response, Answered visits .fetchNote response ∧
    response.headers.first? "etag" = some tag ∧ tag ≠ "" ∧
    ∀ c ∈ tag.toList, (' ' ≤ c ∧ c ≤ '~') ∨ c = '\t'

/-- What a step may need of the steps before it. -/
inductive Input where
  | token
  | noteId
  | etag
  deriving Repr, DecidableEq

namespace Input

def name : Input → String
  | .token => "token"
  | .noteId => "note id"
  | .etag => "etag"

/-- The step that gives it. -/
def source : Input → Step
  | .token => .login
  | .noteId => .createNote
  | .etag => .fetchNote

def IsGiven (visits : List Visit) : Input → Prop
  | .token => ∃ token, GaveToken visits token
  | .noteId => ∃ id, GaveNote visits id
  | .etag => ∃ tag, GaveTag visits tag

end Input

/-- What a step needs, in the order in which it looks for it. -/
def Step.inputs : Step → List Input
  | .health | .register | .login | .pace => []
  | .createNote => [.token]
  | .fetchNote => [.token, .noteId]
  | .fetchNoteConditional => [.token, .noteId, .etag]

/-- The first of the inputs of a step that was not given. -/
def Step.Lacks (step : Step) (visits : List Visit) (x : Input) : Prop :=
  ∃ before after, step.inputs = before ++ x :: after ∧ (∀ y ∈ before, y.IsGiven visits) ∧
    ¬ x.IsGiven visits

/-- What a step calls for, with what it was given. -/
inductive Journey.Asks (j : Journey) (index : Nat) (visits : List Visit) : Step → Call → Prop where
  | health : Asks j index visits .health .health
  | register : Asks j index visits .register (.register (j.start index).account)
  | login : Asks j index visits .login (.login (j.start index).account)
  | createNote {token : String} : GaveToken visits token →
    Asks j index visits .createNote (.createNote token j.note)
  | fetchNote {token : String} {id : NoteId} : GaveToken visits token → GaveNote visits id →
    Asks j index visits .fetchNote (.readNote token id none)
  | fetchNoteConditional {token : String} {id : NoteId} {tag : String} : GaveToken visits token →
    GaveNote visits id → GaveTag visits tag →
    Asks j index visits .fetchNoteConditional (.readNote token id (some tag))

/-! ## What is known is what was given -/

section Known

variable {visits : List Visit} {p : Progress} {v : Visit}

theorem answered_snoc {step : Step} {response : Response} :
    Answered (visits ++ [v]) step response ↔
      Answered visits step response ∨ v.step = step ∧ v.response? = some response := by
  simp [Answered, or_and_right, exists_or]

/-- What is learned at one step only is known if the response at that step had it. -/
theorem foldl_taught_eq_some_iff {α : Type} {field : Progress → Option α} (step : Step)
    (value : Response → Option α)
    (hlearn : ∀ p taken response, field (p.learn taken (.ok (Reply.ofResponse response))) =
      if taken = step then value response else field p)
    (hsteps : (visits.map (·.step)).Nodup) (hp : field p = none) (a : α) :
    field (visits.foldl .taught p) = some a ↔
      ∃ response, Answered visits step response ∧ value response = some a := by
  induction visits using List.reverseRecOn with
  | nil => simp [hp, Answered]
  | append_singleton visits v ih =>
    rw [List.map_append, List.nodup_append] at hsteps
    obtain ⟨hbefore, -, hdisjoint⟩ := hsteps
    rw [List.foldl_append, List.foldl_cons, List.foldl_nil]
    simp only [answered_snoc, or_and_right, exists_or, ← ih hbefore]
    cases hr : v.response? with
    | none => simp [Progress.taught_of_none hr]
    | some response =>
      rw [Progress.taught_of_response hr, hlearn]
      by_cases hstep : v.step = step
      · -- The step was not taken before.
        have hnone : field (visits.foldl .taught p) ≠ some a := by
          intro ha
          obtain ⟨other, ⟨w, hw, hwstep, -⟩, -⟩ := (ih hbefore).1 ha
          exact hdisjoint _ (List.mem_map_of_mem hw) _ (by simp) (hwstep.trans hstep.symm)
        simp [hstep, hnone]
      · simp [hstep]

variable (hsteps : (visits.map (·.step)).Nodup)
include hsteps

theorem token_iff_gaveToken (hp : p.token = none) (token : String) :
    (visits.foldl .taught p).token = some token ↔ GaveToken visits token := by
  rw [foldl_taught_eq_some_iff .login (fun response => (LoginReply.ofBody response.body).token)
    (fun p step response => by cases step <;> rfl) hsteps hp]
  simp [GaveToken, LoginReply.token, Option.filter_eq_some_iff]

theorem noteId_iff_gaveNote (hp : p.noteId = none) (id : NoteId) :
    (visits.foldl .taught p).noteId = some id ↔ GaveNote visits id := by
  rw [foldl_taught_eq_some_iff .createNote
    (fun response => (NoteReply.ofBody response.body).noteId)
    (fun p step response => by cases step <;> rfl) hsteps hp]
  simp [GaveNote, NoteReply.noteId, Option.filter_eq_some_iff]

theorem etag_iff_gaveTag (hp : p.etag = none) (tag : String) :
    (visits.foldl .taught p).etag = some tag ↔ GaveTag visits tag := by
  have hread (value : String) : Http.readable? value = some tag ↔
      value = tag ∧ ∀ c ∈ tag.toList, (' ' ≤ c ∧ c ≤ '~') ∨ c = '\t' := by
    simp only [Http.readable?, Option.ite_none_right_eq_some, Option.some.injEq, List.all_eq_true,
      Http.isPrintable, Bool.or_eq_true, Bool.and_eq_true, decide_eq_true_eq, beq_iff_eq]
    constructor
    · rintro ⟨hall, rfl⟩
      exact ⟨rfl, hall⟩
    · rintro ⟨rfl, hall⟩
      exact ⟨hall, rfl⟩
  rw [foldl_taught_eq_some_iff .fetchNote (fun response => (Reply.ofResponse response).etag)
    (fun p step response => by cases step <;> rfl) hsteps hp]
  simp only [GaveTag, Reply.ofResponse, Option.filter_eq_some_iff, Option.bind_eq_some_iff, hread,
    bne_iff_ne]
  refine exists_congr fun response => and_congr_right fun _ => ⟨?_, ?_⟩
  · rintro ⟨⟨value, hvalue, rfl, hall⟩, hne⟩
    exact ⟨hvalue, hne, hall⟩
  · rintro ⟨hvalue, hne, hall⟩
    exact ⟨⟨tag, hvalue, rfl, hall⟩, hne⟩

end Known

theorem account_foldl_taught (visits : List Visit) (p : Progress) :
    (visits.foldl .taught p).account = p.account := by
  induction visits generalizing p with
  | nil => rfl
  | cons v visits ih =>
    rw [List.foldl_cons, ih]
    unfold Progress.taught
    split
    · cases v.step <;> rfl
    · rfl

/-! ## What is given comes before -/

/-- No step is taken before one that it needs something of. -/
theorem Step.source_ne_of_pairwise :
    Step.all.Pairwise fun a b => ∀ x ∈ a.inputs, x.source ≠ b := by
  decide

theorem Step.source_ne {step : Step} {x : Input} (h : x ∈ step.inputs) : x.source ≠ step := by
  revert x
  cases step <;> decide

section Before

variable {before after : List Visit} {v : Visit} {x : Input}
  (hsteps : ((before ++ v :: after).map (·.step)).Sublist Step.all)
include hsteps

theorem answered_iff_before (hx : x ∈ v.step.inputs) (response : Response) :
    Answered (before ++ v :: after) x.source response ↔ Answered before x.source response := by
  have hlater : ∀ w ∈ after, x.source ≠ w.step := by
    have hpairs := Step.source_ne_of_pairwise.sublist hsteps
    rw [List.map_append, List.map_cons, List.pairwise_append, List.pairwise_cons] at hpairs
    exact fun w hw => hpairs.2.1.1 _ (List.mem_map_of_mem hw) x hx
  constructor
  · rintro ⟨w, hw, hstep, hresponse⟩
    rcases List.mem_append.1 hw with hw | hw
    · exact ⟨w, hw, hstep, hresponse⟩
    · rcases List.mem_cons.1 hw with rfl | hw
      · exact absurd hstep.symm (Step.source_ne hx)
      · exact absurd hstep.symm (hlater w hw)
  · rintro ⟨w, hw, hstep, hresponse⟩
    exact ⟨w, List.mem_append_left _ hw, hstep, hresponse⟩

end Before

/-- The step knows what it needs as it was given in the visits. -/
structure Progress.Knows (p : Progress) (visits : List Visit) (step : Step) : Prop where
  token : .token ∈ step.inputs → ∀ token, p.token = some token ↔ GaveToken visits token
  noteId : .noteId ∈ step.inputs → ∀ id, p.noteId = some id ↔ GaveNote visits id
  etag : .etag ∈ step.inputs → ∀ tag, p.etag = some tag ↔ GaveTag visits tag

namespace Progress.Knows

variable {p : Progress} {visits : List Visit} {step : Step} (h : p.Knows visits step)
include h

theorem not_given_token (hx : .token ∈ step.inputs) (hp : p.token = none) :
    ¬ Input.token.IsGiven visits := by
  rintro ⟨token, hgave⟩
  cases hp.symm.trans ((h.token hx token).2 hgave)

theorem not_given_noteId (hx : .noteId ∈ step.inputs) (hp : p.noteId = none) :
    ¬ Input.noteId.IsGiven visits := by
  rintro ⟨id, hgave⟩
  cases hp.symm.trans ((h.noteId hx id).2 hgave)

theorem not_given_etag (hx : .etag ∈ step.inputs) (hp : p.etag = none) :
    ¬ Input.etag.IsGiven visits := by
  rintro ⟨tag, hgave⟩
  cases hp.symm.trans ((h.etag hx tag).2 hgave)

end Progress.Knows

theorem knows_taught (j : Journey) (index : Nat) {before after : List Visit} {v : Visit}
    (hsteps : ((before ++ v :: after).map (·.step)).Sublist Step.all) :
    (before.foldl .taught (j.start index)).Knows (before ++ v :: after) v.step := by
  have hnodup : (before.map (·.step)).Nodup := by
    have hall := hsteps.nodup (by decide)
    rw [List.map_append] at hall
    exact (List.nodup_append.1 hall).1
  have hbefore {x : Input} (hx : x ∈ v.step.inputs) (response : Response) :=
    (answered_iff_before hsteps hx response).symm
  constructor
  · intro hx token
    rw [token_iff_gaveToken hnodup rfl]
    exact exists_congr fun response => and_congr_left' (hbefore hx response)
  · intro hx id
    rw [noteId_iff_gaveNote hnodup rfl]
    exact exists_congr fun response => and_congr_left' (hbefore hx response)
  · intro hx tag
    rw [etag_iff_gaveTag hnodup rfl]
    exact exists_congr fun response => and_congr_left' (hbefore hx response)

namespace Journey

variable {j : Journey} {index : Nat} {visits : List Visit} {p : Progress} {step : Step}

/-- A step calls for something with all that it needs, or lacks something. -/
theorem turn_cases (haccount : p.account = (j.start index).account)
    (hk : p.Knows visits step) :
    (step = .pace ∧ j.turn p step = .rest) ∨
      (∃ call, j.turn p step = .asking call ∧ j.Asks index visits step call ∧
        ∀ x ∈ step.inputs, x.IsGiven visits) ∨
      ∃ x, j.turn p step = .lacking x.name ∧ step.Lacks visits x := by
  obtain ⟨account, token?, noteId?, etag?⟩ := p
  obtain rfl : account = (j.start index).account := haccount
  cases step with
  | pace => exact .inl ⟨rfl, rfl⟩
  | health => exact .inr (.inl ⟨_, rfl, .health, by simp [Step.inputs]⟩)
  | register => exact .inr (.inl ⟨_, rfl, .register, by simp [Step.inputs]⟩)
  | login => exact .inr (.inl ⟨_, rfl, .login, by simp [Step.inputs]⟩)
  | createNote =>
    cases token? with
    | none =>
      exact .inr (.inr ⟨.token, rfl, [], [], rfl, by simp, hk.not_given_token (by decide) rfl⟩)
    | some token =>
      have ht := (hk.token (by decide) token).1 rfl
      exact .inr (.inl ⟨_, rfl, .createNote ht, by simpa [Step.inputs] using ⟨token, ht⟩⟩)
  | fetchNote =>
    cases token? with
    | none =>
      exact .inr (.inr ⟨.token, rfl, [], [.noteId], rfl, by simp,
        hk.not_given_token (by decide) rfl⟩)
    | some token =>
      have ht := (hk.token (by decide) token).1 rfl
      cases noteId? with
      | none =>
        exact .inr (.inr ⟨.noteId, rfl, [.token], [], rfl, by simpa using ⟨token, ht⟩,
          hk.not_given_noteId (by decide) rfl⟩)
      | some id =>
        have hid := (hk.noteId (by decide) id).1 rfl
        exact .inr (.inl ⟨_, rfl, .fetchNote ht hid,
          by simpa [Step.inputs] using ⟨⟨token, ht⟩, ⟨id, hid⟩⟩⟩)
  | fetchNoteConditional =>
    cases token? with
    | none =>
      exact .inr (.inr ⟨.token, rfl, [], [.noteId, .etag], rfl, by simp,
        hk.not_given_token (by decide) rfl⟩)
    | some token =>
      have ht := (hk.token (by decide) token).1 rfl
      cases noteId? with
      | none =>
        exact .inr (.inr ⟨.noteId, rfl, [.token], [.etag], rfl, by simpa using ⟨token, ht⟩,
          hk.not_given_noteId (by decide) rfl⟩)
      | some id =>
        have hid := (hk.noteId (by decide) id).1 rfl
        cases etag? with
        | none =>
          exact .inr (.inr ⟨.etag, rfl, [.token, .noteId], [], rfl,
            by simpa using ⟨⟨token, ht⟩, ⟨id, hid⟩⟩, hk.not_given_etag (by decide) rfl⟩)
        | some tag =>
          have htag := (hk.etag (by decide) tag).1 rfl
          exact .inr (.inl ⟨_, rfl, .fetchNoteConditional ht hid htag,
            by simpa [Step.inputs] using ⟨⟨token, ht⟩, ⟨id, hid⟩, ⟨tag, htag⟩⟩⟩)

/-- The visit makes do with what was given in the visits. -/
structure KeepsTo (j : Journey) (index : Nat) (visits : List Visit) (v : Visit) : Prop where
  /-- What is sent names what was given. -/
  sent : ∀ out delivery, v.exchange = some (out, delivery) →
    ∃ call, j.Asks index visits v.step call ∧ out.Carries j.client call
  /-- A step that was given all that it needs attempts its call. -/
  attempted : v.step ≠ .pace → (∀ x ∈ v.step.inputs, x.IsGiven visits) →
    ∃ call, j.Asks index visits v.step call ∧ v.Attempts j.client call
  /-- Any other step is skipped, for want of the first that it was not given. -/
  skipped : (∃ x ∈ v.step.inputs, ¬ x.IsGiven visits) →
    ∃ x, v.step.Lacks visits x ∧ v.Skips x.name

theorem Makes.keepsTo {v : Visit} (h : j.Makes p v) (haccount : p.account = (j.start index).account)
    (hk : p.Knows visits v.step) : j.KeepsTo index visits v := by
  unfold Makes at h
  rcases turn_cases haccount hk with ⟨hpace, hturn⟩ | ⟨call, hturn, hasks, hgiven⟩ |
    ⟨x, hturn, hlacks⟩
  · rw [hturn] at h
    refine ⟨fun out delivery hsent => ?_, fun hne => absurd hpace hne, fun ⟨x, hx, _⟩ => ?_⟩
    · cases h.1.symm.trans hsent
    · rw [hpace] at hx
      cases hx
  · rw [hturn] at h
    refine ⟨fun out delivery hsent => ⟨call, hasks, ?_⟩, fun _ _ => ⟨call, hasks, h⟩,
      fun ⟨x, hx, hnot⟩ => absurd (hgiven x hx) hnot⟩
    cases h with
    | sent written _ =>
      cases hsent
      exact Client.carries_of_build written
    | unwritten _ => cases hsent
  · rw [hturn] at h
    refine ⟨fun out delivery hsent => ?_, fun _ hall => ?_, fun _ => ⟨x, hlacks, h⟩⟩
    · cases h.exchange.symm.trans hsent
    · obtain ⟨before, after, hinputs, -, hnot⟩ := hlacks
      exact absurd (hall x (by simp [hinputs])) hnot

/-- Whatever a target answers, an iteration is a row of visits, one for each step that it takes, and
in each of them a step sends what the login, the new note and the look at the note of the same
iteration have given: their token, the path of the note and its validator, exactly. A step that was
given all that it needs attempts its call. One that was not is skipped and fails all its checks for
want of the first input that it was not given, and one whose request cannot be written or is not
answered fails them for that. -/
theorem requests_carry_what_was_given {σ : Type} (j : Journey) (index : Nat) (t : Target σ)
    (s : σ) :
    ∃ visits : List Visit,
      ((j.iteration index).run t s).2.1 = visits.flatMap Visit.events ∧
      visits.map (·.step) = (if ((j.iteration index).run t s).1.isEarly then [.health, .register]
        else Step.all) ∧
      ∀ v ∈ visits, v.records.map (·.1) = v.step.checks ∧ j.KeepsTo index visits v := by
  obtain ⟨visits, hrow, hevents, hsteps⟩ := exists_visits (course_run t (j.iteration index) s)
  refine ⟨visits, hevents, hsteps, fun v hv => ?_⟩
  have hsub : (visits.map (·.step)).Sublist Step.all := by
    rw [hsteps]
    split
    · decide
    · exact .refl _
  obtain ⟨before, after, rfl⟩ := List.append_of_mem hv
  have hmakes := hrow.makes
  exact ⟨hmakes.checks, hmakes.keepsTo (account_foldl_taught before _)
    (knows_taught j index hsub)⟩

end Journey

end NotesBench.Load
