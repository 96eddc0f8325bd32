import NotesBench.Proofs.Service.Fulfilment

/-!
# Which failure wins

A request can be wrong in several ways at once. The answer has the status of the first rule that
applies (`status_by_first_rule`): the path, the method, the token, the number of the note and the
body are looked at in this order, and then what the endpoint itself asks for. When none applies,
the request is fulfilled.
-/

namespace NotesBench.Service

open Http (Request Response)

/-- A rule for answers: whether it applies, and which status an answer by it has. -/
structure Rule where
  applies : Bool
  status : Nat

/-- The status by the first rule that applies. -/
def statusBy (rules : List Rule) (otherwise : Nat) : Nat :=
  match rules.find? (·.applies) with
  | some rule => rule.status
  | none => otherwise

@[simp] theorem statusBy_nil (otherwise : Nat) : statusBy [] otherwise = otherwise := rfl

@[simp] theorem statusBy_cons (rule : Rule) (rules : List Rule) (otherwise : Nat) :
    statusBy (rule :: rules) otherwise =
      bif rule.applies then rule.status else statusBy rules otherwise := by
  unfold statusBy
  rw [List.find?_cons]
  cases rule.applies <;> rfl

theorem statusBy_append (first second : List Rule) (otherwise : Nat) :
    statusBy (first ++ second) otherwise = statusBy first (statusBy second otherwise) := by
  induction first with
  | nil => rfl
  | cons rule rest ih => rw [List.cons_append, statusBy_cons, statusBy_cons, ih]

/-! ## Rules -/

/-- The octets of a body that is complete. -/
def arrived : Http.Body → Text.Octets
  | .complete bytes => bytes
  | .stalled => []

/-- A text that the body of a request gives for a field, empty when it gives none. -/
def sentText (r : Request) (names : List String) (name : String) : String :=
  ((decodeTexts? names (arrived r.body)).getD []).getD (names.idxOf name) ""

def sentEmail (r : Request) : String := Text.trim (sentText r ["email", "password"] "email")

def sentPassword (r : Request) : String := sentText r ["email", "password"] "password"

def sentTitle (r : Request) : String := Text.trim (sentText r ["title", "body"] "title")

/-- What stands in the way of a record with these fields. -/
def bodyRules (settings : Settings) (r : Request) (names : List String) : List Rule :=
  if names.isEmpty then []
  else [
    ⟨r.body = .stalled, 408⟩,
    ⟨settings.maxBody < (arrived r.body).length, 413⟩,
    ⟨(decodeTexts? names (arrived r.body)).isNone, 400⟩]

/-- Whether the password is the one of the account. -/
def Store.admits (s : Store) (email password : String) : Bool :=
  (s.accounts.find? email).any fun account => digest account.salt password = account.digest

/-- Whether the token can be exchanged. -/
def Store.renews (s : Store) (token : String) : Bool := (s.refresh.find? token).any (!·.spent)

/-- The validator of the page that a user asks for. -/
def askedEtag (s : Store) (r : Request) (user : Int) : String :=
  let wanted := Wanted.ofQuery r.query
  pageEtag wanted.page wanted.size wanted.q
    (s.listing user wanted.page wanted.size wanted.q).1

/-- The note that a user asks for. -/
def askedNote? (s : Store) (r : Request) (segment : String) : Option Note := do
  let user ← caller? s r
  let id ← Text.signed? segment.toList
  s.owned? user id

namespace Route

def methods : Route → List Http.Method
  | .health | .ready | .info => [.get]
  | .register | .login | .refresh | .logout => [.post]
  | .notes => [.get, .post]
  | .note _ => [.get, .put, .delete]

/-- Whether a route is for users only. -/
def isPrivate : Route → Bool
  | .notes | .note _ => true
  | _ => false

/-- Whether the segment that should name a note is no number. -/
def isMisnumbered : Route → Bool
  | .note segment => (Text.signed? segment.toList).isNone
  | _ => false

/-- The fields that are read of the body. -/
def fields : Route → Http.Method → List String
  | .register, _ | .login, _ => ["email", "password"]
  | .refresh, _ => ["refresh"]
  | .notes, .post | .note _, .put => ["title", "body"]
  | _, _ => []

/-- What the endpoint itself asks for. -/
def ownRules (settings : Settings) (s : Store) (r : Request) : Route → Http.Method → List Rule
  | .health, _ => [⟨!isStatus settings.healthStatus, 500⟩]
  | .ready, _ | .info, _ => []
  | .register, _ => [
      ⟨!settings.acceptsEmail (sentEmail r), 422⟩,
      ⟨!settings.acceptsPassword (sentPassword r), 422⟩,
      ⟨s.accounts.contains (sentEmail r), 409⟩]
  | .login, _ => [⟨!s.admits (sentEmail r) (sentPassword r), 401⟩]
  | .refresh, _ => [⟨!s.renews (sentText r ["refresh"] "refresh"), 401⟩]
  | .logout, _ => [⟨(caller? s r).isNone, 401⟩]
  | .notes, .get => [
      ⟨(caller? s r).any fun user => Http.matches? r.headers (askedEtag s r user), 304⟩]
  | .notes, .post => [⟨sentTitle r = "", 400⟩]
  | .notes, _ => []
  | .note segment, .get => [
      ⟨(askedNote? s r segment).isNone, 404⟩,
      ⟨(askedNote? s r segment).any fun note => Http.matches? r.headers note.etag, 304⟩]
  | .note segment, _ => [⟨(askedNote? s r segment).isNone, 404⟩]

/-- The rules of a route, in their order. -/
def rules (settings : Settings) (s : Store) (r : Request) (route : Route) : List Rule :=
  [⟨r.method ∉ route.methods, 405⟩,
    ⟨route.isPrivate && (caller? s r).isNone, 401⟩,
    ⟨route.isMisnumbered, 400⟩] ++
    bodyRules settings r (route.fields r.method) ++ route.ownRules settings s r r.method

/-- The status of a request that is fulfilled. -/
def fulfilled (settings : Settings) : Route → Nat
  | .health => settings.healthStatus
  | .ready | .logout => 204
  | _ => 200

end Route

/-! ## Parts of handlers

Each part of a handler puts its own rules before those of the rest.
-/

/-- The status of the answer that a handler makes. -/
def Handler.statusAt (h : Handler Response) (s : Store) : Nat :=
  (responseOf (StateT.run (ExceptT.run h) s).1).status

section Parts

variable {settings : Settings} {r : Request} {s s' : Store} {α : Type}

theorem Handler.Gives.statusAt_eq {h : Handler Response} {result : Except Failure Response}
    (hg : h.Gives s result s') : h.statusAt s = (responseOf result).status := by
  unfold Handler.Gives at hg
  rw [Handler.statusAt, hg]

theorem Handler.Gives.statusAt_bind {h : Handler α} {a : α} (hg : h.Gives s (.ok a) s')
    (f : α → Handler Response) : Handler.statusAt (h >>= f) s = (f a).statusAt s' := by
  have hf : (f a).Gives s' (StateT.run (ExceptT.run (f a)) s').1
      (StateT.run (ExceptT.run (f a)) s').2 := rfl
  exact (hg.bind hf).statusAt_eq

theorem Handler.Gives.statusAt_bind_error {h : Handler α} {failure : Failure}
    (hg : h.Gives s (.error failure) s') (f : α → Handler Response) :
    Handler.statusAt (h >>= f) s = failure.status :=
  hg.bind_error.statusAt_eq

theorem statusAt_answer (reply : Except Failure Response) (s : Store) :
    (answer reply).statusAt s = (responseOf reply).status := rfl

theorem statusAt_act (action : Store.Action α) (f : α → Handler Response) (s : Store) :
    Handler.statusAt (act action >>= f) s =
      match action.on s with
      | (.ok a, s') => (f a).statusAt s'
      | (.error refusal, _) => (Failure.ofRefusal refusal).status := by
  rcases hon : action.on s with ⟨refusal | a, s'⟩
  · exact (Handler.Gives.act_refused hon).statusAt_bind_error f
  · exact (Handler.Gives.act hon).statusAt_bind f

variable {rules : List Rule} {otherwise : Nat}

/-- A condition under which the request fails before the rest is looked at. -/
theorem statusAt_guard {p : Prop} [Decidable p] {b : Bool} (hb : b = true ↔ p) {failure : Failure}
    {f : α → Handler Response} {h : Handler Response}
    (rest : h.statusAt s = statusBy rules otherwise) :
    Handler.statusAt (if p then (throw failure : Handler α) >>= f else h) s =
      statusBy (⟨b, failure.status⟩ :: rules) otherwise := by
  rw [statusBy_cons]
  by_cases hp : p
  · rw [if_pos hp, hb.2 hp]
    rfl
  · rw [if_neg hp, Bool.eq_false_iff.2 (mt hb.1 hp)]
    exact rest

theorem statusAt_authenticate {f : Int → Handler Response}
    (rest : ∀ user, caller? s r = some user → (f user).statusAt s = statusBy rules otherwise) :
    Handler.statusAt (authenticate r >>= f) s =
      statusBy (⟨(caller? s r).isNone, 401⟩ :: rules) otherwise := by
  rw [statusBy_cons]
  cases hcaller : caller? s r with
  | some user =>
    exact ((gives_authenticate hcaller).statusAt_bind f).trans (rest user hcaller)
  | none =>
    have hrefused : (authenticate r).Gives s
        (.error (.unauthorized "missing or invalid bearer token")) s := by
      refine (Handler.Gives.get s).bind ?_
      unfold caller? at hcaller
      rw [hcaller]
      rfl
    exact hrefused.statusAt_bind_error f

theorem statusAt_readId {segment : String} {f : Int → Handler Response}
    (rest : ∀ id, Text.signed? segment.toList = some id →
      (f id).statusAt s = statusBy rules otherwise) :
    Handler.statusAt (readId segment >>= f) s =
      statusBy (⟨(Route.note segment).isMisnumbered, 400⟩ :: rules) otherwise := by
  rw [statusBy_cons, Route.isMisnumbered, readId]
  cases hid : Text.signed? segment.toList with
  | some id => exact rest id hid
  | none => rfl

theorem statusAt_readTexts {names : List String} (hnames : names ≠ [])
    {f : List String → Handler Response}
    (rest : (f ((decodeTexts? names (arrived r.body)).getD [])).statusAt s =
      statusBy rules otherwise) :
    Handler.statusAt (readTexts settings names r >>= f) s =
      statusBy (bodyRules settings r names ++ rules) otherwise := by
  rw [statusBy_append, ← rest, bodyRules, if_neg (by simpa using hnames), readTexts, readBody]
  simp only [statusBy_cons, statusBy_nil]
  cases r.body with
  | stalled => rfl
  | complete bytes =>
    -- The conditions in terms of the octets; they cannot be rewritten under `decide`.
    change _ = bif decide (settings.maxBody < bytes.length) then 413
      else bif (decodeTexts? names bytes).isNone then 400 else _
    by_cases hlong : settings.maxBody < bytes.length
    · simp only [if_pos hlong, decide_eq_true hlong]
      rfl
    · simp only [if_neg hlong, decide_eq_false hlong, pure_bind, arrived]
      cases decodeTexts? names bytes <;> rfl

/-- A record of two texts, when one is read. -/
theorem texts_eq_nil_or_pair (a b : String) (bytes : Text.Octets) :
    (decodeTexts? [a, b] bytes).getD [] = [] ∨
      ∃ x y, (decodeTexts? [a, b] bytes).getD [] = [x, y] := by
  cases h : decodeTexts? [a, b] bytes with
  | none => exact .inl rfl
  | some texts => exact .inr (exists_pair_of_decodeTexts?_eq_some h)

theorem statusAt_readCredentials {f : String × String → Handler Response}
    (rest : (f (sentEmail r, sentPassword r)).statusAt s = statusBy rules otherwise) :
    Handler.statusAt (readCredentials settings r >>= f) s =
      statusBy (bodyRules settings r ["email", "password"] ++ rules) otherwise := by
  rw [readCredentials, bind_assoc]
  refine statusAt_readTexts (by simp) (Eq.trans ?_ rest)
  rw [sentEmail, sentPassword, sentText, sentText]
  rcases texts_eq_nil_or_pair "email" "password" (arrived r.body) with h | ⟨email, password, h⟩ <;>
    rw [h] <;> rfl

theorem statusAt_readNote {f : String × String → Handler Response}
    (rest : (f (sentTitle r, sentText r ["title", "body"] "body")).statusAt s =
      statusBy rules otherwise) :
    Handler.statusAt (readNote settings r >>= f) s =
      statusBy (bodyRules settings r ["title", "body"] ++ rules) otherwise := by
  rw [readNote, bind_assoc]
  refine statusAt_readTexts (by simp) (Eq.trans ?_ rest)
  rw [sentTitle, sentText, sentText]
  rcases texts_eq_nil_or_pair "title" "body" (arrived r.body) with h | ⟨title, body, h⟩ <;>
    rw [h] <;> rfl

end Parts

/-! ## Endpoints -/

section Endpoints

variable {settings : Settings} {draw : Draw} {r : Request} {s : Store}

theorem statusAt_registerEndpoint (method : Http.Method) :
    (registerEndpoint settings draw r).statusAt s =
      statusBy (bodyRules settings r ["email", "password"] ++
        Route.register.ownRules settings s r method) 200 := by
  refine statusAt_readCredentials (statusAt_guard Iff.rfl (statusAt_guard Iff.rfl ?_))
  rw [statusAt_act, Store.register_on, statusBy_cons]
  cases s.accounts.contains (sentEmail r) <;> rfl

theorem statusAt_loginEndpoint (method : Http.Method) :
    (loginEndpoint settings draw r).statusAt s =
      statusBy (bodyRules settings r ["email", "password"] ++
        Route.login.ownRules settings s r method) 200 := by
  refine statusAt_readCredentials ?_
  dsimp only
  rw [statusAt_act, Store.login_on_eq, Route.ownRules, statusBy_cons, Store.admits]
  cases s.accounts.find? (sentEmail r) with
  | none => rfl
  | some account =>
    dsimp only [Option.any_some]
    by_cases h : digest account.salt (sentPassword r) = account.digest
    · rw [if_pos h, decide_eq_true h]
      rfl
    · rw [if_neg h, decide_eq_false h]
      rfl

theorem statusAt_refreshEndpoint (method : Http.Method) :
    (refreshEndpoint settings draw r).statusAt s =
      statusBy (bodyRules settings r ["refresh"] ++ Route.refresh.ownRules settings s r method)
        200 := by
  have htoken : ((decodeTexts? ["refresh"] (arrived r.body)).getD []).headD "" =
      sentText r ["refresh"] "refresh" := by
    rw [sentText]
    cases (decodeTexts? ["refresh"] (arrived r.body)).getD [] <;> rfl
  refine statusAt_readTexts (by simp) ?_
  rw [htoken, statusAt_act, Store.rotate_on, Route.ownRules, statusBy_cons, Store.renews]
  rcases s.refresh.find? (sentText r ["refresh"] "refresh") with _ | ⟨user, _ | _⟩ <;> rfl

theorem statusAt_logoutEndpoint (settings : Settings) (method : Http.Method) :
    (logoutEndpoint r).statusAt s = statusBy (Route.logout.ownRules settings s r method) 204 := by
  rw [logoutEndpoint, Route.ownRules, statusBy_cons, caller?]
  cases Http.bearer? r.headers with
  | none => rfl
  | some token =>
    dsimp only
    rw [statusAt_act, Store.logout_on, Option.bind_some]
    cases s.holder? token <;> rfl

theorem statusAt_listEndpoint :
    (listEndpoint settings r).statusAt s =
      statusBy (⟨(caller? s r).isNone, 401⟩ :: Route.notes.ownRules settings s r .get) 200 := by
  refine statusAt_authenticate fun user caller => ?_
  dsimp only
  rw [(Handler.Gives.get s).statusAt_bind, ← apply_ite answer, statusAt_answer,
    status_revalidated settings r.headers _ (isPlain_pageEtag ..), Route.ownRules, statusBy_cons,
    caller]
  rfl

theorem statusAt_addEndpoint :
    (addEndpoint settings r).statusAt s =
      statusBy (⟨(caller? s r).isNone, 401⟩ :: (bodyRules settings r ["title", "body"] ++
        Route.notes.ownRules settings s r .post)) 200 := by
  refine statusAt_authenticate fun user _ =>
    statusAt_readNote (statusAt_guard decide_eq_true_iff ?_)
  rw [statusAt_act, Store.addNote_on]
  exact status_tagged settings _ (Note.isPlain_etag _)

section Note

variable {segment : String} {user id : Int}

/-- The note that is asked for. -/
theorem askedNote?_eq (caller : caller? s r = some user)
    (number : Text.signed? segment.toList = some id) :
    askedNote? s r segment = s.owned? user id := by
  rw [askedNote?, caller, number]
  rfl

theorem statusAt_showEndpoint (segment : String) :
    (showEndpoint settings segment r).statusAt s =
      statusBy (⟨(caller? s r).isNone, 401⟩ :: ⟨(Route.note segment).isMisnumbered, 400⟩ ::
        (Route.note segment).ownRules settings s r .get) 200 := by
  refine statusAt_authenticate fun user caller => statusAt_readId fun id number => ?_
  rw [statusAt_act, Store.findNote_on_eq, Route.ownRules, askedNote?_eq caller number,
    statusBy_cons, statusBy_cons]
  cases s.owned? user id with
  | none => rfl
  | some note =>
    dsimp only
    rw [noteReply, ← apply_ite answer, statusAt_answer]
    exact status_revalidated settings r.headers _ (Note.isPlain_etag note)

theorem statusAt_changeEndpoint (segment : String) :
    (changeEndpoint settings segment r).statusAt s =
      statusBy (⟨(caller? s r).isNone, 401⟩ :: ⟨(Route.note segment).isMisnumbered, 400⟩ ::
        (bodyRules settings r ["title", "body"] ++
          (Route.note segment).ownRules settings s r .put)) 200 := by
  refine statusAt_authenticate fun user caller => statusAt_readId fun id number =>
    statusAt_readNote ?_
  dsimp only [Route.ownRules]
  rw [statusAt_act, Store.changeNote_on, askedNote?_eq caller number, statusBy_cons]
  cases s.owned? user id with
  | none => rfl
  | some note => exact status_tagged settings _ (Note.isPlain_etag _)

theorem statusAt_removeEndpoint (segment : String) :
    (removeEndpoint settings segment r).statusAt s =
      statusBy (⟨(caller? s r).isNone, 401⟩ :: ⟨(Route.note segment).isMisnumbered, 400⟩ ::
        (Route.note segment).ownRules settings s r .delete) 200 := by
  refine statusAt_authenticate fun user caller => statusAt_readId fun id number => ?_
  dsimp only [Route.ownRules]
  rw [statusAt_act, Store.removeNote_on, askedNote?_eq caller number, statusBy_cons]
  cases s.owned? user id with
  | none => rfl
  | some note => exact status_tagged settings _ (Note.isPlain_etag _)

end Note

end Endpoints

/-! ## Requests -/

section Requests

variable {settings : Settings} {draw : Draw} {r : Request} {s : Store}

theorem status_serve (settings : Settings) (draw : Draw) (r : Request) (s : Store) :
    (serve settings draw r s).1.status = (handler settings draw r).statusAt s := by
  unfold Handler.statusAt
  rcases hrun : StateT.run (ExceptT.run (handler settings draw r)) s with ⟨result, s'⟩
  rw [serve_eq_of_gives hrun, status_sent]

theorem statusAt_handler_of_not_mem {route : Route} (hm : r.method ∉ route.methods) :
    (route.handler settings draw r).statusAt s = 405 := by
  cases route with
  | notes =>
    cases h : r.method with
    | get | post => simp [Route.methods, h] at hm
    | _ =>
      rw [Route.handler, h]
      rfl
  | note segment =>
    cases h : r.method with
    | get | put | delete => simp [Route.methods, h] at hm
    | _ =>
      rw [Route.handler, h]
      rfl
  | _ =>
    rw [Route.handler, if_neg (by simpa [Route.methods] using hm)]
    rfl

theorem statusAt_handler_of_mem {route : Route} (hm : r.method ∈ route.methods) :
    (route.handler settings draw r).statusAt s =
      statusBy (⟨route.isPrivate && (caller? s r).isNone, 401⟩ :: ⟨route.isMisnumbered, 400⟩ ::
        (bodyRules settings r (route.fields r.method) ++ route.ownRules settings s r r.method))
        (route.fulfilled settings) := by
  cases route with
  | health =>
    rw [Route.handler, if_pos (List.mem_singleton.1 hm), statusAt_answer, emptyReply]
    change _ = statusBy [⟨!isStatus settings.healthStatus, 500⟩] settings.healthStatus
    rw [statusBy_cons]
    cases isStatus settings.healthStatus <;> rfl
  | ready | info =>
    rw [Route.handler, if_pos (List.mem_singleton.1 hm)]
    rfl
  | register =>
    rw [Route.handler, if_pos (List.mem_singleton.1 hm), statusAt_registerEndpoint r.method]
    rfl
  | login =>
    rw [Route.handler, if_pos (List.mem_singleton.1 hm), statusAt_loginEndpoint r.method]
    rfl
  | refresh =>
    rw [Route.handler, if_pos (List.mem_singleton.1 hm), statusAt_refreshEndpoint r.method]
    rfl
  | logout =>
    rw [Route.handler, if_pos (List.mem_singleton.1 hm), statusAt_logoutEndpoint settings r.method]
    rfl
  | notes =>
    rcases List.mem_pair.1 hm with h | h
    · rw [Route.handler, h]
      exact statusAt_listEndpoint
    · rw [Route.handler, h]
      exact statusAt_addEndpoint
  | note segment =>
    obtain h | h | h : r.method = .get ∨ r.method = .put ∨ r.method = .delete := by
      simpa [Route.methods] using hm
    · rw [Route.handler, h]
      exact statusAt_showEndpoint segment
    · rw [Route.handler, h]
      exact statusAt_changeEndpoint segment
    · rw [Route.handler, h]
      exact statusAt_removeEndpoint segment

theorem statusAt_handler (settings : Settings) (draw : Draw) (r : Request) (s : Store)
    (route : Route) :
    (route.handler settings draw r).statusAt s =
      statusBy (route.rules settings s r) (route.fulfilled settings) := by
  rw [Route.rules, List.cons_append, List.cons_append, statusBy_cons]
  by_cases hm : r.method ∈ route.methods
  · rw [statusAt_handler_of_mem hm, decide_eq_false (not_not_intro hm)]
    rfl
  · rw [statusAt_handler_of_not_mem hm, decide_eq_true hm]
    rfl

/-- An answer has the status of the first rule that applies, whatever else is wrong with the
request. -/
theorem status_by_first_rule (settings : Settings) (draw : Draw) (r : Request) (s : Store) :
    (∀ route : Route, route.path = r.path → route.IsProper →
      (serve settings draw r s).1.status =
        statusBy (route.rules settings s r) (route.fulfilled settings)) ∧
    ((∀ route : Route, route.path = r.path → ¬route.IsProper) →
      (serve settings draw r s).1.status = 404) := by
  rw [status_serve, handler]
  constructor
  · intro route hpath hproper
    rw [ofPath?_eq_some_iff.2 ⟨hpath, hproper⟩]
    exact statusAt_handler settings draw r s route
  · intro hnone
    cases h : Route.ofPath? r.path with
    | some route =>
      obtain ⟨hpath, hproper⟩ := ofPath?_eq_some_iff.1 h
      exact absurd hproper (hnone route hpath)
    | none => rfl

-- Nobody's request, about a note without a number, with a body that never comes.
example : (serve {} default ⟨.put, "/notes/first", [], .stalled⟩ {}).1.status = 401 := by rfl

end Requests

end NotesBench.Service
