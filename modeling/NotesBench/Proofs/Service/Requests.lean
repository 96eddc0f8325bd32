import NotesBench.Proofs.Service.Effects
import NotesBench.Proofs.Service.Handling

/-!
# What a request comes to

A request asks for one operation on the state at most (`Asks`), and is answered with what the
operation gives (`Replies`). A request that fails before leaves the state as it is, and so does one
whose operation is refused (`handler_outcome`).
-/

namespace NotesBench.Service

open Http (Request Response)

namespace Handler

variable {α β : Type} {s s' : Store}

/-- What a handler that is put together has given, its parts have given. -/
theorem Gives.of_bind {h : Handler α} {f : α → Handler β} {result : Except Failure β}
    (hg : (h >>= f).Gives s result s') :
    (∃ a s₁, h.Gives s (.ok a) s₁ ∧ (f a).Gives s₁ result s') ∨
      ∃ failure, h.Gives s (.error failure) s' ∧ result = .error failure := by
  unfold Gives at hg ⊢
  rw [ExceptT.run_bind, StateT.run_bind] at hg
  rcases hh : StateT.run (ExceptT.run h) s with ⟨_ | a, s₁⟩
  · rw [hh] at hg
    cases hg
    exact .inr ⟨_, rfl, rfl⟩
  · rw [hh] at hg
    exact .inl ⟨a, s₁, rfl, hg⟩

/-- The handler looks at the state only. -/
def Reads (h : Handler α) : Prop :=
  ∀ ⦃s result s'⦄, h.Gives s result s' → s' = s

namespace Reads

theorem pure (a : α) : Reads (Pure.pure a) := by
  rintro s result s' hg
  cases hg
  rfl

theorem throw (failure : Failure) : Reads (MonadExcept.throw failure : Handler α) := by
  rintro s result s' hg
  cases hg
  rfl

theorem get : Reads MonadState.get := by
  rintro s result s' hg
  cases hg
  rfl

theorem bind {h : Handler α} {f : α → Handler β} (hh : h.Reads) (hf : ∀ a, (f a).Reads) :
    (h >>= f).Reads := by
  intro s result s' hg
  rcases hg.of_bind with ⟨a, s₁, ha, hfa⟩ | ⟨failure, ha, -⟩
  · rw [hf a hfa, hh ha]
  · exact hh ha

theorem of_bind {h : Handler α} {f : α → Handler β} (hh : h.Reads) {result : Except Failure β}
    (hg : (h >>= f).Gives s result s') :
    (∃ a, h.Gives s (.ok a) s ∧ (f a).Gives s result s') ∨
      ∃ failure, result = .error failure ∧ s' = s := by
  rcases hg.of_bind with ⟨a, s₁, ha, hfa⟩ | ⟨failure, ha, hr⟩
  · obtain rfl := hh ha
    exact .inl ⟨a, ha, hfa⟩
  · exact .inr ⟨failure, hr, hh ha⟩

end Reads

end Handler

open Handler (Gives Reads)

variable {settings : Settings} {draw : Draw} {r : Request} {s s' : Store}

/-! ## Parts of handlers -/

theorem authenticate_gives {result : Except Failure Int} (hg : (authenticate r).Gives s result s') :
    s' = s ∧ ∀ user, result = .ok user → caller? s r = some user := by
  rcases hg.of_bind with ⟨found, s₁, hget, hg⟩ | ⟨failure, hget, -⟩
  · cases hget
    split at hg
    · next user hu =>
      cases hg
      exact ⟨rfl, by rintro _ ⟨⟩; exact hu⟩
    · cases hg
      exact ⟨rfl, by rintro _ ⟨⟩⟩
  · cases hget

theorem reads_authenticate (r : Request) : (authenticate r).Reads := fun _ _ _ hg =>
  (authenticate_gives hg).1

theorem reads_readId (segment : String) : (readId segment).Reads := by
  unfold readId
  split
  · exact .pure _
  · exact .throw _

theorem readId_gives {segment : String} {id : Int} (hg : (readId segment).Gives s (.ok id) s') :
    Text.signed? segment.toList = some id := by
  unfold readId at hg
  split at hg
  · next h =>
    cases hg
    exact h
  · cases hg

theorem reads_readTexts (settings : Settings) (names : List String) (r : Request) :
    (readTexts settings names r).Reads := by
  have hbody : (readBody settings r).Reads := by
    unfold readBody
    split
    · exact .throw _
    · split
      · exact .throw _
      · exact .pure _
  refine hbody.bind fun bytes => ?_
  split
  · exact .pure _
  · exact .throw _

theorem reads_readCredentials (settings : Settings) (r : Request) :
    (readCredentials settings r).Reads := by
  refine (reads_readTexts settings _ r).bind fun texts => ?_
  split <;> exact .pure _

theorem reads_readNote (settings : Settings) (r : Request) : (readNote settings r).Reads := by
  refine (reads_readTexts settings _ r).bind fun texts => ?_
  split <;> exact .pure _

theorem answer_gives {reply result : Except Failure Response}
    (hg : (answer reply).Gives s result s') : result = reply ∧ s' = s := by
  cases hg
  exact ⟨rfl, rfl⟩

theorem throw_gives {α β : Type} {failure : Failure} {f : α → Handler β}
    {result : Except Failure β} (hg : ((throw failure : Handler α) >>= f).Gives s result s') :
    result = .error failure ∧ s' = s := by
  cases hg
  exact ⟨rfl, rfl⟩

/-- Acting on the state is a deed. -/
theorem act_gives {α β : Type} (draw : Draw) (operation : Operation) {action : Store.Action α}
    {wrap : α → Answer} (hop : operation.perform draw = wrap <$> action) {f : α → Handler β}
    {result : Except Failure β} (hg : (act action >>= f).Gives s result s') :
    (∃ a s₁, (operation.perform draw).on s = (.ok (wrap a), s₁) ∧ (f a).Gives s₁ result s') ∨
      ∃ failure, result = .error failure ∧ s' = s := by
  rw [hop, Store.map_on]
  rcases hon : action.on s with ⟨refusal | a, s₁⟩
  · have hdoes : s.Does ⟨operation, .error refusal⟩ s₁ :=
      ⟨draw, by rw [hop, Store.map_on, hon]; rfl⟩
    obtain rfl := hdoes.eq_of_refused
    rcases hg.of_bind with ⟨a, s₂, ha, -⟩ | ⟨failure, ha, hr⟩
    · cases (Gives.act_refused hon).symm.trans ha
    · cases (Gives.act_refused hon).symm.trans ha
      exact .inr ⟨_, hr, rfl⟩
  · rcases hg.of_bind with ⟨b, s₂, hb, hf⟩ | ⟨failure, hb, hr⟩
    · cases (Gives.act hon).symm.trans hb
      exact .inl ⟨a, s₁, rfl, hf⟩
    · cases (Gives.act hon).symm.trans hb

/-! ## Requests -/

/-- The operation that a request asks for. -/
inductive Asks (settings : Settings) (s : Store) (r : Request) : Operation → Prop where
  | register {email password : String} (route : Route.ofPath? r.path = some .register)
    (method : r.method = .post)
    (read : (readCredentials settings r).Gives s (.ok (email, password)) s)
    (acceptable : settings.acceptsEmail email = true ∧ settings.acceptsPassword password = true) :
    Asks settings s r (.register email password)
  | login {email password : String} (route : Route.ofPath? r.path = some .login)
    (method : r.method = .post)
    (read : (readCredentials settings r).Gives s (.ok (email, password)) s) :
    Asks settings s r (.login email password)
  | refresh {texts : List String} (route : Route.ofPath? r.path = some .refresh)
    (method : r.method = .post)
    (read : (readTexts settings ["refresh"] r).Gives s (.ok texts) s) :
    Asks settings s r (.rotate (texts.headD ""))
  | logout {token : String} (route : Route.ofPath? r.path = some .logout)
    (method : r.method = .post) (bearer : Http.bearer? r.headers = some token) :
    Asks settings s r (.logout token)
  | list {user : Int} {wanted : Wanted} (route : Route.ofPath? r.path = some .notes)
    (method : r.method = .get) (caller : caller? s r = some user)
    (query : Wanted.ofQuery r.query = wanted) :
    Asks settings s r (.listing user wanted.page wanted.size wanted.q)
  | add {user : Int} {title body : String} (route : Route.ofPath? r.path = some .notes)
    (method : r.method = .post) (caller : caller? s r = some user)
    (read : (readNote settings r).Gives s (.ok (title, body)) s) (titled : title ≠ "") :
    Asks settings s r (.addNote user title body)
  | look {segment : String} {user id : Int}
    (route : Route.ofPath? r.path = some (.note segment)) (method : r.method = .get)
    (caller : caller? s r = some user) (number : Text.signed? segment.toList = some id) :
    Asks settings s r (.findNote user id)
  | change {segment title body : String} {user id : Int}
    (route : Route.ofPath? r.path = some (.note segment)) (method : r.method = .put)
    (caller : caller? s r = some user) (number : Text.signed? segment.toList = some id)
    (read : (readNote settings r).Gives s (.ok (title, body)) s) :
    Asks settings s r (.changeNote user id title body)
  | remove {segment : String} {user id : Int}
    (route : Route.ofPath? r.path = some (.note segment)) (method : r.method = .delete)
    (caller : caller? s r = some user) (number : Text.signed? segment.toList = some id) :
    Asks settings s r (.removeNote user id)

/-- A page of notes as it is sent. -/
def pageJson (page size total : Nat) (items : List Note) : Json :=
  .object [
    ("items", .array (items.map Note.itemJson)), ("page", .int page), ("size", .int size),
    ("total", .int total)]

/-- How a request is answered when its operation gives the answer. -/
inductive Replies (settings : Settings) (r : Request) :
    Operation → Answer → Except Failure Response → Prop where
  | registered {email password : String} {id : Int} :
    Replies settings r (.register email password) (.registered id)
      (jsonReply 200 (.object [("id", .int id)]) none)
  | loggedIn {email password : String} {pair : TokenPair} :
    Replies settings r (.login email password) (.tokens pair) (jsonReply 200 pair.json none)
  | refreshed {token : String} {pair : TokenPair} :
    Replies settings r (.rotate token) (.tokens pair) (jsonReply 200 pair.json none)
  | loggedOut {token : String} : Replies settings r (.logout token) .done (emptyReply 204)
  | listed {user : Int} {page size total : Nat} {q : String} {items : List Note} :
    Replies settings r (.listing user page size q) (.page items total)
      (if Http.matches? r.headers (pageEtag page size q items) then emptyReply 304
        else jsonReply 200 (pageJson page size total items)
          (settings.shownEtag (pageEtag page size q items)))
  | added {user : Int} {title body : String} {note : Note} :
    Replies settings r (.addNote user title body) (.note note)
      (jsonReply 200 (note.createdJson settings.hideNoteId) (settings.shownEtag note.etag))
  | shown {user id : Int} {note : Note} :
    Replies settings r (.findNote user id) (.note note)
      (if Http.matches? r.headers note.etag then emptyReply 304
        else jsonReply 200 note.json (settings.shownEtag note.etag))
  | changed {user id : Int} {title body : String} {note : Note} :
    Replies settings r (.changeNote user id title body) (.note note)
      (jsonReply 200 note.json (settings.shownEtag note.etag))
  | removed {user id : Int} {note : Note} :
    Replies settings r (.removeNote user id) (.note note)
      (jsonReply 200 note.json (settings.shownEtag note.etag))

/-- What comes of a request: it fails and leaves the state as it is, is answered without a look at
the state, or asks for an operation and is answered with what that gives. -/
inductive Outcome (settings : Settings) (draw : Draw) (s : Store) (r : Request) :
    Except Failure Response → Store → Prop where
  | failed (failure : Failure) : Outcome settings draw s r (.error failure) s
  | fixed {route : Route} {reply : Except Failure Response}
    (path : Route.ofPath? r.path = some route)
    (which : route = .health ∨ route = .ready ∨ route = .info) (method : r.method = .get) :
    Outcome settings draw s r reply s
  | did {operation : Operation} {answer : Answer} {reply : Except Failure Response} {s' : Store}
    (asks : Asks settings s r operation)
    (done : (operation.perform draw).on s = (.ok answer, s'))
    (replies : Replies settings r operation answer reply) : Outcome settings draw s r reply s'

section Endpoints

variable {α : Type} {result : Except Failure Response}

namespace Outcome

theorem of_read {h : Handler α} (hh : h.Reads) {f : α → Handler Response}
    (hg : (h >>= f).Gives s result s')
    (rest : ∀ a, h.Gives s (.ok a) s → (f a).Gives s result s' →
      Outcome settings draw s r result s') :
    Outcome settings draw s r result s' := by
  rcases hh.of_bind hg with ⟨a, ha, hg⟩ | ⟨failure, rfl, rfl⟩
  · exact rest a ha hg
  · exact .failed failure

theorem of_authenticate {f : Int → Handler Response}
    (hg : (authenticate r >>= f).Gives s result s')
    (rest : ∀ user, caller? s r = some user → (f user).Gives s result s' →
      Outcome settings draw s r result s') :
    Outcome settings draw s r result s' :=
  of_read (reads_authenticate r) hg fun user hu hg =>
    rest user ((authenticate_gives hu).2 user rfl) hg

theorem of_readId {segment : String} {f : Int → Handler Response}
    (hg : (readId segment >>= f).Gives s result s')
    (rest : ∀ id, Text.signed? segment.toList = some id → (f id).Gives s result s' →
      Outcome settings draw s r result s') :
    Outcome settings draw s r result s' :=
  of_read (reads_readId segment) hg fun id hid hg => rest id (readId_gives hid) hg

theorem of_act (operation : Operation) {action : Store.Action α} {wrap : α → Answer}
    (hop : operation.perform draw = wrap <$> action) {f : α → Handler Response}
    (hg : (act action >>= f).Gives s result s')
    (rest : ∀ a s₁, (operation.perform draw).on s = (.ok (wrap a), s₁) → (f a).Gives s₁ result s' →
      Outcome settings draw s r result s') :
    Outcome settings draw s r result s' := by
  rcases act_gives draw operation hop hg with ⟨a, s₁, done, hg⟩ | ⟨failure, rfl, rfl⟩
  · exact rest a s₁ done hg
  · exact .failed failure

/-- The operation is the last thing that is done. -/
theorem of_answer {operation : Operation} {answer : Answer} {s₁ : Store}
    {reply : Except Failure Response} (asks : Asks settings s r operation)
    (done : (operation.perform draw).on s = (.ok answer, s₁))
    (replies : Replies settings r operation answer reply)
    (hg : (Service.answer reply).Gives s₁ result s') : Outcome settings draw s r result s' := by
  obtain ⟨rfl, rfl⟩ := answer_gives hg
  exact .did asks done replies

end Outcome

theorem refused_outcome (hg : Route.handler.refused.Gives s result s') :
    Outcome settings draw s r result s' := by
  cases hg
  exact .failed _

theorem registerEndpoint_outcome (route : Route.ofPath? r.path = some .register)
    (method : r.method = .post) (hg : (registerEndpoint settings draw r).Gives s result s') :
    Outcome settings draw s r result s' := by
  refine .of_read (reads_readCredentials settings r) hg fun ⟨email, password⟩ read hg => ?_
  dsimp only at hg
  split at hg
  · obtain ⟨rfl, rfl⟩ := throw_gives hg
    exact .failed _
  · next he =>
    split at hg
    · obtain ⟨rfl, rfl⟩ := throw_gives hg
      exact .failed _
    · next hp =>
      refine .of_act (.register email password) rfl hg fun id s₁ done hg => ?_
      exact .of_answer (.register route method read (by simpa using And.intro he hp)) done
        .registered hg

theorem loginEndpoint_outcome (route : Route.ofPath? r.path = some .login)
    (method : r.method = .post) (hg : (loginEndpoint settings draw r).Gives s result s') :
    Outcome settings draw s r result s' := by
  refine .of_read (reads_readCredentials settings r) hg fun ⟨email, password⟩ read hg => ?_
  refine .of_act (.login email password) rfl hg fun pair s₁ done hg => ?_
  exact .of_answer (.login route method read) done .loggedIn hg

theorem refreshEndpoint_outcome (route : Route.ofPath? r.path = some .refresh)
    (method : r.method = .post) (hg : (refreshEndpoint settings draw r).Gives s result s') :
    Outcome settings draw s r result s' := by
  refine .of_read (reads_readTexts settings _ r) hg fun texts read hg => ?_
  refine .of_act (.rotate (texts.headD "")) rfl hg fun pair s₁ done hg => ?_
  exact .of_answer (.refresh route method read) done .refreshed hg

theorem logoutEndpoint_outcome (route : Route.ofPath? r.path = some .logout)
    (method : r.method = .post) (hg : (logoutEndpoint r).Gives s result s') :
    Outcome settings draw s r result s' := by
  unfold logoutEndpoint at hg
  split at hg
  · next token bearer =>
    refine .of_act (.logout token) (bind_pure_comp _ _) hg fun _ s₁ done hg => ?_
    exact .of_answer (.logout route method bearer) done .loggedOut hg
  · cases hg
    exact .failed _

theorem listEndpoint_outcome (route : Route.ofPath? r.path = some .notes)
    (method : r.method = .get) (hg : (listEndpoint settings r).Gives s result s') :
    Outcome settings draw s r result s' := by
  refine .of_authenticate hg fun user caller hg => ?_
  obtain ⟨wanted, query⟩ : ∃ wanted, Wanted.ofQuery r.query = wanted := ⟨_, rfl⟩
  rw [query] at hg
  refine .of_read .get hg fun _ hs hg => ?_
  cases hs
  rcases hlisting : s.listing user wanted.page wanted.size wanted.q with ⟨items, total⟩
  rw [hlisting] at hg
  have done : ((Operation.listing user wanted.page wanted.size wanted.q).perform draw).on s =
      (.ok (.page items total), s) := by
    change (Except.ok (Answer.page (s.listing user wanted.page wanted.size wanted.q).1
      (s.listing user wanted.page wanted.size wanted.q).2), s) = _
    rw [hlisting]
  refine .of_answer (.list route method caller query) done .listed ?_
  rw [apply_ite Service.answer]
  exact hg

theorem addEndpoint_outcome (route : Route.ofPath? r.path = some .notes)
    (method : r.method = .post) (hg : (addEndpoint settings r).Gives s result s') :
    Outcome settings draw s r result s' := by
  refine .of_authenticate hg fun user caller hg => ?_
  refine .of_read (reads_readNote settings r) hg fun ⟨title, body⟩ read hg => ?_
  dsimp only at hg
  split at hg
  · obtain ⟨rfl, rfl⟩ := throw_gives hg
    exact .failed _
  · next titled =>
    refine .of_act (.addNote user title body) rfl hg fun note s₁ done hg => ?_
    exact .of_answer (.add route method caller read titled) done .added hg

section Note

variable {segment : String} (route : Route.ofPath? r.path = some (.note segment))
include route

theorem showEndpoint_outcome (method : r.method = .get)
    (hg : (showEndpoint settings segment r).Gives s result s') :
    Outcome settings draw s r result s' := by
  refine .of_authenticate hg fun user caller hg => ?_
  refine .of_readId hg fun id number hg => ?_
  refine .of_act (.findNote user id) rfl hg fun note s₁ done hg => ?_
  refine .of_answer (.look route method caller number) done .shown ?_
  rw [apply_ite Service.answer]
  exact hg

theorem changeEndpoint_outcome (method : r.method = .put)
    (hg : (changeEndpoint settings segment r).Gives s result s') :
    Outcome settings draw s r result s' := by
  refine .of_authenticate hg fun user caller hg => ?_
  refine .of_readId hg fun id number hg => ?_
  refine .of_read (reads_readNote settings r) hg fun ⟨title, body⟩ read hg => ?_
  refine .of_act (.changeNote user id title body) rfl hg fun note s₁ done hg => ?_
  exact .of_answer (.change route method caller number read) done .changed hg

theorem removeEndpoint_outcome (method : r.method = .delete)
    (hg : (removeEndpoint settings segment r).Gives s result s') :
    Outcome settings draw s r result s' := by
  refine .of_authenticate hg fun user caller hg => ?_
  refine .of_readId hg fun id number hg => ?_
  refine .of_act (.removeNote user id) rfl hg fun note s₁ done hg => ?_
  exact .of_answer (.remove route method caller number) done .removed hg

end Note

/-- A route that knows one method. -/
theorem only_outcome {method : Http.Method} {h : Handler Response}
    (hg : (if r.method = method then h else Route.handler.refused).Gives s result s')
    (rest : r.method = method → h.Gives s result s' → Outcome settings draw s r result s') :
    Outcome settings draw s r result s' := by
  split at hg
  · next hm => exact rest hm hg
  · exact refused_outcome hg

theorem handler_outcome (hg : (handler settings draw r).Gives s result s') :
    Outcome settings draw s r result s' := by
  unfold handler at hg
  split at hg
  · next route path =>
    have fixed {reply : Except Failure Response}
        (which : route = .health ∨ route = .ready ∨ route = .info) (method : r.method = .get)
        (hg : (answer reply).Gives s result s') : Outcome settings draw s r result s' := by
      obtain ⟨rfl, rfl⟩ := answer_gives hg
      exact .fixed path which method
    cases route with
    | health => exact only_outcome hg fun method hg => fixed (.inl rfl) method hg
    | ready => exact only_outcome hg fun method hg => fixed (.inr (.inl rfl)) method hg
    | info => exact only_outcome hg fun method hg => fixed (.inr (.inr rfl)) method hg
    | register => exact only_outcome hg fun method hg => registerEndpoint_outcome path method hg
    | login => exact only_outcome hg fun method hg => loginEndpoint_outcome path method hg
    | refresh => exact only_outcome hg fun method hg => refreshEndpoint_outcome path method hg
    | logout => exact only_outcome hg fun method hg => logoutEndpoint_outcome path method hg
    | notes =>
      unfold Route.handler at hg
      dsimp only at hg
      split at hg
      · next method => exact listEndpoint_outcome path method hg
      · next method => exact addEndpoint_outcome path method hg
      · exact refused_outcome hg
    | note segment =>
      unfold Route.handler at hg
      dsimp only at hg
      split at hg
      · next method => exact showEndpoint_outcome path method hg
      · next method => exact changeEndpoint_outcome path method hg
      · next method => exact removeEndpoint_outcome path method hg
      · exact refused_outcome hg
  · cases hg
    exact .failed _

end Endpoints

/-! ## Answers -/

theorem Asks.method_ne_head {operation : Operation} (h : Asks settings s r operation) :
    r.method ≠ .head := by
  cases h <;> simp [*]

/-- What comes of a request is its answer, and the state after it. -/
theorem exists_outcome (settings : Settings) (draw : Draw) (r : Request) (s : Store) :
    ∃ result s', Outcome settings draw s r result s' ∧
      serve settings draw r s = (sent r.method (responseOf result), s') := by
  rcases hrun : StateT.run (ExceptT.run (handler settings draw r)) s with ⟨result, s'⟩
  exact ⟨result, s', handler_outcome hrun, serve_eq_of_gives hrun⟩

end NotesBench.Service
