import Mathlib.Data.List.Basic
import NotesBench.Proofs.Http.Message
import NotesBench.Proofs.Json.Tree
import NotesBench.Proofs.Service.Operations
import NotesBench.Service.Serve

/-!
# What handlers give

`Handler.Gives` says what a handler gives at a state and which state it leaves. A handler that is
put together gives what its parts give one after the other (`Gives.bind`). A record of texts that
was written is read as these texts (`gives_readTexts`), and each endpoint has one lemma for a
request that it accepts. The route of a path is the one that has it (`ofPath?_eq_some_iff`).
-/

namespace NotesBench.Service

open Http (Request Response)

/-- At a state the handler gives the result and leaves the other state. -/
def Handler.Gives {α : Type} (h : Handler α) (s : Store) (r : Except Failure α) (s' : Store) :
    Prop :=
  StateT.run (ExceptT.run h) s = (r, s')

namespace Handler.Gives

variable {α β : Type} {s s' s'' : Store} {a : α}

theorem pure (a : α) (s : Store) : Gives (Pure.pure a) s (.ok a) s := rfl

theorem bind {h : Handler α} {f : α → Handler β} {r : Except Failure β}
    (hh : h.Gives s (.ok a) s') (hf : (f a).Gives s' r s'') : (h >>= f).Gives s r s'' := by
  unfold Gives at hh hf ⊢
  rw [ExceptT.run_bind, StateT.run_bind, hh]
  exact hf

theorem bind_error {h : Handler α} {f : α → Handler β} {e : Failure}
    (hh : h.Gives s (.error e) s') : (h >>= f).Gives s (.error e) s' := by
  unfold Gives at hh ⊢
  rw [ExceptT.run_bind, StateT.run_bind, hh]
  rfl

theorem answer (reply : Except Failure Response) (s : Store) :
    Gives (Service.answer reply) s reply s := rfl

theorem get (s : Store) : Gives MonadState.get s (.ok s) s := rfl

theorem act {action : Store.Action α} (h : action.on s = (.ok a, s')) :
    Gives (Service.act action) s (.ok a) s' := by
  refine (get s).bind ?_
  rw [h]
  rfl

theorem act_refused {action : Store.Action α} {refusal : Refusal}
    (h : action.on s = (.error refusal, s')) :
    Gives (Service.act action) s (.error (.ofRefusal refusal)) s' := by
  refine (get s).bind ?_
  rw [h]
  rfl

end Handler.Gives

open Handler (Gives)

variable {settings : Settings} {draw : Draw} {r : Request} {s s' : Store}

/-! ## Paths -/

def Route.path : Route → String
  | .health => "/healthz"
  | .ready => "/readyz"
  | .info => "/info"
  | .register => "/auth/register"
  | .login => "/auth/login"
  | .refresh => "/auth/refresh"
  | .logout => "/auth/logout"
  | .notes => "/notes"
  | .note segment => "/notes/" ++ segment

/-- A note is named by one segment, which is not empty. -/
def Route.IsProper : Route → Prop
  | .note segment => segment ≠ "" ∧ '/' ∉ segment.toList
  | _ => True

theorem ofPath?_note {segment : String} (h : segment ≠ "") (hslash : '/' ∉ segment.toList) :
    Route.ofPath? ("/notes/" ++ segment) = some (.note segment) := by
  have hcut : "/notes/".toList.isPrefixOf? ("/notes/" ++ segment).toList = some segment.toList := by
    rw [String.toList_append]
    rfl
  -- The path begins like none of the others, or is longer than they are.
  have hne {path : String} (hp : "/notes/".toList.isPrefixOf path.toList = false) :
      "/notes/" ++ segment ≠ path := by
    rintro rfl
    rw [← List.isSome_isPrefixOf?_eq_isPrefixOf, hcut] at hp
    cases hp
  rw [Route.ofPath?, if_neg (hne (by decide)), if_neg (hne (by decide)), if_neg (hne (by decide)),
    if_neg (hne (by decide)), if_neg (hne (by decide)), if_neg (hne (by decide)),
    if_neg (hne (by decide)), if_neg (hne (by decide)), hcut]
  simp [h, hslash]

theorem ofPath?_eq_some_iff {path : String} {route : Route} :
    Route.ofPath? path = some route ↔ route.path = path ∧ route.IsProper := by
  constructor
  · intro h
    unfold Route.ofPath? at h
    iterate 8
      split at h
      · next hpath =>
        cases h
        exact ⟨hpath.symm, trivial⟩
    split at h
    · next segment hcut =>
      split at h
      · cases h
      · next hsegment =>
        cases h
        have hpath : "/notes/".toList ++ segment = path.toList :=
          List.isPrefixOf?_eq_some_iff_append_eq.1 hcut
        obtain ⟨hne, hslash⟩ : segment ≠ [] ∧ '/' ∉ segment := by simpa using hsegment
        have hwhole : "/notes/".toList ++ (String.ofList segment).toList = path.toList :=
          (congrArg _ String.toList_ofList).trans hpath
        refine ⟨String.toList_injective (String.toList_append.trans hwhole), ?_, ?_⟩
        · simpa [String.ofList_eq_empty_iff] using hne
        · rwa [String.toList_ofList]
    · cases h
  · rintro ⟨rfl, h⟩
    cases route with
    | note segment => exact ofPath?_note h.1 h.2
    | _ => rfl

/-! ## Requests -/

/-- The response that is made of a result. -/
def responseOf : Except Failure Response → Response
  | .ok response => response
  | .error failure => failure.response

/-- The answer to a request is made of what its handler gives. -/
theorem serve_eq_of_gives {result : Except Failure Response}
    (h : (handler settings draw r).Gives s result s') :
    serve settings draw r s = (sent r.method (responseOf result), s') := by
  unfold Gives at h
  simp only [serve, h]
  cases result <;> rfl

/-- The answer to a request is what its route gives. -/
theorem serve_of_gives {route : Route} {result : Except Failure Response}
    (hr : Route.ofPath? r.path = some route) (hm : r.method ≠ .head)
    (h : (route.handler settings draw r).Gives s result s') :
    serve settings draw r s = (responseOf result, s') := by
  have hgives : (handler settings draw r).Gives s result s' := by
    rw [handler, hr]
    exact h
  rw [serve_eq_of_gives hgives, sent, if_neg hm]

/-- The user that a request is made for. -/
def caller? (s : Store) (r : Request) : Option Int := (Http.bearer? r.headers).bind s.holder?

theorem caller?_eq_some {token : String} {user : Int} (ht : Http.bearer? r.headers = some token)
    (hu : s.holder? token = some user) : caller? s r = some user := by
  rw [caller?, ht, Option.bind_some, hu]

theorem gives_authenticate {user : Int} (caller : caller? s r = some user) :
    (authenticate r).Gives s (.ok user) s := by
  unfold caller? at caller
  refine (Handler.Gives.get s).bind ?_
  rw [caller]
  rfl

/-- A record of two texts. -/
def pairJson (a x b y : String) : Json := .object [(a, .string x), (b, .string y)]

theorem fields?_pairJson {a b : String} (hab : a ≠ b) (x y : String) :
    ((pairJson a x b y).tree.fields? [a, b]).bind (·.mapM Json.textOrEmpty?) = some [x, y] := by
  rw [pairJson, Json.fields?_tree]
  simp [Json.field?, hab, hab.symm, Json.textOrEmpty?]

/-- What was written as a record of two texts is read as these texts. -/
theorem decodeTexts?_pairJson {a b : String} (hab : a ≠ b) (x y : String) :
    decodeTexts? [a, b] (pairJson a x b y).octets = some [x, y] := by
  have hv : (pairJson a x b y).isExact = true := by
    simp [pairJson, Json.isExact, Json.membersAreExact]
  rw [decodeTexts?, Json.read?_octets hv]
  exact fields?_pairJson hab x y

/-- A record of two texts is read as two texts. -/
theorem exists_pair_of_decodeTexts?_eq_some {a b : String} {bytes : Text.Octets}
    {texts : List String} (h : decodeTexts? [a, b] bytes = some texts) :
    ∃ x y, texts = [x, y] := by
  obtain ⟨v, -, h⟩ := Option.bind_eq_some_iff.1 h
  obtain ⟨fields, hfields, h⟩ := Option.bind_eq_some_iff.1 h
  have hlen : texts.length = 2 :=
    (Json.length_of_mapM_eq_some h).trans (Json.length_of_fields?_eq_some hfields)
  exact List.length_eq_two.1 hlen

/-- A body that is complete, short enough and a record of texts is read as these texts. -/
theorem gives_readTexts_of_decodeTexts? {names texts : List String} {bytes : Text.Octets}
    (hbody : r.body = .complete bytes) (hlen : bytes.length ≤ settings.maxBody)
    (hd : decodeTexts? names bytes = some texts) (s : Store) :
    (readTexts settings names r).Gives s (.ok texts) s := by
  have hb : (readBody settings r).Gives s (.ok bytes) s := by
    rw [readBody, hbody]
    dsimp only
    rw [if_neg (Nat.not_lt.2 hlen)]
    rfl
  refine hb.bind ?_
  rw [hd]
  rfl

/-- A body that was written as a record of two texts is read as these texts. -/
theorem gives_readTexts {a b x y : String} (hab : a ≠ b)
    (hbody : r.body = .complete (pairJson a x b y).octets)
    (hlen : (pairJson a x b y).octets.length ≤ settings.maxBody) (s : Store) :
    (readTexts settings [a, b] r).Gives s (.ok [x, y]) s :=
  gives_readTexts_of_decodeTexts? hbody hlen (decodeTexts?_pairJson hab x y) s

theorem gives_readCredentials {email password : String}
    (hbody : r.body = .complete (pairJson "email" email "password" password).octets)
    (hlen : (pairJson "email" email "password" password).octets.length ≤ settings.maxBody)
    (s : Store) : (readCredentials settings r).Gives s (.ok (Text.trim email, password)) s :=
  (gives_readTexts (by decide) hbody hlen s).bind (.pure _ s)

theorem gives_readNote {title body : String}
    (hbody : r.body = .complete (pairJson "title" title "body" body).octets)
    (hlen : (pairJson "title" title "body" body).octets.length ≤ settings.maxBody)
    (s : Store) : (readNote settings r).Gives s (.ok (Text.trim title, body)) s :=
  (gives_readTexts (by decide) hbody hlen s).bind (.pure _ s)

theorem gives_readId {segment : String} {id : Int} (h : Text.signed? segment.toList = some id)
    (s : Store) : (readId segment).Gives s (.ok id) s := by
  rw [readId, h]
  exact .pure _ s

/-! ## Accounts -/

section Accounts

variable {email password : String}
  (read : (readCredentials settings r).Gives s (.ok (email, password)) s)
include read

theorem gives_registerEndpoint (he : settings.acceptsEmail email = true)
    (hp : settings.acceptsPassword password = true) {id : Int}
    (h : (Store.register draw.salt email password).on s = (.ok id, s')) :
    (registerEndpoint settings draw r).Gives s
      (jsonReply 200 (.object [("id", .int id)]) none) s' := by
  refine read.bind ?_
  simp only [he, hp, Bool.not_true, Bool.false_eq_true, if_false]
  exact (Gives.pure _ s).bind ((Gives.pure _ s).bind ((Gives.act h).bind (.answer _ s')))

theorem gives_registerEndpoint_refused (he : settings.acceptsEmail email = true)
    (hp : settings.acceptsPassword password = true) {refusal : Refusal}
    (h : (Store.register draw.salt email password).on s = (.error refusal, s')) :
    (registerEndpoint settings draw r).Gives s (.error (.ofRefusal refusal)) s' := by
  refine read.bind ?_
  simp only [he, hp, Bool.not_true, Bool.false_eq_true, if_false]
  exact (Gives.pure _ s).bind ((Gives.pure _ s).bind (Gives.act_refused h).bind_error)

theorem gives_loginEndpoint {pair : TokenPair}
    (h : (Store.login draw.pair email password).on s = (.ok pair, s')) :
    (loginEndpoint settings draw r).Gives s (jsonReply 200 pair.json none) s' :=
  read.bind ((Gives.act h).bind (.answer _ s'))

end Accounts

theorem gives_refreshEndpoint {texts : List String}
    (read : (readTexts settings ["refresh"] r).Gives s (.ok texts) s) {pair : TokenPair}
    (h : (Store.rotate draw.pair (texts.headD "")).on s = (.ok pair, s')) :
    (refreshEndpoint settings draw r).Gives s (jsonReply 200 pair.json none) s' :=
  read.bind ((Gives.act h).bind (.answer _ s'))

theorem gives_logoutEndpoint {token : String} (ht : Http.bearer? r.headers = some token)
    (h : (Store.logout token).on s = (.ok (), s')) :
    (logoutEndpoint r).Gives s (emptyReply 204) s' := by
  unfold logoutEndpoint
  rw [ht]
  exact (Gives.act h).bind (.answer _ s')

/-! ## Notes -/

section Notes

variable {user : Int} (caller : caller? s r = some user)
include caller

theorem gives_listEndpoint (settings : Settings) {wanted : Wanted}
    (hw : Wanted.ofQuery r.query = wanted) {items : List Note} {total : Nat}
    (h : s.listing user wanted.page wanted.size wanted.q = (items, total)) :
    (listEndpoint settings r).Gives s
      (if Http.matches? r.headers (pageEtag wanted.page wanted.size wanted.q items) then
        emptyReply 304
      else jsonReply 200
        (.object [
          ("items", .array (items.map Note.itemJson)), ("page", .int wanted.page),
          ("size", .int wanted.size), ("total", .int total)])
        (settings.shownEtag (pageEtag wanted.page wanted.size wanted.q items))) s := by
  refine (gives_authenticate caller).bind ?_
  rw [hw]
  refine (Gives.get s).bind ?_
  rw [h]
  dsimp only
  split
  · exact .answer _ s
  · exact .answer _ s

theorem gives_addEndpoint {title body : String}
    (read : (readNote settings r).Gives s (.ok (title, body)) s) (hne : title ≠ "") {note : Note}
    (h : (Store.addNote user title body).on s = (.ok note, s')) :
    (addEndpoint settings r).Gives s
      (jsonReply 200 (note.createdJson settings.hideNoteId) (settings.shownEtag note.etag)) s' := by
  refine (gives_authenticate caller).bind (read.bind ?_)
  simp only [if_neg hne]
  exact (Gives.act h).bind (.answer _ s')

section Note

variable {segment : String} {id : Int} (hs : Text.signed? segment.toList = some id)
include hs

theorem gives_showEndpoint (settings : Settings) {note : Note}
    (h : (Store.findNote user id).on s = (.ok note, s')) :
    (showEndpoint settings segment r).Gives s
      (if Http.matches? r.headers note.etag then emptyReply 304
        else jsonReply 200 note.json (settings.shownEtag note.etag)) s' := by
  refine (gives_authenticate caller).bind ((gives_readId hs s).bind ((Gives.act h).bind ?_))
  split
  · exact .answer _ s'
  · exact .answer _ s'

theorem gives_changeEndpoint {title body : String}
    (read : (readNote settings r).Gives s (.ok (title, body)) s) {note : Note}
    (h : (Store.changeNote user id title body).on s = (.ok note, s')) :
    (changeEndpoint settings segment r).Gives s
      (jsonReply 200 note.json (settings.shownEtag note.etag)) s' :=
  (gives_authenticate caller).bind ((gives_readId hs s).bind
    (read.bind ((Gives.act h).bind (.answer _ s'))))

theorem gives_removeEndpoint (settings : Settings) {note : Note}
    (h : (Store.removeNote user id).on s = (.ok note, s')) :
    (removeEndpoint settings segment r).Gives s
      (jsonReply 200 note.json (settings.shownEtag note.etag)) s' :=
  (gives_authenticate caller).bind ((gives_readId hs s).bind
    ((Gives.act h).bind (.answer _ s')))

end Note

end Notes

end NotesBench.Service
