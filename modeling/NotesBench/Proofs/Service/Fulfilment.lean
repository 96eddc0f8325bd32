import NotesBench.Proofs.Service.Exchanges

/-!
# What is done is answered

An operation that a request asks for is done, and when it is not refused the request is answered
with what it gives (`Asks.serve_eq`). Such an answer never says that the request has failed, so
whatever is not answered with 200 or 204 has left the state as it was
(`untouched_unless_fulfilled`).
-/

namespace NotesBench.Service

open Http (Request Response)
open Handler (Gives)

theorem Store.map_on_eq_ok {α β : Type} {f : α → β} {action : Store.Action α} {s s' : Store} {b : β}
    (h : (f <$> action).on s = (.ok b, s')) : ∃ a, action.on s = (.ok a, s') ∧ f a = b := by
  rw [map_on] at h
  obtain ⟨hresult, hstate⟩ := Prod.mk.inj h
  cases hon : (action.on s).1 with
  | error refusal =>
    rw [hon] at hresult
    cases hresult
  | ok a =>
    rw [hon] at hresult
    exact ⟨a, Prod.ext hon hstate, Except.ok.inj hresult⟩

section Requests

variable {settings : Settings} {draw : Draw} {s s' : Store} {r : Request} {operation : Operation}
  {answer : Answer} {reply : Except Failure Response}

/-- What a request asks for is done, and answered. -/
theorem Asks.handler_gives (asks : Asks settings s r operation)
    (done : (operation.perform draw).on s = (.ok answer, s')) :
    ∃ route reply, Route.ofPath? r.path = some route ∧
      Replies settings r operation answer reply ∧
      (route.handler settings draw r).Gives s reply s' := by
  cases asks with
  | register route method read acceptable =>
    obtain ⟨id, hon, rfl⟩ := Store.map_on_eq_ok done
    refine ⟨_, _, route, .registered, ?_⟩
    rw [Route.handler, if_pos method]
    exact gives_registerEndpoint read acceptable.1 acceptable.2 hon
  | login route method read =>
    obtain ⟨pair, hon, rfl⟩ := Store.map_on_eq_ok done
    refine ⟨_, _, route, .loggedIn, ?_⟩
    rw [Route.handler, if_pos method]
    exact gives_loginEndpoint read hon
  | refresh route method read =>
    obtain ⟨pair, hon, rfl⟩ := Store.map_on_eq_ok done
    refine ⟨_, _, route, .refreshed, ?_⟩
    rw [Route.handler, if_pos method]
    exact gives_refreshEndpoint read hon
  | logout route method bearer =>
    rw [Operation.perform, bind_pure_comp] at done
    obtain ⟨⟨⟩, hon, rfl⟩ := Store.map_on_eq_ok done
    refine ⟨_, _, route, .loggedOut, ?_⟩
    rw [Route.handler, if_pos method]
    exact gives_logoutEndpoint bearer hon
  | @list user wanted route method caller query =>
    cases done
    refine ⟨_, _, route, .listed, ?_⟩
    rw [Route.handler, method]
    exact gives_listEndpoint caller settings query rfl
  | add route method caller read titled =>
    obtain ⟨note, hon, rfl⟩ := Store.map_on_eq_ok done
    refine ⟨_, _, route, .added, ?_⟩
    rw [Route.handler, method]
    exact gives_addEndpoint caller read titled hon
  | look route method caller number =>
    obtain ⟨note, hon, rfl⟩ := Store.map_on_eq_ok done
    refine ⟨_, _, route, .shown, ?_⟩
    rw [Route.handler, method]
    exact gives_showEndpoint caller number settings hon
  | change route method caller number read =>
    obtain ⟨note, hon, rfl⟩ := Store.map_on_eq_ok done
    refine ⟨_, _, route, .changed, ?_⟩
    rw [Route.handler, method]
    exact gives_changeEndpoint caller number read hon
  | remove route method caller number =>
    obtain ⟨note, hon, rfl⟩ := Store.map_on_eq_ok done
    refine ⟨_, _, route, .removed, ?_⟩
    rw [Route.handler, method]
    exact gives_removeEndpoint caller number settings hon

theorem Asks.serve_eq (asks : Asks settings s r operation)
    (done : (operation.perform draw).on s = (.ok answer, s')) :
    ∃ reply, Replies settings r operation answer reply ∧
      serve settings draw r s = (responseOf reply, s') := by
  obtain ⟨route, reply, path, replies, hgives⟩ := asks.handler_gives done
  exact ⟨reply, replies, serve_of_gives path asks.method_ne_head hgives⟩

/-! ## Answers -/

theorem status_tagged (settings : Settings) (v : Json) {tag : String} (h : Http.IsPlain tag) :
    (responseOf (jsonReply 200 v (settings.shownEtag tag))).status = 200 := by
  rw [jsonReply_tagged settings v h]
  rfl

/-- A reader that has the contents already gets none. -/
theorem status_revalidated (settings : Settings) (headers : Http.Headers) (v : Json) {tag : String}
    (h : Http.IsPlain tag) :
    (responseOf (if Http.matches? headers tag then emptyReply 304
      else jsonReply 200 v (settings.shownEtag tag))).status =
      bif Http.matches? headers tag then 304 else 200 := by
  cases Http.matches? headers tag with
  | true => rfl
  | false => exact status_tagged settings v h

/-- What a request has changed is answered with 200 or 204. -/
theorem Replies.status (h : Replies settings r operation answer reply)
    (hd : s.Does ⟨operation, .ok answer⟩ s') :
    (responseOf reply).status = 200 ∨ (responseOf reply).status = 204 ∨
      (responseOf reply).status = 304 ∧ s' = s := by
  have hlooked {tag : String} {v : Json} (ht : Http.IsPlain tag) :
      (responseOf (if Http.matches? r.headers tag then emptyReply 304
        else jsonReply 200 v (settings.shownEtag tag))).status = 200 ∨
      (responseOf (if Http.matches? r.headers tag then emptyReply 304
        else jsonReply 200 v (settings.shownEtag tag))).status = 304 := by
    rw [status_revalidated settings r.headers v ht]
    cases Http.matches? r.headers tag
    · exact .inl rfl
    · exact .inr rfl
  cases h with
  | registered | loggedIn | refreshed => exact .inl rfl
  | loggedOut => exact .inr (.inl rfl)
  | added | changed | removed => exact .inl (status_tagged settings _ (Note.isPlain_etag _))
  | listed =>
    cases hd.effect
    exact (hlooked (isPlain_pageEtag ..)).imp_right fun h => .inr ⟨h, rfl⟩
  | shown =>
    cases hd.effect
    exact (hlooked (Note.isPlain_etag _)).imp_right fun h => .inr ⟨h, rfl⟩

/-- A request that is not made with `POST`, `PUT` or `DELETE` asks for a look only. -/
theorem Asks.eq_of_looking (asks : Asks settings s r operation)
    (hd : s.Does ⟨operation, .ok answer⟩ s') (hpost : r.method ≠ .post) (hput : r.method ≠ .put)
    (hdelete : r.method ≠ .delete) : s' = s := by
  cases asks with
  | list | look =>
    cases hd.effect
    rfl
  | register _ method | login _ method | refresh _ method | logout _ method | add _ method =>
    exact absurd method hpost
  | change _ method => exact absurd method hput
  | remove _ method => exact absurd method hdelete

/-- A request that is not made with `POST`, `PUT` or `DELETE` leaves the state as it is. -/
theorem serve_of_looking (settings : Settings) (draw : Draw) (s : Store) (hpost : r.method ≠ .post)
    (hput : r.method ≠ .put) (hdelete : r.method ≠ .delete) : (serve settings draw r s).2 = s := by
  obtain ⟨result, s₁, outcome, hserve⟩ := exists_outcome settings draw r s
  rw [hserve]
  cases outcome with
  | failed | fixed => rfl
  | did asks done replies => exact asks.eq_of_looking ⟨draw, done⟩ hpost hput hdelete

/-- A request that is not answered with 200 or 204, or that is not made with `POST`, `PUT` or
`DELETE`, leaves the state as it is. An operation that a request asks for and that is not refused
is done, and then the answer says so. -/
theorem untouched_unless_fulfilled (settings : Settings) (draw : Draw) (r : Request) (s : Store) :
    ((serve settings draw r s).1.status ≠ 200 → (serve settings draw r s).1.status ≠ 204 →
      (serve settings draw r s).2 = s) ∧
    (r.method ≠ .post → r.method ≠ .put → r.method ≠ .delete → (serve settings draw r s).2 = s) ∧
    ∀ operation answer s', Asks settings s r operation →
      (operation.perform draw).on s = (.ok answer, s') →
      (serve settings draw r s).2 = s' ∧
        ((serve settings draw r s).1.status = 200 ∨ (serve settings draw r s).1.status = 204 ∨
          (serve settings draw r s).1.status = 304 ∧ s' = s) := by
  obtain ⟨result, s₁, outcome, hserve⟩ := exists_outcome settings draw r s
  refine ⟨?_, serve_of_looking settings draw s, ?_⟩
  · rw [hserve]
    intro h200 h204
    cases outcome with
    | failed | fixed => rfl
    | did asks done replies =>
      rw [status_sent] at h200 h204
      rcases replies.status ⟨draw, done⟩ with h | h | ⟨-, h⟩
      · exact absurd h h200
      · exact absurd h h204
      · exact h
  · intro operation answer s' asks done
    obtain ⟨reply, replies, hfulfilled⟩ := asks.serve_eq done
    rw [hfulfilled]
    exact ⟨rfl, replies.status ⟨draw, done⟩⟩

end Requests

end NotesBench.Service
