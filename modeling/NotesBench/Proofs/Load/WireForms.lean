import NotesBench.Proofs.Load.Agreement

/-!
# Client and service read each other

What a client writes the service reads as it was meant, and the other way round: accounts and new
notes with any texts, tokens, and notes with any number and their validators
(`client_and_service_agree`).
-/

namespace NotesBench.Load

open Service (Settings TokenPair Note Route responseOf jsonReply)

/-! ## Records -/

section Records

variable {c : Client} {call : Call} {out : Outgoing} {v : Json}

/-- What is sent for a call is its record. -/
theorem Client.body_of_build (h : c.build call = .ok out) (hv : call.json = some v) :
    out.request.arriving.body = .complete v.octets := by
  simp only [build, bind, Except.bind] at h
  split at h
  · cases h
  split at h
  · cases h
  split at h
  · cases h
  cases h
  simp only [Http.Request.arriving, hv]

end Records

/-! ## Tokens -/

/-- A hexadecimal digit, with small letters. -/
def isTokenDigit (c : Char) : Bool := c.isDigit || ('a' ≤ c && c ≤ 'f')

/-- A token as the service makes it. -/
structure IsToken (token : String) : Prop where
  length : token.length = 32
  digits : token.toList.all isTokenDigit = true

theorem IsToken.isPlain {token : String} (h : IsToken token) : Http.IsPlain token where
  visible c hc := by
    have hdigits := List.all_eq_true.1 h.digits c hc
    simp only [isTokenDigit, Bool.or_eq_true, Bool.and_eq_true, decide_eq_true_eq] at hdigits
    rcases hdigits with hdigit | ⟨hlow, hhigh⟩
    · exact Http.isVisible_of_isDigit hdigit
    · have hlow : 'a'.toNat ≤ c.toNat := UInt32.le_iff_toNat_le.1 hlow
      have hhigh : c.toNat ≤ 'f'.toNat := UInt32.le_iff_toNat_le.1 hhigh
      exact Http.isVisible_iff.2 ⟨Nat.le_trans (by decide) hlow, Nat.le_trans hhigh (by decide)⟩
  nonempty hempty := by
    have hlength := h.length
    rw [← String.length_toList, hempty] at hlength
    cases hlength

/-- The token that a call carries. -/
def Call.token? : Call → Option String
  | .createNote token _ | .readNote token _ _ => some token
  | .health | .ready | .register _ | .login _ => none

theorem Call.exists_headers {call : Call} {token : String} (h : call.token? = some token) :
    ∃ rest, call.headers = authorization token :: rest := by
  cases call with
  | createNote => exact ⟨_, by cases h; rfl⟩
  | readNote => exact ⟨_, by cases h; rfl⟩
  | health | ready | register | login => cases h

theorem bearer?_arriving {token : String} (h : Http.IsPlain token) (rest : Http.Headers) :
    Http.bearer? (Http.Headers.arriving (Call.authorization token :: rest)) = some token := by
  have harriving : Http.Headers.arriving (Call.authorization token :: rest) =
      Call.authorization token :: rest.arriving :=
    congrArg (fun value => ("authorization", value) :: rest.arriving) (Http.arriving_bearer h)
  rw [harriving]
  exact Http.bearer?_authorization h (first?_authorization token _)

/-! ## Notes -/

/-- What is sent of a note comes back to the note. -/
structure ReadsBack (note : Note) : Prop where
  number : ∀ hidden, (NoteReply.ofBody (note.createdJson hidden).octets).noteId =
    if hidden then none else some (.number note.id)
  path : ∃ segment, Route.ofPath? (notePath (.number note.id)) = some (.note segment) ∧
    Text.signed? segment.toList = some note.id
  validator : ∀ (settings : Settings) (v : Json) (reply : Reply), settings.hideEtag = false →
    Reply.ofResponse (responseOf (jsonReply 200 v (settings.shownEtag note.etag))).arriving =
      reply →
    reply.etag = some note.etag ∧
      ∀ token id,
        Http.matches? (Call.readNote token id reply.etag).headers.arriving note.etag = true

/-- The validator that is sent back is found, whatever the token is. -/
theorem matches?_arriving (note : Note) (token : String) (id : NoteId) :
    Http.matches? (Call.readNote token id (some note.etag)).headers.arriving note.etag = true := by
  refine Http.matches?_validator note.isPlain_etag note.comma_not_mem_etag ?_
  have harriving : (Call.readNote token id (some note.etag)).headers.arriving =
      [("authorization", Http.arriving ("Bearer " ++ token)), ("if-none-match", note.etag)] := by
    simp [Call.headers, Call.authorization, Http.Headers.arriving, note.isPlain_etag.arriving_eq]
  rw [harriving, Http.Headers.all_cons_of_ne (by decide), Http.Headers.all_cons_self]
  rfl

theorem readsBack {note : Note}
    (h : -(Text.signedEnd : Int) ≤ note.id ∧ note.id < Text.signedEnd) : ReadsBack note where
  number := noteId_ofBody h
  path := ⟨_, ofPath?_notePath note.id, Text.signed?_intText h⟩
  validator settings v reply hshown hreply := by
    have hetag : settings.shownEtag note.etag = some note.etag := by
      rw [Settings.shownEtag, hshown, if_neg Bool.false_ne_true]
    rw [hetag, ofResponse_jsonReply (by simpa using note.isPlain_etag)] at hreply
    subst hreply
    exact ⟨rfl, matches?_arriving note⟩

/-- Client and service agree on what is sent: the service reads the texts of an account and of a new
note as the client has them, and the client finds the token, the number of a new note and its
validator in the answers, and sends them so that the service finds them again. -/
theorem client_and_service_agree :
    (∀ (c : Client) (account : Credentials) (call : Call) (out : Outgoing),
      call = .register account ∨ call = .login account → c.build call = .ok out →
        ∃ bytes, out.request.arriving.body = .complete bytes ∧
          Service.decodeTexts? ["email", "password"] bytes =
            some [account.email, account.password]) ∧
    (∀ (c : Client) (token : String) (note : NewNote) (out : Outgoing),
      c.build (.createNote token note) = .ok out →
        ∃ bytes, out.request.arriving.body = .complete bytes ∧
          Service.decodeTexts? ["title", "body"] bytes = some [note.title, note.body]) ∧
    (∀ pair : TokenPair, IsToken pair.access → IsToken pair.refresh →
      (LoginReply.ofBody pair.json.octets).token = some pair.access ∧
        ∀ call : Call, call.token? = some pair.access →
          Http.bearer? call.headers.arriving = some pair.access) ∧
    ∀ note : Note, -(Text.signedEnd : Int) ≤ note.id ∧ note.id < Text.signedEnd →
      ReadsBack note := by
  refine ⟨fun c account call out hcall hout => ?_, fun c token note out hout => ?_,
    fun pair haccess _ => ⟨token_ofBody haccess.isPlain.ne_empty, fun call hcall => ?_⟩,
    fun note => readsBack⟩
  · have hjson : call.json = some account.json := by
      rcases hcall with rfl | rfl
      · rfl
      · rfl
    exact ⟨_, Client.body_of_build hout hjson, Service.decodeTexts?_pairJson (by decide) _ _⟩
  · exact ⟨_, Client.body_of_build hout rfl, Service.decodeTexts?_pairJson (by decide) _ _⟩
  · obtain ⟨rest, hheaders⟩ := Call.exists_headers hcall
    rw [hheaders]
    exact bearer?_arriving haccess.isPlain rest

/-! ## Unusual contents -/

/-- An account with quotes, backslashes and control characters. -/
def quotedAccount : Credentials := ⟨"\"a\\\"\n@\u0000", "\t\u001f\u007f/"⟩

/-- A note with characters of two, three and four octets. -/
def wideNote : NewNote := ⟨" \u00e9\u2028\ufffd ", "😀"⟩

def hexPair : TokenPair :=
  ⟨"0123456789abcdef0123456789abcdef", "fedcba9876543210fedcba9876543210"⟩

/-- The note with the smallest number. -/
def leastNote : Note := ⟨-9_223_372_036_854_775_808, 1, "\\", "", 1⟩

theorem unusual_contents_agree :
    (∃ bytes, (Client.outgoing localUrl (.login quotedAccount)).request.arriving.body =
        .complete bytes ∧
      Service.decodeTexts? ["email", "password"] bytes =
        some [quotedAccount.email, quotedAccount.password]) ∧
    (∃ bytes, (Client.outgoing localUrl (.createNote hexPair.access wideNote)).request.arriving.body
        = .complete bytes ∧
      Service.decodeTexts? ["title", "body"] bytes = some [wideNote.title, wideNote.body]) ∧
    (LoginReply.ofBody hexPair.json.octets).token = some hexPair.access ∧
    Http.bearer? (Call.createNote hexPair.access wideNote).headers.arriving =
      some hexPair.access ∧
    ReadsBack leastNote := by
  have haccess : IsToken hexPair.access := ⟨by decide, by decide⟩
  have hrefresh : IsToken hexPair.refresh := ⟨by decide, by decide⟩
  obtain ⟨haccounts, hnotes, htokens, hnumbers⟩ := client_and_service_agree
  obtain ⟨htoken, hbearer⟩ := htokens hexPair haccess hrefresh
  exact ⟨haccounts localJourney.client quotedAccount (.login quotedAccount) _ (.inr rfl)
      (Client.build_eq isAt_localUrl trivial),
    hnotes localJourney.client hexPair.access wideNote _
      (Client.build_eq isAt_localUrl haccess.isPlain),
    htoken, hbearer _ rfl, hnumbers leastNote (by decide)⟩

end NotesBench.Load
