import NotesBench.Load.Target
import NotesBench.Proofs.Http.Url

/-!
# Requests reach the service

A plain call is one whose token and validator are plain and whose note is named by a number. To an
address of host and port alone (`Client.IsAt`) the request of every plain call can be written
(`Client.build_eq`), and the service behind the network gets it as it was written
(`respond_across`).
-/

namespace NotesBench.Load

open Http (Url Request Response IsPlain)
open Service (Settings Store)

/-! ## Plain calls -/

/-- What a call sends besides its record is plain. -/
def Call.IsPlain : Call → Prop
  | .createNote token _ => Http.IsPlain token
  | .readNote token id etag =>
    Http.IsPlain token ∧ (∃ n : Nat, n < Text.signedEnd ∧ id = .number n) ∧
      ∀ tag ∈ etag, Http.IsPlain tag
  | .health | .ready | .register _ | .login _ => True

namespace Call

/-- The segments of the path. -/
def segments : Call → List (List Char)
  | .health => ["healthz".toList]
  | .ready => ["readyz".toList]
  | .register _ => ["auth".toList, "register".toList]
  | .login _ => ["auth".toList, "login".toList]
  | .createNote .. => ["notes".toList]
  | .readNote _ id _ => ["notes".toList, Http.encodeSegment id.shown]

theorem path_eq (call : Call) : call.path = String.ofList (Url.pathOf call.segments) := by
  cases call with
  | readNote token id etag =>
    rw [String.ext_iff]
    simp [path, notePath, segments, Url.pathOf]
  | _ => rfl

theorem segments_ne_nil (call : Call) : call.segments ≠ [] := by
  cases call <;> exact List.cons_ne_nil _ _

/-- The request of a call. -/
def request (call : Call) : Request :=
  ⟨call.method, call.path, call.headers, .complete (call.json.elim [] Json.octets)⟩

theorem body_request {call : Call} {v : Json} (h : call.json = some v) :
    call.request.body = .complete v.octets := by
  simp only [request, h, Option.elim_some]

end Call

theorem isAlphanum_of_mem_natText {n : Nat} {c : Char} (h : c ∈ (Text.natText n).toList) :
    c.isAlphanum = true := by
  rw [Text.toList_natText] at h
  simp [Char.isAlphanum, Text.isDigit_of_mem_toDigits h]

/-- The number of a note stands in a path as it is. -/
theorem encodeSegment_intText (n : Int) :
    Http.encodeSegment (Text.intText n) = (Text.intText n).toList := by
  refine Http.encodeSegment_of_isUnreserved fun c hc => ?_
  rcases Text.isDigit_of_mem_intText hc with rfl | hdigit
  · rfl
  · simp [Http.isUnreserved, Char.isAlphanum, hdigit]

theorem encodeSegment_number (n : Nat) :
    Http.encodeSegment (NoteId.number n).shown = Nat.toDigits 10 n :=
  (encodeSegment_intText n).trans (Text.toList_natText n)

namespace Call.IsPlain

variable {call : Call} (h : call.IsPlain)
include h

theorem isPlainSegment : ∀ s ∈ call.segments, Url.IsPlainSegment s := by
  cases call with
  | readNote token id etag =>
    obtain ⟨-, ⟨n, -, rfl⟩, -⟩ := h
    have hd : Url.IsPlainSegment (Nat.toDigits 10 n) :=
      ⟨Nat.toDigits_ne_nil, fun c hc => isAlphanum_of_mem_natText (by rwa [Text.toList_natText])⟩
    have hn : ∀ s ∈ ["notes".toList], Url.IsPlainSegment s := Url.forall_isPlainSegment rfl
    simp only [segments, encodeSegment_number, List.forall_mem_cons] at hn ⊢
    exact ⟨hn.1, hd, hn.2⟩
  | register _ | login _ | createNote _ _ | health | ready => exact Url.forall_isPlainSegment rfl

theorem isWritten : ∀ s ∈ call.segments, Url.IsWritten s :=
  fun s hs => (h.isPlainSegment s hs).isWritten

theorem utf8ByteSize_path_le : call.path.utf8ByteSize ≤ 26 := by
  rw [call.path_eq, Url.utf8ByteSize_pathOf h.isWritten]
  cases call with
  | readNote token id etag =>
    obtain ⟨-, ⟨n, hn, rfl⟩, -⟩ := h
    have hd : (Nat.toDigits 10 n).length ≤ 19 :=
      (Nat.length_toDigits_le_iff (by decide) (by decide)).2 (Nat.lt_trans hn (by decide))
    simp [segments, encodeSegment_number, Url.pathOf]
    omega
  | register _ | login _ | createNote _ _ | health | ready => simp [segments, Url.pathOf]

theorem isValue_and_arriving :
    ∀ field ∈ call.headers, Http.isValue field.2 = true ∧ Http.arriving field.2 = field.2 := by
  have hc : Http.isValue headers.contentType.2 = true ∧
      Http.arriving headers.contentType.2 = headers.contentType.2 := by decide
  have ht {token : String} (hp : Http.IsPlain token) :
      Http.isValue (authorization token).2 = true ∧
        Http.arriving (authorization token).2 = (authorization token).2 :=
    ⟨Http.isValue_bearer hp, Http.arriving_bearer hp⟩
  cases call with
  | createNote token note => simpa [headers] using ⟨ht h, hc⟩
  | readNote token id etag =>
    obtain ⟨hp, -, htag⟩ := h
    cases etag with
    | none => simpa [headers] using ht hp
    | some tag =>
      have := htag tag rfl
      simpa [headers] using ⟨ht hp, this.isValue_eq, this.arriving_eq⟩
  | register _ | login _ => simpa [headers] using hc
  | health | ready => simp [headers]

theorem arriving_request : call.request.arriving = call.request := by
  have hh : call.headers.arriving = call.headers :=
    (List.map_congr_left fun field hf => by rw [(h.isValue_and_arriving field hf).2]; rfl).trans
      (List.map_id _)
  simp only [Request.arriving, request, hh]

theorem path_request : call.request.path = call.path := by
  have hp := Url.isPathText_pathOf h.isWritten
  simp only [Request.path, Request.resource, request, call.path_eq, String.toList_ofList,
    Url.takeWhile_ne hp.noFragment, Url.takeWhile_ne hp.noQuery]

end Call.IsPlain

/-! ## Addresses -/

/-- The address of a client names a location that takes requests: host and port alone, without
characters that no request can carry, and short enough for a path behind it. -/
structure Client.IsAt (c : Client) (u : Url) : Prop where
  bare : Url.IsBare c.baseUrl u
  host : u.host.toList.any Http.Host.isUnsendable = false
  room : u.text.utf8ByteSize + 25 ≤ Url.maxLength

variable {c : Client} {u : Url} {call : Call}

/-- What is sent for a call. -/
def Client.outgoing (u : Url) (call : Call) : Outgoing :=
  ⟨{ u with path := call.path }, call.request⟩

/-- What comes of a call, given the location that is read for it: a header field may refuse a value,
and no request may be sent to the location. -/
theorem Client.build_atPlace {path : String} {place : String × Option Nat}
    (hread : Url.read (c.baseUrl ++ call.path) = .ok (Url.atPlace path place)) :
    c.build call =
      if List.all call.headers fun field => Http.isValue field.2 then
        if (Url.atPlace path place).isSendable then
          .ok ⟨Url.atPlace path place, { call.request with target := path }⟩
        else .error (.unsendable (Url.atPlace path place))
      else .error .headerValue := by
  have hcred : (Url.atPlace path place).withoutCredentials = Url.atPlace path place := by
    simp [Url.withoutCredentials, Url.credentials?_atPlace]
  have hgiven : (Url.read (c.baseUrl ++ call.path)).mapError BuildProblem.url =
      .ok (Url.atPlace path place) := by
    rw [hread]
    rfl
  simp only [build, hgiven, bind, Except.bind, hcred, Url.credentials?_atPlace, Url.target_atPlace]
  cases List.all call.headers fun field => Http.isValue field.2 with
  | false => rfl
  | true =>
    cases (Url.atPlace path place).isSendable with
    | false => rfl
    | true => cases hj : call.json <;> simp only [Call.request, hj] <;> rfl

/-- The request of a plain call can be written. -/
theorem Client.build_eq (hc : c.IsAt u) (h : call.IsPlain) :
    c.build call = .ok (outgoing u call) := by
  obtain ⟨place, -, -, -, host, -, rfl⟩ := hc.bare.exists_place
  have hread : Url.read (c.baseUrl ++ call.path) = .ok (Url.atPlace call.path host) := by
    rw [call.path_eq, hc.bare.read_append call.segments_ne_nil h.isWritten,
      Url.resolve_eq_append fun s hs => (h.isPlainSegment s hs).isNamed]
    rfl
  have hvalues : (List.all call.headers fun field => Http.isValue field.2) = true :=
    List.all_eq_true.2 fun field hf => (h.isValue_and_arriving field hf).1
  have hsend : (Url.atPlace call.path host).isSendable = true := by
    have hroom := hc.room
    have hsize := Url.utf8ByteSize_text_atPlace call.path host
    have hpath := h.utf8ByteSize_path_le
    simp only [Url.isSendable, Bool.and_eq_true, decide_eq_true_eq, Bool.not_eq_true']
    exact ⟨hc.host, by omega⟩
  rw [build_atPlace hread, if_pos hvalues, if_pos hsend]
  rfl

/-! ## The service behind the network -/

/-- The service gets the request of a plain call as it was written. -/
theorem respond_across {settings : Settings} {supply : Supply} {s s' : Store}
    {response : Response} (hu : u.secure = false) (h : call.IsPlain)
    (hs : Service.serve settings (supply.next s) call.request s = (response, s')) :
    (Target.across (.to u.authority) (Target.service settings supply)).respond
      (Client.outgoing u call) s = (.ok response.arriving, s') := by
  have hto : (!(Client.outgoing u call).url.secure &&
      (Client.outgoing u call).url.authority == u.authority) = true := by
    change (!u.secure && u.authority == u.authority) = true
    simp [hu]
  have ha : (Client.outgoing u call).request.arriving = call.request := h.arriving_request
  simp only [Target.across, if_pos hto, ha, Target.service, hs]
  rfl

end NotesBench.Load
