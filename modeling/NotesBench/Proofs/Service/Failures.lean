import NotesBench.Proofs.Json.Value
import NotesBench.Proofs.Service.Handling

/-!
# What failed requests are told

A failed request is answered with an object that has the status and the message of the failure and
nothing else (`Failure.Told`), whatever text of the request has come into the message. What a client
reads of the answer therefore tells both, and failures with the same body have the same status and
the same message (`failures_are_told_exactly`).
-/

namespace NotesBench.Service

open Http (Request Response)

/-- The response tells of the failure, in an object with no other members. -/
structure Failure.Told (f : Failure) (x : Response) : Prop where
  status : x.status = f.status
  headers : x.headers = [("content-type", "application/json")]
  body : Json.read? x.body = some (.object [
    ("success", .bool false),
    ("error", .object [
      ("code", .string (Text.natText x.status)), ("message", .string f.message)])])

theorem Failure.isReadable_envelope (code : Nat) (message : String) (details : Option String) :
    (envelope code message details).isReadable = true := by
  cases details <;> rfl

theorem Failure.told_response (f : Failure) : f.Told f.response where
  status := rfl
  headers := rfl
  body := by
    rw [response, Json.read?_octets_eq_some (isReadable_envelope f.status f.message none)]
    rfl

/-- What is told of a failure gives its status and its message. -/
theorem Failure.Told.eq_of_body {f g : Failure} {x y : Response} (hf : f.Told x) (hg : g.Told y)
    (h : x.body = y.body) : f.status = g.status ∧ f.message = g.message := by
  have hread := hf.body
  rw [h, hg.body] at hread
  simp only [Option.some.injEq, Json.object.injEq, List.cons.injEq, Prod.mk.injEq,
    Json.string.injEq, true_and, and_true] at hread
  obtain ⟨hcode, hmessage⟩ := hread
  have hstatus : y.status = x.status := Text.natText_injective hcode
  exact ⟨hf.status.symm.trans (hstatus.symm.trans hg.status), hmessage.symm⟩

/-- A failure is told whatever its message, and a request that fails, other than `HEAD`, is answered
with what is told of its failure, whatever the settings and the state are. Failures with the same
body have the same status and the same message. -/
theorem failures_are_told_exactly :
    (∀ f : Failure, f.Told f.response) ∧
    (∀ settings draw r s f s', (handler settings draw r).Gives s (.error f) s' →
      r.method ≠ .head → serve settings draw r s = (f.response, s')) ∧
    ∀ f g : Failure, f.response.body = g.response.body →
      f.status = g.status ∧ f.message = g.message := by
  refine ⟨Failure.told_response, ?_, ?_⟩
  · intro settings draw r s f s' h hmethod
    rw [serve_eq_of_gives h, sent, if_neg hmethod]
    rfl
  · intro f g h
    exact f.told_response.eq_of_body g.told_response h

/-- The path would end the message of the answer and begin a member of its own. -/
def intruding : Request := ⟨.get, "/x\",\"details\":\"\\", [], .complete []⟩

theorem intruding_path_stays_in_message :
    (serve {} default intruding default).1.status = 404 ∧
    Json.read? (serve {} default intruding default).1.body = some (.object [
      ("success", .bool false),
      ("error", .object [
        ("code", .string "404"),
        ("message", .string "No route found for /x\",\"details\":\"\\")])]) ∧
    (Failure.notFound "x").response.body ≠ (Failure.conflict "x").response.body := by
  have hgives : (handler {} default intruding).Gives default
      (.error (.notFound "No route found for /x\",\"details\":\"\\")) default := by
    have hpath : intruding.path = "/x\",\"details\":\"\\" := by decide
    have hroute : Route.ofPath? intruding.path = none := by decide
    unfold handler
    rw [hroute, hpath]
    rfl
  obtain ⟨htold, hserve, hapart⟩ := failures_are_told_exactly
  rw [hserve {} default intruding default _ default hgives (by decide)]
  refine ⟨rfl, ?_, fun hbody => ?_⟩
  · rw [(htold _).body]
    rfl
  · have hstatus := (hapart _ _ hbody).1
    cases hstatus

end NotesBench.Service
