import NotesBench.Load.Journey
import NotesBench.Proofs.Load.Course

/-!
# One form for all steps of an iteration

A step asks at most once, and what comes of it depends on the result of its call alone. `Turn` says
what a step does with what is known: it rests, it lacks something, or it makes a call. `Step.judge`
gives the records of a call, `Progress.learn` what is known after it and `Step.flow` whether the
iteration goes on. `take_eq` says that every step is of this form.
-/

namespace NotesBench.Load

/-- What a step does. -/
inductive Turn where
  | rest
  | lacking (what : String)
  | asking (call : Call)
  deriving Repr, DecidableEq

/-- The records of a step that fails for one reason. -/
def Step.failed (step : Step) (reason : Reason) : List Record :=
  step.checks.map fun c => (c, .fail reason)

/-- The records of the call of a step. -/
def Step.judge (step : Step) : Except Fault Reply → List Record
  | .error fault => step.failed (.transport fault.message)
  | .ok reply =>
    match step with
    | .health => [(.health, .ofStatus reply.status [204])]
    | .register => [(.register, .ofStatus reply.status [200, 409])]
    | .login =>
      [(.loginStatus, .ofStatus reply.status [200]),
        (.loginToken, .ofPresence (LoginReply.ofBody reply.body).token "token")]
    | .createNote =>
      [(.noteCreate, .ofStatus reply.status [200]),
        (.noteId, .ofPresence (NoteReply.ofBody reply.body).noteId "note id")]
    | .fetchNote =>
      [(.noteGet, .ofStatus reply.status [200]), (.noteEtag, .ofPresence reply.etag "etag")]
    | .fetchNoteConditional => [(.noteNotModified, .ofStatus reply.status [304])]
    | .pace => []

/-- What is known after the call of a step. A call that fails teaches nothing. -/
def Progress.learn (p : Progress) (step : Step) : Except Fault Reply → Progress
  | .error _ => p
  | .ok reply =>
    match step with
    | .login => { p with token := (LoginReply.ofBody reply.body).token }
    | .createNote => { p with noteId := (NoteReply.ofBody reply.body).noteId }
    | .fetchNote => { p with etag := reply.etag }
    | .health | .register | .fetchNoteConditional | .pace => p

/-- Whether the iteration goes on after the call of a step. -/
def Step.flow : Step → Except Fault Reply → Flow
  | .register, .error fault => .stop fault.message
  | .register, .ok reply =>
    match Outcome.ofStatus reply.status [200, 409] with
    | .pass => .onward
    | .fail reason => .stop reason.message
  | _, _ => .onward

theorem Step.map_fst_failed (step : Step) (reason : Reason) :
    (step.failed reason).map (·.1) = step.checks := by
  cases step <;> rfl

/-- Whatever comes of a call, all checks of its step are recorded in order. -/
theorem Step.map_fst_judge (step : Step) (result : Except Fault Reply) :
    (step.judge result).map (·.1) = step.checks := by
  cases result with
  | error fault => exact step.map_fst_failed _
  | ok reply => cases step <;> rfl

theorem Step.flow_of_ne_register {step : Step} (h : step ≠ .register)
    (result : Except Fault Reply) : step.flow result = .onward := by
  cases step <;> first | rfl | exact absurd rfl h

namespace Journey

open Dialogue

variable (j : Journey)

/-- What a step does with what is known. -/
def turn (p : Progress) : Step → Turn
  | .health => .asking .health
  | .register => .asking (.register p.account)
  | .login => .asking (.login p.account)
  | .createNote =>
    match p.token with
    | none => .lacking "token"
    | some token => .asking (.createNote token j.note)
  | .fetchNote =>
    match p.token, p.noteId with
    | none, _ => .lacking "token"
    | some _, none => .lacking "note id"
    | some token, some id => .asking (.readNote token id none)
  | .fetchNoteConditional =>
    match p.token, p.noteId, p.etag with
    | none, _, _ => .lacking "token"
    | some _, none, _ => .lacking "note id"
    | some _, some _, none => .lacking "etag"
    | some token, some id, some etag => .asking (.readNote token id (some etag))
  | .pace => .rest

/-- The dialogue of a turn. -/
def carryOut (p : Progress) (step : Step) : Turn → Dialogue (Flow × Progress)
  | .rest => return (.onward, p)
  | .lacking what => do
    records (step.failed (.missing what))
    return (.onward, p)
  | .asking c => do
    let result ← call j.client c
    records (step.judge result)
    return (step.flow result, p.learn step result)

/-- Every step carries out its turn. -/
theorem take_eq (step : Step) (p : Progress) :
    j.take step p = j.carryOut p step (j.turn p step) := by
  obtain ⟨account, token, noteId, etag⟩ := p
  cases step with
  | health =>
    simp only [take, health, turn, carryOut, bind_assoc]
    congr 1
    funext result
    cases result <;> rfl
  | register =>
    simp only [take, register, turn, carryOut, bind_assoc]
    congr 1
    funext result
    cases result with
    | error fault => rfl
    | ok reply =>
      simp only [Step.judge, Step.flow, bind_assoc]
      cases Outcome.ofStatus reply.status [200, 409] <;> rfl
  | login =>
    simp only [take, login, turn, carryOut]
    congr 1
    funext result
    cases result <;> rfl
  | createNote =>
    cases token with
    | none => rfl
    | some token =>
      simp only [take, createNote, turn, carryOut]
      congr 1
      funext result
      cases result <;> rfl
  | fetchNote =>
    rcases token with _ | token <;> rcases noteId with _ | id
    iterate 3 rfl
    simp only [take, fetchNote, turn, carryOut]
    congr 1
    funext result
    cases result <;> rfl
  | fetchNoteConditional =>
    rcases token with _ | token <;> rcases noteId with _ | id <;> rcases etag with _ | etag
    iterate 7 rfl
    simp only [take, fetchNoteConditional, turn, carryOut, bind_assoc]
    congr 1
    funext result
    cases result <;> rfl
  | pace => rfl

end Journey

end NotesBench.Load
