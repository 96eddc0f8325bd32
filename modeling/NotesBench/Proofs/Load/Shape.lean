import Mathlib.Data.List.Nodup
import NotesBench.Proofs.Load.Visits

/-!
# The shape of an iteration

Whatever comes back for its requests, an iteration has one of two shapes: it ends at a refused
registration with the first two checks recorded (`Journey.Took.refused`), or it comes to its end
with all nine recorded in order (`Journey.Took.accepted`). Which of them it is depends on what came
of the registration alone (`Refused`).
-/

namespace NotesBench.Load

open Dialogue

/-- A registration that ends the iteration: it was not answered, or with another status than those
that are accepted. -/
def Refused : Except Fault Reply → Prop
  | .error _ => True
  | .ok reply => reply.status ≠ 200 ∧ reply.status ≠ 409

/-- The calls that a turn makes. -/
def Turn.calls : Turn → List Call
  | .asking c => [c]
  | .rest | .lacking _ => []

theorem Check.nodup_all : Check.all.Nodup := by decide

/-- Among records of distinct checks a check has one outcome. -/
theorem outcome_unique {records : List Record} (h : (records.map (·.1)).Nodup) {c : Check}
    {a b : Outcome} (ha : (c, a) ∈ records) (hb : (c, b) ∈ records) : a = b :=
  congrArg Prod.snd (List.inj_on_of_nodup_map h ha hb rfl)

/-! ## Registration -/

theorem Step.flow_register (result : Except Fault Reply) :
    (Refused result ∧ ∃ reason, Step.register.flow result = .stop reason ∧
        ∃ why, Step.register.judge result = [(.register, .fail why)]) ∨
      (¬ Refused result ∧ Step.register.flow result = .onward ∧
        Step.register.judge result = [(.register, .pass)]) := by
  cases result with
  | error fault => exact .inl ⟨trivial, _, rfl, _, rfl⟩
  | ok reply =>
    simp only [Refused, flow, judge, Outcome.ofStatus]
    by_cases h : [200, 409].contains reply.status = true
    · right
      rw [if_pos h]
      refine ⟨?_, rfl, rfl⟩
      simp only [List.contains_cons, List.contains_nil, Bool.or_false, Bool.or_eq_true,
        beq_iff_eq] at h
      omega
    · left
      rw [if_neg h]
      refine ⟨?_, _, rfl, _, rfl⟩
      simp only [List.contains_cons, List.contains_nil, Bool.or_false, Bool.or_eq_true,
        beq_iff_eq] at h
      omega

namespace Journey

variable (j : Journey)

/-! ## One step -/

/-- A step records its checks in order and sends the requests of its turn, and only registration
can stop the iteration. -/
theorem course_take {step : Step} {p p' : Progress} {events : List Event} {flow : Flow}
    (h : Course (j.take step p) events (flow, p')) :
    (recordsOf events).map (·.1) = step.checks ∧
      requestsOf events = written j.client (j.turn p step).calls ∧
      (step ≠ .register → flow = .onward) := by
  obtain ⟨v, rfl, rfl, -, hv, hflow⟩ := exists_visit h
  refine ⟨by rw [v.recordsOf_events, hv.checks], ?_, hflow⟩
  rw [v.requestsOf_events]
  unfold Makes at hv
  cases hturn : j.turn p v.step with
  | rest =>
    rw [hturn] at hv
    rw [hv.1]
    rfl
  | lacking what =>
    rw [hturn] at hv
    rw [hv.exchange]
    rfl
  | asking c =>
    rw [hturn] at hv
    cases hv with
    | sent hb _ => simp [written, Turn.calls, hb, Except.toOption]
    | unwritten hb => simp [written, Turn.calls, hb, Except.toOption]

/-! ## All steps -/

/-- Steps other than registration come to their end. -/
theorem course_takeAll {steps : List Step} (hs : Step.register ∉ steps) {p : Progress}
    {events : List Event} {ending : Ending} (h : Course (j.takeAll steps p) events ending) :
    ending = .completed ∧ (recordsOf events).map (·.1) = steps.flatMap Step.checks := by
  induction steps generalizing p events with
  | nil =>
    obtain ⟨rfl, rfl⟩ := course_done.1 h
    exact ⟨rfl, rfl⟩
  | cons step steps ih =>
    obtain ⟨⟨flow, p'⟩, before, after, rfl, h₁, h₂⟩ := course_bind h
    obtain ⟨hrec, -, hflow⟩ := j.course_take h₁
    obtain rfl := hflow fun he => hs (he ▸ List.mem_cons_self)
    obtain ⟨he, hrest⟩ := ih (fun hm => hs (List.mem_cons_of_mem _ hm)) h₂
    exact ⟨he, by simp [hrec, hrest]⟩

/-- The steps behind registration. -/
def later : List Step := [.login, .createNote, .fetchNote, .fetchNoteConditional, .pace]

/-- What follows a step: the other steps, or the early end. -/
def proceed (step : Step) (rest : List Step) (p : Progress) : Flow → Dialogue Ending
  | .onward => j.takeAll rest p
  | .stop reason => return .early step reason

theorem takeAll_cons (step : Step) (rest : List Step) (p : Progress) :
    j.takeAll (step :: rest) p = j.take step p >>= fun next => j.proceed step rest next.2 next.1 :=
  rfl

theorem takeAll_cons_of_turn_eq {step : Step} {p : Progress} {c : Call}
    (h : j.turn p step = .asking c) (rest : List Step) :
    j.takeAll (step :: rest) p = (do
      let result ← call j.client c
      records (step.judge result)
      j.proceed step rest (p.learn step result) (step.flow result)) := by
  rw [takeAll_cons, take_eq, h]
  simp only [carryOut, bind_assoc, pure_bind]

/-- An iteration calls for the health of the service and then registers; the other steps follow
when the registration is accepted. -/
theorem iteration_eq (index : Nat) :
    j.iteration index = (do
      let health ← call j.client .health
      records (Step.health.judge health)
      let registration ← call j.client (.register (j.start index).account)
      records (Step.register.judge registration)
      j.proceed .register later (j.start index) (Step.register.flow registration)) := by
  have hl (step : Step) (hs : step = .health ∨ step = .register) (result : Except Fault Reply) :
      (j.start index).learn step result = j.start index := by
    rcases hs with rfl | rfl <;> cases result <;> rfl
  have hr : j.turn (j.start index) .register = .asking (.register (j.start index).account) := rfl
  rw [iteration, show Step.all = .health :: .register :: later from rfl,
    j.takeAll_cons_of_turn_eq (rfl : j.turn (j.start index) .health = .asking .health)]
  simp only [Step.flow_of_ne_register (show Step.health ≠ .register by decide), proceed.eq_1,
    hl .health (.inl rfl), j.takeAll_cons_of_turn_eq hr, hl .register (.inr rfl)]

/-- The events and the ending are those of an iteration whose registration came to the given result:
first come the health request and the registration with their records, then what follows. -/
def Took (index : Nat) (registration : Except Fault Reply) (events : List Event)
    (ending : Ending) : Prop :=
  ∃ health before after, events = before ++ after ∧
    recordsOf before = Step.health.judge health ++ Step.register.judge registration ∧
    requestsOf before = written j.client [.health, .register (j.start index).account] ∧
    Course (j.proceed .register later (j.start index) (Step.register.flow registration))
      after ending

/-- Two calls with their records behind them. -/
theorem parts_of_calls {c d : Call} {a b : Except Fault Reply} {e₁ e₂ : List Event}
    (h₁ : Course (call j.client c) e₁ a) (h₂ : Course (call j.client d) e₂ b)
    (r₁ r₂ : List Record) :
    recordsOf (e₁ ++ r₁.map .recorded ++ (e₂ ++ r₂.map .recorded)) = r₁ ++ r₂ ∧
      requestsOf (e₁ ++ r₁.map .recorded ++ (e₂ ++ r₂.map .recorded)) =
        written j.client [c, d] := by
  obtain ⟨hrec₁, hreq₁⟩ := course_call h₁
  obtain ⟨hrec₂, hreq₂⟩ := course_call h₂
  constructor
  · simp [hrec₁, hrec₂]
  · simp only [requestsOf_append, hreq₁, hreq₂, requestsOf_recorded, List.append_nil]
    exact (List.filterMap_append (l := [c])).symm

theorem took_of_course {index : Nat} {events : List Event} {ending : Ending}
    (h : Course (j.iteration index) events ending) :
    ∃ registration, j.Took index registration events ending := by
  rw [iteration_eq] at h
  obtain ⟨health, e₁, rest, rfl, h₁, h⟩ := course_bind h
  obtain ⟨_, e₂, rest, rfl, h₂, h⟩ := course_bind h
  obtain ⟨registration, e₃, rest, rfl, h₃, h⟩ := course_bind h
  obtain ⟨_, e₄, rest, rfl, h₄, h⟩ := course_bind h
  rw [course_records h₂, course_records h₄]
  obtain ⟨hrec, hreq⟩ := j.parts_of_calls h₁ h₃ (Step.health.judge health)
    (Step.register.judge registration)
  exact ⟨registration, health, _, rest, by simp, hrec, hreq, h⟩

/-- What comes of the registration in an iteration, which the service is asked for after its
health. -/
def registration {σ : Type} (index : Nat) (t : Target σ) (s : σ) : Except Fault Reply :=
  ((call j.client (.register (j.start index).account)).run t
    ((call j.client .health).run t s).2.2).1

theorem took_of_run {σ : Type} (index : Nat) (t : Target σ) (s : σ) :
    j.Took index (j.registration index t s) ((j.iteration index).run t s).2.1
      ((j.iteration index).run t s).1 := by
  let atHealth := (call j.client .health).run t s
  let atRegister := (call j.client (.register (j.start index).account)).run t atHealth.2.2
  obtain ⟨hrec, hreq⟩ := j.parts_of_calls (course_run t (call j.client .health) s)
    (course_run t (call j.client (.register (j.start index).account)) atHealth.2.2)
    (Step.health.judge atHealth.1) (Step.register.judge atRegister.1)
  let rest := (j.proceed .register later (j.start index) (Step.register.flow atRegister.1)).run t
    atRegister.2.2
  have hc : Course _ rest.2.1 rest.1 := course_run t _ _
  have he : (j.iteration index).run t s = (rest.1, atHealth.2.1 ++
      ((Step.health.judge atHealth.1).map .recorded ++ (atRegister.2.1 ++
        ((Step.register.judge atRegister.1).map .recorded ++ rest.2.1))), rest.2.2) := by
    simp only [iteration_eq, run_bind, run_records]
    rfl
  rw [he]
  exact ⟨atHealth.1, _, _, by simp [atHealth, atRegister], hrec, hreq, hc⟩

variable {j}

/-- A refused registration ends the iteration. -/
theorem Took.refused {index : Nat} {registration : Except Fault Reply} {events : List Event}
    {ending : Ending} (h : j.Took index registration events ending) (hr : Refused registration) :
    (∃ reason, ending = .early .register reason) ∧
      (recordsOf events).map (·.1) = [.health, .register] ∧
      requestsOf events = written j.client [.health, .register (j.start index).account] ∧
      ∃ why, (.register, .fail why) ∈ recordsOf events := by
  obtain ⟨health, before, after, rfl, hrec, hreq, hc⟩ := h
  obtain ⟨-, reason, hf, why, hj⟩ | ⟨hn, -⟩ := Step.flow_register registration
  · rw [hf] at hc
    obtain ⟨rfl, rfl⟩ := course_done.1 hc
    have hm := Step.map_fst_judge .health health
    refine ⟨⟨reason, rfl⟩, ?_, by simpa using hreq, why, ?_⟩
    · simp [hrec, hj, hm, Step.checks]
    · simp [hrec, hj]
  · exact absurd hr hn

/-- An iteration whose registration is accepted comes to its end. -/
theorem Took.accepted {index : Nat} {registration : Except Fault Reply} {events : List Event}
    {ending : Ending} (h : j.Took index registration events ending) (hr : ¬ Refused registration) :
    ending = .completed ∧ (recordsOf events).map (·.1) = Check.all ∧
      (.register, .pass) ∈ recordsOf events := by
  obtain ⟨health, before, after, rfl, hrec, -, hc⟩ := h
  obtain ⟨hn, -⟩ | ⟨-, hf, hj⟩ := Step.flow_register registration
  · exact absurd hn hr
  · rw [hf] at hc
    obtain ⟨rfl, hall⟩ := j.course_takeAll (by decide) hc
    have hm := Step.map_fst_judge .health health
    refine ⟨rfl, ?_, ?_⟩
    · simp only [recordsOf_append, hrec, hj, List.map_append, hm, hall]
      rfl
    · simp [hrec, hj]

/-! ## The length of an iteration -/

theorem length_written_le (c : Client) (calls : List Call) :
    (written c calls).length ≤ calls.length :=
  List.length_filterMap_le _ _

/-- Of the steps all but the pause may send a request. -/
theorem length_requests_le {steps : List Step} {p : Progress} {events : List Event}
    {ending : Ending} (h : Course (j.takeAll steps p) events ending) :
    (requestsOf events).length ≤ steps.countP (· ≠ .pace) := by
  induction steps generalizing p events with
  | nil =>
    obtain ⟨rfl, -⟩ := course_done.1 h
    exact Nat.le_refl 0
  | cons step steps ih =>
    rw [takeAll_cons] at h
    obtain ⟨⟨flow, p'⟩, before, after, rfl, h₁, h₂⟩ := course_bind h
    obtain ⟨-, hreq, -⟩ := j.course_take h₁
    have hcalls : (j.turn p step).calls.length ≤ if step ≠ .pace then 1 else 0 := by
      cases step with
      | pace => exact Nat.le_refl 0
      | _ => cases j.turn p _ <;> simp [Turn.calls]
    have hstep := Nat.le_trans (length_written_le j.client (j.turn p step).calls) hcalls
    have hrest : (requestsOf after).length ≤ steps.countP (· ≠ .pace) := by
      cases flow with
      | onward => exact ih h₂
      | stop reason =>
        obtain ⟨rfl, -⟩ := course_done.1 h₂
        exact Nat.zero_le _
    rw [requestsOf_append, List.length_append, hreq, List.countP_cons]
    simp only [decide_eq_true_eq]
    omega

/-- An iteration takes no more than six requests and nine records. -/
theorem length_course_le {index : Nat} {events : List Event} {ending : Ending}
    (h : Course (j.iteration index) events ending) : events.length ≤ 15 := by
  have hreq : (requestsOf events).length ≤ 6 := j.length_requests_le h
  have hrec : (recordsOf events).length ≤ 9 := by
    rw [← List.length_map (·.1)]
    obtain ⟨registration, ht⟩ := j.took_of_course h
    by_cases hr : Refused registration
    · rw [(ht.refused hr).2.1]
      decide
    · rw [(ht.accepted hr).2.1]
      decide
  have := length_records_requests events
  omega

end Journey

end NotesBench.Load
