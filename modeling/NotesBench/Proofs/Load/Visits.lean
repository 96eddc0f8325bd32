import NotesBench.Proofs.Load.Turn

/-!
# The visits of an iteration

An iteration is a row of visits, one for each step that it takes. In a visit the step sends its
request, if it has one that can be written, and then records its checks. What is known before a
visit comes from the responses of the visits before it (`Progress.taught`). Every course of an
iteration is such a row, in which each visit does what its turn is (`Journey.exists_visits`).
-/

namespace NotesBench.Load

open Dialogue
open Http (Response)

/-- A step as it was taken: the request that was sent, if one was, with what came back for it, and
the records. -/
structure Visit where
  step : Step
  exchange : Option (Outgoing × Delivery)
  records : List Record

namespace Visit

/-- What happens in a visit. -/
def events (v : Visit) : List Event :=
  (v.exchange.map fun x => Event.asked x.1 x.2).toList ++ v.records.map .recorded

@[simp] theorem recordsOf_events (v : Visit) : recordsOf v.events = v.records := by
  obtain ⟨step, _ | ⟨out, delivery⟩, records⟩ := v
  · exact recordsOf_recorded records
  · exact recordsOf_recorded records

@[simp] theorem requestsOf_events (v : Visit) :
    requestsOf v.events = (v.exchange.map (·.1)).toList := by
  obtain ⟨step, _ | ⟨out, delivery⟩, records⟩ := v
  · exact requestsOf_recorded records
  · exact congrArg (out :: ·) (requestsOf_recorded records)

def response? (v : Visit) : Option Response := v.exchange.bind fun x => x.2.toOption

/-- A call is attempted: its request is sent and the result judged, or it cannot be written, and
then all checks of the step fail. -/
inductive Attempts (c : Client) (call : Call) : Visit → Prop where
  | sent {step : Step} {out : Outgoing} (written : c.build call = .ok out) (delivery : Delivery) :
    Attempts c call ⟨step, some (out, delivery), step.judge (resultOf out delivery)⟩
  | unwritten {step : Step} {problem : BuildProblem} (refused : c.build call = .error problem) :
    Attempts c call ⟨step, none, step.failed (.transport problem.fault.message)⟩

/-- Nothing is sent, and all checks of the step fail for want of something. -/
structure Skips (what : String) (v : Visit) : Prop where
  exchange : v.exchange = none
  records : v.records = v.step.failed (.missing what)

end Visit

/-- What is known after a visit. -/
def Progress.taught (p : Progress) (v : Visit) : Progress :=
  match v.response? with
  | some response => p.learn v.step (.ok (Reply.ofResponse response))
  | none => p

theorem Progress.taught_of_response {p : Progress} {v : Visit} {response : Response}
    (h : v.response? = some response) :
    p.taught v = p.learn v.step (.ok (Reply.ofResponse response)) := by
  rw [taught, h]

theorem Progress.taught_of_none {p : Progress} {v : Visit} (h : v.response? = none) :
    p.taught v = p := by
  rw [taught, h]

theorem Progress.learn_resultOf (p : Progress) (step : Step) (out : Outgoing) (delivery : Delivery)
    (records : List Record) :
    p.learn step (resultOf out delivery) = p.taught ⟨step, some (out, delivery), records⟩ := by
  cases delivery <;> rfl

namespace Journey

variable {j : Journey} {p p' : Progress} {step : Step} {v : Visit}

/-- The visit does what the turn of its step is. -/
def Makes (j : Journey) (p : Progress) (v : Visit) : Prop :=
  match j.turn p v.step with
  | .rest => v.exchange = none ∧ v.records = []
  | .lacking what => v.Skips what
  | .asking call => v.Attempts j.client call

theorem step_of_turn_eq_rest (h : j.turn p step = .rest) : step = .pace := by
  cases step <;> simp only [turn] at h <;> first | rfl | (repeat' split at h) <;> cases h

/-- Whatever becomes of a visit, it records the checks of its step in order. -/
theorem Makes.checks (h : j.Makes p v) : v.records.map (·.1) = v.step.checks := by
  unfold Makes at h
  split at h
  · next hturn => rw [step_of_turn_eq_rest hturn, h.2]; rfl
  · rw [h.records, Step.map_fst_failed]
  · cases h with
    | sent => exact Step.map_fst_judge ..
    | unwritten => exact Step.map_fst_failed ..

/-- A step is a visit, and only registration can stop the iteration. -/
theorem exists_visit {events : List Event} {flow : Flow}
    (h : Course (j.take step p) events (flow, p')) :
    ∃ v : Visit, v.step = step ∧ events = v.events ∧ p' = p.taught v ∧ j.Makes p v ∧
      (step ≠ .register → flow = .onward) := by
  rw [take_eq] at h
  cases hturn : j.turn p step with
  | rest =>
    rw [hturn] at h
    obtain ⟨rfl, he⟩ := course_done.1 h
    obtain ⟨rfl, rfl⟩ := Prod.mk.inj he
    exact ⟨⟨step, none, []⟩, rfl, rfl, rfl, by simp [Makes, hturn], fun _ => rfl⟩
  | lacking what =>
    rw [hturn] at h
    obtain ⟨_, before, after, rfl, h₁, h₂⟩ := course_bind h
    obtain ⟨rfl, he⟩ := course_done.1 h₂
    obtain ⟨rfl, rfl⟩ := Prod.mk.inj he
    refine ⟨⟨step, none, step.failed (.missing what)⟩, rfl, ?_, rfl, ?_, fun _ => rfl⟩
    · rw [course_records h₁, List.append_nil]
      rfl
    · simp only [Makes, hturn]
      exact ⟨rfl, rfl⟩
  | asking c =>
    rw [hturn] at h
    obtain ⟨result, before, _, rfl, h₁, h⟩ := course_bind h
    obtain ⟨_, between, _, rfl, h₂, h₃⟩ := course_bind h
    obtain ⟨rfl, he⟩ := course_done.1 h₃
    obtain ⟨rfl, rfl⟩ := Prod.mk.inj he
    rw [course_records h₂, List.append_nil]
    have hflow : step ≠ .register → step.flow result = .onward := fun hs =>
      Step.flow_of_ne_register hs result
    rcases call_cases h₁ with ⟨out, delivery, hb, rfl, rfl⟩ | ⟨problem, hb, rfl, rfl⟩
    · refine ⟨⟨step, some (out, delivery), _⟩, rfl, rfl, p.learn_resultOf .., ?_, hflow⟩
      simp only [Makes, hturn]
      exact .sent hb delivery
    · refine ⟨⟨step, none, _⟩, rfl, rfl, rfl, ?_, hflow⟩
      simp only [Makes, hturn]
      exact .unwritten hb

/-! ## Rows of visits -/

/-- Each of the visits does what its turn is, by what the visits before it have taught. -/
inductive Row (j : Journey) : Progress → List Visit → Prop where
  | nil (p : Progress) : Row j p []
  | cons {p : Progress} {v : Visit} {visits : List Visit} :
    j.Makes p v → Row j (p.taught v) visits → Row j p (v :: visits)

theorem Row.makes {before after : List Visit} (h : j.Row p (before ++ v :: after)) :
    j.Makes (before.foldl .taught p) v := by
  induction before generalizing p with
  | nil =>
    cases h with
    | cons hv _ => exact hv
  | cons w before ih =>
    cases h with
    | cons _ hrest => exact ih hrest

/-- Steps are a row of visits, up to the last of them or to a refused registration. -/
theorem exists_row {steps : List Step} {events : List Event} {ending : Ending}
    (h : Course (j.takeAll steps p) events ending) :
    ∃ visits, j.Row p visits ∧ events = visits.flatMap Visit.events ∧
      ((ending = .completed ∧ visits.map (·.step) = steps) ∨
        ∃ reason before after, ending = .early .register reason ∧
          steps = before ++ .register :: after ∧
          visits.map (·.step) = before ++ [.register]) := by
  induction steps generalizing p events with
  | nil =>
    obtain ⟨rfl, rfl⟩ := course_done.1 h
    exact ⟨[], .nil p, rfl, .inl ⟨rfl, rfl⟩⟩
  | cons step steps ih =>
    obtain ⟨⟨flow, p'⟩, first, later, rfl, h₁, h₂⟩ := course_bind h
    obtain ⟨v, rfl, rfl, rfl, hv, hflow⟩ := exists_visit h₁
    cases flow with
    | onward =>
      obtain ⟨visits, hrow, rfl, hend⟩ := ih h₂
      refine ⟨v :: visits, .cons hv hrow, by rw [List.flatMap_cons], ?_⟩
      rcases hend with ⟨rfl, hsteps⟩ | ⟨reason, before, after, rfl, rfl, hsteps⟩
      · exact .inl ⟨rfl, by rw [List.map_cons, hsteps]⟩
      · exact .inr ⟨reason, v.step :: before, after, rfl, rfl, by rw [List.map_cons, hsteps]; rfl⟩
    | stop reason =>
      obtain ⟨rfl, rfl⟩ := course_done.1 h₂
      have hregister : v.step = .register :=
        Decidable.byContradiction fun hne => by cases hflow hne
      exact ⟨[v], .cons hv (.nil _), by simp, .inr ⟨reason, [], steps, by rw [hregister],
        by rw [hregister]; rfl, by simp [hregister]⟩⟩

theorem steps_before_register {before after : List Step}
    (h : Step.all = before ++ .register :: after) : before = [.health] := by
  rcases before with _ | ⟨first, _ | ⟨second, before⟩⟩
  · simp [Step.all] at h
  · simp_all [Step.all]
  · have hlater : Step.register ∉ Step.all.drop 2 := by decide
    rw [h] at hlater
    simp at hlater

/-- An iteration is a row of visits to the service, for the first two of its steps or for all. -/
theorem exists_visits {index : Nat} {events : List Event} {ending : Ending}
    (h : Course (j.iteration index) events ending) :
    ∃ visits, j.Row (j.start index) visits ∧ events = visits.flatMap Visit.events ∧
      visits.map (·.step) = if ending.isEarly then [.health, .register] else Step.all := by
  obtain ⟨visits, hrow, hevents, hend⟩ := exists_row h
  refine ⟨visits, hrow, hevents, ?_⟩
  rcases hend with ⟨rfl, hsteps⟩ | ⟨reason, before, after, rfl, hall, hsteps⟩
  · rwa [Ending.isEarly, if_neg Bool.false_ne_true]
  · rw [hsteps, steps_before_register hall]
    rfl

end Journey

end NotesBench.Load
