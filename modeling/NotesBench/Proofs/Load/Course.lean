import NotesBench.Load.Dialogue

/-!
# Courses of dialogues

`course_bind` and `run_bind` take a dialogue apart at a bind: what happens is what happens in the
first part and then in the second. `Reaches d events rest` is a course that has been followed up
to some point, with `rest` still to come, which is where a dialogue stands between two of its steps.
-/

namespace NotesBench.Load

namespace Dialogue

variable {α β σ : Type}

/-! ## What happened -/

@[simp] theorem recordsOf_append (a b : List Event) :
    recordsOf (a ++ b) = recordsOf a ++ recordsOf b := by
  simp [recordsOf]

@[simp] theorem requestsOf_append (a b : List Event) :
    requestsOf (a ++ b) = requestsOf a ++ requestsOf b := by
  simp [requestsOf]

@[simp] theorem recordsOf_recorded (rs : List Record) :
    recordsOf (rs.map .recorded) = rs := by
  induction rs with
  | nil => rfl
  | cons r rs ih => exact congrArg (r :: ·) ih

@[simp] theorem requestsOf_recorded (rs : List Record) :
    requestsOf (rs.map .recorded) = [] := by
  induction rs with
  | nil => rfl
  | cons r rs ih => exact ih

theorem length_records_requests (events : List Event) :
    (recordsOf events).length + (requestsOf events).length = events.length := by
  induction events with
  | nil => rfl
  | cons e events ih =>
    cases e <;> simp only [recordsOf, requestsOf, List.filterMap_cons, List.length_cons] at ih ⊢ <;>
      omega

/-! ## Courses -/

theorem course_done {a b : α} {events : List Event} :
    Course (.done a) events b ↔ events = [] ∧ b = a := by
  constructor
  · rintro ⟨⟩
    exact ⟨rfl, rfl⟩
  · rintro ⟨rfl, rfl⟩
    exact .done _

theorem eq_done_of_course_nil {d : Dialogue α} {a : α} (h : Course d [] a) : d = .done a := by
  cases h
  rfl

theorem course_bind {d : Dialogue α} {f : α → Dialogue β} {events : List Event} {b : β}
    (h : Course (d >>= f) events b) :
    ∃ a before after, events = before ++ after ∧ Course d before a ∧ Course (f a) after b := by
  induction d generalizing events with
  | done a => exact ⟨a, [], events, rfl, .done a, h⟩
  | record r next ih =>
    obtain ⟨⟩ := h
    rename_i events h
    obtain ⟨a, before, after, rfl, h₁, h₂⟩ := ih h
    exact ⟨a, .recorded r :: before, after, rfl, .record h₁, h₂⟩
  | ask out next ih =>
    obtain ⟨⟩ := h
    rename_i events delivery h
    obtain ⟨a, before, after, rfl, h₁, h₂⟩ := ih delivery h
    exact ⟨a, .asked out delivery :: before, after, rfl, .ask delivery h₁, h₂⟩

theorem course_records {rs : List Record} {events : List Event} {u : Unit}
    (h : Course (records rs) events u) : events = rs.map .recorded := by
  induction rs generalizing events with
  | nil => exact (course_done.1 h).1
  | cons r rs ih =>
    obtain ⟨⟩ := h
    rename_i events h
    rw [ih h, List.map_cons]

/-- The requests of calls, as far as they can be written. -/
def written (c : Client) (calls : List Call) : List Outgoing :=
  calls.filterMap fun call => (c.build call).toOption

/-- What comes of the request of a call. -/
def resultOf (out : Outgoing) : Delivery → Except Fault Reply
  | .ok response => .ok (Reply.ofResponse response)
  | .error loss => .error (loss.fault out)

/-- A call sends its request and waits for what comes back, or fails before it has sent anything. -/
theorem call_cases {c : Client} {cl : Call} {events : List Event} {result : Except Fault Reply}
    (h : Course (call c cl) events result) :
    (∃ out delivery, c.build cl = .ok out ∧ events = [.asked out delivery] ∧
        result = resultOf out delivery) ∨
      ∃ problem, c.build cl = .error problem ∧ events = [] ∧ result = .error problem.fault := by
  unfold call at h
  cases hb : c.build cl with
  | error problem =>
    simp only [hb, course_done] at h
    exact .inr ⟨problem, rfl, h.1, h.2⟩
  | ok out =>
    simp only [hb] at h
    cases h with
    | ask delivery h =>
      refine .inl ⟨out, delivery, rfl, ?_⟩
      cases delivery <;> obtain ⟨rfl, rfl⟩ := course_done.1 h <;> exact ⟨rfl, rfl⟩

/-- A call records nothing and sends its request, if that can be written. -/
theorem course_call {c : Client} {cl : Call} {events : List Event} {result : Except Fault Reply}
    (h : Course (call c cl) events result) :
    recordsOf events = [] ∧ requestsOf events = written c [cl] := by
  rcases call_cases h with ⟨out, delivery, hb, rfl, -⟩ | ⟨problem, hb, rfl, -⟩
  · simp [written, hb, recordsOf, requestsOf, Except.toOption]
  · simp [written, hb, recordsOf, requestsOf, Except.toOption]

/-! ## Holding a dialogue in parts -/

theorem run_bind (t : Target σ) (d : Dialogue α) (f : α → Dialogue β) (s : σ) :
    (d >>= f).run t s =
      let first := d.run t s
      let second := (f first.1).run t first.2.2
      (second.1, first.2.1 ++ second.2.1, second.2.2) := by
  induction d generalizing s with
  | done a => rfl
  | record r next ih => simp only [record_bind, Dialogue.run, ih, List.cons_append]
  | ask out next ih => simp only [ask_bind, Dialogue.run, ih, List.cons_append]

theorem run_records (t : Target σ) (rs : List Record) (s : σ) :
    (records rs).run t s = ((), rs.map .recorded, s) := by
  induction rs with
  | nil => rfl
  | cons r rs ih => simp only [records, Dialogue.run, ih, List.map_cons]

/-! ## Dialogues under way -/

/-- The events that lead from a dialogue to what is left of it. -/
inductive Reaches : Dialogue α → List Event → Dialogue α → Prop where
  | refl (d : Dialogue α) : Reaches d [] d
  | record {d : Dialogue α} {r : Record} {next : Dialogue α} {events : List Event} :
    Reaches d events (.record r next) → Reaches d (events ++ [.recorded r]) next
  | ask {d : Dialogue α} {out : Outgoing} {next : Delivery → Dialogue α} {events : List Event}
    (delivery : Delivery) : Reaches d events (.ask out next) →
      Reaches d (events ++ [.asked out delivery]) (next delivery)

theorem reaches_done {a : α} {events : List Event} {rest : Dialogue α}
    (h : Reaches (.done a) events rest) : events = [] ∧ rest = .done a := by
  induction h with
  | refl => exact ⟨rfl, rfl⟩
  | record _ ih => cases ih.2
  | ask _ _ ih => cases ih.2

theorem Reaches.course {d rest : Dialogue α} {before after : List Event} {a : α}
    (h : Reaches d before rest) (h' : Course rest after a) : Course d (before ++ after) a := by
  induction h generalizing after with
  | refl => exact h'
  | record _ ih => simpa using ih (.record h')
  | ask delivery _ ih => simpa using ih (.ask delivery h')

theorem Reaches.trans {d between rest : Dialogue α} {before after : List Event}
    (h : Reaches d before between) (h' : Reaches between after rest) :
    Reaches d (before ++ after) rest := by
  induction h' with
  | refl => simpa using h
  | record _ ih => simpa using ih.record
  | ask delivery _ ih => simpa using ih.ask delivery

/-- A dialogue that has come to its end took a course. -/
theorem Reaches.done {d : Dialogue α} {events : List Event} {a : α}
    (h : Reaches d events (.done a)) : Course d events a := by
  simpa using h.course (.done a)

/-- Every dialogue can be taken to its end. -/
theorem exists_course (d : Dialogue α) : ∃ events a, Course d events a := by
  induction d with
  | done a => exact ⟨[], a, .done a⟩
  | record r next ih =>
    obtain ⟨events, a, h⟩ := ih
    exact ⟨_, a, .record h⟩
  | ask out next ih =>
    obtain ⟨events, a, h⟩ := ih (.error .dropped)
    exact ⟨_, a, .ask _ h⟩

end Dialogue

end NotesBench.Load
