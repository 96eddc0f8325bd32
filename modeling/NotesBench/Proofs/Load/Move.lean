import NotesBench.Load.Crowd

/-!
# What a step of a crowd can do

`Move` lists what one user can do in one step, guards included; waking is among it. Every step of a
crowd is a move of one of its users or leaves the users alone (`step_cases`). What is kept by every
move is kept along a run (`Run.history`), where the deeds so far count as part of the state.
-/

namespace NotesBench.Load

variable {σ : Type}

/-! ## Deeds -/

/-- The number of the iteration that an act begins. -/
def Act.started? : Act → Option Nat
  | .started index => some index
  | _ => none

/-- The number and the ending of the iteration that an act counts. -/
def Act.finished? : Act → Option (Nat × Ending)
  | .finished index ending => some (index, ending)
  | _ => none

/-- The number of the iteration and the record that an act counts. -/
def Act.counted? : Act → Option (Nat × Record)
  | .counted index r => some (index, r)
  | _ => none

/-- The act sets the signal and does not raise it. -/
def Act.IsLowering : Act → Prop
  | .signalled (.set raised) => raised = false
  | _ => False

/-- The numbers of the iterations that were begun, in order. -/
def startsOf (deeds : List Deed) : List Nat := deeds.filterMap fun d => d.act.started?

/-- The iterations that were counted, in order. -/
def finishesOf (deeds : List Deed) : List (Nat × Ending) :=
  deeds.filterMap fun d => d.act.finished?

/-- The records that were counted, each with the number of its iteration, in order. -/
def countsOf (deeds : List Deed) : List (Nat × Record) := deeds.filterMap fun d => d.act.counted?

/-- The numbers of the iterations that one user began. -/
def startsBy (i : Nat) (deeds : List Deed) : List Nat :=
  startsOf (deeds.filter (·.user = some i))

@[simp] theorem startsOf_snoc (deeds : List Deed) (d : Deed) :
    startsOf (deeds ++ [d]) = startsOf deeds ++ d.act.started?.toList := by
  cases h : d.act.started? <;> simp [startsOf, h]

@[simp] theorem finishesOf_snoc (deeds : List Deed) (d : Deed) :
    finishesOf (deeds ++ [d]) = finishesOf deeds ++ d.act.finished?.toList := by
  cases h : d.act.finished? <;> simp [finishesOf, h]

@[simp] theorem countsOf_snoc (deeds : List Deed) (d : Deed) :
    countsOf (deeds ++ [d]) = countsOf deeds ++ d.act.counted?.toList := by
  cases h : d.act.counted? <;> simp [countsOf, h]

/-! ## Moves of one user -/

/-- One step of a user: the user and the shared state before it, the act, and both after it. -/
inductive Move (g : Regime) (t : Target σ) :
    User → Shared σ → Act → User → Shared σ → Prop where
  | obey {seen s} : s.signal.raised = true →
    Move g t ⟨.checkingSignal, seen⟩ s (.left .signal) ⟨.stopped .signal, seen⟩
      { s with counters.interrupted := true }
  | passSignal {seen s} : s.signal.raised = false →
    Move g t ⟨.checkingSignal, seen⟩ s .quiet ⟨.checkingDeadline, seen⟩ s
  | expire {seen s} : g.deadline.any (· ≤ s.now) = true →
    Move g t ⟨.checkingDeadline, seen⟩ s (.left .deadline) ⟨.stopped .deadline, seen⟩ s
  | passDeadline {seen s} : g.deadline.any (· ≤ s.now) = false →
    Move g t ⟨.checkingDeadline, seen⟩ s .quiet ⟨.fetching, seen⟩ s
  | exhaust {seen s} : g.budget.any (· ≤ s.counters.next) = true →
    Move g t ⟨.fetching, seen⟩ s (.left .budget) ⟨.stopped .budget, seen⟩
      { s with counters.next := s.counters.next + 1 }
  | begin {seen s} : g.budget.any (· ≤ s.counters.next) = false →
    Move g t ⟨.fetching, seen⟩ s (.started s.counters.next)
      ⟨.iterating s.counters.next (g.iteration s.counters.next), seen⟩
      { s with counters.next := s.counters.next + 1 }
  | finish {seen s index ending} :
    Move g t ⟨.iterating index (.done ending), seen⟩ s (.finished index ending)
      ⟨.closing index ending, seen⟩
      { s with counters.iterations := s.counters.iterations + 1 }
  | count {seen s index r rest} : (s.board.count r.1 r.2).2 = none →
    Move g t ⟨.iterating index (.record r rest), seen⟩ s (.counted index r)
      ⟨.iterating index rest, seen⟩ { s with board := (s.board.count r.1 r.2).1 }
  | countFirst {seen s index r rest reason} : (s.board.count r.1 r.2).2 = some reason →
    Move g t ⟨.iterating index (.record r rest), seen⟩ s (.counted index r)
      ⟨.keeping index r.1 reason rest, seen⟩ { s with board := (s.board.count r.1 r.2).1 }
  | ask {seen s index out rest} :
    Move g t ⟨.iterating index (.ask out rest), seen⟩ s
      (.asked index out (t.respond out s.site).1)
      ⟨.iterating index (rest (t.respond out s.site).1), seen⟩
      { s with site := (t.respond out s.site).2 }
  | keep {seen s index check reason rest} :
    Move g t ⟨.keeping index check reason rest, seen⟩ s .quiet ⟨.iterating index rest, seen⟩
      { s with board := s.board.keep check reason }
  | close {seen s index ending} :
    Move g t ⟨.closing index ending, seen⟩ s .quiet ⟨.pacing, seen⟩
      (if ending.isEarly then
        { s with counters.earlyReturns := s.counters.earlyReturns + 1 }
      else s)
  | pause {seen s} :
    Move g t ⟨.pacing, seen⟩ s .quiet ⟨.pausing (wakeTime s.now g.pace g.deadline) true, seen⟩ s
  | obeyPausing {seen s wake} : s.signal.raised = true →
    Move g t ⟨.pausing wake true, seen⟩ s (.left .signal) ⟨.stopped .signal, s.signal.version⟩
      { s with counters.interrupted := true }
  | ignore {seen s wake} :
    Move g t ⟨.pausing wake true, seen⟩ s .quiet ⟨.pausing wake false, s.signal.version⟩ s
  | wake {seen s moment listening} : moment ≤ s.now →
    Move g t ⟨.pausing (some moment) listening, seen⟩ s .quiet ⟨.checkingSignal, seen⟩ s

namespace User

theorem raised_of_notice {signal : Signal} {seen : Nat} (h : signal.notice seen = .stop) :
    signal.raised = true := by
  unfold Signal.notice at h
  split at h
  · split at h
    · assumption
    · cases h
  · split at h <;> cases h

theorem move_of_advance {g : Regime} {t : Target σ} {u u' : User} {s s' : Shared σ} {act : Act}
    (h : u.advance g t s = some (act, u', s')) : Move g t u s act u' s' := by
  obtain ⟨phase, seen⟩ := u
  cases phase with
  | checkingSignal =>
    simp only [advance, leave] at h
    split at h
    · next hr => cases h; exact .obey hr
    · next hr => cases h; exact .passSignal (by simpa using hr)
  | checkingDeadline =>
    simp only [advance, leave] at h
    split at h
    · next hd => cases h; exact .expire hd
    · next hd => cases h; exact .passDeadline (by simpa using hd)
  | fetching =>
    simp only [advance, leave] at h
    split at h
    · next hb => cases h; exact .exhaust hb
    · next hb => cases h; exact .begin (by simpa using hb)
  | iterating index rest =>
    cases rest with
    | done ending => cases h; exact .finish
    | record r rest =>
      simp only [advance, iterate, Option.some.injEq] at h
      cases hk : (s.board.count r.1 r.2).2 with
      | none =>
        rw [hk] at h
        cases h
        exact .count hk
      | some reason =>
        rw [hk] at h
        cases h
        exact .countFirst hk
    | ask out rest => cases h; exact .ask
  | keeping index check reason rest => cases h; exact .keep
  | closing index ending => cases h; exact .close
  | pacing => cases h; exact .pause
  | pausing wake listening =>
    have hw (hs : (if wake.any (· ≤ s.now) then
        some (Act.quiet, ({ phase := .checkingSignal, seen } : User), s) else none) =
          some (act, u', s')) : Move g t ⟨.pausing wake listening, seen⟩ s act u' s' := by
      split at hs
      · next hm =>
        cases hs
        obtain ⟨moment, rfl, hm⟩ := (Option.any_eq_true _ _).1 hm
        exact .wake (by simpa using hm)
      · cases hs
    cases listening with
    | false => exact hw h
    | true =>
      simp only [advance, leave] at h
      split at h
      · next hn => cases h; exact .obeyPausing (raised_of_notice hn)
      · cases h; exact .ignore
      · exact hw h
  | stopped cause => cases h

theorem stopped_of_hasStopped {u : User} (h : u.hasStopped = true) :
    ∃ cause, u.phase = .stopped cause := by
  unfold hasStopped at h
  split at h
  · next cause hp => exact ⟨cause, hp⟩
  · cases h

end User

/-! ## Steps of a crowd -/

namespace Crowd

/-- A step of a crowd is a move of one of its users, or the users stay as they are and time passes
or the signal changes. -/
theorem step_cases {g : Regime} {t : Target σ} {w w' : Crowd σ} {deed : Deed}
    (h : Step g t w deed w') :
    (∃ before u u' after s' act, w.users = before ++ u :: after ∧ Move g t u w.shared act u' s' ∧
        deed = ⟨some before.length, act⟩ ∧ w' = ⟨before ++ u' :: after, s'⟩) ∨
      (∃ later, w.shared.now ≤ later ∧ deed = ⟨none, .passed later⟩ ∧
        w' = { w with shared.now := later }) ∨
      (∃ event, deed = ⟨none, .signalled event⟩ ∧
        w' = { w with shared.signal := w.shared.signal.after event }) := by
  have put {i : Nat} {u : User} (hu : w.users[i]? = some u) (u' : User) (s' : Shared σ) :
      ∃ before after, w.users = before ++ u :: after ∧ i = before.length ∧
        w.put i u' s' = ⟨before ++ u' :: after, s'⟩ := by
    obtain ⟨hi, rfl⟩ := List.getElem?_eq_some_iff.1 hu
    refine ⟨w.users.take i, w.users.drop (i + 1), by simp, by simp; omega, ?_⟩
    rw [Crowd.put, List.set_eq_take_append_cons_drop, if_pos hi]
  cases h with
  | @move i u u' s' act hu ha =>
    obtain ⟨before, after, he, rfl, hp⟩ := put hu u' s'
    exact .inl ⟨before, u, u', after, s', act, he, User.move_of_advance ha, rfl, hp⟩
  | @wake i u moment listening hu hp hm =>
    obtain ⟨before, after, he, rfl, hp'⟩ := put hu { u with phase := .checkingSignal } w.shared
    obtain ⟨phase, seen⟩ := u
    obtain rfl : phase = _ := hp
    exact .inl ⟨before, _, _, after, w.shared, .quiet, he, .wake hm, rfl, hp'⟩
  | pass hl => exact .inr (.inl ⟨_, hl, rfl, rfl⟩)
  | signal event => exact .inr (.inr ⟨event, rfl, rfl⟩)

theorem Run.length_users {g : Regime} {t : Target σ} {w w' : Crowd σ} {deeds : List Deed}
    (h : Run g t w deeds w') : w'.users.length = w.users.length := by
  induction h with
  | refl => rfl
  | step hs _ ih =>
    rw [ih]
    obtain ⟨before, u, u', after, s', act, hu, -, -, rfl⟩ | ⟨_, -, -, rfl⟩ | ⟨_, -, rfl⟩ :=
      step_cases hs
    · simp [hu]
    · rfl
    · rfl

/-- What every step keeps holds along a run; the deeds so far belong to the state. -/
theorem Run.history {g : Regime} {t : Target σ} {P : List Deed → Crowd σ → Prop}
    (keeps : ∀ {deeds w deed w'}, P deeds w → Step g t w deed w' → P (deeds ++ [deed]) w')
    {before deeds : List Deed} {w w' : Crowd σ} (h : P before w) (hr : Run g t w deeds w') :
    P (before ++ deeds) w' := by
  induction hr generalizing before with
  | refl => simpa using h
  | step hs _ ih => simpa using ih (keeps h hs)

end Crowd

end NotesBench.Load
