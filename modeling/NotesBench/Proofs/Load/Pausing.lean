import NotesBench.Proofs.Load.Move
import NotesBench.Proofs.Load.Playing

/-!
# When a pause ends

`Pauses` tells how the pause of a user ends when the events of the signal come at given moments. The
user takes the steps that it takes in a crowd (`Pauses.exists_run`), at once when it can, so time
passes only while it waits.

A user that pauses hears of the first change of the signal after it looked last. If that change
raises the signal, the pause ends at that moment; otherwise the user listens no more, and sleeps
until it wakes, whatever becomes of the signal (`pause_heeds_the_first_change`).
-/

namespace NotesBench.Load

variable {σ : Type}

/-- The user pauses or is about to. -/
def User.isPausing (u : User) : Bool :=
  match u.phase with
  | .pacing | .pausing .. => true
  | _ => false

/-- The ends that a pause can have, with the events of the signal that are still to come. A change
of the signal and the moment of waking may come in either order when they come together. -/
inductive Pauses (g : Regime) (t : Target σ) :
    User → Shared σ → List (Instant × SignalEvent) → PauseEnd → Prop where
  | stopped {u s events} : u.phase = .stopped .signal → Pauses g t u s events (.stopped s.now)
  | woken {u s events} : u.phase = .checkingSignal → Pauses g t u s events (.woken s.now)
  | wake {u s events moment listening} : u.phase = .pausing (some moment) listening →
    moment ≤ s.now → Pauses g t u s events (.woken s.now)
  | move {u s events act u' s' e} : u.isPausing = true → u.advance g t s = some (act, u', s') →
    Pauses g t u' s' events e → Pauses g t u s events e
  | event {u s events event e} : u.isPausing = true →
    Pauses g t u { s with signal := s.signal.after event } events e →
    Pauses g t u s ((s.now, event) :: events) e
  | pass {u s events later e} : u.isPausing = true → u.advance g t s = none → s.now ≤ later →
    (∀ moment ∈ u.wake?, later ≤ moment) → (∀ next ∈ events.head?, later ≤ next.1) →
    Pauses g t u { s with now := later } events e → Pauses g t u s events e
  | never {u s} : u.isPausing = true → u.advance g t s = none → u.wake? = none →
    Pauses g t u s [] .never

/-! ## The moment of waking -/

/-- When a pause that begins now is over: after the pace interval or at the deadline, whichever
comes first of those that there are. -/
def Regime.wakeAfter (g : Regime) (now : Instant) : Option Instant :=
  ([Instant.after? now g.pace, g.deadline].filterMap id).min?

theorem Regime.wakeAfter_eq (g : Regime) (now : Instant) :
    g.wakeAfter now = wakeTime now g.pace g.deadline := by
  unfold wakeAfter wakeTime
  cases Instant.after? now g.pace <;> cases g.deadline <;> rfl

theorem sleepOn_of_le {now later : Instant} {wake : Option Instant} (h : now ≤ later)
    (hw : ∀ moment ∈ wake, later ≤ moment) : sleepOn later wake = sleepOn now wake := by
  cases wake with
  | none => rfl
  | some moment =>
    have hm := hw moment rfl
    simp only [sleepOn, Nat.max_eq_right hm, Nat.max_eq_right (Nat.le_trans h hm)]

theorem sleepOn_of_ge {now moment : Instant} (h : moment ≤ now) :
    sleepOn now (some moment) = .woken now := by
  simp only [sleepOn, Nat.max_eq_left h]

/-! ## What a pausing user can do -/

section Steps

variable {g : Regime} {t : Target σ} {wake : Option Instant} {seen : Nat} {s : Shared σ}

/-- A user that sleeps can do nothing but wake. -/
theorem eq_of_advance_deaf {act : Act} {u' : User} {s' : Shared σ}
    (h : (⟨.pausing wake false, seen⟩ : User).advance g t s = some (act, u', s')) :
    u' = ⟨.checkingSignal, seen⟩ ∧ s' = s ∧ ∃ moment, wake = some moment ∧ moment ≤ s.now := by
  simp only [User.advance] at h
  split at h
  · next hw =>
    cases h
    obtain ⟨moment, rfl, hm⟩ := (Option.any_eq_true _ _).1 hw
    exact ⟨rfl, rfl, moment, rfl, by simpa using hm⟩
  · cases h

theorem advance_deaf_eq_none (h : ∀ moment ∈ wake, s.now < moment) :
    (⟨.pausing wake false, seen⟩ : User).advance g t s = none := by
  cases wake with
  | none => rfl
  | some moment => simp [User.advance, h moment rfl]

theorem advance_of_stop (h : s.signal.notice seen = .stop) :
    (⟨.pausing wake true, seen⟩ : User).advance g t s = some (.left .signal,
      ⟨.stopped .signal, s.signal.version⟩, { s with counters.interrupted := true }) := by
  simp [User.advance, User.leave, h]

theorem advance_of_ignore (h : s.signal.notice seen = .ignore) :
    (⟨.pausing wake true, seen⟩ : User).advance g t s =
      some (.quiet, ⟨.pausing wake false, s.signal.version⟩, s) := by
  simp [User.advance, h]

/-- While there is nothing to hear, listening makes no difference. -/
theorem advance_of_nothing (h : s.signal.notice seen = .nothing) :
    (⟨.pausing wake true, seen⟩ : User).advance g t s =
      (⟨.pausing wake false, seen⟩ : User).advance g t s := by
  simp [User.advance, h]

theorem advance_listening_eq_none (hn : s.signal.notice seen = .nothing)
    (hw : ∀ moment ∈ wake, s.now < moment) :
    (⟨.pausing wake true, seen⟩ : User).advance g t s = none := by
  rw [advance_of_nothing hn]
  exact advance_deaf_eq_none hw

/-- A user that listens and can do nothing has heard nothing. -/
theorem notice_eq_nothing_of_idle
    (h : (⟨.pausing wake true, seen⟩ : User).advance g t s = none) :
    s.signal.notice seen = .nothing := by
  cases hn : s.signal.notice seen with
  | stop => cases h.symm.trans (advance_of_stop hn)
  | ignore => cases h.symm.trans (advance_of_ignore hn)
  | nothing => rfl

end Steps

/-! ## What a listener hears -/

/-- The moment at which the signal is raised for the first time. -/
def raisedAt? (signal : Signal) : List (Instant × SignalEvent) → Option Instant
  | [] => none
  | (moment, event) :: events =>
    if (signal.after event).raised then some moment else raisedAt? (signal.after event) events

/-- The moment at which a listener who last saw the signal at a version hears of a change. -/
def heardAt? (seen : Nat) (now : Instant) (signal : Signal)
    (events : List (Instant × SignalEvent)) : Option Instant :=
  if signal.notice seen = .nothing then events.head?.map Prod.fst else some now

@[simp] theorem heardAt?_now (seen : Nat) (now : Instant) (signal : Signal) (event : SignalEvent)
    (events : List (Instant × SignalEvent)) :
    heardAt? seen now signal ((now, event) :: events) = some now := by
  unfold heardAt?
  split <;> rfl

/-- The events come one after another from now on. -/
def InOrder : Instant → List (Instant × SignalEvent) → Prop
  | _, [] => True
  | now, (moment, _) :: events => now ≤ moment ∧ InOrder moment events

namespace Signal

variable {signal : Signal} {seen : Nat}

theorem notice_eq_nothing (h : signal.notice seen = .nothing) :
    signal.version = seen ∧ signal.connected = true := by
  unfold notice at h
  split at h
  · split at h <;> cases h
  · next hv =>
    split at h
    · next hc => exact ⟨by simpa using hv, hc⟩
    · cases h

theorem le_version_after (h : seen ≤ signal.version) (event : SignalEvent) :
    seen ≤ (signal.after event).version := by
  cases event with
  | set raised =>
    simp only [after]
    split
    · exact Nat.le_succ_of_le h
    · exact h
  | close => exact h

theorem notice_eq_stop (hseen : seen < signal.version) (hraised : signal.raised = true) :
    signal.notice seen = .stop := by
  simp [notice, hraised, Nat.ne_of_gt hseen]

theorem raised_after {event : SignalEvent} (h : signal.raised = true) (he : event ≠ .set false) :
    (signal.after event).raised = true := by
  cases event with
  | set raised =>
    obtain rfl : raised = true := by simpa using he
    simp only [after]
    split
    · rfl
    · exact h
  | close => exact h

/-- An event of the signal can be heard. -/
theorem notice_after_ne_nothing (h : seen ≤ signal.version) (event : SignalEvent) :
    (signal.after event).notice seen ≠ .nothing := by
  unfold notice after
  cases event <;> grind

end Signal

/-! ## Sleeping on -/

namespace Pauses

variable {g : Regime} {t : Target σ} {wake : Option Instant} {seen : Nat} {u : User} {s : Shared σ}
  {events : List (Instant × SignalEvent)} {e : PauseEnd}

/-- A pause that is over ends here and now. -/
theorem eq_of_not_isPausing (h : Pauses g t u s events e) (hp : u.isPausing = false) :
    u.phase = .stopped .signal ∧ e = .stopped s.now ∨
      u.phase = .checkingSignal ∧ e = .woken s.now := by
  cases h with
  | stopped hs => exact .inl ⟨hs, rfl⟩
  | woken hw => exact .inr ⟨hw, rfl⟩
  | wake hw => simp [User.isPausing, hw] at hp
  | move hp' => cases hp.symm.trans hp'
  | event hp' => cases hp.symm.trans hp'
  | pass hp' => cases hp.symm.trans hp'
  | never hp' => cases hp.symm.trans hp'

theorem eq_of_checkingSignal (h : Pauses g t ⟨.checkingSignal, seen⟩ s events e) :
    e = .woken s.now := by
  obtain ⟨hs, -⟩ | ⟨-, he⟩ := h.eq_of_not_isPausing rfl
  · cases hs
  · exact he

theorem eq_of_stopped (h : Pauses g t ⟨.stopped .signal, seen⟩ s events e) :
    e = .stopped s.now := by
  obtain ⟨-, he⟩ | ⟨hw, -⟩ := h.eq_of_not_isPausing rfl
  · exact he
  · cases hw

/-- A user that does not listen sleeps until it wakes. -/
theorem eq_of_deaf (h : Pauses g t ⟨.pausing wake false, seen⟩ s events e) :
    e = sleepOn s.now wake := by
  generalize hu : (⟨.pausing wake false, seen⟩ : User) = u at h
  induction h with
  | stopped hp => subst hu; cases hp
  | woken hp => subst hu; cases hp
  | wake hp hm =>
    subst hu
    cases hp
    exact (sleepOn_of_ge hm).symm
  | move _ ha hnext =>
    subst hu
    obtain ⟨rfl, rfl, moment, rfl, hm⟩ := eq_of_advance_deaf ha
    rw [sleepOn_of_ge hm]
    exact hnext.eq_of_checkingSignal
  | event _ _ ih => exact ih hu
  | pass _ _ hl hw _ _ ih =>
    rw [ih hu]
    subst hu
    exact sleepOn_of_le hl hw
  | never _ _ hw =>
    subst hu
    obtain rfl : wake = none := hw
    rfl

/-- To listen before the pause begins is to listen when it has begun. -/
theorem begun (h : Pauses g t ⟨.pacing, seen⟩ s events e) :
    Pauses g t ⟨.pausing (g.wakeAfter s.now) true, seen⟩ s events e := by
  generalize hu : (⟨.pacing, seen⟩ : User) = u at h
  induction h with
  | stopped hp => subst hu; cases hp
  | woken hp => subst hu; cases hp
  | wake hp => subst hu; cases hp
  | move _ ha hnext =>
    subst hu
    cases ha
    rwa [g.wakeAfter_eq]
  | event _ _ ih => exact .event rfl (ih hu)
  | pass _ ha => subst hu; cases ha
  | never _ ha => subst hu; cases ha

/-! ## Listening -/

/-- A user that has heard a raised signal stops at once. -/
theorem eq_of_heard (h : Pauses g t ⟨.pausing wake true, seen⟩ s events e)
    (hseen : seen < s.signal.version) (hraised : s.signal.raised = true)
    (hstay : ∀ x ∈ events, x.2 ≠ .set false) (hw : ∀ moment ∈ wake, s.now < moment) :
    e = .stopped s.now := by
  generalize hu : (⟨.pausing wake true, seen⟩ : User) = u at h
  induction h with
  | stopped hp => subst hu; cases hp
  | woken hp => subst hu; cases hp
  | wake hp hm =>
    subst hu
    cases hp
    exact absurd hm (Nat.not_le_of_lt (hw _ rfl))
  | move _ ha hnext =>
    subst hu
    cases ha.symm.trans (advance_of_stop (Signal.notice_eq_stop hseen hraised))
    exact hnext.eq_of_stopped
  | event _ _ ih =>
    refine ih (Signal.le_version_after hseen _) ?_ (fun x hx => ?_) hw hu
    · exact Signal.raised_after hraised (hstay _ List.mem_cons_self)
    · exact hstay x (List.mem_cons_of_mem _ hx)
  | pass _ ha =>
    subst hu
    cases ha.symm.trans (advance_of_stop (Signal.notice_eq_stop hseen hraised))
  | never _ ha =>
    subst hu
    cases ha.symm.trans (advance_of_stop (Signal.notice_eq_stop hseen hraised))

/-- A user that hears first that the signal is raised stops at that moment. -/
theorem eq_of_first_raise {m : Instant} {later : List (Instant × SignalEvent)}
    (h : Pauses g t ⟨.pausing wake true, seen⟩ s ((m, .set true) :: later) e)
    (hnothing : s.signal.notice seen = .nothing) (hm : s.now ≤ m)
    (hstay : ∀ x ∈ later, x.2 ≠ .set false) (hw : ∀ moment ∈ wake, m < moment) :
    e = .stopped m := by
  generalize hu : (⟨.pausing wake true, seen⟩ : User) = u at h
  generalize hevents : (m, SignalEvent.set true) :: later = events at h
  induction h with
  | stopped hp => subst hu; cases hp
  | woken hp => subst hu; cases hp
  | wake hp hle =>
    subst hu
    cases hp
    exact absurd (Nat.le_trans hle hm) (Nat.not_le_of_lt (hw _ rfl))
  | move _ ha hnext =>
    subst hu
    rw [advance_of_nothing hnothing] at ha
    obtain ⟨-, -, moment, rfl, hle⟩ := eq_of_advance_deaf ha
    exact absurd (Nat.le_trans hle hm) (Nat.not_le_of_lt (hw _ rfl))
  | event _ hnext =>
    subst hu
    cases hevents
    obtain ⟨hseen, hconnected⟩ := Signal.notice_eq_nothing hnothing
    refine hnext.eq_of_heard ?_ ?_ hstay hw
    · simp [Signal.after, hconnected, hseen]
    · simp [Signal.after, hconnected]
  | pass _ _ _ _ hnext _ ih =>
    subst hevents
    exact ih hnothing (hnext _ rfl) hu rfl
  | never => cases hevents

/-- A user that does not hear first that the signal is raised, before it wakes, sleeps until it
wakes. -/
theorem eq_of_late_raise (h : Pauses g t ⟨.pausing wake true, seen⟩ s events e)
    (hseen : seen ≤ s.signal.version) (hfalse : s.signal.raised = false)
    (hlate : ∀ m, raisedAt? s.signal events = some m → (∃ w ∈ wake, max s.now w < m) ∨
      ∃ heard, heardAt? seen s.now s.signal events = some heard ∧ heard < m) :
    e = sleepOn s.now wake := by
  generalize hu : (⟨.pausing wake true, seen⟩ : User) = u at h
  induction h with
  | stopped hp => subst hu; cases hp
  | woken hp => subst hu; cases hp
  | wake hp hm =>
    subst hu
    cases hp
    exact (sleepOn_of_ge hm).symm
  | move _ ha hnext =>
    subst hu
    cases hn : Signal.notice _ seen with
    | stop => cases hfalse.symm.trans (User.raised_of_notice hn)
    | ignore =>
      cases ha.symm.trans (advance_of_ignore hn)
      exact hnext.eq_of_deaf
    | nothing =>
      rw [advance_of_nothing hn] at ha
      obtain ⟨rfl, rfl, moment, rfl, hm⟩ := eq_of_advance_deaf ha
      rw [sleepOn_of_ge hm]
      exact hnext.eq_of_checkingSignal
  | @event _ s events event _ _ _ ih =>
    -- The event comes now, so it is not the raise that comes later.
    have hquiet : (s.signal.after event).raised = false := by
      refine Bool.eq_false_iff.2 fun hraised => ?_
      obtain ⟨w, -, hm⟩ | ⟨heard, hh, hm⟩ := hlate s.now (by simp [raisedAt?, hraised])
      · exact absurd hm (Nat.not_lt_of_le (Nat.le_max_left ..))
      · rw [heardAt?_now] at hh
        obtain rfl := Option.some.inj hh
        exact absurd hm (Nat.lt_irrefl _)
    refine ih (Signal.le_version_after hseen event) hquiet (fun m hm => ?_) hu
    refine (hlate m (by simp [raisedAt?, hquiet, hm])).imp_right ?_
    rintro ⟨heard, hh, hlt⟩
    rw [heardAt?_now] at hh
    exact ⟨heard, by rwa [heardAt?, if_neg (Signal.notice_after_ne_nothing hseen event)], hlt⟩
  | pass _ ha hl hw _ _ ih =>
    subst hu
    have hn : Signal.notice _ seen = .nothing := notice_eq_nothing_of_idle ha
    refine Eq.trans ?_ (sleepOn_of_le hl hw)
    refine ih hseen hfalse (fun m hm => ?_) rfl
    obtain ⟨w, hwake, hlt⟩ | ⟨heard, hh, hlt⟩ := hlate m hm
    · refine .inl ⟨w, hwake, Nat.lt_of_le_of_lt ?_ hlt⟩
      rw [Nat.max_eq_right (hw w hwake)]
      exact Nat.le_max_right ..
    · rw [heardAt?, if_pos hn] at hh
      exact .inr ⟨heard, by rwa [heardAt?, if_pos hn], hlt⟩
  | never _ _ hw =>
    subst hu
    obtain rfl : wake = none := hw
    rfl

/-! ## A pause ends -/

/-- Nothing comes before the user wakes. -/
theorem sleepOn_of_idle {listening : Bool}
    (hidle : (∀ moment ∈ wake, s.now < moment) →
      (⟨.pausing wake listening, seen⟩ : User).advance g t s = none)
    (hnext : ∀ next ∈ events.head?, ∃ moment ∈ wake, moment ≤ next.1) :
    Pauses g t ⟨.pausing wake listening, seen⟩ s events (sleepOn s.now wake) := by
  cases wake with
  | none =>
    cases events with
    | nil => exact .never rfl (hidle nofun) rfl
    | cons next later =>
      obtain ⟨_, h, -⟩ := hnext next rfl
      cases h
  | some moment =>
    by_cases hm : moment ≤ s.now
    · rw [sleepOn_of_ge hm]
      exact .wake rfl hm
    · have hlt := Nat.lt_of_not_le hm
      have hwoken : Pauses g t ⟨.pausing (some moment) listening, seen⟩ { s with now := moment }
          events (.woken moment) := .wake rfl (Nat.le_refl _)
      have hsleep : sleepOn s.now (some moment) = .woken moment := by
        simp only [sleepOn, Nat.max_eq_right (Nat.le_of_lt hlt)]
      rw [hsleep]
      refine .pass rfl (hidle ?_) (Nat.le_of_lt hlt) ?_ ?_ hwoken
      · rintro _ ⟨⟩
        exact hlt
      · rintro _ ⟨⟩
        exact Nat.le_refl _
      · intro next hn
        obtain ⟨_, ⟨⟩, h⟩ := hnext next hn
        exact h

/-- The user waits for the next event, which comes before it wakes. -/
theorem wait {listening : Bool} {m : Instant} {event : SignalEvent}
    (hidle : (∀ moment ∈ wake, s.now < moment) →
      (⟨.pausing wake listening, seen⟩ : User).advance g t s = none)
    (hm : s.now ≤ m) (hw : ∀ moment ∈ wake, m ≤ moment)
    (h : Pauses g t ⟨.pausing wake listening, seen⟩
      { s with now := m, signal := s.signal.after event } events e) :
    Pauses g t ⟨.pausing wake listening, seen⟩ s ((m, event) :: events) e := by
  obtain rfl | hlt := Nat.eq_or_lt_of_le hm
  · exact .event rfl h
  · have hidle' := hidle fun moment hmem => Nat.lt_of_lt_of_le hlt (hw moment hmem)
    have hnext : ∀ next ∈ ((m, event) :: events).head?, m ≤ next.1 := by
      rintro _ ⟨⟩
      exact Nat.le_refl _
    have hevent : Pauses g t ⟨.pausing wake listening, seen⟩ { s with now := m }
        ((m, event) :: events) e := .event rfl h
    exact .pass rfl hidle' hm hw hnext hevent

/-- A user that does not listen wakes. -/
theorem of_deaf (h : InOrder s.now events) :
    Pauses g t ⟨.pausing wake false, seen⟩ s events (sleepOn s.now wake) := by
  induction events generalizing s with
  | nil => exact sleepOn_of_idle advance_deaf_eq_none nofun
  | cons next later ih =>
    obtain ⟨m, event⟩ := next
    by_cases hw : ∃ moment ∈ wake, moment ≤ m
    · refine sleepOn_of_idle advance_deaf_eq_none ?_
      rintro _ ⟨⟩
      exact hw
    · have hw' (moment : Instant) (hmem : moment ∈ wake) : m ≤ moment :=
        Nat.le_of_not_le fun hle => hw ⟨moment, hmem, hle⟩
      rw [← sleepOn_of_le h.1 hw']
      exact wait advance_deaf_eq_none h.1 hw' (ih h.2)

theorem of_stop (hn : s.signal.notice seen = .stop) :
    Pauses g t ⟨.pausing wake true, seen⟩ s events (.stopped s.now) :=
  .move rfl (advance_of_stop hn) (.stopped rfl)

theorem of_ignore (hn : s.signal.notice seen = .ignore) (h : InOrder s.now events) :
    Pauses g t ⟨.pausing wake true, seen⟩ s events (sleepOn s.now wake) :=
  .move rfl (advance_of_ignore hn) (of_deaf h)

/-- The end of a pause that `pause` tells is one that the pause of a user can have. -/
theorem of_pause (h : InOrder s.now events) :
    Pauses g t ⟨.pausing wake true, seen⟩ s events (pause wake seen s.now s.signal events) := by
  induction events generalizing s with
  | nil =>
    cases hn : s.signal.notice seen with
    | nothing =>
      simp only [pause, hn]
      exact sleepOn_of_idle (advance_listening_eq_none hn) nofun
    | stop =>
      simp only [pause, hn]
      exact of_stop hn
    | ignore =>
      simp only [pause, hn]
      exact of_ignore hn h
  | cons next later ih =>
    obtain ⟨m, event⟩ := next
    cases hn : s.signal.notice seen with
    | nothing =>
      simp only [pause, hn]
      split
      · next hw =>
        obtain ⟨moment, rfl, hlt⟩ := (Option.any_eq_true _ _).1 hw
        refine sleepOn_of_idle (advance_listening_eq_none hn) ?_
        rintro _ ⟨⟩
        exact ⟨moment, rfl, Nat.le_of_lt (by simpa using hlt)⟩
      · next hw =>
        have hw' (moment : Instant) (hmem : moment ∈ wake) : m ≤ moment := by
          refine Nat.le_of_not_lt fun hlt => hw ((Option.any_eq_true _ _).2 ⟨moment, hmem, ?_⟩)
          simpa using hlt
        rw [Nat.max_eq_right h.1]
        exact wait (advance_listening_eq_none hn) h.1 hw' (ih h.2)
    | stop =>
      simp only [pause, hn]
      exact of_stop hn
    | ignore =>
      simp only [pause, hn]
      exact of_ignore hn h

/-- A pause that cannot but end in one way ends so. -/
theorem iff_eq {e₀ : PauseEnd} (hin : InOrder s.now events)
    (huniq : ∀ e, Pauses g t ⟨.pacing, seen⟩ s events e → e = e₀) (e : PauseEnd) :
    Pauses g t ⟨.pacing, seen⟩ s events e ↔ e = e₀ := by
  constructor
  · exact huniq e
  · rintro rfl
    have hp : Pauses g t ⟨.pacing, seen⟩ s events
        (pause (wakeTime s.now g.pace g.deadline) seen s.now s.signal events) :=
      .move rfl rfl (of_pause hin)
    rwa [huniq _ hp] at hp

end Pauses

/-! ## Pauses in a crowd -/

/-- How a user stands whose pause has ended, and when. -/
def PauseEnd.IsOf (u : User) (now : Instant) : PauseEnd → Prop
  | .woken moment => u.phase = .checkingSignal ∧ moment = now
  | .stopped moment => u.phase = .stopped .signal ∧ moment = now
  | .never => u.isPausing = true ∧ u.wake? = none

/-- A user of a crowd pauses in a run of the crowd. -/
theorem Pauses.exists_run {g : Regime} {t : Target σ} {u : User} {s : Shared σ}
    {events : List (Instant × SignalEvent)} {e : PauseEnd} (h : Pauses g t u s events e)
    (before after : List User) :
    ∃ deeds u' s', Crowd.Run g t ⟨before ++ u :: after, s⟩ deeds ⟨before ++ u' :: after, s'⟩ ∧
      e.IsOf u' s'.now := by
  have hget (u : User) : (before ++ u :: after)[before.length]? = some u := by simp
  have hput (u u' : User) (s s' : Shared σ) :
      (⟨before ++ u :: after, s⟩ : Crowd σ).put before.length u' s' =
        ⟨before ++ u' :: after, s'⟩ := by
    simp [Crowd.put]
  induction h with
  | @stopped u s _ hp => exact ⟨[], u, s, .refl _, hp, rfl⟩
  | @woken u s _ hp => exact ⟨[], u, s, .refl _, hp, rfl⟩
  | @wake u s _ moment listening hp hm =>
    have hs := Crowd.Step.wake (g := g) (t := t) (w := ⟨before ++ u :: after, s⟩) (hget u) hp hm
    rw [hput] at hs
    exact ⟨_, _, s, .step hs (.refl _), rfl, rfl⟩
  | @move u s _ act u' s' _ _ ha _ ih =>
    obtain ⟨deeds, v, s'', hr, hv⟩ := ih
    have hs := Crowd.Step.move (w := ⟨before ++ u :: after, s⟩) (hget u) ha
    rw [hput] at hs
    exact ⟨_, v, s'', .step hs hr, hv⟩
  | @event u s _ event _ _ _ ih =>
    obtain ⟨deeds, v, s'', hr, hv⟩ := ih
    exact ⟨_, v, s'', .step (.signal event) hr, hv⟩
  | @pass u s _ later _ _ _ hl _ _ _ ih =>
    obtain ⟨deeds, v, s'', hr, hv⟩ := ih
    exact ⟨_, v, s'', .step (.pass hl) hr, hv⟩
  | @never u s hp _ hw => exact ⟨[], u, s, .refl _, hp, hw⟩

/-! ## The end of a pause -/

/-- A user begins its pause while the signal is not raised, and events of the signal come in order;
once raised, the signal is not lowered.

If the first event that the user hears raises the signal before the user wakes, the pause ends with
the user stopped, at that moment and in no other way. If the signal is not raised until the user
wakes, or only after the user has heard of another event, it wakes at the end of the pace interval
or at the deadline, whichever is earlier; with neither it never wakes. A user that begins its pause
after the deadline wakes at once. -/
theorem pause_heeds_the_first_change {g : Regime} {t : Target σ} {seen : Nat} {s : Shared σ}
    {events : List (Instant × SignalEvent)} (hfalse : s.signal.raised = false)
    (hseen : seen ≤ s.signal.version) (hin : InOrder s.now events)
    (hstay : events.Pairwise fun x y => x.2 = .set true → y.2 ≠ .set false) :
    (∀ m later, events = (m, .set true) :: later → s.signal.notice seen = .nothing →
      (∀ moment ∈ g.wakeAfter s.now, m < moment) →
      ∀ e, Pauses g t ⟨.pacing, seen⟩ s events e ↔ e = .stopped m) ∧
    ((∀ m, raisedAt? s.signal events = some m →
        (∃ moment ∈ g.wakeAfter s.now, max s.now moment < m) ∨
          ∃ heard, heardAt? seen s.now s.signal events = some heard ∧ heard < m) →
      ∀ e, Pauses g t ⟨.pacing, seen⟩ s events e ↔
        e = match g.wakeAfter s.now with
          | some moment => .woken (max s.now moment)
          | none => .never) := by
  constructor
  · rintro m later rfl hnothing hw
    refine Pauses.iff_eq hin fun e h => h.begun.eq_of_first_raise hnothing hin.1 ?_ hw
    exact fun x hx => (List.pairwise_cons.1 hstay).1 x hx rfl
  · exact fun hlate => Pauses.iff_eq hin fun e h => h.begun.eq_of_late_raise hseen hfalse hlate

/-! ## Short pauses -/

/-- A regime with ten nanoseconds between iterations. -/
def briskRegime : Regime where
  iteration _ := .done .completed
  pace := ⟨10⟩
  budget := none
  deadline := none

/-- The signal is raised in the middle of a pause. -/
theorem raise_is_heeded :
    Pauses briskRegime Scene.nowhere ⟨.pacing, 0⟩ { now := 0, signal := {}, site := () }
      [(2, .set true)] (.stopped 2) ∧
    ¬Pauses briskRegime Scene.nowhere ⟨.pacing, 0⟩ { now := 0, signal := {}, site := () }
      [(2, .set true)] (.woken 10) := by
  have hin : InOrder 0 [(2, .set true)] := ⟨Nat.zero_le 2, trivial⟩
  have hw : ∀ moment ∈ briskRegime.wakeAfter 0, 2 < moment := by
    rintro _ ⟨⟩
    decide
  have hiff := (pause_heeds_the_first_change (g := briskRegime) (t := Scene.nowhere)
    (s := { now := 0, signal := {}, site := () }) rfl (Nat.le_refl 0) hin
    (List.pairwise_singleton _ _)).1 2 [] rfl rfl hw
  refine ⟨(hiff _).2 rfl, fun h => ?_⟩
  cases (hiff _).1 h

/-- The signal is set first to what it was and then raised, and the user sleeps on. -/
theorem raise_is_missed :
    raisedAt? {} [(1, .set false), (2, .set true)] = some 2 ∧
    briskRegime.wakeAfter 0 = some 10 ∧
    ∀ e, Pauses briskRegime Scene.nowhere ⟨.pacing, 0⟩ { now := 0, signal := {}, site := () }
      [(1, .set false), (2, .set true)] e ↔ e = .woken 10 := by
  have hw : briskRegime.wakeAfter 0 = some 10 := by decide
  refine ⟨rfl, hw, Pauses.iff_eq ⟨Nat.zero_le 1, Nat.le_succ 1, trivial⟩ fun e h => ?_⟩
  have hb := h.begun.eq_of_late_raise (Nat.le_refl 0) rfl fun m hm => .inr ⟨1, rfl, ?_⟩
  · exact hb
  · obtain rfl := Option.some.inj hm
    decide

end NotesBench.Load
