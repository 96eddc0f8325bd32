import NotesBench.Load.Summary
import NotesBench.Proofs.Load.Move
import NotesBench.Proofs.Load.Playing

/-!
# Numbers and budget of a run

The users of a run take numbers from one counter and look at the budget only afterwards, so the
counter may pass the budget by one for every user. `Numbered` ties the counter, the iterations under
way and the counted ones to what was done so far, and every step keeps it (`numbered_of_run`). A
user who is past its look at the signal may begin one more iteration when the signal is raised, and
no other may (`User.mayStart`).
-/

namespace NotesBench.Load

variable {σ : Type}

/-! ## What a user holds -/

/-- The number of the iteration that a user has begun and not counted yet. -/
def User.index? (u : User) : Option Nat :=
  match u.phase with
  | .iterating index _ | .keeping index _ _ _ => some index
  | _ => none

/-- Whether a user has still to note an early ending. -/
def User.owesEarly (u : User) : Bool :=
  match u.phase with
  | .closing _ ending => ending.isEarly
  | _ => false

/-- How many iterations a user can begin before it looks at the signal again. -/
def User.mayStart (u : User) : Nat :=
  match u.phase with
  | .checkingDeadline | .fetching => 1
  | _ => 0

/-- How many of the first numbers lie within the budget. -/
def Regime.granted (g : Regime) (next : Nat) : Nat :=
  match g.budget with
  | some budget => min next budget
  | none => next

theorem Regime.granted_exhausted {g : Regime} {next : Nat}
    (h : g.budget.any (· ≤ next) = true) : g.granted (next + 1) = g.granted next := by
  obtain ⟨budget, hb, hle⟩ := (Option.any_eq_true _ _).1 h
  simp only [decide_eq_true_eq] at hle
  simp only [granted, hb]
  omega

theorem Regime.granted_within {g : Regime} {next : Nat}
    (h : g.budget.any (· ≤ next) = false) :
    g.granted next = next ∧ g.granted (next + 1) = next + 1 := by
  cases hb : g.budget with
  | none => simp [granted, hb]
  | some budget =>
    simp only [hb, Option.any_some, decide_eq_false_iff_not] at h
    simp only [granted, hb]
    constructor <;> omega

theorem Regime.granted_le {g : Regime} {budget : Nat} (h : g.budget = some budget) (next : Nat) :
    g.granted next ≤ budget := by
  simp only [granted, h]
  exact Nat.min_le_right ..

theorem Regime.granted_of_lt {g : Regime} {budget next : Nat} (h : g.budget = some budget)
    (hn : budget < next) : g.granted next = budget := by
  simp only [granted, h]
  omega

/-! ## What a move does to the counters -/

namespace Move

variable {g : Regime} {t : Target σ} {u u' : User} {s s' : Shared σ} {act : Act}

/-- A number is begun, then held, then counted. -/
theorem index (h : Move g t u s act u' s') :
    act.started?.toList ++ u.index?.toList =
      act.finished?.toList.map (·.1) ++ u'.index?.toList := by
  cases h <;> rfl

theorem granted (h : Move g t u s act u' s') :
    List.range (g.granted s.counters.next) ++ act.started?.toList =
      List.range (g.granted s'.counters.next) := by
  cases h with
  | exhaust hb => simp [Act.started?, Regime.granted_exhausted hb]
  | begin hb =>
    obtain ⟨h₁, h₂⟩ := Regime.granted_within hb
    simp [Act.started?, h₁, h₂, List.range_succ]
  | close => split <;> simp [Act.started?]
  | _ => simp [Act.started?]

theorem iterations (h : Move g t u s act u' s') :
    s'.counters.iterations = s.counters.iterations + act.finished?.toList.length := by
  cases h with
  | close => split <;> simp [Act.finished?]
  | _ => simp [Act.finished?]

theorem early (h : Move g t u s act u' s') :
    s'.counters.earlyReturns + [u'].countP User.owesEarly =
      s.counters.earlyReturns + [u].countP User.owesEarly +
        act.finished?.toList.countP (·.2.isEarly) := by
  cases h with
  | close =>
    split
    · next he => simp [Act.finished?, User.owesEarly, he]
    · next he => simp [Act.finished?, User.owesEarly, he]
  | @finish seen s index ending =>
    cases he : ending.isEarly <;> simp [Act.finished?, User.owesEarly, he]
  | _ => simp [Act.finished?, User.owesEarly]

theorem next_le (h : Move g t u s act u' s') : s.counters.next ≤ s'.counters.next := by
  cases h with
  | close => split <;> simp
  | _ => simp

theorem exhausted (h : Move g t u s act u' s') (hp : u'.phase = .stopped .budget) :
    ∃ budget, g.budget = some budget ∧ budget < s'.counters.next := by
  cases h with
  | exhaust hb =>
    obtain ⟨budget, hb, hle⟩ := (Option.any_eq_true _ _).1 hb
    simp only [decide_eq_true_eq] at hle
    exact ⟨budget, hb, by simp only; omega⟩
  | _ => cases hp

theorem signal_eq (h : Move g t u s act u' s') : s'.signal = s.signal := by
  cases h with
  | close => split <;> rfl
  | _ => rfl

theorem interrupted (h : Move g t u s act u' s') (hi : s'.counters.interrupted = true) :
    s.counters.interrupted = true ∨ s.signal.raised = true := by
  cases h with
  | obey hr => exact .inr hr
  | obeyPausing hr => exact .inr hr
  | close => split at hi <;> exact .inl hi
  | _ => exact .inl hi

/-- While the signal is raised, a user spends what it may still begin and gains nothing. -/
theorem mayStart (h : Move g t u s act u' s') (hr : s.signal.raised = true) :
    act.started?.toList.length + u'.mayStart ≤ u.mayStart := by
  cases h with
  | passSignal hn => rw [hr] at hn; cases hn
  | _ => simp [Act.started?, User.mayStart]

end Move

/-! ## The numbers of a run -/

namespace Crowd

/-- The numbers of the iterations under way. -/
def underWay (w : Crowd σ) : List Nat := w.users.filterMap User.index?

theorem underWay_amid (before after : List User) (u : User) :
    (before ++ u :: after).filterMap User.index? =
      before.filterMap User.index? ++ (u.index?.toList ++ after.filterMap User.index?) := by
  cases h : u.index? <;> simp [h]

/-- The counters and the users agree with what was done. -/
structure Numbered (g : Regime) (deeds : List Deed) (w : Crowd σ) : Prop where
  starts : startsOf deeds = List.range (g.granted w.shared.counters.next)
  finishes : ∀ m, (startsOf deeds).count m =
    ((finishesOf deeds).map (·.1)).count m + w.underWay.count m
  iterations : w.shared.counters.iterations = (finishesOf deeds).length
  early : w.shared.counters.earlyReturns + w.users.countP User.owesEarly =
    (finishesOf deeds).countP (·.2.isEarly)
  exhausted : ∀ u ∈ w.users, u.phase = .stopped .budget →
    ∃ budget, g.budget = some budget ∧ budget < w.shared.counters.next

theorem numbered_start (g : Regime) (size : Nat) (now : Instant) (signal : Signal) (site : σ) :
    Numbered g [] (start size now signal site) where
  starts := by
    cases hb : g.budget <;> simp [startsOf, start, Regime.granted, hb]
  finishes m := by
    have hn : (List.replicate size ({} : User)).filterMap User.index? = [] :=
      List.filterMap_replicate_of_none rfl
    simp [startsOf, finishesOf, underWay, start, hn]
  iterations := rfl
  early := by
    simp [finishesOf, start, User.owesEarly]
  exhausted u hu hp := by
    obtain rfl := List.eq_of_mem_replicate hu
    cases hp

/-- What does not touch the counters and the users keeps the numbers. -/
theorem Numbered.aside {g : Regime} {deeds : List Deed} {w : Crowd σ} {d : Deed}
    (h : Numbered g deeds w) {s' : Shared σ} (hs : s'.counters = w.shared.counters)
    (h₁ : d.act.started? = none) (h₂ : d.act.finished? = none) :
    Numbered g (deeds ++ [d]) ⟨w.users, s'⟩ := by
  obtain ⟨starts, finishes, iterations, early, exhausted⟩ := h
  constructor <;> simpa [h₁, h₂, hs, underWay]

theorem Numbered.step {g : Regime} {t : Target σ} {deeds : List Deed} {w w' : Crowd σ} {d : Deed}
    (h : Numbered g deeds w) (hs : Step g t w d w') : Numbered g (deeds ++ [d]) w' := by
  obtain ⟨before, u, u', after, s', act, hu, hm, rfl, rfl⟩ | ⟨later, -, rfl, rfl⟩ |
    ⟨event, rfl, rfl⟩ := step_cases hs
  · constructor
    · rw [startsOf_snoc, h.starts, hm.granted]
    · intro m
      have hf := h.finishes m
      have hc := congrArg (List.count m) hm.index
      simp only [underWay, hu, startsOf_snoc, finishesOf_snoc, List.map_append, List.count_append,
        underWay_amid] at hf hc ⊢
      omega
    · rw [finishesOf_snoc, List.length_append, ← h.iterations, hm.iterations]
    · have he := h.early
      have hc := hm.early
      simp only [hu, finishesOf_snoc, List.countP_append, List.countP_cons, List.countP_nil]
        at he hc ⊢
      omega
    · intro v hv hp
      by_cases hvu : v = u'
      · exact hm.exhausted (hvu ▸ hp)
      · have hv : v ∈ w.users := by
          rw [hu]
          simp only [List.mem_append, List.mem_cons, hvu, false_or] at hv ⊢
          exact hv.imp_right .inr
        obtain ⟨budget, hb, hlt⟩ := h.exhausted v hv hp
        exact ⟨budget, hb, Nat.lt_of_lt_of_le hlt hm.next_le⟩
  · exact h.aside rfl rfl rfl
  · exact h.aside rfl rfl rfl

theorem numbered_of_run {g : Regime} {t : Target σ} {size : Nat} {now : Instant} {signal : Signal}
    {site : σ} {deeds : List Deed} {w : Crowd σ}
    (hr : Run g t (start size now signal site) deeds w) : Numbered g deeds w :=
  Run.history Numbered.step (numbered_start g size now signal site) hr

/-! ## At the end of a run -/

theorem index?_of_hasStopped {u : User} (h : u.hasStopped = true) : u.index? = none := by
  obtain ⟨cause, hc⟩ := User.stopped_of_hasStopped h
  simp only [User.index?, hc]

theorem owesEarly_of_hasStopped {u : User} (h : u.hasStopped = true) : u.owesEarly = false := by
  obtain ⟨cause, hc⟩ := User.stopped_of_hasStopped h
  simp only [User.owesEarly, hc]

theorem underWay_of_isOver {w : Crowd σ} (h : w.isOver = true) : w.underWay = [] :=
  List.filterMap_eq_nil_iff.2 fun u hu => index?_of_hasStopped (List.all_eq_true.1 h u hu)

/-- When all users have stopped, what was begun was counted. -/
theorem Numbered.atEnd {g : Regime} {deeds : List Deed} {w : Crowd σ} (h : Numbered g deeds w)
    (ho : w.isOver = true) :
    w.shared.counters.iterations = g.granted w.shared.counters.next ∧
      ((finishesOf deeds).map (·.1)).Perm (List.range (g.granted w.shared.counters.next)) ∧
      w.shared.counters.earlyReturns = (finishesOf deeds).countP (·.2.isEarly) := by
  have hp :
      ((finishesOf deeds).map (·.1)).Perm (List.range (g.granted w.shared.counters.next)) := by
    rw [← h.starts]
    refine List.perm_iff_count.2 fun m => ?_
    have hf := h.finishes m
    rw [underWay_of_isOver ho, List.count_nil, Nat.add_zero] at hf
    exact hf.symm
  refine ⟨?_, hp, ?_⟩
  · have hl := hp.length_eq
    rwa [List.length_map, List.length_range, ← h.iterations] at hl
  · have he := h.early
    have hz : w.users.countP User.owesEarly = 0 := List.countP_eq_zero.2 fun u hu => by
      rw [owesEarly_of_hasStopped (List.all_eq_true.1 ho u hu)]
      exact Bool.false_ne_true
    rwa [hz, Nat.add_zero] at he

/-! ## Under a raised signal -/

variable {g : Regime} {t : Target σ}

/-- How many iterations the user at a place can begin before it looks at the signal again. -/
def mayStart (w : Crowd σ) (i : Nat) : Nat := w.users[i]?.elim 0 User.mayStart

theorem startsBy_cons (i : Nat) (d : Deed) (deeds : List Deed) :
    startsBy i (d :: deeds) = startsBy i [d] ++ startsBy i deeds := by
  by_cases h : d.user = some i <;> cases hs : d.act.started? <;> simp [startsBy, startsOf, h, hs]

theorem Step.raised {w w' : Crowd σ} {d : Deed} (hs : Step g t w d w')
    (hr : w.shared.signal.raised = true) (hl : ¬ d.act.IsLowering) :
    w'.shared.signal.raised = true := by
  obtain ⟨before, u, u', after, s', act, hu, hm, rfl, rfl⟩ | ⟨later, -, rfl, rfl⟩ |
    ⟨event, rfl, rfl⟩ := step_cases hs
  · rw [hm.signal_eq]
    exact hr
  · exact hr
  · cases event with
    | set raised =>
      have : raised = true := by simpa [Act.IsLowering] using hl
      simp only [Signal.after]
      split
      · exact this
      · exact hr
    | close => exact hr

theorem Step.mayStart {w w' : Crowd σ} {d : Deed} (hs : Step g t w d w')
    (hr : w.shared.signal.raised = true) (i : Nat) :
    (startsBy i [d]).length + w'.mayStart i ≤ w.mayStart i := by
  obtain ⟨before, u, u', after, s', act, hu, hm, rfl, rfl⟩ | ⟨later, -, rfl, rfl⟩ |
    ⟨event, rfl, rfl⟩ := step_cases hs
  · by_cases hi : before.length = i
    · subst hi
      have hb := hm.mayStart hr
      cases ha : act.started? <;> simpa [startsBy, startsOf, Crowd.mayStart, hu, ha] using hb
    · have hg : (before ++ u' :: after)[i]? = (before ++ u :: after)[i]? := by
        rw [List.getElem?_append, List.getElem?_append]
        split
        · rfl
        · rw [List.getElem?_cons, List.getElem?_cons, if_neg (by omega), if_neg (by omega)]
      simp [startsBy, startsOf, Crowd.mayStart, hu, hg, hi]
  · simp [startsBy, startsOf, Crowd.mayStart]
  · simp [startsBy, startsOf, Crowd.mayStart]

/-- Each user begins at most what it may begin when the signal is raised for good. -/
theorem Run.startsBy_le {w w' : Crowd σ} {deeds : List Deed} (h : Run g t w deeds w')
    (hr : w.shared.signal.raised = true) (hl : ∀ d ∈ deeds, ¬ d.act.IsLowering) (i : Nat) :
    (startsBy i deeds).length + w'.mayStart i ≤ w.mayStart i := by
  induction h with
  | refl w => simp [startsBy, startsOf]
  | step hs _ ih =>
    have hfirst := hs.mayStart hr i
    have hrest := ih (hs.raised hr (hl _ List.mem_cons_self))
      fun d hd => hl d (List.mem_cons_of_mem _ hd)
    rw [startsBy_cons, List.length_append]
    omega

theorem mayStart_le_one (w : Crowd σ) (i : Nat) : w.mayStart i ≤ 1 := by
  unfold mayStart
  cases w.users[i]? with
  | none => exact Nat.zero_le 1
  | some u =>
    simp only [Option.elim_some, User.mayStart]
    split <;> omega

/-- A run that was interrupted came by a moment at which the signal was raised. -/
theorem Run.raised_of_interrupted {w w' : Crowd σ} {deeds : List Deed} (h : Run g t w deeds w')
    (hn : w.shared.counters.interrupted = false) (hi : w'.shared.counters.interrupted = true) :
    ∃ before w₁ after, deeds = before ++ after ∧ Run g t w before w₁ ∧ Run g t w₁ after w' ∧
      w₁.shared.signal.raised = true := by
  induction h with
  | refl w => rw [hn] at hi; cases hi
  | @step w₁ w₂ w₃ deed deeds hs hr ih =>
    cases hn₂ : w₂.shared.counters.interrupted with
    | false =>
      obtain ⟨before, w₀, after, rfl, hb, ha, hraised⟩ := ih hn₂ hi
      exact ⟨deed :: before, w₀, after, rfl, .step hs hb, ha, hraised⟩
    | true =>
      refine ⟨[], w₁, deed :: deeds, rfl, .refl w₁, .step hs hr, ?_⟩
      obtain ⟨before, u, u', after, s', act, hu, hm, rfl, rfl⟩ | ⟨later, -, rfl, rfl⟩ |
        ⟨event, rfl, rfl⟩ := step_cases hs
      · refine (hm.interrupted hn₂).resolve_left ?_
        rw [hn]
        exact Bool.false_ne_true
      · rw [show _ = false from hn] at hn₂
        cases hn₂
      · rw [show _ = false from hn] at hn₂
        cases hn₂

end Crowd

/-! ## The whole run -/

open Crowd (Run)

/-- At every moment of a run of at least one user the iterations begun are those of the first
numbers, each begun once, and no more than the budget. When all users have stopped, the summary
counts just these, each of them finished once, and the early ones are among them; when no user was
stopped by the signal or the deadline, they fill the budget. A run is called interrupted only if the
signal was raised at some moment, and from a moment on at which it is raised for good no user begins
more than one iteration. -/
theorem numbers_taken_once {g : Regime} {t : Target σ} {size : Nat} {now : Instant}
    {signal : Signal} {site : σ} {deeds : List Deed} {w : Crowd σ} (baseUrl : String)
    (hs : 0 < size) (h : Run g t (Crowd.start size now signal site) deeds w) :
    let summary := Summary.ofCrowd baseUrl now w
    (∃ k, startsOf deeds = List.range k ∧ (∀ budget, g.budget = some budget → k ≤ budget) ∧
      (w.isOver = true → summary.iterations = k ∧
        ((finishesOf deeds).map (·.1)).Perm (List.range summary.iterations) ∧
        summary.earlyReturns = (finishesOf deeds).countP (·.2.isEarly) ∧
        summary.earlyReturns ≤ summary.iterations)) ∧
    (∀ budget, g.budget = some budget → w.isOver = true →
      (∀ u ∈ w.users, u.phase ≠ .stopped .deadline ∧ u.phase ≠ .stopped .signal) →
      summary.iterations = budget) ∧
    (summary.interrupted = true → ∃ before w₁ after, deeds = before ++ after ∧
      Run g t (Crowd.start size now signal site) before w₁ ∧ Run g t w₁ after w ∧
      w₁.shared.signal.raised = true) ∧
    (∀ before w₁ after, deeds = before ++ after →
      Run g t (Crowd.start size now signal site) before w₁ → Run g t w₁ after w →
      w₁.shared.signal.raised = true → (∀ d ∈ after, ¬ d.act.IsLowering) →
      ∀ i, (startsBy i after).length ≤ 1) := by
  have hn := Crowd.numbered_of_run h
  refine ⟨⟨g.granted w.shared.counters.next, hn.starts, fun budget hb => Regime.granted_le hb _,
    fun ho => ?_⟩, fun budget hb ho hall => ?_, fun hi => h.raised_of_interrupted rfl hi,
    fun before w₁ after _ _ ha hr hl i => ?_⟩
  · obtain ⟨hiter, hperm, hearly⟩ := hn.atEnd ho
    refine ⟨hiter, ?_, hearly, ?_⟩
    · simpa only [Summary.ofCrowd, hiter] using hperm
    · simp only [Summary.ofCrowd, hearly, hn.iterations]
      exact List.countP_le_length
  · -- The users are as many as at the start, so one of them has stopped, and at the budget.
    obtain ⟨hiter, -⟩ := hn.atEnd ho
    have hlen : w.users.length = size := by simpa [Crowd.start] using h.length_users
    obtain ⟨u, hu⟩ := List.exists_mem_of_length_pos (hlen ▸ hs)
    obtain ⟨cause, hc⟩ := User.stopped_of_hasStopped (List.all_eq_true.1 ho u hu)
    cases cause with
    | signal => exact absurd hc (hall u hu).2
    | deadline => exact absurd hc (hall u hu).1
    | budget =>
      obtain ⟨_, hb', hlt⟩ := hn.exhausted u hu hc
      obtain rfl := Option.some.inj (hb.symm.trans hb')
      exact hiter.trans (Regime.granted_of_lt hb hlt)
  · have hle := ha.startsBy_le hr hl i
    have := Crowd.mayStart_le_one w₁ i
    omega

theorem short_run_takes_two_numbers :
    0 < Scene.shortPlan.users ∧
    ∃ deeds, Run (.ofPlan Scene.shortJourney Scene.shortPlan 0) Scene.nowhere
        (Crowd.start Scene.shortPlan.users 0 {} ()) deeds Scene.shortEnd ∧
      startsOf deeds = [0, 1] ∧ ((finishesOf deeds).map (·.1)).Perm [0, 1] := by
  obtain ⟨deeds, h⟩ := Scene.leads_shortEnd
  have hs : 0 < 2 := by decide
  obtain ⟨⟨k, hk, -, hend⟩, -⟩ := numbers_taken_once Scene.shortPlan.baseUrl hs h
  obtain ⟨hiter, hperm, -⟩ := hend Scene.isOver_shortEnd
  have hi : (Summary.ofCrowd Scene.shortPlan.baseUrl 0 Scene.shortEnd).iterations = 2 :=
    Scene.iterations_shortEnd
  rw [hi] at hiter hperm
  exact ⟨hs, deeds, h, by rw [hk, ← hiter]; rfl, hperm⟩

end NotesBench.Load
