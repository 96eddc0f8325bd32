import NotesBench.Proofs.Load.Shape
import NotesBench.Proofs.Load.Tallying
import NotesBench.Proofs.Load.Telling

/-!
# The accounts of a run

The scoreboard counts what was recorded, and what was recorded is told by the dialogues of the
finished iterations. As an iteration records a check at most once, each count is the number of
finished iterations that recorded the check with that result (`countP_eq`), which the shape of an
iteration ties to the numbers of all and of early iterations (`summary_accounts`).
-/

namespace NotesBench.Load

open Dialogue (Course recordsOf)

variable {σ : Type}

/-! ## Counting iterations -/

theorem countP_finishes {deeds : List Deed} {n : Nat}
    (h : ((finishesOf deeds).map (·.1)).Perm (List.range n)) (q : Nat → Bool) :
    (finishesOf deeds).countP (fun f => q f.1) = (List.range n).countP q := by
  rw [← h.countP_eq, List.countP_map]
  rfl

/-- Among the finished iterations, those with a record of some kind are as many as the records of
that kind, if no iteration has two of them. -/
theorem countP_eq {deeds : List Deed} {q : Record → Bool}
    (hnodup : ((finishesOf deeds).map (·.1)).Nodup)
    (hall : ∀ e ∈ countsOf deeds, e.1 ∈ (finishesOf deeds).map (·.1))
    (hone : ∀ index, (recordsAt index deeds).countP q ≤ 1) :
    (countsOf deeds).countP (fun e => q e.2) =
      (finishesOf deeds).countP fun f => (recordsAt f.1 deeds).any q := by
  -- Both sides are lengths of lists of numbers without repetition that hold the same numbers.
  let recorded := ((countsOf deeds).filter fun e => q e.2).map (·.1)
  let finished := ((finishesOf deeds).filter fun f => (recordsAt f.1 deeds).any q).map (·.1)
  have hcount (index : Nat) : recorded.count index = (recordsAt index deeds).countP q := by
    simp only [recorded, recordsAt, List.count, List.countP_map, List.countP_filter]
    exact List.countP_congr fun e _ => by simp [and_comm]
  have hr : recorded.Nodup := List.nodup_iff_count.2 fun index => hcount index ▸ hone index
  have hf : finished.Nodup :=
    List.Sublist.nodup (List.Sublist.map _ List.filter_sublist) hnodup
  have hsame (index : Nat) : index ∈ recorded ↔ index ∈ finished := by
    rw [← List.count_pos_iff, hcount, List.countP_pos_iff]
    simp only [finished, List.mem_map, List.mem_filter, List.any_eq_true]
    constructor
    · rintro ⟨r, hr, hq⟩
      obtain ⟨e, he, rfl⟩ := List.mem_map.1 hr
      obtain ⟨he, hi⟩ := List.mem_filter.1 he
      obtain ⟨f, hf, hfe⟩ := List.mem_map.1 (hall e he)
      obtain rfl : f.1 = index := hfe.trans (of_decide_eq_true hi)
      exact ⟨f, ⟨hf, e.2, hr, hq⟩, rfl⟩
    · rintro ⟨f, ⟨-, r, hr, hq⟩, rfl⟩
      exact ⟨r, hr, hq⟩
  have hlen := ((List.perm_ext_iff_of_nodup hr hf).2 hsame).length_eq
  simpa only [recorded, finished, List.length_map, ← List.countP_eq_length_filter] using hlen

namespace Journey

variable {j : Journey}

/-- Some record is one of a check, with whatever result. -/
def covers (records : List Record) (c : Check) : Bool := records.any (·.1 = c)

/-- What the accounts of a run need to know of an iteration: each check is recorded at most once;
the first two always are, the others unless it ends early; and it ends early when the record of the
registration is a failure. -/
theorem course_accounts {index : Nat} {events : List Dialogue.Event} {ending : Ending}
    (h : Course (j.iteration index) events ending) :
    ((recordsOf events).map (·.1)).Nodup ∧
      (∀ c, covers (recordsOf events) c =
        (decide (c = .health ∨ c = .register) || !ending.isEarly)) ∧
      (recordsOf events).any (Record.shows .register false) = ending.isEarly := by
  obtain ⟨registration, ht⟩ := j.took_of_course h
  have hcovers (c : Check) :
      covers (recordsOf events) c = decide (c ∈ (recordsOf events).map (·.1)) := by
    rw [covers, Bool.eq_iff_iff]
    simp
  by_cases hr : Refused registration
  · obtain ⟨⟨reason, rfl⟩, hrec, -, why, hw⟩ := ht.refused hr
    refine ⟨by rw [hrec]; decide, fun c => ?_, ?_⟩
    · rw [hcovers, hrec]
      simp [Ending.isEarly]
    · exact List.any_eq_true.2 ⟨_, hw, rfl⟩
  · obtain ⟨rfl, hrec, hp⟩ := ht.accepted hr
    have hnodup : ((recordsOf events).map (·.1)).Nodup := hrec ▸ Check.nodup_all
    refine ⟨hnodup, fun c => ?_, ?_⟩
    · rw [hcovers, hrec, decide_eq_true (Check.mem_all c)]
      simp [Ending.isEarly]
    · refine List.any_eq_false.2 fun r hr hs => ?_
      obtain ⟨d, o⟩ := r
      simp only [Record.shows, Bool.and_eq_true, decide_eq_true_eq] at hs
      obtain ⟨rfl, hs⟩ := hs
      rw [outcome_unique hnodup hr hp] at hs
      cases hs

end Journey

theorem countP_le_one {rs : List Record} (h : (rs.map (·.1)).Nodup) {q : Record → Bool} {c : Check}
    (hq : ∀ r, q r = true → r.1 = c) : rs.countP q ≤ 1 := by
  calc rs.countP q ≤ rs.countP (·.1 == c) :=
        List.countP_mono_left fun r _ hr => by simpa using hq r hr
    _ = (rs.map (·.1)).count c := by rw [List.count, List.countP_map]; rfl
    _ ≤ 1 := List.nodup_iff_count.1 h c

/-- A check passed or failed wherever it was recorded. -/
theorem countP_shows (counts : List (Nat × Record)) (c : Check) :
    counts.countP (·.2.shows c true) + counts.countP (·.2.shows c false) =
      counts.countP (·.2.1 = c) := by
  induction counts with
  | nil => rfl
  | cons e counts ih =>
    obtain ⟨index, d, o⟩ := e
    simp only [List.countP_cons, ← ih, Record.shows]
    by_cases h : d = c
    · cases o <;> simp [h, Outcome.isPass] <;> omega
    · simp [h]

/-! ## The accounts -/

namespace Crowd

variable {g : Regime} {t : Target σ} {j : Journey}

/-- What was counted in a run that is over, iteration by iteration. -/
structure Accounts (deeds : List Deed) : Prop where
  nodup : ((finishesOf deeds).map (·.1)).Nodup
  counted : ∀ e ∈ countsOf deeds, e.1 ∈ (finishesOf deeds).map (·.1)
  checks : ∀ f ∈ finishesOf deeds, ((recordsAt f.1 deeds).map (·.1)).Nodup
  covers : ∀ f ∈ finishesOf deeds, ∀ c, Journey.covers (recordsAt f.1 deeds) c =
    (decide (c = .health ∨ c = .register) || !f.2.isEarly)
  early : ∀ f ∈ finishesOf deeds,
    (recordsAt f.1 deeds).any (Record.shows .register false) = f.2.isEarly

theorem Telling.accounts {deeds : List Deed} {w : Crowd σ} (h : Telling g deeds w)
    (ho : w.isOver = true) (hj : g.iteration = j.iteration) : Accounts deeds := by
  obtain ⟨-, hperm, -⟩ := h.numbered.atEnd ho
  rw [← h.numbered.starts] at hperm
  have hcourse (f) (hf : f ∈ finishesOf deeds) :
      ∃ events, Course (j.iteration f.1) events f.2 ∧ recordsOf events = recordsAt f.1 deeds :=
    hj ▸ h.course hf
  constructor
  · exact hperm.nodup_iff.2 h.numbered.nodup
  · exact fun e he => hperm.mem_iff.2 (h.counted e he)
  · intro f hf
    obtain ⟨events, hc, hrec⟩ := hcourse f hf
    exact hrec ▸ (Journey.course_accounts hc).1
  · intro f hf
    obtain ⟨events, hc, hrec⟩ := hcourse f hf
    exact hrec ▸ (Journey.course_accounts hc).2.1
  · intro f hf
    obtain ⟨events, hc, hrec⟩ := hcourse f hf
    exact hrec ▸ (Journey.course_accounts hc).2.2

theorem Accounts.countP_eq {deeds : List Deed} (h : Accounts deeds) {q : Record → Bool} {c : Check}
    (hq : ∀ r, q r = true → r.1 = c) :
    (countsOf deeds).countP (fun e => q e.2) =
      (finishesOf deeds).countP fun f => (recordsAt f.1 deeds).any q := by
  refine Load.countP_eq h.nodup h.counted fun index => ?_
  by_cases hi : index ∈ (finishesOf deeds).map (·.1)
  · obtain ⟨f, hf, rfl⟩ := List.mem_map.1 hi
    exact countP_le_one (h.checks f hf) hq
  · have hnil : recordsAt index deeds = [] := by
      rw [recordsAt, List.filter_eq_nil_iff.2 fun e he => ?_, List.map_nil]
      rw [decide_eq_true_eq]
      exact fun he' => hi (he' ▸ h.counted e he)
    rw [hnil]
    exact Nat.zero_le 1

/-- The first two checks are recorded in all iterations, the others in those that come to their
end. -/
theorem Accounts.evaluated {deeds : List Deed} (h : Accounts deeds) (c : Check) :
    (countsOf deeds).countP (·.2.1 = c) =
      if c = .health ∨ c = .register then (finishesOf deeds).length
      else (finishesOf deeds).length - (finishesOf deeds).countP (·.2.isEarly) := by
  have he := h.countP_eq (q := (·.1 = c)) (c := c) fun r hr => of_decide_eq_true hr
  have hc : (finishesOf deeds).countP (fun f => (recordsAt f.1 deeds).any (·.1 = c)) =
      (finishesOf deeds).countP fun f =>
        decide (c = .health ∨ c = .register) || !f.2.isEarly :=
    List.countP_congr fun f hf => by rw [← h.covers f hf c]; rfl
  rw [he, hc]
  have hlen := List.length_eq_countP_add_countP (fun f : Nat × Ending => f.2.isEarly)
    (l := finishesOf deeds)
  by_cases hf : c = .health ∨ c = .register
  · simp [hf]
  · simp only [hf, decide_false, Bool.false_or, if_false]
    simp only [Bool.not_eq_true, Bool.decide_eq_false] at hlen
    omega

end Crowd

/-! ## The summary -/

open Crowd (Run)

/-- The line of a check. -/
def Summary.line? (s : Summary) (c : Check) : Option Line := s.lines[c.slot.val]?

theorem Summary.line?_ofCrowd (baseUrl : String) (start : Instant) (w : Crowd σ) (c : Check) :
    (Summary.ofCrowd baseUrl start w).line? c =
      some (.ofTally (c, w.shared.board.tally c)) := by
  cases c <;> rfl

/-- The accounts of a run that is over: what each count is, whether it has a reason, and how often
the check was evaluated. -/
theorem Crowd.tally_of_run {g : Regime} {t : Target σ} {j : Journey} {size : Nat} {now : Instant}
    {signal : Signal} {site : σ} {deeds : List Deed} {w : Crowd σ}
    (h : Run g t (Crowd.start size now signal site) deeds w) (hj : g.iteration = j.iteration)
    (ho : w.isOver = true) (c : Check) :
    (∀ passed, (w.shared.board.tally c).number passed =
      (finishesOf deeds).countP fun f => (recordsAt f.1 deeds).any (Record.shows c passed)) ∧
    ((w.shared.board.tally c).firstFailure.isSome ↔ 0 < (w.shared.board.tally c).number false) ∧
    (w.shared.board.tally c).number true + (w.shared.board.tally c).number false =
      if c = .health ∨ c = .register then w.shared.counters.iterations
      else w.shared.counters.iterations - w.shared.counters.earlyReturns := by
  have htold := Crowd.telling_of_run h
  have htallied := Crowd.tallied_of_run h
  have ha := htold.accounts ho hj
  refine ⟨fun passed => ?_, ?_, ?_⟩
  · rw [htallied.number]
    exact ha.countP_eq fun r hr => of_decide_eq_true (Bool.and_eq_true_iff.1 hr).1
  · rw [← htallied.failure]
    -- A user that has stopped is not about to keep a reason.
    refine (or_iff_left ?_).symm
    rintro ⟨u, hu, hk⟩
    obtain ⟨cause, hc⟩ := User.stopped_of_hasStopped (List.all_eq_true.1 ho u hu)
    rw [User.keeping?, hc] at hk
    cases hk
  · obtain ⟨-, -, hearly⟩ := htold.numbered.atEnd ho
    rw [htallied.number, htallied.number, countP_shows, ha.evaluated, hearly,
      htold.numbered.iterations]

/-- The summary of a run that is over. Of every check it counts the finished iterations that
recorded it as passed and as failed, and it gives a reason exactly when some failed. The first two
checks were evaluated in all iterations, the others in those that did not return early, which are
those whose registration failed. The counts depend on nothing but the results of the checks in each
iteration. -/
theorem summary_accounts {t : Target σ} {j : Journey} {plan : Plan} {now : Instant}
    {signal : Signal} {site : σ} {deeds : List Deed} {w : Crowd σ} (baseUrl : String)
    (h : Run (.ofPlan j plan now) t (Crowd.start plan.users now signal site) deeds w)
    (ho : w.isOver = true) :
    let s := Summary.ofCrowd baseUrl now w
    (∀ c, ∃ l, s.line? c = some l ∧ l.name = c.name ∧
      l.passes = (finishesOf deeds).countP
        (fun f => (recordsAt f.1 deeds).any (Record.shows c true)) ∧
      l.fails = (finishesOf deeds).countP
        (fun f => (recordsAt f.1 deeds).any (Record.shows c false)) ∧
      (l.firstFailure.isSome ↔ 0 < l.fails) ∧
      (l.passes + l.fails = if c = .health ∨ c = .register then s.iterations
        else s.iterations - s.earlyReturns) ∧
      (c = .register → l.fails = s.earlyReturns)) ∧
    s.earlyReturns ≤ s.iterations ∧
    s.passes + s.fails = 9 * s.iterations - 7 * s.earlyReturns ∧
    (∀ f ∈ finishesOf deeds, ∃ events, Course (j.iteration f.1) events f.2 ∧
      recordsOf events = recordsAt f.1 deeds) ∧
    (∀ {σ' : Type} {t' : Target σ'} {plan' : Plan} {now' : Instant} {signal' : Signal} {site' : σ'}
      {deeds' : List Deed} {w' : Crowd σ'},
      Run (.ofPlan j plan' now') t' (Crowd.start plan'.users now' signal' site') deeds' w' →
      w'.isOver = true →
      let s' := Summary.ofCrowd baseUrl now' w'
      s'.iterations = s.iterations →
      (∀ index < s.iterations, ∀ c passed, (recordsAt index deeds').any (Record.shows c passed) =
        (recordsAt index deeds).any (Record.shows c passed)) →
      s'.lines.map (fun l => (l.name, l.passes, l.fails)) =
        s.lines.map (fun l => (l.name, l.passes, l.fails))) := by
  have htold := Crowd.telling_of_run h
  obtain ⟨hiter, hperm, hearly⟩ := htold.numbered.atEnd ho
  have htally := Crowd.tally_of_run (j := j) h rfl ho
  have hfails : (w.shared.board.tally .register).number false = w.shared.counters.earlyReturns := by
    rw [(htally .register).1, hearly]
    exact List.countP_congr fun f hf => by rw [(htold.accounts ho rfl).early f hf]
  have hle : w.shared.counters.earlyReturns ≤ w.shared.counters.iterations := by
    rw [hearly, htold.numbered.iterations]
    exact List.countP_le_length
  refine ⟨fun c => ?_, hle, ?_, fun f hf => htold.course hf, ?_⟩
  · obtain ⟨hnumber, hfailure, hsum⟩ := htally c
    refine ⟨_, Summary.line?_ofCrowd baseUrl now w c, rfl, hnumber true, hnumber false, hfailure,
      hsum, ?_⟩
    rintro rfl
    exact hfails
  · have hsum (c : Check) := (htally c).2.2
    have hall : ∀ c ∈ Check.all, (w.shared.board.tally c).passes + (w.shared.board.tally c).fails =
        if c = .health ∨ c = .register then w.shared.counters.iterations
        else w.shared.counters.iterations - w.shared.counters.earlyReturns := fun c _ => hsum c
    simp only [Check.all, List.forall_mem_cons, reduceCtorEq, or_false, or_true, if_true,
      or_self, if_false] at hall
    simp only [Summary.passes, Summary.fails, Summary.ofCrowd, Scoreboard.snapshot, Check.all,
      List.map_cons, List.map_nil, List.foldr_cons, List.foldr_nil, Line.ofTally]
    omega
  · intro σ' t' plan' now' signal' site' deeds' w' h' ho' s' hsame hrec
    obtain ⟨hiter', hperm', -⟩ := (Crowd.telling_of_run h').numbered.atEnd ho'
    rw [← hiter'] at hperm'
    rw [← hiter] at hperm
    have hnumber (c : Check) (passed : Bool) :
        (w'.shared.board.tally c).number passed = (w.shared.board.tally c).number passed := by
      rw [(Crowd.tally_of_run (j := j) h' rfl ho' c).1, (htally c).1,
        countP_finishes hperm' fun index => (recordsAt index deeds').any (Record.shows c passed),
        countP_finishes hperm fun index => (recordsAt index deeds).any (Record.shows c passed),
        show w'.shared.counters.iterations = w.shared.counters.iterations from hsame]
      exact List.countP_congr fun index hi => by rw [hrec index (List.mem_range.1 hi) c passed]
    simp only [s', Summary.ofCrowd, Scoreboard.snapshot, List.map_map]
    refine List.map_congr_left fun c _ => ?_
    simp only [Function.comp_apply, Line.ofTally, Prod.mk.injEq, true_and]
    exact ⟨hnumber c true, hnumber c false⟩

theorem short_run_accounts :
    Scene.shortEnd.isOver = true ∧
    ∃ deeds, Run (.ofPlan Scene.shortJourney Scene.shortPlan 0) Scene.nowhere
        (Crowd.start Scene.shortPlan.users 0 {} ()) deeds Scene.shortEnd ∧
      (∀ f ∈ finishesOf deeds, ∃ events,
        Course (Scene.shortJourney.iteration f.1) events f.2 ∧
          recordsOf events = recordsAt f.1 deeds) ∧
      let s := Summary.ofCrowd Scene.shortPlan.baseUrl 0 Scene.shortEnd
      s.passes + s.fails = 9 * s.iterations - 7 * s.earlyReturns := by
  obtain ⟨deeds, h⟩ := Scene.leads_shortEnd
  obtain ⟨-, -, htotal, hcourse, -⟩ :=
    summary_accounts Scene.shortPlan.baseUrl h Scene.isOver_shortEnd
  exact ⟨Scene.isOver_shortEnd, deeds, h, hcourse, htotal⟩

end NotesBench.Load
