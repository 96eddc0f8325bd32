import NotesBench.Load.Scoreboard
import NotesBench.Proofs.Load.Move

/-!
# The scoreboard of a run

The scoreboard counts what was recorded, and it keeps a reason, or a user is about to keep one,
for the checks of which a failure was counted (`Tallied`). Counting and keeping are two steps, so
between them a check has a failure and no reason yet.
-/

namespace NotesBench.Load

variable {σ : Type}

/-! ## Counting -/

/-- How often a check passed, or failed. -/
def Tally.number (t : Tally) (passed : Bool) : Nat := if passed then t.passes else t.fails

/-- The record is one of a check with a result. -/
def Record.shows (c : Check) (passed : Bool) (r : Record) : Bool := r.1 = c && r.2.isPass == passed

namespace Scoreboard

theorem number_count (b : Scoreboard) (r : Record) (c : Check) (passed : Bool) :
    ((b.count r.1 r.2).1.tally c).number passed =
      (b.tally c).number passed + if r.shows c passed then 1 else 0 := by
  obtain ⟨d, o⟩ := r
  by_cases h : c = d
  · subst h
    cases o <;> cases passed <;> simp [count, Record.shows, Outcome.isPass, Tally.number]
  · have h' : d ≠ c := Ne.symm h
    cases o <;> simp [count, Record.shows, h, h']

theorem firstFailure_count (b : Scoreboard) (d : Check) (o : Outcome) (c : Check) :
    ((b.count d o).1.tally c).firstFailure = (b.tally c).firstFailure := by
  by_cases h : c = d
  · subst h
    cases o <;> simp [count]
  · cases o <;> simp [count, h]

theorem number_keep (b : Scoreboard) (d : Check) (reason : Reason) (c : Check) (passed : Bool) :
    ((b.keep d reason).tally c).number passed = (b.tally c).number passed := by
  unfold keep
  split
  · rfl
  · by_cases h : c = d
    · subst h
      simp [Tally.number]
    · simp [h]

theorem firstFailure_keep (b : Scoreboard) (d : Check) (reason : Reason) (c : Check) :
    ((b.keep d reason).tally c).firstFailure.isSome ↔
      (b.tally c).firstFailure.isSome ∨ c = d := by
  unfold keep
  by_cases h : c = d
  · subst h
    split
    · next hk => simp [hk]
    · simp
  · split <;> simp [h]

/-- The reason of a failure is to be kept if no other went before. -/
theorem count_eq_some {b : Scoreboard} {r : Record} {reason : Reason}
    (h : (b.count r.1 r.2).2 = some reason) (c : Check) :
    r.1 = c ↔ (b.tally c).number false = 0 ∧ r.shows c false = true := by
  obtain ⟨d, o⟩ := r
  cases o with
  | pass => cases h
  | fail reason' =>
    have hf : (b.tally d).fails = 0 := by
      simp only [count] at h
      split at h
      · assumption
      · cases h
    constructor
    · rintro rfl
      exact ⟨hf, by simp [Record.shows, Outcome.isPass]⟩
    · rintro ⟨-, hs⟩
      simpa [Record.shows, Outcome.isPass] using hs

theorem count_eq_none {b : Scoreboard} {r : Record} (h : (b.count r.1 r.2).2 = none) {c : Check}
    (hs : r.shows c false = true) : (b.tally c).number false ≠ 0 := by
  obtain ⟨d, o⟩ := r
  cases o with
  | pass => simp [Record.shows, Outcome.isPass] at hs
  | fail reason =>
    obtain rfl : d = c := by simpa [Record.shows, Outcome.isPass] using hs
    simp only [count] at h
    split at h
    · cases h
    · assumption

end Scoreboard

/-! ## The scoreboard of a run -/

/-- The check of which a user is about to keep the reason. -/
def User.keeping? (u : User) : Option Check :=
  match u.phase with
  | .keeping _ check _ _ => some check
  | _ => none

namespace Move

variable {g : Regime} {t : Target σ} {u u' : User} {s s' : Shared σ} {act : Act}

theorem number (h : Move g t u s act u' s') (c : Check) (passed : Bool) :
    (s'.board.tally c).number passed =
      (s.board.tally c).number passed + act.counted?.toList.countP (·.2.shows c passed) := by
  cases h with
  | @count _ _ r => simp [Act.counted?, Scoreboard.number_count, List.countP_cons]
  | @countFirst _ _ r => simp [Act.counted?, Scoreboard.number_count, List.countP_cons]
  | keep => simp [Act.counted?, Scoreboard.number_keep]
  | close => split <;> simp [Act.counted?]
  | _ => simp [Act.counted?]

/-- A reason is kept, or about to be, when it was before or the first failure is counted. -/
theorem failure (h : Move g t u s act u' s') (c : Check) :
    ((s'.board.tally c).firstFailure.isSome ∨ u'.keeping? = some c) ↔
      ((s.board.tally c).firstFailure.isSome ∨ u.keeping? = some c) ∨
        (s.board.tally c).number false = 0 ∧
          0 < act.counted?.toList.countP (·.2.shows c false) := by
  cases h with
  | @count _ _ index r rest hk =>
    have hn := Scoreboard.count_eq_none (c := c) hk
    simp only [Scoreboard.firstFailure_count, User.keeping?, Act.counted?, List.countP_pos_iff,
      Option.toList_some, List.mem_singleton, exists_eq_left]
    grind
  | @countFirst _ _ index r rest reason hk =>
    have hs := Scoreboard.count_eq_some hk c
    simp only [Scoreboard.firstFailure_count, User.keeping?, Act.counted?, List.countP_pos_iff,
      Option.toList_some, List.mem_singleton, exists_eq_left, Option.some.injEq, hs]
    grind
  | keep =>
    simp only [Scoreboard.firstFailure_keep, User.keeping?, Option.some.injEq, Act.counted?]
    grind
  | close => split <;> simp [User.keeping?, Act.counted?]
  | _ => simp [User.keeping?, Act.counted?]

end Move

namespace Crowd

/-- A reason is kept for the check, or a user is about to keep one. -/
def hasFailure (w : Crowd σ) (c : Check) : Prop :=
  (w.shared.board.tally c).firstFailure.isSome ∨ ∃ u ∈ w.users, u.keeping? = some c

/-- The scoreboard agrees with what was counted. -/
structure Tallied (deeds : List Deed) (w : Crowd σ) : Prop where
  number : ∀ c passed, (w.shared.board.tally c).number passed =
    (countsOf deeds).countP (·.2.shows c passed)
  failure : ∀ c, w.hasFailure c ↔ 0 < (w.shared.board.tally c).number false

theorem tallied_start (size : Nat) (now : Instant) (signal : Signal) (site : σ) :
    Tallied [] (start size now signal site) := by
  have ht (c : Check) : (({} : Scoreboard).tally c) = {} := by
    simp [Scoreboard.tally, Vector.getElem_replicate]
  constructor
  · intro c passed
    cases passed <;> simp [start, ht, Tally.number, countsOf]
  · intro c
    simp only [hasFailure, start, ht, List.mem_replicate]
    constructor
    · rintro (h | ⟨u, ⟨-, rfl⟩, h⟩) <;> cases h
    · exact fun h => absurd h (Nat.lt_irrefl 0)

theorem Tallied.step {g : Regime} {t : Target σ} {deeds : List Deed} {w w' : Crowd σ} {d : Deed}
    (h : Tallied deeds w) (hs : Step g t w d w') : Tallied (deeds ++ [d]) w' := by
  obtain ⟨before, u, u', after, s', act, hu, hm, rfl, rfl⟩ | ⟨later, -, rfl, rfl⟩ |
    ⟨event, rfl, rfl⟩ := step_cases hs
  · constructor
    · intro c passed
      rw [countsOf_snoc, List.countP_append, hm.number, h.number]
    · intro c
      have hf := h.failure c
      have hmove := hm.failure c
      simp only [hasFailure, hu, List.mem_append, List.mem_cons] at hf ⊢
      rw [hm.number]
      grind
  · exact ⟨fun c passed => by simp [h.number, Act.counted?], fun c => h.failure c⟩
  · exact ⟨fun c passed => by simp [h.number, Act.counted?], fun c => h.failure c⟩

theorem tallied_of_run {g : Regime} {t : Target σ} {size : Nat} {now : Instant} {signal : Signal}
    {site : σ} {deeds : List Deed} {w : Crowd σ}
    (hr : Run g t (start size now signal site) deeds w) : Tallied deeds w :=
  Run.history Tallied.step (tallied_start size now signal site) hr

end Crowd

end NotesBench.Load
