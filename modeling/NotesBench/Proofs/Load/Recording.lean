import NotesBench.Proofs.Load.Tallying

/-!
# Recorders side by side

Several threads record at a time while snapshots are taken. A call counts its result and, if it is
the first failure of its check, keeps the reason in a second step; a snapshot reads three values for
every check, one after another (`Recording.Step`). The reasons stand behind a lock: whoever takes a
snapshot holds it to the end, so that one snapshot is taken at a time and no reason is kept
meanwhile, while results are counted all the time. Counts are natural numbers; counters of 64 bits
show the same as long as there are fewer than 2^64 calls.

However the steps of the calls are mixed, the scoreboard agrees with what was counted
(`Recording.agrees_of_run`), and when all calls have returned it tells everything about them
(`Recording.Agrees.snapshot`).
-/

namespace NotesBench.Load

namespace Scoreboard

/-- Where a reason is kept, a failure was counted. -/
def IsSound (b : Scoreboard) : Prop :=
  ∀ c, (b.tally c).firstFailure.isSome → 1 ≤ (b.tally c).fails

theorem firstFailure_keep_of_some {b : Scoreboard} {c : Check} {m : String}
    (h : (b.tally c).firstFailure = some m) (d : Check) (reason : Reason) :
    ((b.keep d reason).tally c).firstFailure = some m := by
  unfold keep
  split
  · exact h
  · next hd =>
    have hcd : c ≠ d := by
      rintro rfl
      cases h.symm.trans hd
    rwa [tally_update, if_neg hcd]

theorem firstFailure_keep_of_none {b : Scoreboard} {c : Check}
    (h : (b.tally c).firstFailure = none) (d : Check) (reason : Reason) :
    ((b.keep d reason).tally c).firstFailure = if c = d then some reason.message else none := by
  unfold keep
  by_cases hcd : c = d
  · subst hcd
    simp [h]
  · split <;> simp [hcd, h]

end Scoreboard

/-! ## The failure that was counted first -/

/-- The reason of a record that is a failure of the check. -/
def Record.reasonFor? (c : Check) : Record → Option Reason
  | (_, .pass) => none
  | (d, .fail reason) => if d = c then some reason else none

/-- The reason of the first failure of a check. -/
def failureOf? (c : Check) (records : List Record) : Option Reason :=
  records.findSome? (Record.reasonFor? c)

theorem isSome_reasonFor? (c : Check) (r : Record) :
    (r.reasonFor? c).isSome = r.shows c false := by
  obtain ⟨d, _ | reason⟩ := r
  · simp [Record.reasonFor?, Record.shows, Outcome.isPass]
  · by_cases h : d = c <;> simp [Record.reasonFor?, Record.shows, Outcome.isPass, h]

theorem failureOf?_snoc (c : Check) (records : List Record) (r : Record) :
    failureOf? c (records ++ [r]) = (failureOf? c records).or (r.reasonFor? c) := by
  cases h : r.reasonFor? c <;> simp [failureOf?, List.findSome?_append, h]

theorem isSome_failureOf?_iff (c : Check) (records : List Record) :
    (failureOf? c records).isSome ↔ 0 < records.countP (·.shows c false) := by
  simp only [failureOf?, List.findSome?_isSome_iff, List.countP_pos_iff, isSome_reasonFor?]

/-- A reason is to be kept when the result is a failure of a check that had none. -/
theorem Scoreboard.count_eq_some_iff (b : Scoreboard) (r : Record) (c : Check) (reason : Reason) :
    (b.count r.1 r.2).2.map (r.1, ·) = some (c, reason) ↔
      (b.tally c).fails = 0 ∧ r.reasonFor? c = some reason := by
  obtain ⟨d, _ | reason'⟩ := r
  · simp [count, Record.reasonFor?]
  · by_cases h : d = c
    · subst h
      simp [count, Record.reasonFor?]
    · simp [count, Record.reasonFor?, h]

/-! ## Recorders and readers -/

/-- A thread that records: the calls that it has still to make, and the failure of which it is about
to keep the reason. -/
structure Recorder where
  left : List Record
  keeping : Option (Check × Reason) := none

/-- What has been read of a check. -/
inductive Glimpse where
  | nothing
  | passes (passes : Nat)
  | numbers (passes fails : Nat)

/-- A snapshot that is being taken: the checks that were read, and what has been read of the first
of the rest. -/
structure Reading where
  entries : List (Check × Tally) := []
  glimpse : Glimpse := .nothing
  rest : List Check := Check.all

/-- One value is read from the scoreboard. -/
inductive Reading.Step (b : Scoreboard) : Reading → Reading → Prop where
  | passes {entries c rest} :
    Reading.Step b ⟨entries, .nothing, c :: rest⟩ ⟨entries, .passes (b.tally c).passes, c :: rest⟩
  | fails {entries passes c rest} :
    Reading.Step b ⟨entries, .passes passes, c :: rest⟩
      ⟨entries, .numbers passes (b.tally c).fails, c :: rest⟩
  | failure {entries passes fails c rest} :
    Reading.Step b ⟨entries, .numbers passes fails, c :: rest⟩
      ⟨entries ++ [(c, ⟨passes, fails, (b.tally c).firstFailure⟩)], .nothing, rest⟩

/-- A scoreboard with those who record on it, and the snapshot that is being taken. -/
structure Recording where
  board : Scoreboard := {}
  recorders : List Recorder
  reading : Option Reading := none

namespace Recording

/-- What a step does, as far as others can tell. -/
inductive Event where
  | quiet
  | counted (r : Record)
  | taken (shot : List (Check × Tally))

def Event.counted? : Event → Option Record
  | .counted r => some r
  | _ => none

def Event.taken? : Event → Option (List (Check × Tally))
  | .taken shot => some shot
  | _ => none

/-- The results that were counted, in order. -/
def countedOf (events : List Event) : List Record := events.filterMap Event.counted?

/-- The snapshots that were taken, in order. -/
def takenOf (events : List Event) : List (List (Check × Tally)) := events.filterMap Event.taken?

@[simp] theorem countedOf_snoc (events : List Event) (e : Event) :
    countedOf (events ++ [e]) = countedOf events ++ e.counted?.toList := by
  cases h : e.counted? <;> simp [countedOf, h]

@[simp] theorem takenOf_snoc (events : List Event) (e : Event) :
    takenOf (events ++ [e]) = takenOf events ++ e.taken?.toList := by
  cases h : e.taken? <;> simp [takenOf, h]

/-- Threads that are about to make their calls. -/
def start (calls : List (List Record)) : Recording where
  recorders := calls.map fun left => { left }

/-- All calls have returned. -/
def IsDone (w : Recording) : Prop := ∀ r ∈ w.recorders, r.left = [] ∧ r.keeping = none

inductive Step : Recording → Event → Recording → Prop where
  /-- A call counts its result. -/
  | count {b before r left after reading} :
    Step ⟨b, before ++ ⟨r :: left, none⟩ :: after, reading⟩ (.counted r)
      ⟨(b.count r.1 r.2).1,
        before ++ ⟨left, (b.count r.1 r.2).2.map (r.1, ·)⟩ :: after, reading⟩
  /-- A call takes the lock and keeps the reason of its failure. -/
  | keep {b before c reason left after} :
    Step ⟨b, before ++ ⟨left, some (c, reason)⟩ :: after, none⟩ .quiet
      ⟨b.keep c reason, before ++ ⟨left, none⟩ :: after, none⟩
  /-- The lock is taken for a snapshot. -/
  | open {b recorders} : Step ⟨b, recorders, none⟩ .quiet ⟨b, recorders, some {}⟩
  | read {b recorders reading reading'} : Reading.Step b reading reading' →
    Step ⟨b, recorders, some reading⟩ .quiet ⟨b, recorders, some reading'⟩
  /-- All checks were read, and the lock is given back. -/
  | close {b recorders shot} :
    Step ⟨b, recorders, some ⟨shot, .nothing, []⟩⟩ (.taken shot) ⟨b, recorders, none⟩

inductive Run : Recording → List Event → Recording → Prop where
  | refl (w : Recording) : Run w [] w
  | step {w₁ w₂ w₃ : Recording} {e : Event} {events : List Event} :
    Step w₁ e w₂ → Run w₂ events w₃ → Run w₁ (e :: events) w₃

namespace Run

/-- What every step keeps holds along a run; the events so far belong to the state. -/
theorem history {P : List Event → Recording → Prop}
    (keeps : ∀ {events w e w'}, P events w → Step w e w' → P (events ++ [e]) w')
    {before events : List Event} {w w' : Recording} (h : P before w) (hr : Run w events w') :
    P (before ++ events) w' := by
  induction hr generalizing before with
  | refl => simpa using h
  | step hs _ ih => simpa using ih (keeps h hs)

theorem trans {w₁ w₂ w₃ : Recording} {before after : List Event} (h₁ : Run w₁ before w₂)
    (h₂ : Run w₂ after w₃) : Run w₁ (before ++ after) w₃ := by
  induction h₁ with
  | refl => exact h₂
  | step hs _ ih => exact .step hs (ih h₂)

end Run

/-! ## What the scoreboard says of the calls -/

/-- The scoreboard agrees with what was counted. A call whose failure was counted first for its
check has kept its reason or is about to. -/
structure Agrees (calls : List (List Record)) (events : List Event) (w : Recording) : Prop where
  made : (countedOf events ++ w.recorders.flatMap Recorder.left).Perm calls.flatten
  number : ∀ c passed, (w.board.tally c).number passed =
    (countedOf events).countP (·.shows c passed)
  kept : ∀ c message, (w.board.tally c).firstFailure = some message →
    (failureOf? c (countedOf events)).map Reason.message = some message
  keeping : ∀ r ∈ w.recorders, ∀ c reason, r.keeping = some (c, reason) →
    failureOf? c (countedOf events) = some reason
  told : ∀ c, (failureOf? c (countedOf events)).isSome →
    (w.board.tally c).firstFailure.isSome ∨
      ∃ r ∈ w.recorders, ∃ reason, r.keeping = some (c, reason)

namespace Agrees

variable {calls : List (List Record)} {events : List Event}

theorem start (calls : List (List Record)) : Agrees calls [] (start calls) := by
  have ht (c : Check) : ({} : Scoreboard).tally c = {} := by
    simp [Scoreboard.tally, Vector.getElem_replicate]
  constructor
  · simp [Recording.start, countedOf, List.flatMap_map, List.flatMap_id']
  · intro c passed
    cases passed <;> simp [Recording.start, countedOf, ht, Tally.number]
  · intro c m hm
    simp [Recording.start, ht] at hm
  · intro r hr c reason hk
    obtain ⟨left, -, rfl⟩ := List.mem_map.1 hr
    cases hk
  · intro c hc
    simp [countedOf, failureOf?] at hc

/-- The scoreboard has no failure of a check where none was counted. -/
theorem failureOf?_eq_none_iff {w : Recording} (h : Agrees calls events w) (c : Check) :
    failureOf? c (countedOf events) = none ↔ (w.board.tally c).fails = 0 := by
  have hn : (w.board.tally c).fails = (countedOf events).countP (·.shows c false) :=
    h.number c false
  rw [← Option.not_isSome_iff_eq_none, isSome_failureOf?_iff, hn]
  omega

theorem isSound {w : Recording} (h : Agrees calls events w) : w.board.IsSound := by
  intro c hc
  obtain ⟨m, hm⟩ := Option.isSome_iff_exists.1 hc
  refine Nat.one_le_iff_ne_zero.2 fun hf => ?_
  have hkept := h.kept c m hm
  rw [(h.failureOf?_eq_none_iff c).2 hf] at hkept
  cases hkept

/-- A recorder is the one in the middle or one of the others. -/
theorem eq_or_mem_of_mem {before after : List Recorder} {r q : Recorder}
    (h : q ∈ before ++ r :: after) : q = r ∨ ∀ r', q ∈ before ++ r' :: after :=
  (List.mem_cons.1 (List.perm_middle.mem_iff.1 h)).imp_right fun hq _ =>
    List.perm_middle.mem_iff.2 (List.mem_cons_of_mem _ hq)

theorem count {b : Scoreboard} {before after : List Recorder} {r : Record} {left : List Record}
    {reading : Option Reading}
    (h : Agrees calls events ⟨b, before ++ ⟨r :: left, none⟩ :: after, reading⟩) :
    Agrees calls (events ++ [.counted r])
      ⟨(b.count r.1 r.2).1,
        before ++ ⟨left, (b.count r.1 r.2).2.map (r.1, ·)⟩ :: after, reading⟩ := by
  have hcounted : countedOf (events ++ [.counted r]) = countedOf events ++ [r] :=
    countedOf_snoc events (.counted r)
  have hlater {c : Check} {reason : Reason} (hf : failureOf? c (countedOf events) = some reason) :
      failureOf? c (countedOf events ++ [r]) = some reason := by
    rw [failureOf?_snoc, hf, Option.some_or]
  constructor
  · rw [hcounted]
    refine List.Perm.trans ?_ h.made
    simp only [List.flatMap_append, List.flatMap_cons, List.append_assoc, List.cons_append,
      List.nil_append]
    exact .append_left _ List.perm_middle.symm
  · intro c passed
    rw [hcounted, List.countP_append, Scoreboard.number_count, h.number c passed]
    simp [List.countP_cons]
  · intro c m hm
    rw [Scoreboard.firstFailure_count] at hm
    obtain ⟨reason, hr, hmr⟩ := Option.map_eq_some_iff.1 (h.kept c m hm)
    rw [hcounted, hlater hr, Option.map_some, hmr]
  · intro q hq c reason hk
    rw [hcounted]
    obtain rfl | hq := eq_or_mem_of_mem hq
    · obtain ⟨hf, hr⟩ := (b.count_eq_some_iff r c reason).1 hk
      rw [failureOf?_snoc, (h.failureOf?_eq_none_iff c).2 hf, Option.none_or, hr]
    · exact hlater (h.keeping q (hq _) c reason hk)
  · intro c hc
    rw [hcounted] at hc
    rw [Scoreboard.firstFailure_count]
    cases hfirst : failureOf? c (countedOf events) with
    | some first =>
      refine (h.told c (by simp [hfirst])).imp_right ?_
      rintro ⟨q, hq, reason, hk⟩
      obtain rfl | hq := eq_or_mem_of_mem hq
      · cases hk
      · exact ⟨q, hq _, reason, hk⟩
    | none =>
      rw [failureOf?_snoc, hfirst, Option.none_or] at hc
      obtain ⟨reason, hr⟩ := Option.isSome_iff_exists.1 hc
      have hk := (b.count_eq_some_iff r c reason).2 ⟨(h.failureOf?_eq_none_iff c).1 hfirst, hr⟩
      exact .inr ⟨_, List.mem_append_right _ List.mem_cons_self, reason, hk⟩

theorem keep {b : Scoreboard} {before after : List Recorder} {c : Check} {reason : Reason}
    {left : List Record} {reading : Option Reading}
    (h : Agrees calls events ⟨b, before ++ ⟨left, some (c, reason)⟩ :: after, reading⟩) :
    Agrees calls (events ++ [.quiet])
      ⟨b.keep c reason, before ++ ⟨left, none⟩ :: after, reading⟩ := by
  have hcounted : countedOf (events ++ [.quiet]) = countedOf events := by
    simp [Event.counted?]
  have hown : failureOf? c (countedOf events) = some reason :=
    h.keeping _ (List.mem_append_right _ List.mem_cons_self) c reason rfl
  constructor
  · rw [hcounted]
    simpa using h.made
  · intro d passed
    rw [hcounted, Scoreboard.number_keep, h.number d passed]
  · intro d m hm
    rw [hcounted]
    cases hd : (b.tally d).firstFailure with
    | some m' =>
      rw [Scoreboard.firstFailure_keep_of_some hd] at hm
      exact h.kept d m (hd.trans hm)
    | none =>
      rw [Scoreboard.firstFailure_keep_of_none hd] at hm
      split at hm
      · next hdc => rw [hdc, hown, Option.map_some, hm]
      · cases hm
  · intro q hq d reason' hk
    rw [hcounted]
    obtain rfl | hq := eq_or_mem_of_mem hq
    · cases hk
    · exact h.keeping q (hq _) d reason' hk
  · intro d hd
    rw [hcounted] at hd
    rw [Scoreboard.firstFailure_keep]
    obtain hs | ⟨q, hq, reason', hk⟩ := h.told d hd
    · exact .inl (.inl hs)
    · obtain rfl | hq := eq_or_mem_of_mem hq
      · cases hk
        exact .inl (.inr rfl)
      · exact .inr ⟨q, hq _, reason', hk⟩

theorem of_same {b : Scoreboard} {recorders : List Recorder} {reading reading' : Option Reading}
    {e : Event} (h : Agrees calls events ⟨b, recorders, reading⟩) (he : e.counted? = none) :
    Agrees calls (events ++ [e]) ⟨b, recorders, reading'⟩ := by
  have hcounted : countedOf (events ++ [e]) = countedOf events := by simp [he]
  exact ⟨hcounted ▸ h.made, hcounted ▸ h.number, hcounted ▸ h.kept, hcounted ▸ h.keeping,
    hcounted ▸ h.told⟩

theorem step {w w' : Recording} {e : Event} (h : Agrees calls events w) (hs : Step w e w') :
    Agrees calls (events ++ [e]) w' := by
  cases hs with
  | count => exact h.count
  | keep => exact h.keep
  | «open» => exact h.of_same rfl
  | read => exact h.of_same rfl
  | close => exact h.of_same rfl

/-- When all calls have returned, the scoreboard tells everything about them. -/
theorem snapshot {w : Recording} (h : Agrees calls events w) (hd : w.IsDone) :
    (countedOf events).Perm calls.flatten ∧
      w.board.snapshot = Check.all.map fun c => (c,
        { passes := calls.flatten.countP (·.shows c true)
          fails := calls.flatten.countP (·.shows c false)
          firstFailure := (failureOf? c (countedOf events)).map Reason.message }) := by
  have hp : (countedOf events).Perm calls.flatten := by
    have hl : w.recorders.flatMap Recorder.left = [] :=
      List.flatMap_eq_nil_iff.2 fun r hr => (hd r hr).1
    simpa [hl] using h.made
  refine ⟨hp, List.map_congr_left fun c _ => ?_⟩
  have hf : (w.board.tally c).firstFailure =
      (failureOf? c (countedOf events)).map Reason.message := by
    cases hk : (w.board.tally c).firstFailure with
    | some m => exact (h.kept c m hk).symm
    | none =>
      cases hfail : failureOf? c (countedOf events) with
      | none => rfl
      | some reason =>
        obtain hs | ⟨r, hr, reason', hkeep⟩ := h.told c (by simp [hfail])
        · simp [hk] at hs
        · cases (hd r hr).2.symm.trans hkeep
  have hn (passed : Bool) : (w.board.tally c).number passed =
      calls.flatten.countP (·.shows c passed) := (h.number c passed).trans (hp.countP_eq _)
  rw [← hf, ← hn true, ← hn false]
  rfl

end Agrees

theorem agrees_of_run {calls : List (List Record)} {events : List Event} {w : Recording}
    (hr : Run (start calls) events w) : Agrees calls events w :=
  Run.history Agrees.step (Agrees.start calls) hr

end Recording

end NotesBench.Load
