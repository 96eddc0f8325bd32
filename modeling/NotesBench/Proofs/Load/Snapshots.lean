import NotesBench.Proofs.Load.Recording

/-!
# Snapshots

A snapshot reads the scoreboard value by value while results are being counted. What it shows lies
between the scoreboard when the lock was taken and when it was given back (`Reading.Between`), with
the reasons that were kept when it was taken. So each snapshot follows those before it, and when all
calls have returned a snapshot is exact (`Recording.snapshots_are_exact`).
-/

namespace NotesBench.Load

/-! ## Scoreboards that grow -/

/-- The counts of a check at two moments, the second not before the first. -/
structure Tally.Grows (t t' : Tally) : Prop where
  passes : t.passes ≤ t'.passes
  fails : t.fails ≤ t'.fails
  failure : ∀ message, t.firstFailure = some message → t'.firstFailure = some message

namespace Tally.Grows

theorem refl (t : Tally) : t.Grows t := ⟨Nat.le_refl _, Nat.le_refl _, fun _ h => h⟩

theorem trans {t₁ t₂ t₃ : Tally} (h : t₁.Grows t₂) (h' : t₂.Grows t₃) : t₁.Grows t₃ :=
  ⟨Nat.le_trans h.passes h'.passes, Nat.le_trans h.fails h'.fails,
    fun m hm => h'.failure m (h.failure m hm)⟩

theorem antisymm {t t' : Tally} (h : t.Grows t') (h' : t'.Grows t) : t = t' := by
  obtain ⟨passes, fails, failure⟩ := t
  obtain ⟨passes', fails', failure'⟩ := t'
  obtain rfl : passes = passes' := Nat.le_antisymm h.passes h'.passes
  obtain rfl : fails = fails' := Nat.le_antisymm h.fails h'.fails
  obtain rfl : failure = failure' := Option.ext fun m => ⟨h.failure m, h'.failure m⟩
  rfl

end Tally.Grows

namespace Scoreboard

/-- The counts of every check at two moments. -/
def Grows (b b' : Scoreboard) : Prop := ∀ c, (b.tally c).Grows (b'.tally c)

theorem Grows.refl (b : Scoreboard) : b.Grows b := fun _ => .refl _

theorem Grows.trans {b₁ b₂ b₃ : Scoreboard} (h : b₁.Grows b₂) (h' : b₂.Grows b₃) : b₁.Grows b₃ :=
  fun c => (h c).trans (h' c)

theorem grows_count (b : Scoreboard) (r : Record) : b.Grows (b.count r.1 r.2).1 := by
  intro c
  have hn := b.number_count r c
  refine ⟨?_, ?_, fun m hm => ?_⟩
  · exact Nat.le.intro (hn true).symm
  · exact Nat.le.intro (hn false).symm
  · rwa [firstFailure_count]

theorem grows_keep (b : Scoreboard) (d : Check) (reason : Reason) : b.Grows (b.keep d reason) :=
  fun c => ⟨Nat.le_of_eq (b.number_keep d reason c true).symm,
    Nat.le_of_eq (b.number_keep d reason c false).symm,
    fun _ hm => firstFailure_keep_of_some hm d reason⟩

/-- An entry that was read after one moment and before another. -/
structure Encloses (b₀ b : Scoreboard) (e : Check × Tally) : Prop where
  after : (b₀.tally e.1).Grows e.2
  before : e.2.Grows (b.tally e.1)

theorem Encloses.mono {b₀ b b' : Scoreboard} {e : Check × Tally} (h : b₀.Encloses b e)
    (hb : b.Grows b') : b₀.Encloses b' e :=
  ⟨h.after, h.before.trans (hb e.1)⟩

end Scoreboard

/-! ## What was read -/

namespace Glimpse

/-- The numbers that were read lie between those of two moments. -/
def Between (t₀ t : Tally) : Glimpse → Prop
  | .nothing => True
  | .passes p => t₀.passes ≤ p ∧ p ≤ t.passes
  | .numbers p f => (t₀.passes ≤ p ∧ p ≤ t.passes) ∧ t₀.fails ≤ f ∧ f ≤ t.fails

theorem Between.mono {t₀ t t' : Tally} {g : Glimpse} (h : g.Between t₀ t) (ht : t.Grows t') :
    g.Between t₀ t' := by
  cases g with
  | nothing => trivial
  | passes => exact ⟨h.1, Nat.le_trans h.2 ht.passes⟩
  | numbers =>
    exact ⟨⟨h.1.1, Nat.le_trans h.1.2 ht.passes⟩, h.2.1, Nat.le_trans h.2.2 ht.fails⟩

end Glimpse

namespace Reading

/-- What was read since the lock was taken. The reasons are those of that moment. -/
structure Between (b₀ b : Scoreboard) (reading : Reading) : Prop where
  checks : reading.entries.map Prod.fst ++ reading.rest = Check.all
  entries : ∀ e ∈ reading.entries, b₀.Encloses b e
  glimpse : ∀ c ∈ reading.rest.head?, reading.glimpse.Between (b₀.tally c) (b.tally c)
  reasons : ∀ c, (b.tally c).firstFailure = (b₀.tally c).firstFailure

namespace Between

variable {b₀ b : Scoreboard} {reading : Reading}

theorem opened (b : Scoreboard) : ({} : Reading).Between b b where
  checks := rfl
  entries _ he := by cases he
  glimpse _ _ := trivial
  reasons _ := rfl

theorem mono {b' : Scoreboard} (h : reading.Between b₀ b) (hb : b.Grows b')
    (hr : ∀ c, (b'.tally c).firstFailure = (b.tally c).firstFailure) : reading.Between b₀ b' where
  checks := h.checks
  entries e he := (h.entries e he).mono hb
  glimpse c hc := (h.glimpse c hc).mono (hb c)
  reasons c := (hr c).trans (h.reasons c)

theorem step {reading' : Reading} (h : reading.Between b₀ b) (hb : b₀.Grows b)
    (hs : Reading.Step b reading reading') : reading'.Between b₀ b := by
  cases hs with
  | @passes entries c rest =>
    refine ⟨h.checks, h.entries, fun d hd => ?_, h.reasons⟩
    obtain rfl := Option.some.inj hd
    exact ⟨(hb c).passes, Nat.le_refl _⟩
  | @fails entries p c rest =>
    refine ⟨h.checks, h.entries, fun d hd => ?_, h.reasons⟩
    obtain rfl := Option.some.inj hd
    exact ⟨h.glimpse c rfl, (hb c).fails, Nat.le_refl _⟩
  | @failure entries p f c rest =>
    have hg := h.glimpse c rfl
    refine ⟨by simpa using h.checks, fun e he => ?_, fun _ _ => trivial, h.reasons⟩
    obtain he | he := List.mem_append.1 he
    · exact h.entries e he
    · obtain rfl := List.mem_singleton.1 he
      exact ⟨⟨hg.1.1, hg.2.1, (hb c).failure⟩, ⟨hg.1.2, hg.2.2, fun _ hm => hm⟩⟩

/-- A reason that was read was kept when the lock was taken, and its failure counted by then. -/
theorem one_le_fails (h : reading.Between b₀ b) (hb : b₀.IsSound) {e : Check × Tally}
    (he : e ∈ reading.entries) (hr : e.2.firstFailure.isSome) : 1 ≤ e.2.fails := by
  have hin := h.entries e he
  obtain ⟨m, hm⟩ := Option.isSome_iff_exists.1 hr
  have hopen : (b₀.tally e.1).firstFailure = some m :=
    (h.reasons e.1).symm.trans (hin.before.failure m hm)
  exact Nat.le_trans (hb e.1 (by simp [hopen])) hin.after.fails

end Between

end Reading

/-! ## What snapshots show -/

namespace Recording

/-- Every entry of a snapshot is followed by that of the same check in a later one. -/
def Follows (shot shot' : List (Check × Tally)) : Prop :=
  ∀ e ∈ shot, ∀ e' ∈ shot', e.1 = e'.1 → e.2.Grows e'.2

/-- A snapshot shows all checks, and where it shows a reason it shows a failure. -/
structure IsWhole (shot : List (Check × Tally)) : Prop where
  checks : shot.map Prod.fst = Check.all
  sound : ∀ e ∈ shot, e.2.firstFailure.isSome → 1 ≤ e.2.fails

/-- The snapshots that were taken, as seen from a moment after them. If one is being taken, the
moment is that of its opening. -/
structure Observed (b₀ : Scoreboard) (events : List Event) (w : Recording) : Prop where
  sound : b₀.IsSound
  grows : b₀.Grows w.board
  before : ∀ shot ∈ takenOf events, ∀ e ∈ shot, e.2.Grows (b₀.tally e.1)
  reading : ∀ reading ∈ w.reading, reading.Between b₀ w.board
  whole : ∀ shot ∈ takenOf events, IsWhole shot
  follows : (takenOf events).Pairwise Follows

namespace Observed

variable {b₀ b : Scoreboard} {events : List Event} {recorders recorders' : List Recorder}

/-- The moment may be put off while no snapshot is being taken. -/
theorem put_off {b' : Scoreboard} (h : Observed b₀ events ⟨b, recorders, none⟩) (hb : b.Grows b')
    (hs : b'.IsSound) : Observed b' events ⟨b', recorders', none⟩ where
  sound := hs
  grows := .refl b'
  before shot hshot e he := (h.before shot hshot e he).trans ((h.grows.trans hb) e.1)
  reading _ hr := by cases hr
  whole := h.whole
  follows := h.follows

theorem quiet {w : Recording} {e : Event} (h : Observed b₀ events w) (he : e.taken? = none) :
    Observed b₀ (events ++ [e]) w := by
  have htaken : takenOf (events ++ [e]) = takenOf events := by simp [he]
  exact ⟨h.sound, h.grows, htaken ▸ h.before, h.reading, htaken ▸ h.whole, htaken ▸ h.follows⟩

theorem close {shot : List (Check × Tally)}
    (h : Observed b₀ events ⟨b, recorders, some ⟨shot, .nothing, []⟩⟩) (hs : b.IsSound) :
    Observed b (events ++ [.taken shot]) ⟨b, recorders, none⟩ := by
  have htaken : takenOf (events ++ [.taken shot]) = takenOf events ++ [shot] :=
    takenOf_snoc events (.taken shot)
  have hb := h.reading _ rfl
  constructor
  · exact hs
  · exact .refl b
  · rw [htaken]
    intro shot' hshot e he
    obtain hshot | hshot := List.mem_append.1 hshot
    · exact (h.before shot' hshot e he).trans (h.grows e.1)
    · obtain rfl := List.mem_singleton.1 hshot
      exact (hb.entries e he).before
  · intro _ hr
    cases hr
  · rw [htaken]
    intro shot' hshot
    obtain hshot | hshot := List.mem_append.1 hshot
    · exact h.whole shot' hshot
    · obtain rfl := List.mem_singleton.1 hshot
      exact ⟨by simpa using hb.checks, fun e he => hb.one_le_fails h.sound he⟩
  · rw [htaken, List.pairwise_append]
    refine ⟨h.follows, List.pairwise_singleton _ _, fun shot' hshot last hlast => ?_⟩
    obtain rfl := List.mem_singleton.1 hlast
    intro e he e' he' hee
    have hafter := (hb.entries e' he').after
    rw [← hee] at hafter
    exact (h.before shot' hshot e he).trans hafter

end Observed

theorem Step.grows {w w' : Recording} {e : Event} (hs : Step w e w') : w.board.Grows w'.board := by
  cases hs with
  | count => exact Scoreboard.grows_count _ _
  | keep => exact Scoreboard.grows_keep _ _ _
  | «open» => exact .refl _
  | read => exact .refl _
  | close => exact .refl _

theorem Observed.step {b₀ : Scoreboard} {events : List Event} {w w' : Recording} {e : Event}
    (h : Observed b₀ events w) (hs : Step w e w') (hw : w'.board.IsSound) :
    ∃ b₁, Observed b₁ (events ++ [e]) w' := by
  have hgrows := hs.grows
  cases hs with
  | @count b before r left after reading =>
    refine ⟨b₀, h.sound, h.grows.trans hgrows, ?_, fun g hg => ?_, ?_, ?_⟩
    · simpa [Event.taken?] using h.before
    · exact (h.reading g hg).mono hgrows fun c => b.firstFailure_count r.1 r.2 c
    · simpa [Event.taken?] using h.whole
    · simpa [Event.taken?] using h.follows
  | keep => exact ⟨_, (h.put_off hgrows hw).quiet rfl⟩
  | «open» =>
    have h' := h.quiet (e := .quiet) rfl
    refine ⟨_, hw, .refl _, fun shot hshot e he => ?_, fun g hg => ?_, h'.whole, h'.follows⟩
    · exact (h'.before shot hshot e he).trans (h.grows e.1)
    · obtain rfl := Option.some.inj hg
      exact .opened _
  | read hr =>
    have h' := h.quiet (e := .quiet) rfl
    refine ⟨b₀, h'.sound, h'.grows, h'.before, fun g hg => ?_, h'.whole, h'.follows⟩
    obtain rfl := Option.some.inj hg
    exact (h.reading _ rfl).step h.grows hr
  | close => exact ⟨_, h.close hw⟩

theorem observed_of_run {calls : List (List Record)} {events : List Event} {w : Recording}
    (hr : Run (start calls) events w) : ∃ b₀, Observed b₀ events w := by
  -- The scoreboard agrees at every step on the way, and so it is sound when the lock is taken.
  let P (events : List Event) (w : Recording) : Prop :=
    Agrees calls events w ∧ ∃ b₀, Observed b₀ events w
  have hstart : P [] (start calls) :=
    ⟨.start calls, {}, (Agrees.start calls).isSound, .refl _, nofun, nofun, nofun, .nil⟩
  have hkeeps {events : List Event} {e : Event} {w w' : Recording} (h : P events w)
      (hs : Step w e w') : P (events ++ [e]) w' := by
    obtain ⟨ha, b₀, ho⟩ := h
    exact ⟨ha.step hs, ho.step hs (ha.step hs).isSound⟩
  exact (Run.history (P := P) hkeeps hstart hr).2

/-! ## After all calls -/

/-- All calls have returned, and what is read is what the scoreboard shows. -/
structure Rests (b : Scoreboard) (events : List Event) (w : Recording) : Prop where
  board : w.board = b
  done : w.IsDone
  reading : ∀ reading ∈ w.reading, reading.Between b b
  taken : ∀ shot ∈ takenOf events, shot = b.snapshot

/-- A snapshot of a scoreboard that does not change shows it. -/
theorem eq_snapshot {b : Scoreboard} {shot : List (Check × Tally)}
    (hc : shot.map Prod.fst = Check.all) (he : ∀ e ∈ shot, b.Encloses b e) :
    shot = b.snapshot := by
  rw [Scoreboard.snapshot, ← hc, List.map_map]
  refine (List.map_id shot).symm.trans (List.map_congr_left fun e hmem => ?_)
  exact Prod.ext rfl ((he e hmem).before.antisymm (he e hmem).after)

theorem Rests.step {b : Scoreboard} {events : List Event} {w w' : Recording} {e : Event}
    (h : Rests b events w) (hs : Step w e w') : Rests b (events ++ [e]) w' := by
  have hquiet : takenOf (events ++ [.quiet]) = takenOf events := by simp [Event.taken?]
  cases hs with
  | count => cases (h.done _ (List.mem_append_right _ List.mem_cons_self)).1
  | keep => cases (h.done _ (List.mem_append_right _ List.mem_cons_self)).2
  | «open» =>
    refine ⟨h.board, h.done, fun g hg => ?_, hquiet ▸ h.taken⟩
    obtain rfl := Option.some.inj hg
    exact .opened b
  | read hr =>
    refine ⟨h.board, h.done, fun g hg => ?_, hquiet ▸ h.taken⟩
    obtain rfl := Option.some.inj hg
    obtain rfl : _ = b := h.board
    exact (h.reading _ rfl).step (.refl _) hr
  | close =>
    have hb := h.reading _ rfl
    refine ⟨h.board, h.done, nofun, fun shot hshot => ?_⟩
    rw [takenOf_snoc] at hshot
    obtain hshot | hshot := List.mem_append.1 hshot
    · exact h.taken shot hshot
    · obtain rfl := List.mem_singleton.1 hshot
      exact eq_snapshot (by simpa using hb.checks) hb.entries

theorem rests_of_run {w w' : Recording} {events : List Event} (hd : w.IsDone)
    (hw : w.reading = none) (hr : Run w events w') : Rests w.board events w' := by
  have hrests : Rests w.board [] w := ⟨rfl, hd, by simp [hw], nofun⟩
  exact Run.history (P := Rests w.board) Rests.step hrests hr

/-- A snapshot that nobody comes between shows the scoreboard. -/
theorem run_snapshot (b : Scoreboard) (recorders : List Recorder) :
    Run ⟨b, recorders, none⟩ (List.replicate 28 .quiet ++ [.taken b.snapshot])
      ⟨b, recorders, none⟩ := by
  have hrest (entries : List (Check × Tally)) (rest : List Check) :
      Run ⟨b, recorders, some ⟨entries, .nothing, rest⟩⟩
        (List.replicate (3 * rest.length) .quiet ++
          [.taken (entries ++ rest.map fun c => (c, b.tally c))])
        ⟨b, recorders, none⟩ := by
    induction rest generalizing entries with
    | nil => simpa using .step .close (.refl _)
    | cons c rest ih =>
      have hnext := ih (entries ++ [(c, b.tally c)])
      rw [List.append_assoc] at hnext
      exact .step (.read .passes) (.step (.read .fails) (.step (.read .failure) hnext))
  exact .step .open (hrest [] Check.all)

/-- Threads make their calls on a new scoreboard, in any interleaving of the steps of all calls and
of the snapshots taken meanwhile.

When all calls have returned, the scoreboard shows the nine checks with the numbers of the calls
that passed and failed, and the reason of the failure that was counted first, and so does every
snapshot opened from then on. Each snapshot taken on the way shows all checks, a reason only beside
a failure, and no more than the calls make in the end; of two snapshots, the later one shows no less
and keeps every reason of the earlier one. -/
theorem snapshots_are_exact {calls : List (List Record)} {events : List Event} {w : Recording}
    (hr : Run (start calls) events w) :
    (w.IsDone →
      (countedOf events).Perm calls.flatten ∧
      w.board.snapshot = Check.all.map (fun c => (c,
        { passes := calls.flatten.countP (·.shows c true)
          fails := calls.flatten.countP (·.shows c false)
          firstFailure := (failureOf? c (countedOf events)).map Reason.message })) ∧
      (w.reading = none → ∀ {later w'}, Run w later w' →
        ∀ shot ∈ takenOf later, shot = w.board.snapshot)) ∧
    (∀ shot ∈ takenOf events, shot.map Prod.fst = Check.all ∧
      ∀ e ∈ shot, (e.2.firstFailure.isSome → 1 ≤ e.2.fails) ∧
        e.2.passes ≤ calls.flatten.countP (·.shows e.1 true) ∧
        e.2.fails ≤ calls.flatten.countP (·.shows e.1 false)) ∧
    (takenOf events).Pairwise fun shot shot' => ∀ e ∈ shot, ∀ e' ∈ shot', e.1 = e'.1 →
      e.2.passes ≤ e'.2.passes ∧ e.2.fails ≤ e'.2.fails ∧
      ∀ message, e.2.firstFailure = some message → e'.2.firstFailure = some message := by
  have ha := agrees_of_run hr
  obtain ⟨b₀, ho⟩ := observed_of_run hr
  refine ⟨fun hd => ?_, fun shot hshot => ?_, ?_⟩
  · exact ⟨(ha.snapshot hd).1, (ha.snapshot hd).2, fun hw _ _ hl => (rests_of_run hd hw hl).taken⟩
  · -- What was counted so far is a part of what the calls count.
    have hle (c : Check) (passed : Bool) :
        (w.board.tally c).number passed ≤ calls.flatten.countP (·.shows c passed) := by
      rw [ha.number c passed, ← ha.made.countP_eq, List.countP_append]
      exact Nat.le_add_right _ _
    have hw := ho.whole shot hshot
    refine ⟨hw.checks, fun e he => ⟨hw.sound e he, ?_⟩⟩
    have hg := (ho.before shot hshot e he).trans (ho.grows e.1)
    exact ⟨Nat.le_trans hg.passes (hle e.1 true), Nat.le_trans hg.fails (hle e.1 false)⟩
  · refine ho.follows.imp fun hf e he e' he' hee => ?_
    have hg := hf e he e' he' hee
    exact ⟨hg.passes, hg.fails, hg.failure⟩

/-- Two threads fail, and a snapshot is taken before the first of them keeps its reason. -/
theorem late_reason_is_exact :
    ∃ events w,
      Run (start [[(.health, .fail (.unexpectedStatus 503))],
        [(.health, .fail (.unexpectedStatus 500)), (.health, .pass)]]) events w ∧
      w.IsDone ∧ (takenOf events).length = 1 ∧
      w.board.snapshot =
        (.health, ⟨1, 2, some "unexpected status 500"⟩) :: Check.all.tail.map (·, {}) := by
  let slow : Record := (.health, .fail (.unexpectedStatus 503))
  let first : Record := (.health, .fail (.unexpectedStatus 500))
  let pass : Record := (.health, .pass)
  let once : Scoreboard := (({} : Scoreboard).count first.1 first.2).1
  let twice : Scoreboard := (once.count slow.1 slow.2).1
  let kept : Scoreboard := twice.keep .health (.unexpectedStatus 500)
  have h₁ : Step (start [[slow], [first, pass]]) (.counted first)
      ⟨once, [⟨[slow], none⟩, ⟨[pass], some (.health, .unexpectedStatus 500)⟩], none⟩ :=
    @Step.count {} [⟨[slow], none⟩] first [pass] [] none
  have h₂ : Step ⟨once, [⟨[slow], none⟩, ⟨[pass], some (.health, .unexpectedStatus 500)⟩], none⟩
      (.counted slow)
      ⟨twice, [⟨[], none⟩, ⟨[pass], some (.health, .unexpectedStatus 500)⟩], none⟩ :=
    @Step.count once [] slow [] [_] none
  have h₃ := run_snapshot twice [⟨[], none⟩, ⟨[pass], some (.health, .unexpectedStatus 500)⟩]
  have h₄ : Step ⟨twice, [⟨[], none⟩, ⟨[pass], some (.health, .unexpectedStatus 500)⟩], none⟩ .quiet
      ⟨kept, [⟨[], none⟩, ⟨[pass], none⟩], none⟩ :=
    @Step.keep twice [⟨[], none⟩] .health (.unexpectedStatus 500) [pass] []
  have h₅ : Step ⟨kept, [⟨[], none⟩, ⟨[pass], none⟩], none⟩ (.counted pass)
      ⟨(kept.count pass.1 pass.2).1, [⟨[], none⟩, ⟨[], none⟩], none⟩ :=
    @Step.count kept [⟨[], none⟩] pass [] [] none
  have hr := Run.step h₁ (.step h₂ (h₃.trans (.step h₄ (.step h₅ (.refl _)))))
  have hd : IsDone ⟨(kept.count pass.1 pass.2).1, [⟨[], none⟩, ⟨[], none⟩], none⟩ := by
    simp [IsDone]
  refine ⟨_, _, hr, hd, rfl, ?_⟩
  rw [((snapshots_are_exact hr).1 hd).2.1]
  decide +kernel

end Recording

end NotesBench.Load
