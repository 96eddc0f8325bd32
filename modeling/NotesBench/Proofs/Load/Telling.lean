import NotesBench.Proofs.Load.Course
import NotesBench.Proofs.Load.Numbering

/-!
# The records of a run

Users record checks in turn, so the records of one iteration lie scattered among those of others.
`recordsAt` picks them out again. For every iteration that was begun they are what the user who
takes it has recorded so far on its way through the dialogue (`Told`), which every step keeps as no
two users take the same iteration (`telling_of_run`).
-/

namespace NotesBench.Load

open Dialogue (Event Reaches Course recordsOf)

variable {σ : Type} {g : Regime} {t : Target σ}

/-! ## The records of one iteration -/

/-- The records that were counted in the iteration with a number. -/
def recordsAt (index : Nat) (deeds : List Deed) : List Record :=
  ((countsOf deeds).filter (·.1 = index)).map (·.2)

theorem recordsAt_snoc_of_eq {index : Nat} {deeds : List Deed} {d : Deed} {rs : List Record}
    (h : d.act.counted?.toList = rs.map (index, ·)) :
    recordsAt index (deeds ++ [d]) = recordsAt index deeds ++ rs := by
  have hf : (rs.map (index, ·)).filter (·.1 = index) = rs.map (index, ·) :=
    List.filter_eq_self.2 fun e he => by
      obtain ⟨r, -, rfl⟩ := List.mem_map.1 he
      exact decide_eq_true rfl
  simp only [recordsAt, countsOf_snoc, h, List.filter_append, List.map_append, hf, List.map_map]
  simp [Function.comp_def]

theorem recordsAt_snoc_of_ne {index : Nat} {deeds : List Deed} {d : Deed}
    (h : ∀ e, d.act.counted? = some e → e.1 ≠ index) :
    recordsAt index (deeds ++ [d]) = recordsAt index deeds := by
  have hf : d.act.counted?.toList.filter (·.1 = index) = [] :=
    List.filter_eq_nil_iff.2 fun e he => by simpa using h e (Option.mem_toList.1 he)
  simp [recordsAt, hf]

/-- What was recorded in an iteration is what leads to what is left of it. -/
def Told (g : Regime) (deeds : List Deed) (index : Nat) (rest : Dialogue Ending) : Prop :=
  ∃ events, Reaches (g.iteration index) events rest ∧ recordsOf events = recordsAt index deeds

theorem Told.proceed {deeds : List Deed} {index : Nat} {rest rest' : Dialogue Ending}
    {events : List Event} {d : Deed} (h : Told g deeds index rest) (he : Reaches rest events rest')
    (hd : d.act.counted?.toList = (recordsOf events).map (index, ·)) :
    Told g (deeds ++ [d]) index rest' := by
  obtain ⟨before, hb, hrec⟩ := h
  refine ⟨before ++ events, hb.trans he, ?_⟩
  rw [Dialogue.recordsOf_append, hrec, recordsAt_snoc_of_eq hd]

theorem Told.aside {deeds : List Deed} {index : Nat} {rest : Dialogue Ending} {d : Deed}
    (h : Told g deeds index rest) (hd : ∀ e, d.act.counted? = some e → e.1 ≠ index) :
    Told g (deeds ++ [d]) index rest := by
  obtain ⟨events, he, hrec⟩ := h
  exact ⟨events, he, by rw [recordsAt_snoc_of_ne hd, hrec]⟩

/-! ## What a move does to an iteration -/

/-- The number of the iteration that a user takes, and what is left of it. -/
def User.left? (u : User) : Option (Nat × Dialogue Ending) :=
  match u.phase with
  | .iterating index rest | .keeping index _ _ rest => some (index, rest)
  | _ => none

theorem User.index?_of_left? {u : User} {index : Nat} {rest : Dialogue Ending}
    (h : u.left? = some (index, rest)) : u.index? = some index := by
  obtain ⟨phase, seen⟩ := u
  cases phase <;> cases h <;> rfl

namespace Move

variable {u u' : User} {s s' : Shared σ} {act : Act} {index : Nat}

/-- A user that takes an iteration has just begun it, or has gone on with it and counted what it
recorded on the way. -/
theorem left {rest : Dialogue Ending} (h : Move g t u s act u' s')
    (hl : u'.left? = some (index, rest)) :
    (act.started? = some index ∧ act.counted? = none ∧ rest = g.iteration index) ∨
      ∃ rest₀ events, u.left? = some (index, rest₀) ∧ Reaches rest₀ events rest ∧
        act.counted?.toList = (recordsOf events).map (index, ·) := by
  cases h with
  | begin => cases hl; exact .inl ⟨rfl, rfl, rfl⟩
  | count => cases hl; exact .inr ⟨_, _, rfl, (Reaches.refl _).record, rfl⟩
  | countFirst => cases hl; exact .inr ⟨_, _, rfl, (Reaches.refl _).record, rfl⟩
  | ask => cases hl; exact .inr ⟨_, _, rfl, (Reaches.refl _).ask _, rfl⟩
  | keep => cases hl; exact .inr ⟨_, _, rfl, .refl _, rfl⟩
  | _ => cases hl

theorem finished {ending : Ending} (h : Move g t u s act u' s')
    (hf : act.finished? = some (index, ending)) :
    u.left? = some (index, .done ending) ∧ act.counted? = none := by
  cases h with
  | finish => cases hf; exact ⟨rfl, rfl⟩
  | _ => cases hf

theorem counted {r : Record} (h : Move g t u s act u' s') (hc : act.counted? = some (index, r)) :
    u.index? = some index := by
  cases h with
  | count => cases hc; rfl
  | countFirst => cases hc; rfl
  | _ => cases hc

end Move

/-! ## The records of a run -/

namespace Crowd

theorem Numbered.nodup {deeds : List Deed} {w : Crowd σ} (h : Numbered g deeds w) :
    (startsOf deeds).Nodup := h.starts ▸ List.nodup_range

theorem Numbered.mem_starts {deeds : List Deed} {w : Crowd σ} (h : Numbered g deeds w) {u : User}
    {index : Nat} (hu : u ∈ w.users) (hi : u.index? = some index) : index ∈ startsOf deeds := by
  have hpos : 0 < w.underWay.count index := List.count_pos_iff.2 (List.mem_filterMap.2 ⟨u, hu, hi⟩)
  have hf := h.finishes index
  exact List.count_pos_iff.1 (by omega)

/-- No other user takes the iteration that a user takes, and it is not finished. -/
theorem Numbered.alone {deeds : List Deed} {w : Crowd σ} (h : Numbered g deeds w)
    {before after : List User} {u : User} {index : Nat} (hw : w.users = before ++ u :: after)
    (hi : u.index? = some index) :
    (∀ v, v ∈ before ∨ v ∈ after → v.index? ≠ some index) ∧
      ∀ f ∈ finishesOf deeds, f.1 ≠ index := by
  have hone := List.nodup_iff_count.1 h.nodup index
  have hf := h.finishes index
  simp only [underWay, hw, underWay_amid, List.count_append, hi, Option.toList_some,
    List.count_singleton_self] at hf
  constructor
  · intro v hv he
    have hmem (users : List User) (hu : v ∈ users) :
        0 < (users.filterMap User.index?).count index :=
      List.count_pos_iff.2 (List.mem_filterMap.2 ⟨v, hu, he⟩)
    rcases hv with hv | hv <;> have := hmem _ hv <;> omega
  · intro f hfin he
    have : 0 < ((finishesOf deeds).map (·.1)).count index :=
      List.count_pos_iff.2 (List.mem_map.2 ⟨f, hfin, he⟩)
    omega

/-- Every iteration that was begun has recorded what its dialogue says. -/
structure Telling (g : Regime) (deeds : List Deed) (w : Crowd σ) : Prop where
  numbered : Numbered g deeds w
  held : ∀ u ∈ w.users, ∀ index rest, u.left? = some (index, rest) → Told g deeds index rest
  ended : ∀ index ending, (index, ending) ∈ finishesOf deeds → Told g deeds index (.done ending)
  counted : ∀ e ∈ countsOf deeds, e.1 ∈ startsOf deeds

theorem telling_start (g : Regime) (size : Nat) (now : Instant) (signal : Signal) (site : σ) :
    Telling g [] (start size now signal site) where
  numbered := numbered_start g size now signal site
  held u hu index rest hl := by
    obtain rfl := List.eq_of_mem_replicate hu
    cases hl
  ended _ _ h := by cases h
  counted _ h := by cases h

/-- What touches neither the counters nor the users and records nothing keeps the records. -/
theorem Telling.aside {deeds : List Deed} {w w' : Crowd σ} {d : Deed} (h : Telling g deeds w)
    (hn : Numbered g (deeds ++ [d]) w') (hw : w'.users = w.users) (h₁ : d.act.started? = none)
    (h₂ : d.act.finished? = none) (h₃ : d.act.counted? = none) :
    Telling g (deeds ++ [d]) w' := by
  have hc (index : Nat) (e) (he : d.act.counted? = some e) : e.1 ≠ index := by
    rw [h₃] at he
    cases he
  constructor
  · exact hn
  · intro u hu index rest hl
    exact (h.held u (hw ▸ hu) index rest hl).aside (hc index)
  · intro index ending hf
    rw [finishesOf_snoc, h₂, Option.toList_none, List.append_nil] at hf
    exact (h.ended index ending hf).aside (hc index)
  · rw [countsOf_snoc, startsOf_snoc, h₁, h₃]
    simpa using h.counted

theorem Telling.move {deeds : List Deed} {w : Crowd σ} (h : Telling g deeds w)
    {before after : List User} {u u' : User} {s' : Shared σ} {d : Deed}
    (hw : w.users = before ++ u :: after) (hm : Move g t u w.shared d.act u' s')
    (hn : Numbered g (deeds ++ [d]) ⟨before ++ u' :: after, s'⟩) :
    Telling g (deeds ++ [d]) ⟨before ++ u' :: after, s'⟩ := by
  have hu : u ∈ w.users := hw ▸ List.mem_append_right _ List.mem_cons_self
  constructor
  · exact hn
  · intro v hv index rest hl
    simp only [List.mem_append, List.mem_cons] at hv
    by_cases hvu : v = u'
    · subst hvu
      obtain ⟨hs, hc, rfl⟩ | ⟨rest₀, events, hl₀, hr, hc⟩ := hm.left hl
      · -- Nothing is recorded in an iteration before it has begun.
        have hfresh : index ∉ startsOf deeds := by
          have hnd := hn.nodup
          rw [startsOf_snoc, hs] at hnd
          exact fun hmem => (List.nodup_append.1 hnd).2.2 _ hmem _ (by simp) rfl
        have hnil : recordsAt index deeds = [] := by
          rw [recordsAt, List.filter_eq_nil_iff.2 fun e he => ?_, List.map_nil]
          rw [decide_eq_true_eq]
          exact fun hi => hfresh (hi ▸ h.counted e he)
        have hold : Told g deeds index (g.iteration index) := ⟨[], .refl _, hnil.symm⟩
        exact hold.proceed (.refl _) (by rw [hc]; rfl)
      · exact (h.held u hu index rest₀ hl₀).proceed hr hc
    · have hv : v ∈ before ∨ v ∈ after := by
        rcases hv with hv | hv | hv
        · exact .inl hv
        · exact absurd hv hvu
        · exact .inr hv
      have hvw : v ∈ w.users := by
        rw [hw]
        simp only [List.mem_append, List.mem_cons]
        exact hv.imp_right .inr
      refine (h.held v hvw index rest hl).aside fun e he heq => ?_
      exact (h.numbered.alone hw (hm.counted he)).1 v hv (heq ▸ User.index?_of_left? hl)
  · intro index ending hf
    rw [finishesOf_snoc, List.mem_append] at hf
    rcases hf with hf | hf
    · refine (h.ended index ending hf).aside fun e he heq => ?_
      exact (h.numbered.alone hw (hm.counted he)).2 _ hf heq.symm
    · obtain ⟨hl, hc⟩ := hm.finished (Option.mem_toList.1 hf)
      exact (h.held u hu index _ hl).proceed (.refl _) (by rw [hc]; rfl)
  · intro e he
    rw [countsOf_snoc, List.mem_append] at he
    rw [startsOf_snoc, List.mem_append]
    rcases he with he | he
    · exact .inl (h.counted e he)
    · exact .inl (h.numbered.mem_starts hu (hm.counted (Option.mem_toList.1 he)))

theorem Telling.step {deeds : List Deed} {w w' : Crowd σ} {d : Deed} (h : Telling g deeds w)
    (hs : Step g t w d w') : Telling g (deeds ++ [d]) w' := by
  have hn := h.numbered.step hs
  obtain ⟨before, u, u', after, s', act, hu, hm, rfl, rfl⟩ | ⟨later, -, rfl, rfl⟩ |
    ⟨event, rfl, rfl⟩ := step_cases hs
  · exact h.move hu hm hn
  · exact h.aside hn rfl rfl rfl rfl
  · exact h.aside hn rfl rfl rfl rfl

theorem telling_of_run {size : Nat} {now : Instant} {signal : Signal} {site : σ}
    {deeds : List Deed} {w : Crowd σ} (hr : Run g t (start size now signal site) deeds w) :
    Telling g deeds w :=
  Run.history Telling.step (telling_start g size now signal site) hr

/-- A finished iteration took a course of its dialogue, and its records are those that were
counted. -/
theorem Telling.course {deeds : List Deed} {w : Crowd σ} (h : Telling g deeds w) {index : Nat}
    {ending : Ending} (hf : (index, ending) ∈ finishesOf deeds) :
    ∃ events, Course (g.iteration index) events ending ∧
      recordsOf events = recordsAt index deeds := by
  obtain ⟨events, he, hrec⟩ := h.ended index ending hf
  exact ⟨events, he.done, hrec⟩

end Crowd

end NotesBench.Load
