import NotesBench.Load.Schedule
import NotesBench.Load.Target

/-!
# The schedule takes a run

Every step that a schedule takes is a step of the crowd, so the crowd that `Scene.playPlan` ends
with is one that a run of the plan comes to (`leads_playPlan`). What is proved of all runs holds of
it.
-/

namespace NotesBench.Load

variable {σ : Type} {g : Regime} {t : Target σ}

/-- Some run takes a crowd to another. -/
def Crowd.Leads (g : Regime) (t : Target σ) (w w' : Crowd σ) : Prop :=
  ∃ deeds, Crowd.Run g t w deeds w'

namespace Crowd.Leads

variable {w w₁ w₂ w₃ : Crowd σ}

theorem refl (w : Crowd σ) : Leads g t w w := ⟨[], .refl w⟩

theorem trans (h₁ : Leads g t w₁ w₂) (h₂ : Leads g t w₂ w₃) : Leads g t w₁ w₃ := by
  obtain ⟨before, h₁⟩ := h₁
  obtain ⟨after, h₂⟩ := h₂
  exact ⟨before ++ after, h₁.trans h₂⟩

theorem step {deed : Deed} (h : Step g t w₁ deed w₂) : Leads g t w₁ w₂ :=
  ⟨[deed], .step h (.refl w₂)⟩

theorem signals (events : List (Nat × SignalEvent)) (w : Crowd σ) :
    Leads g t w { w with
      shared.signal := events.foldl (fun s e => s.after e.2) w.shared.signal } := by
  induction events generalizing w with
  | nil => exact refl w
  | cons event events ih => exact (step (.signal event.2)).trans (ih _)

end Crowd.Leads

namespace Scene

open Crowd (Leads)

variable (p : Schedule σ)

theorem leads_signal (c : Scene σ) : Leads g t c.crowd (c.signal p).crowd :=
  Leads.signals _ c.crowd

theorem leads_pass (act : Act) (c : Scene σ) : Leads g t c.crowd (c.pass p act).crowd := by
  unfold pass
  split
  · exact .step (.pass (Nat.le_add_right ..))
  · exact .refl _

theorem leads_move {i : Nat} {c c' : Scene σ} (h : c.move g t p i = some c') :
    Leads g t c.crowd c'.crowd := by
  simp only [move, Option.bind_eq_bind, Option.bind_eq_some_iff] at h
  obtain ⟨u, hu, ⟨act, u', s'⟩, ha, h⟩ := h
  cases h
  let moved : Scene σ := { c with crowd := c.crowd.put i u' s' }
  have hm : Leads g t c.crowd moved.crowd := .step (.move hu ha)
  exact (hm.trans (leads_pass p act moved)).trans (leads_signal p _)

theorem leads_foldl {f : Bool × Scene σ → Nat → Bool × Scene σ}
    (hf : ∀ c i, Leads g t c.2.crowd (f c i).2.crowd) (places : List Nat) (c : Bool × Scene σ) :
    Leads g t c.2.crowd (places.foldl f c).2.crowd := by
  induction places generalizing c with
  | nil => exact .refl _
  | cons i places ih => exact (hf c i).trans (ih (f c i))

theorem leads_round (c : Scene σ) : Leads g t c.crowd (c.round g t p).2.crowd := by
  refine leads_foldl (fun c i => ?_) _ (false, c)
  cases hm : c.2.move g t p i with
  | none => simpa only [hm] using .refl _
  | some c' => simpa only [hm] using leads_move p hm

theorem leads_sleep {c c' : Scene σ} (h : c.sleep = some c') : Leads g t c.crowd c'.crowd := by
  simp only [sleep, Option.bind_eq_bind, Option.bind_eq_some_iff] at h
  obtain ⟨moment, -, h⟩ := h
  cases h
  exact .step (.pass (Nat.le_max_left ..))

theorem leads_play (rounds : Nat) (c : Scene σ) :
    Leads g t c.crowd (play g t p rounds c).crowd := by
  induction rounds generalizing c with
  | zero => exact .refl _
  | succ rounds ih =>
    have hr : Leads g t c.crowd (c.round g t p).2.crowd := leads_round p c
    unfold play
    split
    · next c' he =>
      rw [he] at hr
      exact hr.trans (ih c')
    · next c' he =>
      rw [he] at hr
      split
      · next c'' hs => exact (hr.trans (leads_sleep hs)).trans (ih c'')
      · exact hr

/-- The crowd that a plan is played to is one that a run of the plan comes to. -/
theorem leads_playPlan (journey : Journey) (plan : Plan) (t : Target σ)
    (coming : List (Nat × SignalEvent)) (site : σ) :
    Leads (.ofPlan journey plan 0) t (Crowd.start plan.users 0 {} site)
      (playPlan journey plan t p coming site) := by
  let scene : Scene σ := ⟨Crowd.start plan.users 0 {} site, coming⟩
  exact (leads_signal p scene).trans (leads_play p enough _)

/-! ## A short run -/

/-- Two users take two iterations. -/
def shortPlan : Plan where
  baseUrl := "http://127.0.0.1:9"
  users := 2
  duration := none
  iterations := some 2

/-- The journey of these users. -/
def shortJourney : Journey := .ofPlan ⟨"http://127.0.0.1:9"⟩ shortPlan

/-- A target that is never reached. -/
def nowhere : Target Unit := .across .down ⟨fun _ s => (.error .dropped, s)⟩

/-- Where the short run ends when nothing is reached. -/
@[irreducible] def shortEnd : Crowd Unit := playPlan shortJourney shortPlan nowhere {} [] ()

theorem leads_shortEnd :
    Leads (.ofPlan shortJourney shortPlan 0) nowhere (Crowd.start 2 0 {} ()) shortEnd := by
  unfold shortEnd
  exact leads_playPlan {} shortJourney shortPlan nowhere [] ()

theorem isOver_shortEnd : shortEnd.isOver = true := by decide +kernel

theorem iterations_shortEnd : shortEnd.shared.counters.iterations = 2 := by decide +kernel

end Scene

end NotesBench.Load
