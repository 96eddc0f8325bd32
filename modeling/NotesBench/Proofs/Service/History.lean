import NotesBench.Service.Operation

/-!
# Histories

A history lists what was asked and what was answered, the oldest first. `Steps` ties a list of
events to the state before the first and the state after the last of them, for any kind of step, and
`Leads` is `Steps` for operations on the state of the service. A run of `perform` leads to its state
by its own history (`leads_perform`).
-/

namespace NotesBench.Service

/-! ## Steps of any kind -/

/-- From one state to another by steps, each of which leaves an event. -/
inductive Steps {σ ε : Type} (step : σ → ε → σ → Prop) : σ → List ε → σ → Prop where
  | refl (s : σ) : Steps step s [] s
  | snoc {s s₁ s₂ : σ} {events : List ε} {e : ε} :
    Steps step s events s₁ → step s₁ e s₂ → Steps step s (events ++ [e]) s₂

namespace Steps

variable {σ ε : Type} {step : σ → ε → σ → Prop} {s s₁ s₂ : σ} {a b : List ε} {e : ε}

theorem trans (h₁ : Steps step s a s₁) (h₂ : Steps step s₁ b s₂) : Steps step s (a ++ b) s₂ := by
  induction h₂ with
  | refl => rwa [List.append_nil]
  | snoc _ he ih =>
    rw [← List.append_assoc]
    exact ih.snoc he

theorem single (h : step s e s₁) : Steps step s [e] s₁ := (refl s).snoc h

theorem cons (h : step s e s₁) (h' : Steps step s₁ a s₂) : Steps step s (e :: a) s₂ :=
  (single h).trans h'

theorem eq_of_nil (h : Steps step s [] s₁) : s₁ = s := by
  generalize he : ([] : List ε) = events at h
  cases h with
  | refl => rfl
  | snoc _ _ => simp at he

theorem exists_last (h : Steps step s (a ++ [e]) s₂) :
    ∃ s₁, Steps step s a s₁ ∧ step s₁ e s₂ := by
  generalize hev : a ++ [e] = events at h
  cases h with
  | refl => simp at hev
  | snoc h he =>
    obtain ⟨rfl, hlast⟩ := List.append_inj' hev rfl
    cases hlast
    exact ⟨_, h, he⟩

theorem exists_between (h : Steps step s (a ++ b) s₂) :
    ∃ s₁, Steps step s a s₁ ∧ Steps step s₁ b s₂ := by
  generalize hev : a ++ b = events at h
  induction h generalizing b with
  | refl =>
    obtain ⟨rfl, rfl⟩ := List.append_eq_nil_iff.1 hev
    exact ⟨s, refl s, refl s⟩
  | snoc h he ih =>
    rcases List.eq_nil_or_concat b with rfl | ⟨before, last, rfl⟩
    · rw [List.append_nil] at hev
      subst hev
      exact ⟨_, h.snoc he, refl _⟩
    · rw [List.concat_eq_append, ← List.append_assoc] at hev
      obtain ⟨hbefore, hlast⟩ := List.append_inj' hev rfl
      cases hlast
      obtain ⟨s₁, h₁, h₂⟩ := ih hbefore
      exact ⟨s₁, h₁, List.concat_eq_append ▸ h₂.snoc he⟩

theorem exists_first (h : Steps step s (e :: a) s₂) :
    ∃ s₁, step s e s₁ ∧ Steps step s₁ a s₂ := by
  obtain ⟨s₁, hfirst, hrest⟩ := exists_between (a := [e]) h
  obtain ⟨s₀, hnil, he⟩ := exists_last (a := []) hfirst
  obtain rfl := hnil.eq_of_nil
  exact ⟨s₁, he, hrest⟩

/-- What a step keeps, a run keeps. -/
theorem keeps (h : Steps step s a s₁) {I : σ → Prop} (hs : I s)
    (hstep : ∀ {s e s'}, I s → step s e s' → I s') : I s₁ := by
  induction h with
  | refl => exact hs
  | snoc _ he ih => exact hstep ih he

/-- A run of one kind as a run of another. -/
theorem map {δ : Type} {step' : σ → δ → σ → Prop} (f : ε → δ)
    (hstep : ∀ {s e s'}, step s e s' → step' s (f e) s') (h : Steps step s a s₁) :
    Steps step' s (a.map f) s₁ := by
  induction h with
  | refl => exact refl s
  | snoc _ he ih =>
    rw [List.map_append]
    exact ih.snoc (hstep he)

end Steps

/-- The last element of a history is the one that is looked for, or comes after it. -/
theorem append_singleton_eq_iff {ε : Type} {past before since : List ε} {d e : ε} :
    past ++ [d] = before ++ e :: since ↔
      (past = before ∧ d = e ∧ since = []) ∨
        ∃ rest, since = rest ++ [d] ∧ past = before ++ e :: rest := by
  constructor
  · intro h
    rcases List.eq_nil_or_concat since with rfl | ⟨rest, last, rfl⟩
    · obtain ⟨hp, he⟩ := List.append_inj' h rfl
      exact .inl ⟨hp, List.head_eq_of_cons_eq he, rfl⟩
    · rw [List.concat_eq_append, ← List.cons_append, ← List.append_assoc] at h
      obtain ⟨hp, he⟩ := List.append_inj' h rfl
      cases he
      exact .inr ⟨rest, List.concat_eq_append, hp⟩
  · rintro (⟨rfl, rfl, rfl⟩ | ⟨rest, rfl, rfl⟩)
    · rfl
    · simp

/-! ## Operations -/

/-- Something that was asked of the state, and the answer. -/
structure Deed where
  operation : Operation
  answer : Except Refusal Answer

/-- The deed leads from one state to the other, with some random values. -/
def Store.Does (s : Store) (d : Deed) (s' : Store) : Prop :=
  ∃ draw, (d.operation.perform draw).on s = (d.answer, s')

/-- The deeds lead from one state to the other. -/
abbrev Leads : Store → List Deed → Store → Prop := Steps Store.Does

/-- What is asked in a run, with the answers of the run. -/
def deeds (asked : List (Draw × Operation)) (s : Store) : List Deed :=
  List.zipWith (fun asked answer => ⟨asked.2, answer⟩) asked (perform asked s).1

theorem leads_perform (asked : List (Draw × Operation)) (s : Store) :
    Leads s (deeds asked s) (perform asked s).2 := by
  induction asked generalizing s with
  | nil => exact .refl s
  | cons first rest ih =>
    obtain ⟨draw, operation⟩ := first
    exact .cons ⟨draw, rfl⟩ (ih ((operation.perform draw).on s).2)

end NotesBench.Service
