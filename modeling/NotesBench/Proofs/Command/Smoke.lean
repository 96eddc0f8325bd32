import NotesBench.Command.Rehearsal
import NotesBench.Load.Target
import NotesBench.Proofs.Load.Shape

/-!
# Single iterations

An iteration on any target ends early exactly when its registration is refused, and then it has
made two requests and recorded two checks; otherwise it records all nine in order
(`iteration_ends_early_iff_refused`). A command that takes a single iteration therefore succeeds
exactly when all nine checks passed.
-/

namespace NotesBench.Command

open Load (Journey Dialogue Target Check Ending Record Refused Plan Network)
open Load.Dialogue (recordsOf requestsOf written)

theorem exitCode_smokeReport (records : List Record) (ending : Ending) :
    (smokeReport records ending).exitCode = 0 ↔ ∀ r ∈ records, r.2 = .pass := by
  have hp (r : Record) : r.2.isPass = true ↔ r.2 = .pass := by
    cases r.2 <;> simp [Load.Outcome.isPass]
  by_cases hc : records.countP (fun r => !r.2.isPass) = 0
  · simpa [smokeReport, Report.exitCode, hc, hp] using List.countP_eq_zero.1 hc
  · simp only [smokeReport, Report.exitCode, if_neg hc, Option.isSome_some, ↓reduceIte,
      Nat.one_ne_zero, false_iff]
    intro hall
    refine hc (List.countP_eq_zero.2 fun r hr => ?_)
    simp [(hp r).2 (hall r hr)]

theorem exitCode_smoke {σ : Type} {stage : Stage σ} {o : SmokeOrder} {plan : Plan} {j : Journey}
    (h : o.prepare stage.environment = .ok (plan, j)) (site : σ) :
    (stage.smoke o site).report.exitCode = 0 ↔
      ∀ r ∈ recordsOf ((j.iteration o.index).run stage.target site).2.1, r.2 = .pass := by
  rw [← exitCode_smokeReport _ ((j.iteration o.index).run stage.target site).1]
  simp only [Stage.smoke, h, Report.exitCode]

/-- Whatever a target answers, an iteration either ends early at the registration, after the first
two requests and with the first two checks recorded, or comes to its end with all nine checks
recorded in order. The registration alone decides which, and the record of it shows it. A single
iteration from the command line succeeds exactly when all nine checks were recorded and passed. -/
theorem iteration_ends_early_iff_refused (j : Journey) (index : Nat) :
    (∀ {σ : Type} (t : Target σ) (s : σ),
      let ending := ((j.iteration index).run t s).1
      let events := ((j.iteration index).run t s).2.1
      (((∃ reason, ending = .early .register reason) ∧
          (recordsOf events).map (·.1) = [.health, .register] ∧
          requestsOf events = written j.client [.health, .register (j.start index).account]) ∨
        (ending = .completed ∧ (recordsOf events).map (·.1) = Check.all)) ∧
      (ending.isEarly ↔ ∃ why, (.register, .fail why) ∈ recordsOf events) ∧
      (ending.isEarly ↔ Refused (j.registration index t s))) ∧
    (∀ {σ : Type} (stage : Stage σ) (o : SmokeOrder) (plan : Plan) (site : σ),
      o.index = index → o.prepare stage.environment = .ok (plan, j) →
      ((stage.smoke o site).report.exitCode = 0 ↔
        let records := recordsOf ((j.iteration index).run stage.target site).2.1
        records.map (·.1) = Check.all ∧ ∀ r ∈ records, r.2 = .pass)) := by
  constructor
  · intro σ t s
    have h := j.took_of_run index t s
    by_cases hr : Refused (j.registration index t s)
    · obtain ⟨⟨reason, he⟩, hrec, hreq, why, hw⟩ := h.refused hr
      exact ⟨.inl ⟨⟨reason, he⟩, hrec, hreq⟩, by simpa [he, Ending.isEarly] using ⟨why, hw⟩,
        by simpa [he, Ending.isEarly] using hr⟩
    · obtain ⟨he, hrec, hp⟩ := h.accepted hr
      refine ⟨.inr ⟨he, hrec⟩, ?_, by simpa [he, Ending.isEarly] using hr⟩
      simp only [he, Ending.isEarly, Bool.false_eq_true, false_iff, not_exists]
      intro why hw
      cases Load.outcome_unique (hrec ▸ Check.nodup_all) hp hw
  · rintro σ stage o plan site rfl h
    rw [exitCode_smoke h]
    constructor
    · intro hall
      have ht := j.took_of_run o.index stage.target site
      by_cases hr : Refused (j.registration o.index stage.target site)
      · obtain ⟨-, -, -, why, hw⟩ := ht.refused hr
        cases hall _ hw
      · exact ⟨(ht.accepted hr).2.1, hall⟩
    · exact And.right

/-- The order to take the first iteration on a local service. -/
def firstIteration : SmokeOrder where
  target := ⟨some "http://127.0.0.1:9", .ofSeconds 10⟩
  workload := ⟨1000, "Password1!", "t", "b"⟩
  index := 0

/-- The plan of that iteration. -/
def firstPlan : Plan := { baseUrl := "http://127.0.0.1:9", users := 1, iterations := some 1 }

/-- Where nothing is reached. -/
def unreachable : Stage Unit where
  environment := none
  target := .across .down ⟨fun _ s => (.error .dropped, s)⟩
  storage := ⟨[], []⟩

theorem first_iteration_ends_early_iff_refused :
    firstIteration.index = 0 ∧
    firstIteration.prepare unreachable.environment =
      .ok (firstPlan, .ofPlan ⟨"http://127.0.0.1:9"⟩ firstPlan) ∧
    ((unreachable.smoke firstIteration ()).report.exitCode = 0 ↔
      let j := Journey.ofPlan ⟨"http://127.0.0.1:9"⟩ firstPlan
      let records := recordsOf ((j.iteration 0).run unreachable.target ()).2.1
      records.map (·.1) = Check.all ∧ ∀ r ∈ records, r.2 = .pass) :=
  ⟨rfl, by rfl, (iteration_ends_early_iff_refused _ 0).2 unreachable firstIteration firstPlan ()
    rfl (by rfl)⟩

end NotesBench.Command
