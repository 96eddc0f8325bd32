import NotesBench.Proofs.Load.Iterating

/-!
# Iterations agree with the service

However the requests of several iterations mix at the service, each iteration completes and records
the outcomes of `outcome` (`iterations_agree`). The service may know some accounts before, as long
as they have the password of the journey (`Journey.Prepared`).
-/

namespace NotesBench.Load

open Http (Url)
open Service (Settings Store TokenPair)
open Dialogue (recordsOf requestsOf Reaches)

/-! ## The service before the run -/

/-- The states of a service in which accounts of a journey have registered, and nothing else has
happened. -/
inductive Journey.Prepared (j : Journey) : Store → Prop where
  | empty : j.Prepared {}
  | register {s : Store} (salt : String) (k : Nat) : j.Prepared s →
    j.Prepared ((Store.register salt (userEmail k) j.password).on s).2

theorem Journey.Prepared.orderly {j : Journey} {s : Store} (h : j.Prepared s)
    (pair : Nat → TokenPair) : s.Orderly pair j.password ∧ s.lastNote = 0 := by
  induction h with
  | empty => exact ⟨Store.orderly_empty pair j.password, rfl⟩
  | register salt k _ ih =>
    rw [Store.register_on]
    split
    · exact ih
    · exact ⟨ih.1.withAccount salt (userEmail k), ih.2⟩

/-! ## Iterations side by side -/

section Agreement

variable {j : Journey} {u : Url} {settings : Settings} {supply : Supply} {s : Store}

/-- An iteration needs fifteen turns at most. -/
theorem isOver_of_turns {indices schedule : List Nat} {i index : Nat} {k : Talk Ending}
    {t : Target Store} (hi : indices[i]? = some index)
    (hk : ((Gathering.start (indices.map j.iteration) s).hold t schedule).talks[i]? = some k)
    (hturns : 15 ≤ schedule.count i) : k.IsOver := by
  have hd : (indices.map j.iteration)[i]? = some (j.iteration index) := by simp [hi]
  have hstart := Gathering.talk_start hd s
  obtain ⟨k', more, hk', -, hr, hl⟩ := Gathering.exists_talk_hold (t := t) hstart schedule
  obtain rfl := Option.some.inj (hk'.symm.trans hk)
  refine hl.elim (fun hl => ?_) id
  -- After fifteen events nothing is left to happen.
  obtain ⟨events, ending, hc⟩ := Dialogue.exists_course k'.rest
  have hlen := j.length_course_le (hr.course hc)
  rw [List.length_append] at hlen
  obtain rfl : events = [] := List.eq_nil_of_length_eq_zero (by omega)
  exact ⟨ending, Dialogue.eq_done_of_course_nil hc⟩

/-- Iterations of a journey are held with the service at the address of its client, with any
numbers, and nobody else sends requests. However their turns are mixed, an iteration is over after
fifteen of its own turns, and one that is over has completed and has recorded all checks in order
with their outcomes. The numbers of the notes are to stay within 64 bits. -/
theorem iterations_agree (hat : j.client.IsAt u) (hj : j.Suits settings)
    (hsup : supply.IsDistinct) (hs : j.Prepared s) (indices : List Nat)
    (hfew : indices.length < Text.signedEnd) (schedule : List Nat) {i index : Nat}
    (hi : indices[i]? = some index) :
    ∃ k, ((Gathering.start (indices.map j.iteration) s).hold
        (Target.notes u settings supply) schedule).talks[i]? = some k ∧
      (15 ≤ schedule.count i → k.IsOver) ∧
      ∀ ending, k.rest = .done ending → ending = .completed ∧
        recordsOf k.events = Check.all.map fun c => (c, outcome settings c) := by
  obtain ⟨ho, hnone⟩ := hs.orderly supply.pair
  have hsure : ∀ d ∈ indices.map j.iteration,
      (userCustom supply j.password).Sure (Target.notes u settings supply) d true
        (Check.all.map fun c => (c, outcome settings c)) .completed s := by
    intro d hd
    obtain ⟨index, -, rfl⟩ := List.mem_map.1 hd
    exact Journey.sure_iteration hat hj hsup ho index
  have hroom : (userCustom supply j.password).used s + (indices.map j.iteration).length ≤
      (userCustom supply j.password).room := by
    simp only [userCustom, hnone, List.length_map]
    omega
  obtain ⟨tickets, hinhand⟩ := (Gathering.InHand.start hsure hroom).hold schedule
  have hd : (indices.map j.iteration)[i]? = some (j.iteration index) := by simp [hi]
  obtain ⟨k, more, hk, -⟩ := Gathering.exists_talk_hold (Gathering.talk_start hd s) schedule
  exact ⟨k, hk, isOver_of_turns hi hk, fun ending hend => hinhand.records_of_done hk hend⟩

end Agreement

/-! ## A small run -/

/-- Tokens of thirty-two digits, counted up. -/
def countingSupply : Supply where
  salt _ := "0123456789abcdef0123456789abcdef"
  pair n :=
    ⟨Text.natText (10_000_000_000_000_000_000_000_000_000_000 + 2 * n),
      Text.natText (10_000_000_000_000_000_000_000_000_000_001 + 2 * n)⟩

theorem isPlain_natText (n : Nat) : Http.IsPlain (Text.natText n) where
  visible c hc := Http.isVisible_of_isDigit (Text.isDigit_of_mem_toDigits
    (by rwa [← Text.toList_natText]))
  nonempty := by simp [Nat.toDigits_ne_nil]

theorem isDistinct_countingSupply : countingSupply.IsDistinct where
  access m n h := by
    have := Text.natText_injective h
    omega
  refresh m n h := by
    have := Text.natText_injective h
    omega
  plain n := isPlain_natText _

/-- The journey of two accounts at the usual port of this machine. -/
def localJourney : Journey where
  client := ⟨"http://127.0.0.1:8080"⟩
  password := "correct horse"
  note := ⟨" hello ", "a note"⟩
  accounts := 2
  pace := ⟨0⟩

/-- The address of the journey. -/
def localUrl : Url := Url.atPlace "/" ("127.0.0.1", some 8080)

theorem isAt_localUrl : localJourney.client.IsAt localUrl where
  bare := ⟨⟨"127.0.0.1:8080".toList, rfl, List.all_eq_true.1 rfl⟩, by decide +kernel⟩
  host := by decide
  room := by decide

theorem account_localJourney (index : Nat) :
    (localJourney.start index).account = ⟨"u0@t.io", "correct horse"⟩ ∨
      (localJourney.start index).account = ⟨"u1@t.io", "correct horse"⟩ := by
  have ha : (localJourney.start index).account = ⟨userEmail (index % 2), "correct horse"⟩ := rfl
  rcases Nat.mod_two_eq_zero_or_one index with h | h
  · left
    rw [ha, h]
    decide
  · right
    rw [ha, h]
    decide

theorem localJourney_suits : localJourney.Suits {} where
  accounts := by decide
  password := by decide
  emails index := by
    rcases account_localJourney index with h | h <;> rw [h] <;> decide
  credentials index := by
    rcases account_localJourney index with h | h <;> rw [h] <;> decide +kernel
  title := by decide
  note := by decide +kernel
  status := by decide

/-- A service at which the second account has registered before. -/
def localStore : Store :=
  ((Store.register "fedcba9876543210fedcba9876543210" (userEmail 1) localJourney.password).on {}).2

/-- Three iterations take their turns one after the other, two of them with the same account. The
second one is then over. -/
theorem second_of_three_agrees :
    ∃ k, ((Gathering.start ([0, 1, 3].map localJourney.iteration) localStore).hold
        (Target.notes localUrl {} countingSupply)
        (List.replicate 15 [0, 1, 2]).flatten).talks[1]? = some k ∧
      k.rest = .done .completed ∧
      recordsOf k.events = Check.all.map fun c => (c, outcome {} c) := by
  have hi : [0, 1, 3][1]? = some 1 := rfl
  obtain ⟨k, hk, hover, hrecords⟩ := iterations_agree isAt_localUrl localJourney_suits
    isDistinct_countingSupply (.register _ 1 .empty) [0, 1, 3] (by decide)
    (List.replicate 15 [0, 1, 2]).flatten hi
  obtain ⟨ending, hend⟩ := hover (by decide)
  obtain ⟨rfl, hr⟩ := hrecords ending hend
  exact ⟨k, hk, hend, hr⟩

end NotesBench.Load
