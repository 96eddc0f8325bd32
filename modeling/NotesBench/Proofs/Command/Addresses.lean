import Mathlib.Data.List.Basic
import Mathlib.Data.List.DropRight
import NotesBench.Command.Rehearsal

/-!
# Addresses in their normal form

A normal address has a scheme, no blank at its ends and no slash at its end. The blanks of a given
address are dropped first and the slashes then, so a blank right before the slashes is laid bare
and stays (`BlankBeforeSlashes`). Any other result is normal: a second time changes nothing, and
the address that a run announces is the one that its requests go to and that its summary names
(`address_is_normal_unless_blank_before_slashes`).
-/

namespace NotesBench.Load.BaseUrl

open Text (isBlank trimmed dropEndWhile)

/-! ## The normal form -/

/-- The address is one of `http` or `https`, and something stands behind the scheme. -/
def HasScheme (s : List Char) : Prop :=
  ∃ rest, rest ≠ [] ∧ (s = "http://".toList ++ rest ∨ s = "https://".toList ++ rest)

/-- The last character, if there is one, is no blank. -/
def EndsPlain (s : List Char) : Prop := ∀ c ∈ s.getLast?, isBlank c = false

/-- A blank stands right before the slashes at the end, the blanks behind them left aside. -/
def BlankBeforeSlashes (raw : String) : Prop :=
  ∃ before c slashes, trimmed raw.toList = before ++ c :: slashes ∧ isBlank c = true ∧
    ∀ d ∈ slashes, d = '/'

theorem HasScheme.head? {s : List Char} (h : HasScheme s) : s.head? = some 'h' := by
  obtain ⟨rest, -, rfl | rfl⟩ := h <;> rfl

theorem afterScheme?_eq_some_iff {s rest : List Char} :
    afterScheme? s = some rest ↔ s = "http://".toList ++ rest ∨ s = "https://".toList ++ rest := by
  have hsecure : "http://".toList.isPrefixOf? ("https://".toList ++ rest) = none := rfl
  rw [afterScheme?, Option.or_eq_some_iff, List.isPrefixOf?_eq_some_iff_append_eq,
    List.isPrefixOf?_eq_some_iff_append_eq]
  constructor
  · rintro (h | ⟨-, h⟩)
    · exact .inl h.symm
    · exact .inr h.symm
  · rintro (h | h)
    · exact .inl h.symm
    · exact .inr ⟨h ▸ hsecure, h.symm⟩

theorem normalize_eq_ok_iff {raw u : String} : normalize raw = .ok u ↔
    HasScheme u.toList ∧ u.toList = dropEndWhile (· == '/') (trimmed raw.toList) := by
  simp only [normalize]
  generalize dropEndWhile (· == '/') (trimmed raw.toList) = s
  have hscheme (rest : List Char) : afterScheme? s = some rest ↔
      s = "http://".toList ++ rest ∨ s = "https://".toList ++ rest := afterScheme?_eq_some_iff
  cases h : afterScheme? s with
  | none =>
    constructor
    · intro hu
      cases hu
    · rintro ⟨⟨rest, -, hu⟩, rfl⟩
      cases h.symm.trans ((hscheme rest).2 hu)
  | some rest =>
    cases rest with
    | nil =>
      constructor
      · intro hu
        cases hu
      · rintro ⟨⟨rest, hne, hu⟩, rfl⟩
        cases h.symm.trans ((hscheme rest).2 hu)
        exact absurd rfl hne
    | cons c rest =>
      constructor
      · rintro ⟨⟩
        rw [String.toList_ofList]
        exact ⟨⟨c :: rest, List.cons_ne_nil c rest, (hscheme _).1 h⟩, rfl⟩
      · rintro ⟨-, rfl⟩
        simp

/-! ## Blanks that are laid bare -/

/-- A blank is left at the end when one stands before the slashes. -/
theorem endsPlain_iff (raw : String) :
    EndsPlain (dropEndWhile (· == '/') (trimmed raw.toList)) ↔ ¬BlankBeforeSlashes raw := by
  constructor
  · rintro h ⟨before, c, slashes, hraw, hc, hslashes⟩
    have hkept : dropEndWhile (· == '/') (trimmed raw.toList) = before ++ [c] := by
      have hne : (c == '/') = false := by
        rw [beq_eq_false_iff_ne]
        rintro rfl
        cases hc
      have hdrop : ∀ d ∈ slashes.reverse, (d == '/') = true := by simpa using hslashes
      simp [hraw, dropEndWhile, List.dropWhile_append_of_pos hdrop, hne]
    have := h c (by simp [hkept])
    rw [hc] at this
    cases this
  · intro h c hc
    obtain ⟨before, hbefore⟩ := List.getLast?_eq_some_iff.1 hc
    have hraw := List.rdropWhile_append_rtakeWhile (p := (· == '/')) (l := trimmed raw.toList)
    rw [Bool.eq_false_iff]
    refine fun hblank => h ⟨before, c, (trimmed raw.toList).rtakeWhile (· == '/'), ?_, hblank,
      fun d hd => by simpa using List.mem_rtakeWhile_imp hd⟩
    rw [show (trimmed raw.toList).rdropWhile (· == '/') = before ++ [c] from hbefore] at hraw
    simpa using hraw.symm

theorem length_trimmed_le (s : List Char) : (trimmed s).length ≤ s.length :=
  Nat.le_trans (Text.dropEndWhile_prefix _ _).length_le (List.dropWhile_suffix _).length_le

/-- A normal address is kept if it does not end in a blank, and only then. -/
theorem normalize_eq_self_iff {u : String} (hscheme : HasScheme u.toList)
    (hslash : u.toList.getLast? ≠ some '/') : normalize u = .ok u ↔ EndsPlain u.toList := by
  rw [normalize_eq_ok_iff, and_iff_right hscheme]
  constructor
  · intro he
    have hprefix : u.toList <+: trimmed u.toList := by
      rw [he]
      simpa [← he] using Text.dropEndWhile_prefix (· == '/') (trimmed u.toList)
    have hkept := hprefix.eq_of_length_le (length_trimmed_le _)
    exact hkept ▸ Text.getLast?_trimmed u.toList
  · intro hend
    have hhead : ∀ c ∈ u.toList.head?, isBlank c = false := by
      simp [hscheme.head?]
      decide
    rw [trimmed, Text.dropWhile_eq_self_of_head? hhead,
      Text.dropEndWhile_eq_self_of_getLast? hend, Text.dropEndWhile_eq_self_of_getLast?]
    intro c hc
    rw [beq_eq_false_iff_ne]
    rintro rfl
    exact hslash hc

end NotesBench.Load.BaseUrl

namespace NotesBench.Load

theorem Journey.client_of_ready {plan : Plan} {j : Journey} (h : Journey.ready plan = .ok j) :
    Client.ofBaseUrl plan.baseUrl = .ok j.client := by
  simp only [ready, bind, Except.bind] at h
  split at h
  · cases h
  · cases hc : Client.ofBaseUrl plan.baseUrl with
    | error problem =>
      rw [hc] at h
      cases h
    | ok client =>
      rw [hc] at h
      cases h
      rfl

end NotesBench.Load

namespace NotesBench.Command

open Load (Client Journey Plan Summary)
open Load.BaseUrl (normalize resolve chosen HasScheme EndsPlain BlankBeforeSlashes)

/-! ## The address of a run -/

theorem RunOrder.address_of_prepare {o : RunOrder} {environment : Option String} {plan : Plan}
    {j : Journey} (h : o.prepare environment = .ok (plan, j)) :
    resolve o.target.baseUrl environment = .ok plan.baseUrl ∧
      Client.ofBaseUrl plan.baseUrl = .ok j.client := by
  cases hr : resolve o.target.baseUrl environment with
  | error problem =>
    simp only [prepare, RunOrder.plan, basePlan, hr, bind, Except.bind] at h
    cases h
  | ok baseUrl =>
    simp only [prepare, RunOrder.plan, basePlan, hr, bind, Except.bind, pure, Except.pure] at h
    split at h
    · next journey hj =>
      cases h
      exact ⟨rfl, Journey.client_of_ready hj⟩
    · cases h

/-- A rehearsed run announces the address of its plan, and its summary names that of the client. -/
theorem Stage.output_run {σ : Type} {stage : Stage σ} {o : RunOrder} {plan : Plan} {j : Journey}
    (h : o.prepare stage.environment = .ok (plan, j)) (site : σ) :
    ∃ summary written, summary.baseUrl = j.client.baseUrl ∧ (stage.run o site).report.output =
      runHeading plan ++ (runReport plan summary written).output := by
  simp only [run, h]
  exact ⟨_, _, rfl, rfl⟩

/-- An accepted address has a scheme, begins with no blank and ends in no slash. It ends in no blank
and is kept by a second time unless a blank stood right before the slashes of the given address.
Apart from such addresses, the one that is resolved for a run is the very address that the run
announces, sends its requests to and names in its summary. -/
theorem address_is_normal_unless_blank_before_slashes (raw : String)
    (given environment : Option String) :
    (∀ u, normalize raw = .ok u →
      HasScheme u.toList ∧ (∀ c ∈ u.toList.head?, Text.isBlank c = false) ∧
      u.toList.getLast? ≠ some '/' ∧
      (EndsPlain u.toList ↔ ¬BlankBeforeSlashes raw) ∧
      (normalize u = .ok u ↔ ¬BlankBeforeSlashes raw)) ∧
    ∀ u, resolve given environment = .ok u → ¬BlankBeforeSlashes (chosen given environment) →
      Client.ofBaseUrl u = .ok ⟨u⟩ ∧
      ∀ {σ : Type} (stage : Stage σ) (o : RunOrder) (plan : Plan) (j : Journey) (site : σ),
        stage.environment = environment → o.target.baseUrl = given →
        o.prepare environment = .ok (plan, j) →
        plan.baseUrl = u ∧ j.client = ⟨u⟩ ∧
        ∃ summary written, summary.baseUrl = u ∧ (stage.run o site).report.output =
          runHeading plan ++ (runReport plan summary written).output := by
  have hnormal (raw u : String) (h : normalize raw = .ok u) :
      HasScheme u.toList ∧ u.toList.getLast? ≠ some '/' ∧
      (EndsPlain u.toList ↔ ¬BlankBeforeSlashes raw) := by
    obtain ⟨hscheme, hu⟩ := Load.BaseUrl.normalize_eq_ok_iff.1 h
    refine ⟨hscheme, fun hslash => ?_, hu ▸ Load.BaseUrl.endsPlain_iff raw⟩
    rw [hu] at hslash
    cases Text.getLast?_dropEndWhile_false _ hslash
  constructor
  · intro u h
    obtain ⟨hscheme, hslash, hend⟩ := hnormal raw u h
    refine ⟨hscheme, fun c hc => ?_, hslash, hend,
      (Load.BaseUrl.normalize_eq_self_iff hscheme hslash).trans hend⟩
    cases hscheme.head?.symm.trans hc
    rfl
  · intro u h hblank
    obtain ⟨hscheme, hslash, hend⟩ := hnormal _ u h
    have hclient : Client.ofBaseUrl u = .ok ⟨u⟩ := by
      rw [Client.ofBaseUrl, (Load.BaseUrl.normalize_eq_self_iff hscheme hslash).2 (hend.2 hblank)]
      rfl
    refine ⟨hclient, ?_⟩
    rintro σ stage o plan j site rfl rfl hprepare
    obtain ⟨hresolve, hclient'⟩ := RunOrder.address_of_prepare hprepare
    obtain rfl : u = plan.baseUrl := Except.ok.inj (h.symm.trans hresolve)
    have hj : (⟨plan.baseUrl⟩ : Client) = j.client := Except.ok.inj (hclient.symm.trans hclient')
    obtain ⟨summary, written, hsummary, houtput⟩ := Stage.output_run hprepare site
    exact ⟨rfl, hj.symm, summary, written, by rw [hsummary, ← hj], houtput⟩

/-- A run of one iteration on the service that the environment names. -/
def singleRun : RunOrder where
  target := ⟨none, .ofSeconds 10⟩
  workload := ⟨1000, "Password1!", "t", "b"⟩
  users := 1
  duration := none
  iterations := some 1
  pace := .ofSeconds 1
  minRate := none
  summaryFile := none

/-- A service that the environment names with blanks and slashes around. -/
def surrounded : Stage Unit where
  environment := some " http://127.0.0.1:9// "
  target := ⟨fun _ s => (.error .dropped, s)⟩
  storage := ⟨[], []⟩

theorem surrounded_address_is_used :
    ¬BlankBeforeSlashes " http://127.0.0.1:9// " ∧
    normalize " http://127.0.0.1:9// " = .ok "http://127.0.0.1:9" ∧
    normalize "http://127.0.0.1:9" = .ok "http://127.0.0.1:9" ∧
    ∃ plan j, singleRun.prepare surrounded.environment = .ok (plan, j) ∧
      plan.baseUrl = "http://127.0.0.1:9" ∧ j.client = ⟨"http://127.0.0.1:9"⟩ := by
  have hgiven : normalize " http://127.0.0.1:9// " = .ok "http://127.0.0.1:9" := by decide +kernel
  have hends : EndsPlain "http://127.0.0.1:9".toList := by
    have hlast : "http://127.0.0.1:9".toList.getLast? = some '9' := by decide +kernel
    intro c hc
    cases hlast.symm.trans hc
    rfl
  obtain ⟨hnormal, hused⟩ := address_is_normal_unless_blank_before_slashes
    " http://127.0.0.1:9// " none surrounded.environment
  obtain ⟨-, -, -, hend, hkept⟩ := hnormal _ hgiven
  have hplain := hend.1 hends
  obtain ⟨-, hrun⟩ := hused "http://127.0.0.1:9" (by decide +kernel) hplain
  obtain ⟨hplan, hclient, -⟩ := hrun surrounded singleRun _ _ () rfl rfl (by rfl)
  exact ⟨hplain, hgiven, hkept.2 hplain, _, _, by rfl, hplan, hclient⟩

/-- A blank before the slashes stays at the end, and a second time takes it away. -/
theorem bared_blank_stays :
    ¬∀ raw u, normalize raw = .ok u → EndsPlain u.toList ∧ normalize u = .ok u := by
  intro h
  have hkept := (h "http://a /" "http://a " (by decide +kernel)).2
  revert hkept
  decide +kernel

end NotesBench.Command
