import NotesBench.Load.Target
import NotesBench.Proofs.Load.Course

/-!
# Several dialogues with one target

At a gathering several dialogues are held with one target, and a schedule says whose turn it is: a
turn records one result or asks the target once. Every order of the requests is the order of some
schedule.

Whoever asks changes the target for all, so what one dialogue relies on must survive what the others
do. A `Custom` is a relation of states that everyone keeps to, and `Custom.Sure` says that a
dialogue comes to its end with certain records, provided that the others keep to the custom
meanwhile. Some dialogues need something that runs out; each of them holds a ticket for it as long
as it needs it. When all dialogues of a gathering are sure, and there is room for their tickets,
then they stay so on every schedule (`InHand.hold`).
-/

namespace NotesBench.Load

open Dialogue

variable {α σ : Type}

/-! ## Turns -/

/-- A dialogue under way: what has happened in it, and what is still to come. -/
structure Talk (α : Type) where
  events : List Event := []
  rest : Dialogue α

/-- One turn of a talk. A talk that has come to its end stays as it is. -/
def Talk.turn (t : Target σ) (k : Talk α) (s : σ) : Talk α × σ :=
  match k.rest with
  | .done _ => (k, s)
  | .record r next => (⟨k.events ++ [.recorded r], next⟩, s)
  | .ask out next =>
    (⟨k.events ++ [.asked out (t.respond out s).1], next (t.respond out s).1⟩, (t.respond out s).2)

/-- Whether a talk has come to its end. -/
def Talk.IsOver (k : Talk α) : Prop := ∃ a, k.rest = .done a

/-- Talks and the state of their target. -/
structure Gathering (σ α : Type) where
  talks : List (Talk α)
  site : σ

namespace Gathering

/-- The dialogues before their first turn. -/
def start (dialogues : List (Dialogue α)) (site : σ) : Gathering σ α where
  talks := dialogues.map fun d => { rest := d }
  site := site

/-- The talk at a place takes a turn. -/
def turn (t : Target σ) (g : Gathering σ α) (i : Nat) : Gathering σ α :=
  match g.talks[i]? with
  | none => g
  | some k => ⟨g.talks.set i (k.turn t g.site).1, (k.turn t g.site).2⟩

/-- The talks take turns in the order of a schedule. -/
def hold (t : Target σ) (g : Gathering σ α) (schedule : List Nat) : Gathering σ α :=
  schedule.foldl (turn t) g

variable {t : Target σ} {g : Gathering σ α} {i j : Nat} {k : Talk α}

theorem talk_start {dialogues : List (Dialogue α)} {d : Dialogue α} (h : dialogues[i]? = some d)
    (site : σ) : (start dialogues site).talks[i]? = some { rest := d } := by
  simp [start, h]

theorem turn_of_some (h : g.talks[i]? = some k) :
    g.turn t i = ⟨g.talks.set i (k.turn t g.site).1, (k.turn t g.site).2⟩ := by
  simp only [turn, h]

theorem turn_of_none (h : g.talks[i]? = none) : g.turn t i = g := by
  simp only [turn, h]

theorem talk_turn_self (h : g.talks[i]? = some k) :
    (g.turn t i).talks[i]? = some (k.turn t g.site).1 := by
  have hlt : i < g.talks.length := (List.getElem?_eq_some_iff.1 h).1
  rw [turn_of_some h]
  simp [hlt]

theorem talk_turn_ne (h : i ≠ j) : (g.turn t i).talks[j]? = g.talks[j]? := by
  unfold turn
  split
  · rfl
  · simp [h]

/-- A turn takes a talk one event further, unless it has come to its end. -/
theorem turn_cases (t : Target σ) (k : Talk α) (s : σ) :
    (k.IsOver ∧ k.turn t s = (k, s)) ∨ ∃ e, (k.turn t s).1.events = k.events ++ [e] ∧
      Reaches k.rest [e] (k.turn t s).1.rest := by
  obtain ⟨events, rest⟩ := k
  cases rest with
  | done a => exact .inl ⟨⟨a, rfl⟩, rfl⟩
  | record r next => exact .inr ⟨_, rfl, .record (.refl _)⟩
  | ask out next => exact .inr ⟨_, rfl, .ask _ (.refl _)⟩

/-- On a schedule each talk follows its dialogue, one event for each turn until its end. -/
theorem exists_talk_hold (h : g.talks[i]? = some k) (schedule : List Nat) :
    ∃ k' more, (g.hold t schedule).talks[i]? = some k' ∧ k'.events = k.events ++ more ∧
      Reaches k.rest more k'.rest ∧ (more.length = schedule.count i ∨ k'.IsOver) := by
  induction schedule generalizing g k with
  | nil => exact ⟨k, [], h, by simp, .refl _, .inl rfl⟩
  | cons j schedule ih =>
    by_cases hj : j = i
    · subst hj
      have hself := talk_turn_self (t := t) h
      obtain ⟨k', more, hk, he, hr, hl⟩ := ih hself
      rcases turn_cases t k g.site with ⟨⟨a, ha⟩, hsame⟩ | ⟨e, hevent, hreach⟩
      · rw [hsame] at he hr
        refine ⟨k', more, hk, he, hr, .inr ⟨a, ?_⟩⟩
        rw [ha] at hr
        exact (reaches_done hr).2
      · refine ⟨k', e :: more, hk, by simp [he, hevent], hreach.trans hr, ?_⟩
        exact hl.imp_left fun hl => by simp [hl]
    · obtain ⟨k', more, hk, he, hr, hl⟩ := ih (g := g.turn t j) ((talk_turn_ne hj).trans h)
      exact ⟨k', more, hk, he, hr, by rwa [List.count_cons_of_ne (by simpa using hj)]⟩

end Gathering

/-! ## Customs -/

/-- A relation of states that everyone keeps to, and something that there is only so much of. -/
structure Custom (σ : Type) where
  keeps : σ → σ → Prop
  refl : ∀ s, keeps s s
  trans : ∀ {s₁ s₂ s₃}, keeps s₁ s₂ → keeps s₂ s₃ → keeps s₁ s₃
  used : σ → Nat
  room : Nat

namespace Custom

variable (c : Custom σ) (t : Target σ)

/-- A dialogue comes to its end with the records and the value, whatever the others do before each
of its requests. It keeps to the custom itself, and uses more only if it holds a ticket. -/
def Sure : Dialogue α → Bool → List Record → α → σ → Prop
  | .done b, _, records, a, _ => records = [] ∧ b = a
  | .record r next, ticket, records, a, s =>
    ∃ rest, records = r :: rest ∧ Sure next ticket rest a s
  | .ask out next, ticket, records, a, s =>
    ∀ s', c.keeps s s' → (ticket = true → c.used s' < c.room) →
      c.keeps s' (t.respond out s').2 ∧ ∃ kept : Bool,
        c.used (t.respond out s').2 + kept.toNat ≤ c.used s' + ticket.toNat ∧
        Sure (next (t.respond out s').1) kept records a (t.respond out s').2

variable {c t} {d : Dialogue α} {ticket : Bool} {rs : List Record} {a : α} {s s' : σ}

/-- What the others do leaves a dialogue sure. -/
theorem Sure.stable (h : c.Sure t d ticket rs a s) (hk : c.keeps s s') :
    c.Sure t d ticket rs a s' := by
  induction d generalizing ticket rs with
  | done b => exact h
  | record r next ih =>
    obtain ⟨rest, he, h⟩ := h
    exact ⟨rest, he, ih h⟩
  | ask out next ih => exact fun s'' hk' => h s'' (c.trans hk hk')

theorem sure_records {f : Unit → Dialogue α} {before after : List Record}
    (h : c.Sure t (f ()) ticket after a s) :
    c.Sure t (records before >>= f) ticket (before ++ after) a s := by
  induction before with
  | nil => exact h
  | cons r before ih => exact ⟨_, rfl, ih⟩

end Custom

/-! ## All talks -/

/-- Every talk of a gathering is sure to end with the value and with all records that are wanted of
it, and there is room for the tickets that are held. -/
structure Gathering.InHand (c : Custom σ) (t : Target σ) (wanted : List Record) (a : α)
    (g : Gathering σ α) (tickets : List Bool) : Prop where
  sure : ∀ {i : Nat} {k : Talk α}, g.talks[i]? = some k → ∃ ticket rs, tickets[i]? = some ticket ∧
    recordsOf k.events ++ rs = wanted ∧ c.Sure t k.rest ticket rs a g.site
  room : c.used g.site + tickets.countP id ≤ c.room

namespace Gathering.InHand

variable {c : Custom σ} {t : Target σ} {wanted : List Record} {a : α} {g : Gathering σ α}
  {tickets : List Bool}

/-- The turn of a talk that is sure: it stays sure, and keeps to the custom. -/
theorem sure_turn {k : Talk α} {s : σ} {ticket : Bool} {rs : List Record}
    (h : c.Sure t k.rest ticket rs a s) (hw : recordsOf k.events ++ rs = wanted)
    (hroom : ticket = true → c.used s < c.room) :
    c.keeps s (k.turn t s).2 ∧ ∃ kept : Bool, ∃ rs',
      c.used (k.turn t s).2 + kept.toNat ≤ c.used s + ticket.toNat ∧
      recordsOf (k.turn t s).1.events ++ rs' = wanted ∧
      c.Sure t (k.turn t s).1.rest kept rs' a (k.turn t s).2 := by
  obtain ⟨events, rest⟩ := k
  cases rest with
  | done b => exact ⟨c.refl s, ticket, rs, Nat.le_refl _, hw, h⟩
  | record r next =>
    obtain ⟨rest, rfl, h⟩ := h
    exact ⟨c.refl s, ticket, rest, Nat.le_refl _, by simpa [Talk.turn, recordsOf] using hw, h⟩
  | ask out next =>
    obtain ⟨hk, kept, hused, h⟩ := h s (c.refl s) hroom
    exact ⟨hk, kept, rs, hused, by simpa [Talk.turn, recordsOf] using hw, h⟩

/-- One more ticket or one less, by the place that it is at. -/
theorem countP_set_tickets {tickets : List Bool} {i : Nat} {ticket : Bool}
    (h : tickets[i]? = some ticket) (kept : Bool) :
    (tickets.set i kept).countP id + ticket.toNat = tickets.countP id + kept.toNat := by
  obtain ⟨hlt, he⟩ := List.getElem?_eq_some_iff.1 h
  have hpos : ticket = true → 0 < tickets.countP id := fun ht =>
    List.countP_pos_iff.2 ⟨ticket, he ▸ List.getElem_mem hlt, ht⟩
  rw [List.countP_set hlt, he]
  cases ticket with
  | false => cases kept <;> simp
  | true =>
    have := hpos rfl
    cases kept <;> simp <;> omega

theorem turn (h : InHand c t wanted a g tickets) (i : Nat) :
    ∃ tickets', InHand c t wanted a (g.turn t i) tickets' := by
  cases hk : g.talks[i]? with
  | none => exact ⟨tickets, by rwa [turn_of_none hk]⟩
  | some k =>
    obtain ⟨ticket, rs, hticket, hw, hs⟩ := h.sure hk
    have hcount := countP_set_tickets hticket
    have hroom : ticket = true → c.used g.site < c.room := by
      rintro rfl
      have hless := hcount false
      rw [Bool.toNat_true, Bool.toNat_false] at hless
      have := h.room
      omega
    obtain ⟨hkeeps, kept, rs', hused, hw', hs'⟩ := sure_turn hs hw hroom
    have hlt : i < tickets.length := (List.getElem?_eq_some_iff.1 hticket).1
    refine ⟨tickets.set i kept, ?_, ?_⟩
    · intro j k' hk'
      by_cases hj : i = j
      · subst hj
        obtain rfl := Option.some.inj ((talk_turn_self hk).symm.trans hk')
        exact ⟨kept, rs', by simp [hlt], hw', by rwa [turn_of_some hk]⟩
      · obtain ⟨ticket', rs'', ht, hw'', hs''⟩ := h.sure ((talk_turn_ne hj).symm.trans hk')
        refine ⟨ticket', rs'', by simp [hj, ht], hw'', ?_⟩
        rw [turn_of_some hk]
        exact hs''.stable hkeeps
    · have := hcount kept
      have := h.room
      rw [turn_of_some hk]
      dsimp only
      omega

/-- Dialogues that are sure stay so on every schedule. -/
theorem hold (h : InHand c t wanted a g tickets) (schedule : List Nat) :
    ∃ tickets', InHand c t wanted a (g.hold t schedule) tickets' := by
  induction schedule generalizing g tickets with
  | nil => exact ⟨tickets, h⟩
  | cons i schedule ih =>
    obtain ⟨tickets', h'⟩ := h.turn i
    exact ih h'

/-- A talk that is over has ended with the value, and its records are those that are wanted. -/
theorem records_of_done (h : InHand c t wanted a g tickets) {i : Nat} {k : Talk α} {b : α}
    (hk : g.talks[i]? = some k) (hb : k.rest = .done b) : b = a ∧ recordsOf k.events = wanted := by
  obtain ⟨ticket, rs, -, hw, hs⟩ := h.sure hk
  rw [hb] at hs
  obtain ⟨rfl, rfl⟩ := hs
  exact ⟨rfl, by simpa using hw⟩

/-- Dialogues that are sure, with a ticket each, are in hand when there is room for all of them. -/
theorem start {dialogues : List (Dialogue α)} {s : σ}
    (h : ∀ d ∈ dialogues, c.Sure t d true wanted a s)
    (hroom : c.used s + dialogues.length ≤ c.room) :
    InHand c t wanted a (.start dialogues s) (List.replicate dialogues.length true) where
  sure {i k} hk := by
    simp only [Gathering.start, List.getElem?_map, Option.map_eq_some_iff] at hk
    obtain ⟨d, hd, rfl⟩ := hk
    have hlt : i < dialogues.length := (List.getElem?_eq_some_iff.1 hd).1
    exact ⟨true, wanted, by simp [hlt], rfl, h d (List.mem_of_getElem? hd)⟩
  room := by
    rw [List.countP_replicate]
    simpa [Gathering.start] using hroom

end Gathering.InHand

end NotesBench.Load
