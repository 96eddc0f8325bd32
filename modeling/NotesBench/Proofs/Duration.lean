import NotesBench.Duration

/-!
# Which texts are lengths of time

A length of time is a count: digits and then a unit, and nothing else but blanks around them
(`IsCount`). The reader takes exactly the counts whose number and whose seconds fit into 64 bits,
and the length is the one that the count denotes. Any other text is refused for the first reason
that holds of it (`counts_are_read_exactly`).
-/

namespace NotesBench.Duration

open Text (trim bounded? digits? unsignedEnd)

/-! ## Counts -/

/-- The text is written as a number, in digits, and what stands behind the last of them. -/
def IsCount (s : String) (n : Nat) (unit : String) : Prop :=
  ∃ digits, s.toList = digits ++ unit.toList ∧ digits ≠ [] ∧ (∀ c ∈ digits, c.isDigit = true) ∧
    (∀ c ∈ unit.toList.head?, c.isDigit = false) ∧ Nat.ofDigitChars 10 digits 0 = n

/-- The units that are counted in seconds, with the seconds in each. -/
def secondUnits : List (String × Nat) := [("", 1), ("s", 1), ("m", 60), ("h", 3600)]

theorem digits?_eq_some {digits : List Char} (hne : digits ≠ [])
    (hd : ∀ c ∈ digits, c.isDigit = true) :
    digits? digits = some (Nat.ofDigitChars 10 digits 0) := by
  simp [digits?, hne, List.all_eq_true.2 hd]

/-- The digits in front of a count, and what stands behind them. -/
theorem IsCount.cut {s unit : String} {n : Nat} (h : IsCount s n unit) :
    digits? (s.toList.takeWhile Char.isDigit) = some n ∧
      String.ofList (s.toList.dropWhile Char.isDigit) = unit := by
  obtain ⟨digits, hs, hne, hd, hu, rfl⟩ := h
  rw [hs, Text.takeWhile_append_of_head? hd hu, Text.dropWhile_append_of_head? hd hu]
  exact ⟨digits?_eq_some hne hd, String.ofList_toList⟩

theorem IsCount.ne_empty {s unit : String} {n : Nat} (h : IsCount s n unit) : s ≠ "" := by
  rintro rfl
  obtain ⟨digits, hs, hne, -⟩ := h
  cases digits with
  | nil => exact hne rfl
  | cons c digits => cases hs

/-- A text that begins with a digit is a count, whatever its unit. -/
theorem exists_isCount {s : String} {c : Char} (hc : c ∈ s.toList.head?) (hd : c.isDigit = true) :
    ∃ n unit, IsCount s n unit := by
  refine ⟨_, String.ofList (s.toList.dropWhile Char.isDigit), s.toList.takeWhile Char.isDigit, ?_,
    ?_, fun x hx => ?_, ?_, rfl⟩
  · rw [String.toList_ofList, List.takeWhile_append_dropWhile]
  · cases hs : s.toList with
    | nil => simp [hs] at hc
    | cons x rest =>
      obtain rfl : x = c := by simpa [hs] using hc
      simp [hd]
  · exact List.all_eq_true.1 List.all_takeWhile x hx
  · rw [String.toList_ofList]
    exact Text.head?_dropWhile_false

/-! ## Units -/

theorem ofName?_of_mem {unit : String} {each : Nat} (h : (unit, each) ∈ secondUnits) :
    TimeUnit.ofName? unit = some (.seconds each) := by
  simp only [secondUnits, List.mem_cons, Prod.mk.injEq, List.not_mem_nil, or_false] at h
  obtain ⟨rfl, rfl⟩ | ⟨rfl, rfl⟩ | ⟨rfl, rfl⟩ | ⟨rfl, rfl⟩ := h <;> rfl

theorem ofName?_of_not_mem {unit : String} (hms : unit ≠ "ms")
    (h : unit ∉ secondUnits.map (·.1)) : TimeUnit.ofName? unit = none := by
  simp only [secondUnits, List.map_cons, List.map_nil, List.mem_cons, List.not_mem_nil, or_false,
    not_or] at h
  simp [TimeUnit.ofName?, hms, h]

/-! ## Reading -/

/-- The rules by which a text without blanks at its ends is read. -/
inductive Ruled (s : String) : Except ReadError Duration → Prop where
  | empty : s = "" → Ruled s (.error .empty)
  | noDigits : s ≠ "" → (∀ c ∈ s.toList.head?, c.isDigit = false) → Ruled s (.error (.noNumber s))
  | largeNumber {n : Nat} {unit : String} :
    IsCount s n unit → unsignedEnd ≤ n → Ruled s (.error (.noNumber s))
  | unknownUnit {n : Nat} {unit : String} :
    IsCount s n unit → n < unsignedEnd → unit ≠ "ms" → unit ∉ secondUnits.map (·.1) →
      Ruled s (.error (.unknownUnit unit))
  | tooLarge {n each : Nat} {unit : String} :
    IsCount s n unit → n < unsignedEnd → (unit, each) ∈ secondUnits → unsignedEnd ≤ n * each →
      Ruled s (.error (.tooLarge s))
  | millis {n : Nat} : IsCount s n "ms" → n < unsignedEnd → Ruled s (.ok (ofMillis n))
  | seconds {n each : Nat} {unit : String} :
    IsCount s n unit → n < unsignedEnd → (unit, each) ∈ secondUnits → n * each < unsignedEnd →
      Ruled s (.ok (ofSeconds (n * each)))

/-- A rule applies to every text. -/
theorem exists_ruled (s : String) : ∃ r, Ruled s r := by
  by_cases hempty : s = ""
  · exact ⟨_, .empty hempty⟩
  by_cases hdigit : ∃ c ∈ s.toList.head?, c.isDigit = true
  · obtain ⟨c, hc, hd⟩ := hdigit
    obtain ⟨n, unit, h⟩ := exists_isCount hc hd
    by_cases hn : n < unsignedEnd
    · by_cases hms : unit = "ms"
      · exact ⟨_, .millis (hms ▸ h) hn⟩
      by_cases hunit : unit ∈ secondUnits.map (·.1)
      · obtain ⟨⟨_, each⟩, hmem, rfl⟩ := List.mem_map.1 hunit
        rcases Nat.lt_or_ge (n * each) unsignedEnd with hfit | hlarge
        · exact ⟨_, .seconds h hn hmem hfit⟩
        · exact ⟨_, .tooLarge h hn hmem hlarge⟩
      · exact ⟨_, .unknownUnit h hn hms hunit⟩
    · exact ⟨_, .largeNumber h (Nat.le_of_not_lt hn)⟩
  · refine ⟨_, .noDigits hempty fun c hc => ?_⟩
    exact Bool.eq_false_iff.2 fun hd => hdigit ⟨c, hc, hd⟩

/-- Of a count within 64 bits the unit decides. -/
theorem read_of_isCount {raw unit : String} {n : Nat} (h : IsCount (trim raw) n unit)
    (hn : n < unsignedEnd) :
    read raw =
      match TimeUnit.ofName? unit with
      | none => .error (.unknownUnit unit)
      | some .millis => .ok (ofMillis n)
      | some (.seconds each) =>
        if n * each < unsignedEnd then .ok (ofSeconds (n * each))
        else .error (.tooLarge (trim raw)) := by
  obtain ⟨hnumber, hunit⟩ := h.cut
  simp only [read, if_neg h.ne_empty, bounded?, hnumber, hunit, Option.filter_some,
    if_pos (decide_eq_true hn)]
  cases TimeUnit.ofName? unit with
  | none => rfl
  | some u =>
    cases u with
    | millis => rfl
    | seconds each =>
      dsimp only
      split <;> rfl

theorem read_of_ruled {raw : String} {r : Except ReadError Duration} (h : Ruled (trim raw) r) :
    read raw = r := by
  cases h with
  | empty hempty =>
    simp only [read, hempty]
    rfl
  | noDigits hne hhead =>
    have hnone : (trim raw).toList.takeWhile Char.isDigit = [] := by
      cases hs : (trim raw).toList with
      | nil => rfl
      | cons c rest => simp [hhead c (by simp [hs])]
    simp only [read, if_neg hne, hnone]
    rfl
  | largeNumber h hn =>
    simp only [read, if_neg h.ne_empty, bounded?, h.cut.1, Option.filter_some,
      decide_eq_false (Nat.not_lt.2 hn), Bool.false_eq_true, if_false]
    rfl
  | unknownUnit h hn hms hunit => rw [read_of_isCount h hn, ofName?_of_not_mem hms hunit]
  | tooLarge h hn hunit hlarge =>
    rw [read_of_isCount h hn, ofName?_of_mem hunit]
    exact if_neg (Nat.not_lt.2 hlarge)
  | millis h hn => rw [read_of_isCount h hn]; rfl
  | seconds h hn hunit hfit =>
    rw [read_of_isCount h hn, ofName?_of_mem hunit]
    exact if_pos hfit

theorem read_eq_iff {raw : String} {r : Except ReadError Duration} :
    read raw = r ↔ Ruled (trim raw) r := by
  refine ⟨?_, read_of_ruled⟩
  rintro rfl
  obtain ⟨r, h⟩ := exists_ruled (trim raw)
  rwa [read_of_ruled h]

/-- What is read lies within the seconds that 64 bits count. -/
theorem nanos_le_of_ruled {s : String} {d : Duration} (h : Ruled s (.ok d)) :
    d.nanos ≤ longest.nanos := by
  cases h with
  | millis h hn =>
    change _ * 1_000_000 ≤ unsignedEnd * 1_000_000_000 - 1
    omega
  | seconds h hn hunit hfit =>
    change _ * 1_000_000_000 ≤ unsignedEnd * 1_000_000_000 - 1
    omega

/-- Without the blanks at its ends, a text that is read is a number within 64 bits and a unit:
either milliseconds, or one whose seconds, all taken together, are within 64 bits as well. The
length has exactly these milliseconds or seconds. Any other text is refused: if it is empty as such;
otherwise if there are no digits in front, or too large a number, for its number; otherwise if the
rest of it is no unit, for this; and otherwise as too large. -/
theorem counts_are_read_exactly (raw : String) :
    (∀ d, read raw = .ok d ↔ ∃ n unit, IsCount (trim raw) n unit ∧ n < unsignedEnd ∧
      (unit = "ms" ∧ d.nanos = n * 1_000_000 ∨
        ∃ each, (unit, each) ∈ secondUnits ∧ n * each < unsignedEnd ∧
          d.nanos = n * each * 1_000_000_000)) ∧
    (∀ d, read raw = .ok d → d.nanos ≤ longest.nanos) ∧
    (read raw = .error .empty ↔ trim raw = "") ∧
    (∀ s, read raw = .error (.noNumber s) ↔ s = trim raw ∧ s ≠ "" ∧
      ((∀ c ∈ s.toList.head?, c.isDigit = false) ∨
        ∃ n unit, IsCount s n unit ∧ unsignedEnd ≤ n)) ∧
    (∀ unit, read raw = .error (.unknownUnit unit) ↔
      unit ≠ "ms" ∧ unit ∉ secondUnits.map (·.1) ∧
        ∃ n, IsCount (trim raw) n unit ∧ n < unsignedEnd) ∧
    (∀ s, read raw = .error (.tooLarge s) ↔ s = trim raw ∧
      ∃ n unit each, IsCount s n unit ∧ n < unsignedEnd ∧ (unit, each) ∈ secondUnits ∧
        unsignedEnd ≤ n * each) := by
  simp only [read_eq_iff]
  refine ⟨fun d => ⟨fun h => ?_, ?_⟩, fun d => nanos_le_of_ruled, ⟨fun h => ?_, .empty⟩,
    fun s => ⟨fun h => ?_, ?_⟩, fun unit => ⟨fun h => ?_, ?_⟩, fun s => ⟨fun h => ?_, ?_⟩⟩
  · cases h with
    | millis h hn => exact ⟨_, _, h, hn, .inl ⟨rfl, rfl⟩⟩
    | seconds h hn hunit hfit => exact ⟨_, _, h, hn, .inr ⟨_, hunit, hfit, rfl⟩⟩
  · obtain ⟨nanos⟩ := d
    rintro ⟨n, unit, h, hn, ⟨rfl, rfl⟩ | ⟨each, hunit, hfit, rfl⟩⟩
    · exact .millis h hn
    · exact .seconds h hn hunit hfit
  · cases h with
    | empty h => exact h
  · cases h with
    | noDigits hne hhead => exact ⟨rfl, hne, .inl hhead⟩
    | largeNumber h hn => exact ⟨rfl, h.ne_empty, .inr ⟨_, _, h, hn⟩⟩
  · rintro ⟨rfl, hne, hhead | ⟨n, unit, h, hn⟩⟩
    · exact .noDigits hne hhead
    · exact .largeNumber h hn
  · cases h with
    | unknownUnit h hn hms hunit => exact ⟨hms, hunit, _, h, hn⟩
  · rintro ⟨hms, hunit, n, h, hn⟩
    exact .unknownUnit h hn hms hunit
  · cases h with
    | tooLarge h hn hunit hlarge => exact ⟨rfl, _, _, _, h, hn, hunit, hlarge⟩
  · rintro ⟨rfl, n, unit, each, h, hn, hunit, hlarge⟩
    exact .tooLarge h hn hunit hlarge

end NotesBench.Duration
