import NotesBench.Text.Numeral

/-!
# Numerals

The numeral of a number holds digits only, begins with a zero only if it is zero, and is read back
as the number. That of an integer may have a dash before its digits. Different numbers have
different numerals.
-/

namespace NotesBench.Text

theorem isDigit_of_mem_toDigits {n : Nat} {c : Char} (h : c ∈ Nat.toDigits 10 n) :
    c.isDigit = true :=
  Nat.isDigit_of_mem_toDigits (by omega) (by omega) h

theorem toNat_lt_of_isDigit {c : Char} (h : c.isDigit = true) :
    0x30 ≤ c.toNat ∧ c.toNat ≤ 0x39 := by
  simp only [Char.isDigit, Bool.and_eq_true, decide_eq_true_eq] at h
  exact ⟨UInt32.le_iff_toNat_le.1 h.1, UInt32.le_iff_toNat_le.1 h.2⟩

/-- The numeral of a positive number does not begin with a zero. -/
theorem toDigits_eq_cons {n : Nat} (h : 0 < n) :
    ∃ c rest, Nat.toDigits 10 n = c :: rest ∧ c ≠ '0' := by
  induction n using Nat.strongRecOn with
  | ind n ih =>
    rw [Nat.toDigits_eq_if (by omega)]
    split
    · next hlt =>
      refine ⟨n.digitChar, [], rfl, ?_⟩
      have hd : ∀ m : Fin 10, 0 < m.val → m.val.digitChar ≠ '0' := by decide
      exact hd ⟨n, hlt⟩ h
    · obtain ⟨c, rest, hc, hne⟩ := ih (n / 10) (by omega) (by omega)
      exact ⟨c, rest ++ [(n % 10).digitChar], by rw [hc, List.cons_append], hne⟩

theorem toDigits_ne_cons_of_not_isDigit {n : Nat} {c : Char} (h : c.isDigit = false)
    (rest : List Char) : Nat.toDigits 10 n ≠ c :: rest := by
  intro he
  have := isDigit_of_mem_toDigits (n := n) (c := c) (by simp [he])
  rw [h] at this
  cases this

/-- A number within 64 bits is read back from its numeral. -/
theorem signed?_natText {n : Nat} (h : n < signedEnd) :
    signed? (natText n).toList = some (n : Int) := by
  rw [toList_natText]
  unfold signed?
  split
  · next he => exact absurd he (toDigits_ne_cons_of_not_isDigit rfl _)
  · next he => exact absurd he (toDigits_ne_cons_of_not_isDigit rfl _)
  · rw [digits?_toDigits, Option.filter_some, if_pos (decide_eq_true h)]
    rfl

theorem toList_intText_negSucc (n : Nat) :
    (intText (.negSucc n)).toList = '-' :: Nat.toDigits 10 (n + 1) := by
  rw [intText, String.toList_append, toList_natText]
  rfl

/-- The characters of an integer. -/
theorem isDigit_of_mem_intText {n : Int} {c : Char} (h : c ∈ (intText n).toList) :
    c = '-' ∨ c.isDigit = true := by
  cases n with
  | ofNat n =>
    rw [intText, toList_natText] at h
    exact .inr (isDigit_of_mem_toDigits h)
  | negSucc n =>
    rw [toList_intText_negSucc, List.mem_cons] at h
    exact h.imp_right isDigit_of_mem_toDigits

theorem toList_intText_ne_nil (n : Int) : (intText n).toList ≠ [] := by
  cases n with
  | ofNat n =>
    rw [intText, toList_natText]
    exact Nat.toDigits_ne_nil
  | negSucc n =>
    rw [toList_intText_negSucc]
    exact List.cons_ne_nil _ _

/-- An integer within 64 bits is read back from its numeral. -/
theorem signed?_intText {n : Int} (h : -(signedEnd : Int) ≤ n ∧ n < signedEnd) :
    signed? (intText n).toList = some n := by
  cases n with
  | ofNat n => exact signed?_natText (Int.ofNat_lt.1 h.2)
  | negSucc n =>
    have hn : n + 1 ≤ signedEnd := by omega
    simp only [toList_intText_negSucc, signed?, digits?_toDigits, Option.filter_some,
      if_pos (decide_eq_true hn)]
    rfl

theorem natText_injective {m n : Nat} (h : natText m = natText n) : m = n := by
  have hd := congrArg (fun s => digits? s.toList) h
  simpa [digits?_toDigits] using hd

theorem dash_not_mem_toDigits (n : Nat) : '-' ∉ Nat.toDigits 10 n := fun h =>
  absurd (isDigit_of_mem_toDigits h) (by decide)

theorem intText_injective {m n : Int} (h : intText m = intText n) : m = n := by
  have hl := congrArg String.toList h
  cases m with
  | ofNat m =>
    cases n with
    | ofNat n => rw [natText_injective h]
    | negSucc n =>
      simp only [intText, String.toList_append, toList_natText] at hl
      exact absurd hl (toDigits_ne_cons_of_not_isDigit rfl _)
  | negSucc m =>
    cases n with
    | ofNat n =>
      simp only [intText, String.toList_append, toList_natText] at hl
      exact absurd hl.symm (toDigits_ne_cons_of_not_isDigit rfl _)
    | negSucc n =>
      simp only [intText, String.toList_append, toList_natText, List.append_cancel_left_eq] at hl
      have hsucc : m + 1 = n + 1 := natText_injective (String.toList_inj.1 (by simpa using hl))
      rw [Nat.succ.inj hsucc]

/-- What stands before the last dash, and what stands after it. -/
theorem append_dash_inj {x x' y y' : List Char} (hy : '-' ∉ y) (hy' : '-' ∉ y')
    (h : x ++ ['-'] ++ y = x' ++ ['-'] ++ y') : x = x' ∧ y = y' := by
  rw [List.append_assoc, List.append_assoc] at h
  rcases List.append_eq_append_iff.1 h with ⟨rest, rfl, hr⟩ | ⟨rest, rfl, hr⟩
  · cases rest with
    | nil => simp_all
    | cons c rest =>
      obtain ⟨-, rfl⟩ := List.cons.inj hr
      simp at hy
  · cases rest with
    | nil => simp_all
    | cons c rest =>
      obtain ⟨-, rfl⟩ := List.cons.inj hr
      simp at hy'

end NotesBench.Text
