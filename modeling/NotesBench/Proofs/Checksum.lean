import NotesBench.Checksum

/-!
# The checksum is linear

A bit that leaves the register takes the polynomial with it, whatever the other bits are, so the
register moves linearly (`shift_xor`). Two texts of one length behind a common beginning then have
the same checksum exactly if they have the same one without it (`crc32_append_eq_iff`): the
beginning changes what the register holds when they start, and moves both results by the same
amount.
-/

namespace NotesBench.Checksum

open Text (Octets)

theorem shift_xor (a b : BitVec 32) : shift (a ^^^ b) = shift a ^^^ shift b := by
  unfold shift
  rw [BitVec.getLsbD_xor, BitVec.ushiftRight_xor_distrib]
  generalize a >>> 1 = x
  generalize b >>> 1 = y
  cases a.getLsbD 0 with
  | false =>
    cases b.getLsbD 0 with
    | false => rfl
    | true =>
      show x ^^^ y ^^^ polynomial = x ^^^ (y ^^^ polynomial)
      exact BitVec.xor_assoc x y polynomial
  | true =>
    cases b.getLsbD 0 with
    | false =>
      show x ^^^ y ^^^ polynomial = x ^^^ polynomial ^^^ y
      ac_rfl
    | true =>
      -- The polynomial is added twice, and so not at all.
      show x ^^^ y = x ^^^ polynomial ^^^ (y ^^^ polynomial)
      have hp : polynomial ^^^ polynomial = 0#32 := BitVec.xor_self
      calc x ^^^ y
        _ = x ^^^ y ^^^ (polynomial ^^^ polynomial) := by rw [hp, BitVec.xor_zero]
        _ = x ^^^ polynomial ^^^ (y ^^^ polynomial) := by ac_rfl

theorem repeat_shift_xor (n : Nat) (a b : BitVec 32) :
    Nat.repeat shift n (a ^^^ b) = Nat.repeat shift n a ^^^ Nat.repeat shift n b := by
  induction n with
  | zero => rfl
  | succ n ih =>
    show shift (Nat.repeat shift n (a ^^^ b)) = _
    rw [ih, shift_xor]
    rfl

/-- What is in the register moves as if a zero came in. -/
theorem absorb_xor (a b : BitVec 32) (octet : UInt8) :
    absorb (a ^^^ b) octet = absorb a octet ^^^ absorb b 0 := by
  unfold absorb
  rw [← repeat_shift_xor]
  congr 1
  show a ^^^ b ^^^ octet.toBitVec.setWidth 32 = a ^^^ octet.toBitVec.setWidth 32 ^^^ (b ^^^ 0#32)
  rw [BitVec.xor_zero]
  ac_rfl

theorem foldl_absorb_xor (bytes : Octets) (a b : BitVec 32) :
    bytes.foldl absorb (a ^^^ b) =
      bytes.foldl absorb a ^^^ (List.replicate bytes.length 0).foldl absorb b := by
  induction bytes generalizing a b with
  | nil => rfl
  | cons octet rest ih =>
    rw [List.foldl_cons, absorb_xor, ih, List.length_cons, List.replicate_succ, List.foldl_cons,
      List.foldl_cons]

/-- Whether texts of one length leave the same in the register does not depend on what it held. -/
theorem foldl_absorb_eq_iff {p q : Octets} (hlen : p.length = q.length) (a b : BitVec 32) :
    p.foldl absorb a = q.foldl absorb a ↔ p.foldl absorb b = q.foldl absorb b := by
  have ha : a = b ^^^ (b ^^^ a) := by
    rw [← BitVec.xor_assoc, BitVec.xor_self, BitVec.zero_xor]
  rw [ha, foldl_absorb_xor p, foldl_absorb_xor q, hlen, BitVec.xor_left_inj]

/-- Behind a common beginning, texts of one length are told apart as they are without it. -/
theorem crc32_append_eq_iff {p q : Octets} (hlen : p.length = q.length) (beginning : Octets) :
    crc32 (beginning ++ p) = crc32 (beginning ++ q) ↔ crc32 p = crc32 q := by
  simp only [crc32, List.foldl_append, BitVec.not_inj]
  exact foldl_absorb_eq_iff hlen _ _

end NotesBench.Checksum
