import NotesBench.Text.Octets
import NotesBench.Text.Numeral

/-!
# The checksum CRC-32

The register is shifted out bit by bit, lowest bit first, and the reversed polynomial is added for
each one that leaves it. The register starts and ends complemented. The checksum marks contents in
validators and stands in for a password digest; it is linear, so it hides nothing.
-/

namespace NotesBench.Checksum

open Text (Octets)

def polynomial : BitVec 32 := 0xEDB88320#32

def shift (r : BitVec 32) : BitVec 32 :=
  if r.getLsbD 0 then (r >>> 1) ^^^ polynomial else r >>> 1

/-- Takes one octet into the register. -/
def absorb (r : BitVec 32) (b : UInt8) : BitVec 32 :=
  Nat.repeat shift 8 (r ^^^ b.toBitVec.setWidth 32)

def crc32 (bytes : Octets) : BitVec 32 :=
  ~~~(bytes.foldl absorb (BitVec.allOnes 32))

def ofText (s : String) : BitVec 32 := crc32 (Text.Utf8.encode s)

/-- A checksum in eight hexadecimal places. -/
def text (sum : BitVec 32) : String := Text.hexText 8 sum.toNat

/-- The standard check value: the sum of the digits one to nine. -/
example : crc32 [0x31, 0x32, 0x33, 0x34, 0x35, 0x36, 0x37, 0x38, 0x39] = 0xCBF43926#32 := by
  decide +kernel

end NotesBench.Checksum
