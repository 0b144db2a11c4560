import Mathlib.Data.UInt

/-!
# Checksums of 24 bits

The bytes go through the division by a polynomial of degree 24, the high bit first.
-/

namespace Crc24

/-- One byte through the register. -/
def crc24Byte (poly crc : UInt32) (byte : UInt8) : UInt32 :=
  (List.range 8).foldl (fun c _ => if c &&& 0x800000 = 0 then c <<< 1 else (c <<< 1) ^^^ poly)
    (crc ^^^ (byte.toUInt32 <<< 16))

def crc24 (poly init : UInt32) (bytes : List UInt8) : UInt32 := bytes.foldl (crc24Byte poly) init &&& 0xFFFFFF

theorem crc24_lt (poly init : UInt32) (bytes : List UInt8) : (crc24 poly init bytes).toNat < 2 ^ 24 := by
  have hand : (crc24 poly init bytes).toNat ≤ (0xFFFFFF : UInt32).toNat := by
    rw [crc24, UInt32.toNat_and]
    exact Nat.and_le_right
  exact Nat.lt_of_le_of_lt hand (by decide)

end Crc24
