import Mathlib.Data.UInt

/-!
# Checksums of eight bits

The bytes go through the division by a polynomial, the high bit first.  The profiles differ in the polynomial, the
value the register starts with and the value the result is masked with.
-/

namespace Crc8

/-- One byte through the register. -/
def crc8Byte (poly crc byte : UInt8) : UInt8 :=
  (List.range 8).foldl (fun c _ => if c &&& 0x80 = 0 then c <<< 1 else (c <<< 1) ^^^ poly) (crc ^^^ byte)

def crc8 (poly init mask : UInt8) (bytes : List UInt8) : UInt8 := bytes.foldl (crc8Byte poly) init ^^^ mask

end Crc8
