import Mathlib.Data.UInt

/-!
# Words as bytes

A word is stored low byte first.  Splitting a word and joining its bytes are inverse to each other.
-/

namespace LittleEndian

/-- The low byte. -/
def lo (x : UInt16) : UInt8 := x.toUInt8

/-- The high byte. -/
def hi (x : UInt16) : UInt8 := (x >>> 8).toUInt8

/-- The word with the given low and high byte. -/
def join (l h : UInt8) : UInt16 := l.toUInt16 + h.toUInt16 * 256

/-- The 24-bit word with the given bytes, the low one first. -/
def join24 (a b c : UInt8) : UInt32 := a.toUInt32 + b.toUInt32 * 256 + c.toUInt32 * 65536

/-- The word of four bytes. -/
def join32 (a b c d : UInt8) : UInt32 := (join a b).toUInt32 + (join c d).toUInt32 * 65536

@[simp] theorem join_lo_hi (x : UInt16) : join (lo x) (hi x) = x := by
  apply UInt16.toNat_inj.1
  have := x.toNat_lt
  simp [join, lo, hi, UInt16.toNat_add, UInt16.toNat_mul, Nat.shiftRight_eq_div_pow]
  omega

theorem toNat_join (l h : UInt8) : (join l h).toNat = l.toNat + 256 * h.toNat := by
  have := l.toNat_lt
  have := h.toNat_lt
  simp [join, UInt16.toNat_add, UInt16.toNat_mul]
  omega

theorem toNat_join24 (a b c : UInt8) : (join24 a b c).toNat = a.toNat + 256 * b.toNat + 65536 * c.toNat := by
  have := a.toNat_lt
  have := b.toNat_lt
  have := c.toNat_lt
  simp [join24, UInt32.toNat_add, UInt32.toNat_mul]
  omega

@[simp] theorem join24_byte0 (a b c : UInt8) : (join24 a b c).toUInt8 = a := by
  have := a.toNat_lt
  apply UInt8.toNat_inj.1
  rw [UInt32.toNat_toUInt8, toNat_join24]
  omega

@[simp] theorem join24_byte1 (a b c : UInt8) : (join24 a b c >>> 8).toUInt8 = b := by
  have := a.toNat_lt
  have := b.toNat_lt
  apply UInt8.toNat_inj.1
  rw [UInt32.toNat_toUInt8, UInt32.toNat_shiftRight, toNat_join24, Nat.shiftRight_eq_div_pow]
  simp
  omega

@[simp] theorem join24_byte2 (a b c : UInt8) : (join24 a b c >>> 16).toUInt8 = c := by
  have := a.toNat_lt
  have := b.toNat_lt
  have := c.toNat_lt
  apply UInt8.toNat_inj.1
  rw [UInt32.toNat_toUInt8, UInt32.toNat_shiftRight, toNat_join24, Nat.shiftRight_eq_div_pow]
  simp
  omega

theorem join24_bytes {w : UInt32} (h : w.toNat < 2 ^ 24) :
    join24 w.toUInt8 (w >>> 8).toUInt8 (w >>> 16).toUInt8 = w := by
  apply UInt32.toNat_inj.1
  rw [toNat_join24, UInt32.toNat_toUInt8, UInt32.toNat_toUInt8, UInt32.toNat_toUInt8, UInt32.toNat_shiftRight,
    UInt32.toNat_shiftRight, Nat.shiftRight_eq_div_pow, Nat.shiftRight_eq_div_pow]
  simp
  omega

@[simp] theorem lo_join (l h : UInt8) : lo (join l h) = l := by
  apply UInt8.toNat_inj.1
  have := toNat_join l h
  have := l.toNat_lt
  simp [lo] at *
  omega

@[simp] theorem hi_join (l h : UInt8) : hi (join l h) = h := by
  apply UInt8.toNat_inj.1
  have := toNat_join l h
  have := l.toNat_lt
  have := h.toNat_lt
  simp [hi, Nat.shiftRight_eq_div_pow] at *
  omega

theorem lo_xor (x y : UInt16) : lo (x ^^^ y) = lo x ^^^ lo y := UInt16.toUInt8_xor x y

theorem hi_xor (x y : UInt16) : hi (x ^^^ y) = hi x ^^^ hi y := by
  rw [hi, UInt16.shiftRight_xor, UInt16.toUInt8_xor]
  rfl

/-! ### Words of any number of bytes -/

/-- The number with the given bytes. -/
def wordOf : List UInt8 → Nat
  | [] => 0
  | b :: bs => b.toNat + 256 * wordOf bs

/-- The lowest `n` bytes of a number. -/
def bytesOf : Nat → Nat → List UInt8
  | 0, _ => []
  | n + 1, w => UInt8.ofNat w :: bytesOf n (w / 256)

theorem wordOf_lt (bs : List UInt8) : wordOf bs < 256 ^ bs.length := by
  induction bs with
  | nil => decide
  | cons b bs ih =>
    have := b.toNat_lt
    rw [wordOf, List.length_cons, Nat.pow_succ]
    omega

@[simp] theorem length_bytesOf (n w : Nat) : (bytesOf n w).length = n := by
  induction n generalizing w with
  | zero => rfl
  | succ n ih => rw [bytesOf, List.length_cons, ih]

theorem bytesOf_wordOf (bs : List UInt8) : bytesOf bs.length (wordOf bs) = bs := by
  induction bs with
  | nil => rfl
  | cons b bs ih =>
    have hlt := b.toNat_lt
    have hlow : UInt8.ofNat (b.toNat + 256 * wordOf bs) = b := by
      apply UInt8.toNat_inj.1
      rw [UInt8.toNat_ofNat']
      omega
    have hrest : (b.toNat + 256 * wordOf bs) / 256 = wordOf bs := by omega
    rw [List.length_cons, wordOf, bytesOf, hlow, hrest, ih]

end LittleEndian
