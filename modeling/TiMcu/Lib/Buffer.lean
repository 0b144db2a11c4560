import Mathlib.Data.List.GetD
import TiMcu.Lib.NorFlash

/-!
# Buffers in RAM

A buffer is a memory of bytes without an end: what stands behind the declared size of an array is there as well.  A
store changes one byte, and a copy the first bytes.  The reading side is that of `NorFlash`.
-/

namespace Buffer

open NorFlash

/-- One byte is stored. -/
def store (f : Mem) (i : Nat) (b : UInt8) : Mem := fun x => if x = i then b else f x

/-- The first `n` bytes are copied from another buffer. -/
def copy (f src : Mem) (n : Nat) : Mem := fun x => if x < n then src x else f x

/-- Bytes are stored from an index on. -/
def write (f : Mem) (i : Nat) (bs : List UInt8) : Mem := fun x =>
  if i ≤ x ∧ x < i + bs.length then bs.getD (x - i) 0 else f x

/-- A buffer that holds the bytes, and zeros behind them. -/
def ofBytes (bs : List UInt8) : Mem := fun x => bs.getD x 0

@[simp] theorem store_self (f : Mem) (i : Nat) (b : UInt8) : store f i b i = b := by
  simp [store]

theorem store_of_ne {f : Mem} {i x : Nat} (b : UInt8) (h : x ≠ i) : store f i b x = f x := by
  simp [store, h]

theorem bytesAt_one (f : Mem) (a : Nat) : bytesAt f a 1 = [f a] := rfl

/-- Loading one byte more. -/
theorem bytesAt_store (f : Mem) (n : Nat) (b : UInt8) : bytesAt (store f n b) 0 (n + 1) = bytesAt f 0 n ++ [b] := by
  rw [bytesAt_add, Nat.zero_add, bytesAt_one, store_self]
  congr 1
  apply bytesAt_congr
  intro x _ hx
  exact store_of_ne b (by omega)

theorem bytesAt_store_of_le {f : Mem} {a n i : Nat} (b : UInt8) (h : i < a ∨ a + n ≤ i) :
    bytesAt (store f i b) a n = bytesAt f a n := by
  apply bytesAt_congr
  intro x hx hx'
  exact store_of_ne b (by omega)

theorem copy_of_lt {f src : Mem} {n x : Nat} (h : x < n) : copy f src n x = src x := by
  simp [copy, h]

theorem copy_of_ge {f src : Mem} {n x : Nat} (h : n ≤ x) : copy f src n x = f x := by
  simp [copy, Nat.not_lt.2 h]

theorem bytesAt_copy {f src : Mem} {a m n : Nat} (h : a + m ≤ n) : bytesAt (copy f src n) a m = bytesAt src a m := by
  apply bytesAt_congr
  intro x _ hx
  exact copy_of_lt (by omega)

/-- What a buffer holds up to the end of the bytes written to it. -/
theorem bytesAt_write (f : Mem) (i : Nat) (bs : List UInt8) :
    bytesAt (write f i bs) 0 (i + bs.length) = bytesAt f 0 i ++ bs := by
  have hfront : bytesAt (write f i bs) 0 i = bytesAt f 0 i := by
    apply bytesAt_congr
    intro x _ hx
    exact if_neg (by omega)
  have hback : bytesAt (write f i bs) i bs.length = bs := by
    apply List.ext_getElem
    · exact bytesAt_length _ _ _
    · intro k hk hk'
      rw [getElem_bytesAt, write, if_pos (by omega), Nat.add_sub_cancel_left, List.getD_eq_getElem _ _ hk']
  rw [bytesAt_add, hfront, Nat.zero_add, hback]

theorem drop_bytesAt (f : Mem) (k n : Nat) : (bytesAt f 0 (k + n)).drop k = bytesAt f k n := by
  rw [bytesAt_add, Nat.zero_add, List.drop_left' (bytesAt_length f 0 k)]

theorem getD_bytesAt {f : Mem} {a n i : Nat} (hi : i < n) : (bytesAt f a n).getD i 0 = f (a + i) := by
  rw [List.getD_eq_getElem _ _ (by simpa using hi), getElem_bytesAt]

theorem getD_of_bytesAt {f : Mem} {bs : List UInt8} {n i : Nat} (h : bytesAt f 0 n = bs) (hi : i < n) :
    bs.getD i 0 = f i := by
  subst h
  rw [getD_bytesAt hi, Nat.zero_add]

theorem ofBytes_apply (bs : List UInt8) (i : Nat) : ofBytes bs i = bs.getD i 0 := rfl

theorem agree_ofBytes {f : Mem} {bs : List UInt8} (h : bytesAt f 0 bs.length = bs) :
    Agree f (ofBytes bs) 0 bs.length := by
  intro x _ hx
  rw [ofBytes_apply, getD_of_bytesAt h hx]

/-! ### Two buffers that agree on their front -/

theorem agree_load {f g : Mem} {n : Nat} (h : Agree f g 0 n) (b : UInt8) :
    Agree (store f n b) (store g n b) 0 (n + 1) := by
  intro x hx hlt
  by_cases hn : x = n
  · rw [hn, store_self, store_self]
  · rw [store_of_ne b hn, store_of_ne b hn]
    exact h x hx (by omega)

theorem agree_store {f g : Mem} {n : Nat} (h : Agree f g 0 n) (i : Nat) (b : UInt8) :
    Agree (store f i b) (store g i b) 0 n := by
  intro x hx hlt
  by_cases hi : x = i
  · rw [hi, store_self, store_self]
  · rw [store_of_ne b hi, store_of_ne b hi]
    exact h x hx hlt

theorem agree_copy {f g src src' : Mem} {m n : Nat} (h : Agree f g 0 m) (hsrc : Agree src src' 0 n) :
    Agree (copy f src n) (copy g src' n) 0 (max m n) := by
  intro x hx hlt
  by_cases hn : x < n
  · rw [copy_of_lt hn, copy_of_lt hn]
    exact hsrc x hx hn
  · rw [copy_of_ge (Nat.not_lt.1 hn), copy_of_ge (Nat.not_lt.1 hn)]
    exact h x hx (by omega)

theorem bytesAt_ofBytes (bs : List UInt8) : bytesAt (ofBytes bs) 0 bs.length = bs := by
  apply List.ext_getElem
  · rw [bytesAt_length]
  · intro i hi hi'
    rw [getElem_bytesAt, Nat.zero_add]
    simp [ofBytes, hi']

theorem bytesAt_ofBytes_append (bs cs : List UInt8) : bytesAt (ofBytes (bs ++ cs)) 0 bs.length = bs := by
  have h := bytesAt_ofBytes (bs ++ cs)
  rw [List.length_append, bytesAt_add] at h
  exact (List.append_inj h (bytesAt_length _ _ _)).1

end Buffer
