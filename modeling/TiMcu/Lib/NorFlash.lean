import Mathlib.Data.List.Basic
import Mathlib.Data.List.Range

/-!
# NOR flash memory

A memory is a map from addresses to bytes.  Programming clears bits only (every addressed byte is ANDed with the
source byte) and erasing sets a range to `0xFF`.  A sequence of operations is replayed from left to right, so the
image left by a power cut after `k` operations is the replay of the first `k` of them.

The facts used below are of three kinds: what an operation leaves unchanged (`program_agreeOutside`), when a
programmed range reads back as written (`bytesAt_program`), and that reading a range only depends on it
(`bytesAt_congr`).
-/

namespace NorFlash

/-- The contents of an address space. -/
abbrev Mem := Nat → UInt8

/-- Programming `bs` at `a` ANDs every addressed byte with the source byte. -/
def program (f : Mem) (a : Nat) (bs : List UInt8) : Mem := fun x =>
  if a ≤ x ∧ x < a + bs.length then f x &&& bs.getD (x - a) 0 else f x

/-- Erasing sets the `n` bytes from `a` on to `0xFF`. -/
def erase (f : Mem) (a n : Nat) : Mem := fun x => if a ≤ x ∧ x < a + n then 0xFF else f x

/-- The `n` bytes from `a` on. -/
def bytesAt (f : Mem) (a n : Nat) : List UInt8 := (List.range' a n).map f

/-- An operation on the memory. -/
inductive Op where
  | program (a : Nat) (bs : List UInt8)
  | erase (a n : Nat)

def Op.run : Op → Mem → Mem
  | .program a bs, f => NorFlash.program f a bs
  | .erase a n, f => NorFlash.erase f a n

/-- The image left by a sequence of operations. -/
def replay (f : Mem) (ops : List Op) : Mem := ops.foldl (fun g op => op.run g) f

/-- Two memories agree on the addresses `a ≤ x < b`. -/
def Agree (f g : Mem) (a b : Nat) : Prop := ∀ x, a ≤ x → x < b → f x = g x

/-- Two memories agree outside the addresses `a ≤ x < b`. -/
def AgreeOutside (f g : Mem) (a b : Nat) : Prop := ∀ x, x < a ∨ b ≤ x → f x = g x

/-- The addresses `a ≤ x < b` are erased. -/
def Erased (f : Mem) (a b : Nat) : Prop := ∀ x, a ≤ x → x < b → f x = 0xFF

/-- No bit of `bs` has to be set again when `bs` is programmed at `a`. -/
def Programmable (f : Mem) (a : Nat) (bs : List UInt8) : Prop :=
  ∀ i (h : i < bs.length), f (a + i) &&& bs[i] = bs[i]

/-! ### Bytes -/

theorem ff_and (b : UInt8) : 0xFF &&& b = b := UInt8.neg_one_and

/-! ### Reading -/

@[simp] theorem bytesAt_length (f : Mem) (a n : Nat) : (bytesAt f a n).length = n := by
  simp [bytesAt]

@[simp] theorem bytesAt_zero (f : Mem) (a : Nat) : bytesAt f a 0 = [] := rfl

theorem bytesAt_add (f : Mem) (a m n : Nat) :
    bytesAt f a (m + n) = bytesAt f a m ++ bytesAt f (a + m) n := by
  rw [bytesAt, ← List.range'_append_1, List.map_append]
  rfl

theorem bytesAt_congr {f g : Mem} {a n : Nat} (h : Agree f g a (a + n)) : bytesAt f a n = bytesAt g a n := by
  apply List.map_congr_left
  intro x hx
  rw [List.mem_range'_1] at hx
  exact h x hx.1 hx.2

theorem take_bytesAt {f : Mem} {a k n : Nat} (h : k ≤ n) : (bytesAt f a n).take k = bytesAt f a k := by
  obtain ⟨m, rfl⟩ := Nat.exists_eq_add_of_le h
  rw [bytesAt_add, List.take_left' (bytesAt_length f a k)]

theorem getElem_bytesAt {f : Mem} {a n i : Nat} (h : i < (bytesAt f a n).length) : (bytesAt f a n)[i] = f (a + i) := by
  simp [bytesAt]

theorem apply_of_bytesAt_eq {f : Mem} {a n : Nat} {bs : List UInt8} (h : bytesAt f a n = bs) {i : Nat}
    (hi : i < bs.length) : f (a + i) = bs[i] := by
  subst h
  rw [getElem_bytesAt]

theorem Agree.symm {f g : Mem} {a b : Nat} (h : Agree f g a b) : Agree g f a b :=
  fun x h1 h2 => (h x h1 h2).symm

theorem Agree.trans {f g k : Mem} {a b : Nat} (h₁ : Agree f g a b) (h₂ : Agree g k a b) : Agree f k a b :=
  fun x h1 h2 => (h₁ x h1 h2).trans (h₂ x h1 h2)

theorem Agree.mono {f g : Mem} {a b a' b' : Nat} (h : Agree f g a b) (ha : a ≤ a') (hb : b' ≤ b) :
    Agree f g a' b' :=
  fun x h1 h2 => h x (by omega) (by omega)

theorem AgreeOutside.trans {f g k : Mem} {a b : Nat} (h₁ : AgreeOutside f g a b) (h₂ : AgreeOutside g k a b) :
    AgreeOutside f k a b :=
  fun x h => (h₁ x h).trans (h₂ x h)

theorem AgreeOutside.mono {f g : Mem} {a b a' b' : Nat} (h : AgreeOutside f g a b) (ha : a' ≤ a) (hb : b ≤ b') :
    AgreeOutside f g a' b' :=
  fun x hx => h x (by omega)

theorem AgreeOutside.agree {f g : Mem} {a b c d : Nat} (h : AgreeOutside f g a b) (hcd : d ≤ a ∨ b ≤ c) :
    Agree f g c d :=
  fun x h1 h2 => h x (by omega)

theorem Erased.mono {f : Mem} {a b a' b' : Nat} (h : Erased f a b) (ha : a ≤ a') (hb : b' ≤ b) :
    Erased f a' b' :=
  fun x h1 h2 => h x (by omega) (by omega)

theorem Erased.congr {f g : Mem} {a b : Nat} (h : Erased f a b) (hfg : Agree f g a b) : Erased g a b :=
  fun x h1 h2 => by rw [← hfg x h1 h2, h x h1 h2]

theorem Erased.bytesAt_eq {f : Mem} {a n : Nat} (h : Erased f a (a + n)) : bytesAt f a n = List.replicate n 0xFF := by
  refine List.eq_replicate_iff.2 ⟨bytesAt_length f a n, fun b hb => ?_⟩
  obtain ⟨x, hx, rfl⟩ := List.mem_map.1 hb
  rw [List.mem_range'_1] at hx
  exact h x hx.1 hx.2

/-! ### Programming -/

theorem program_of_lt {f : Mem} {a x : Nat} {bs : List UInt8} (h : x < a) : program f a bs x = f x :=
  if_neg (by omega)

theorem program_of_ge {f : Mem} {a x : Nat} {bs : List UInt8} (h : a + bs.length ≤ x) : program f a bs x = f x :=
  if_neg (by omega)

theorem program_inside {f : Mem} {a i : Nat} {bs : List UInt8} (h : i < bs.length) :
    program f a bs (a + i) = f (a + i) &&& bs[i] := by
  rw [program, if_pos (by omega), Nat.add_sub_cancel_left, List.getD_eq_getElem?_getD, List.getElem?_eq_getElem h]
  rfl

theorem program_agreeOutside (f : Mem) (a : Nat) (bs : List UInt8) :
    AgreeOutside f (program f a bs) a (a + bs.length) := by
  rintro x (h | h)
  · rw [program_of_lt h]
  · rw [program_of_ge h]

instance (f : Mem) (a : Nat) (bs : List UInt8) : Decidable (Programmable f a bs) :=
  inferInstanceAs (Decidable (∀ i (h : i < bs.length), f (a + i) &&& bs[i] = bs[i]))

@[simp] theorem program_nil (f : Mem) (a : Nat) : program f a [] = f := by
  funext x
  exact if_neg (by simp)

/-- Programming two ranges one behind the other. -/
theorem program_append (f : Mem) (a : Nat) (bs bs' : List UInt8) :
    program (program f a bs) (a + bs.length) bs' = program f a (bs ++ bs') := by
  funext x
  by_cases h1 : x < a
  · rw [program_of_lt (by omega), program_of_lt h1, program_of_lt h1]
  · obtain ⟨i, rfl⟩ := Nat.exists_eq_add_of_le (Nat.le_of_not_lt h1)
    by_cases h2 : i < bs.length
    · have h3 : i < (bs ++ bs').length := by simp; omega
      rw [program_of_lt (by omega), program_inside h2, program_inside h3, List.getElem_append_left h2]
    · obtain ⟨j, rfl⟩ := Nat.exists_eq_add_of_le (Nat.le_of_not_lt h2)
      by_cases h3 : j < bs'.length
      · have h4 : bs.length + j < (bs ++ bs').length := by simp; omega
        rw [← Nat.add_assoc, program_inside h3, program_of_ge (by omega), Nat.add_assoc, program_inside h4,
          List.getElem_append_right (by omega)]
        simp
      · rw [program_of_ge (by omega), program_of_ge (by omega), program_of_ge (by simp; omega)]

theorem Erased.programmable {f : Mem} {a : Nat} {bs : List UInt8} (h : Erased f a (a + bs.length)) :
    Programmable f a bs := by
  intro i hi
  rw [h (a + i) (by omega) (by omega), ff_and]

/-- A range that can be programmed reads back as written. -/
theorem bytesAt_program {f : Mem} {a : Nat} {bs : List UInt8} (h : Programmable f a bs) :
    bytesAt (program f a bs) a bs.length = bs := by
  apply List.ext_getElem (bytesAt_length _ _ _)
  intro i _ hi
  rw [getElem_bytesAt, program_inside hi, h i hi]

theorem program_replicate_zero {f : Mem} {a n x : Nat} (h1 : a ≤ x) (h2 : x < a + n) :
    program f a (List.replicate n 0) x = 0 := by
  obtain ⟨i, rfl⟩ := Nat.exists_eq_add_of_le h1
  rw [program_inside (by simp; omega)]
  simp

/-- Programming erased bytes changes nothing. -/
theorem program_replicate_ff (f : Mem) (a n : Nat) : program f a (List.replicate n 0xFF) = f := by
  funext x
  by_cases hx : a ≤ x ∧ x < a + n
  · obtain ⟨i, rfl⟩ := Nat.exists_eq_add_of_le hx.1
    rw [program_inside (by simp; omega), List.getElem_replicate]
    exact UInt8.and_neg_one
  · rw [program, if_neg (by simpa using hx)]

/-! ### Erasing -/

theorem erase_of_lt {f : Mem} {a n x : Nat} (h : x < a) : erase f a n x = f x := if_neg (by omega)

theorem erase_of_ge {f : Mem} {a n x : Nat} (h : a + n ≤ x) : erase f a n x = f x := if_neg (by omega)

theorem erase_agreeOutside (f : Mem) (a n : Nat) : AgreeOutside f (erase f a n) a (a + n) := by
  rintro x (h | h)
  · rw [erase_of_lt h]
  · rw [erase_of_ge h]

theorem erased_erase (f : Mem) (a n : Nat) : Erased (erase f a n) a (a + n) := fun _ h1 h2 => if_pos ⟨h1, h2⟩

/-! ### Replaying -/

@[simp] theorem replay_nil (f : Mem) : replay f [] = f := rfl

@[simp] theorem replay_cons (f : Mem) (op : Op) (ops : List Op) : replay f (op :: ops) = replay (op.run f) ops := rfl

/-- Programming in front of an address changes nothing behind it. -/
theorem replay_agree_behind {f : Mem} {ops : List Op} {e b : Nat}
    (h : ∀ op ∈ ops, ∃ a bs, op = .program a bs ∧ a + bs.length ≤ e) : Agree f (replay f ops) e b := by
  induction ops generalizing f with
  | nil => exact fun _ _ _ => rfl
  | cons op ops ih =>
    obtain ⟨a, bs, rfl, hle⟩ := h op (List.mem_cons_self ..)
    have hfirst : Agree f (program f a bs) e b := (program_agreeOutside f a bs).agree (Or.inr hle)
    exact hfirst.trans (ih fun op hop => h op (List.mem_cons_of_mem _ hop))

theorem replay_append (f : Mem) (ops ops' : List Op) : replay f (ops ++ ops') = replay (replay f ops) ops' := by
  simp [replay]

end NorFlash
