import TiMcu.Lib.Buffer

/-!
# Programs that read a memory

A function that only reads a memory is a tree: each node fetches the byte at one index and goes on with it.  `run` is
the result over a memory and `uses` are the indices that were fetched on the way.
-/

open NorFlash

inductive Fetch (α : Type) where
  | done (a : α)
  | byte (i : Nat) (next : UInt8 → Fetch α)

namespace Fetch

variable {α β : Type}

def run (f : Mem) : Fetch α → α
  | .done a => a
  | .byte i next => run f (next (f i))

def uses (f : Mem) : Fetch α → List Nat
  | .done _ => []
  | .byte i next => i :: uses f (next (f i))

def andThen : Fetch α → (α → Fetch β) → Fetch β
  | .done a, g => g a
  | .byte i next, g => .byte i fun b => andThen (next b) g

instance : Monad Fetch where
  pure := .done
  bind := andThen

/-- The byte at an index. -/
def fetch (i : Nat) : Fetch UInt8 := .byte i .done

/-- The `n` bytes from the index `a` on, as `memcpy` reads them. -/
def bytes (a : Nat) : Nat → Fetch (List UInt8)
  | 0 => pure []
  | n + 1 => do
    let b ← fetch a
    let bs ← bytes (a + 1) n
    pure (b :: bs)

/-- All indices that the program fetches are below `n`. -/
def Below (f : Mem) (n : Nat) (p : Fetch α) : Prop := ∀ i ∈ p.uses f, i < n

/-! ### The result -/

variable (f : Mem)

@[simp] theorem run_pure (a : α) : (pure a : Fetch α).run f = a := rfl

@[simp] theorem run_fetch (i : Nat) : (fetch i).run f = f i := rfl

@[simp] theorem run_bind (p : Fetch α) (g : α → Fetch β) : (p >>= g).run f = (g (p.run f)).run f := by
  induction p with
  | done a => rfl
  | byte i next ih => exact ih (f i)

theorem run_ite {c : Prop} [Decidable c] (p q : Fetch α) : (if c then p else q).run f = if c then p.run f else q.run f :=
  apply_ite (run f) c p q

@[simp] theorem run_bytes (a n : Nat) : (bytes a n).run f = bytesAt f a n := by
  induction n generalizing a with
  | zero => rfl
  | succ n ih =>
    simp only [bytes, run_bind, run_fetch, run_pure, ih]
    simp only [bytesAt, List.range'_succ, List.map_cons]

/-! ### The indices -/

@[simp] theorem uses_pure (a : α) : (pure a : Fetch α).uses f = [] := rfl

@[simp] theorem uses_fetch (i : Nat) : (fetch i).uses f = [i] := rfl

@[simp] theorem uses_bind (p : Fetch α) (g : α → Fetch β) :
    (p >>= g).uses f = p.uses f ++ (g (p.run f)).uses f := by
  induction p with
  | done a => rfl
  | byte i next ih => exact congrArg (i :: ·) (ih (f i))

@[simp] theorem uses_bytes (a n : Nat) : (bytes a n).uses f = List.range' a n := by
  induction n generalizing a with
  | zero => rfl
  | succ n ih => simp [bytes, ih, List.range'_succ]

/-! ### Programs that stay below an index -/

variable {f} {n : Nat}

@[simp] theorem below_pure (a : α) : Below f n (pure a : Fetch α) := fun _ hi => nomatch hi

@[simp] theorem below_fetch {i : Nat} : Below f n (fetch i) ↔ i < n := by
  simp [Below]

theorem below_bind {p : Fetch α} {g : α → Fetch β} : Below f n (p >>= g) ↔ Below f n p ∧ Below f n (g (p.run f)) := by
  simp only [Below, uses_bind, List.mem_append]
  exact ⟨fun h => ⟨fun i hi => h i (.inl hi), fun i hi => h i (.inr hi)⟩,
    fun h i hi => hi.elim (h.1 i) (h.2 i)⟩

theorem below_bytes {a m : Nat} : Below f n (bytes a m) ↔ m = 0 ∨ a + m ≤ n := by
  simp only [Below, uses_bytes, List.mem_range'_1]
  constructor
  · intro h
    by_cases hm : m = 0
    · exact .inl hm
    · have := h (a + m - 1) (by omega)
      omega
  · rintro h i ⟨h1, h2⟩
    omega

theorem below_ite {c : Prop} [Decidable c] {p q : Fetch α} :
    Below f n (if c then p else q) ↔ (c → Below f n p) ∧ (¬c → Below f n q) := by
  by_cases h : c <;> simp [h]

/-- A program that stays below `n` cannot tell memories with the same first `n` bytes apart. -/
theorem Below.congr {g : Mem} {p : Fetch α} (hp : Below f n p) (h : Agree f g 0 n) :
    p.run f = p.run g ∧ p.uses f = p.uses g := by
  induction p with
  | done a => exact ⟨rfl, rfl⟩
  | byte i next ih =>
    have hi : f i = g i := h i (Nat.zero_le i) (hp i (List.mem_cons_self ..))
    have hnext : Below f n (next (f i)) := fun j hj => hp j (List.mem_cons_of_mem i hj)
    obtain ⟨hrun, huses⟩ := ih (f i) hnext
    constructor
    · calc (next (f i)).run f = (next (f i)).run g := hrun
        _ = (next (g i)).run g := by rw [hi]
    · calc i :: (next (f i)).uses f = i :: (next (f i)).uses g := by rw [huses]
        _ = i :: (next (g i)).uses g := by rw [hi]

end Fetch
