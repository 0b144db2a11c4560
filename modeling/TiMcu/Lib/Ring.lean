import Mathlib.Data.Nat.ModEq

/-!
# Rings of slots

The elements of a queue stand in a ring of `n` slots, the oldest one in slot `g` and the others behind it.
-/

namespace Ring

variable {n g i j : Nat}

/-- Where the element `i` stands. -/
def slot (n g i : Nat) : Nat := (g + i) % n

theorem slot_lt (hn : 0 < n) (g i : Nat) : slot n g i < n := Nat.mod_lt _ hn

theorem slot_zero (hg : g < n) : slot n g 0 = g := Nat.mod_eq_of_lt hg

/-- Without the oldest element. -/
theorem slot_slot (n g i j : Nat) : slot n (slot n g i) j = slot n g (i + j) := by
  rw [slot, slot, slot, Nat.mod_add_mod, Nat.add_assoc]

/-- Different elements stand in different slots. -/
theorem slot_inj (hi : i < n) (hj : j < n) (h : slot n g i = slot n g j) : i = j := by
  have hmod : i ≡ j [MOD n] := Nat.ModEq.add_left_cancel' g h
  rwa [Nat.ModEq, Nat.mod_eq_of_lt hi, Nat.mod_eq_of_lt hj] at hmod

end Ring
