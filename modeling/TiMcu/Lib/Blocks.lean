import Mathlib.Algebra.BigOperators.Intervals
import Mathlib.Algebra.Order.BigOperators.Group.Finset

/-!
# Blocks of given lengths

A line is cut into blocks with the lengths `f 0`, `f 1`, ….  Every place of the line lies in one block only, at one
offset in it.
-/

namespace Blocks

open Finset

variable {f g : ℕ → ℕ} {k k' r r' n : ℕ}

/-- The length of the first `k` blocks. -/
def before (f : ℕ → ℕ) (k : ℕ) : ℕ := ∑ i ∈ range k, f i

@[simp] theorem before_zero (f : ℕ → ℕ) : before f 0 = 0 := sum_range_zero f

theorem before_succ (f : ℕ → ℕ) (k : ℕ) : before f (k + 1) = before f k + f k := sum_range_succ f k

theorem before_mono (f : ℕ → ℕ) (h : k ≤ k') : before f k ≤ before f k' := by
  induction k', h using Nat.le_induction with
  | base => exact le_rfl
  | succ k' _ ih =>
    rw [before_succ]
    exact ih.trans (Nat.le_add_right _ _)

/-- A place of an earlier block lies before every later block. -/
theorem lt_before (hr : r < f k) (h : k < k') : before f k + r < before f k' := by
  have hle := before_mono f (Nat.succ_le_of_lt h)
  rw [before_succ] at hle
  omega

/-- A place determines its block and its offset. -/
theorem place_unique (hr : r < f k) (hr' : r' < f k') (h : before f k + r = before f k' + r') : k = k' ∧ r = r' := by
  rcases Nat.lt_trichotomy k k' with hlt | rfl | hgt
  · have hle := lt_before hr hlt
    omega
  · exact ⟨rfl, by omega⟩
  · have hle := lt_before hr' hgt
    omega

end Blocks
