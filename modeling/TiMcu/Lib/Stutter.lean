import Mathlib.Data.List.Destutter

/-!
# Lists up to repeats

`List.destutter (· ≠ ·)` leaves one of each run of equal elements.  Here are its steps at the end of a list: one more
element is dropped when it repeats the last one, and the last element stays.
-/

namespace Stutter

variable {α : Type*} [DecidableEq α]

/-- Each element, without its repeats. -/
def once (l : List α) : List α := l.destutter (· ≠ ·)

theorem destutter'_concat (a b : α) (l : List α) : (l ++ [b]).destutter' (· ≠ ·) a =
    if (a :: l).getLast? = some b then l.destutter' (· ≠ ·) a else l.destutter' (· ≠ ·) a ++ [b] := by
  induction l generalizing a with
  | nil =>
    by_cases h : a = b
    · simp [h]
    · simp [h]
  | cons c l ih =>
    rw [List.cons_append, List.destutter'_cons, List.destutter'_cons, List.getLast?_cons_cons]
    by_cases h : a = c
    · subst h
      rw [if_neg (not_not.2 rfl), if_neg (not_not.2 rfl), ih]
    · rw [if_pos h, if_pos h, ih]
      split <;> rfl

theorem destutter'_getLast? (a : α) (l : List α) : (l.destutter' (· ≠ ·) a).getLast? = (a :: l).getLast? := by
  induction l using List.reverseRecOn with
  | nil => rfl
  | append_singleton l b ih =>
    rw [destutter'_concat, ← List.cons_append, List.getLast?_concat]
    split
    · rename_i h
      rw [ih, h]
    · rw [List.getLast?_concat]

@[simp] theorem once_nil : once ([] : List α) = [] := rfl

/-- One element more. -/
theorem once_concat (l : List α) (b : α) : once (l ++ [b]) = if l.getLast? = some b then once l else once l ++ [b] := by
  cases l with
  | nil => rfl
  | cons a l => exact destutter'_concat a b l

theorem once_getLast? (l : List α) : (once l).getLast? = l.getLast? := by
  cases l with
  | nil => rfl
  | cons a l => exact destutter'_getLast? a l

end Stutter
