import Mathlib.Data.List.Basic

/-!
# Loops and stores that are checked

A function with loops that works in memory of a known size gives an `Option`: a read or a store outside the memory is
`none`, and so is a loop that reaches its bound.  A function that gives `some` under every large enough bound has
terminated and stayed inside its memory.

`loop_trace` evaluates a loop whose states are known, `loop_total` is the rule for an invariant with a measure.
-/

namespace Checked

section Put

variable {α : Type*} {l l' : List α} {i : Nat} {a : α}

/-- A store into a list, where there is room for it. -/
def put (l : List α) (i : Nat) (a : α) : Option (List α) := if i < l.length then some (l.set i a) else none

theorem put_of_lt (a : α) (h : i < l.length) : put l i a = some (l.set i a) := if_pos h

/-- Everything else is unchanged. -/
theorem getElem?_of_put (h : put l i a = some l') (j : Nat) : l'[j]? = if j = i then some a else l[j]? := by
  unfold put at h
  split at h
  · next hi =>
    rw [← Option.some.inj h, List.getElem?_set]
    by_cases hj : i = j
    · rw [if_pos hj, if_pos hj.symm, if_pos hi]
    · rw [if_neg hj, if_neg (Ne.symm hj)]
  · exact absurd h (by simp)

/-- The `n` elements from an index on, where the list has them. -/
def slice (l : List α) (i n : Nat) : Option (List α) := if i + n ≤ l.length then some ((l.drop i).take n) else none

theorem slice_of_le {n : Nat} (h : i + n ≤ l.length) : slice l i n = some ((l.drop i).take n) := if_pos h

end Put

section Loop

variable {σ : Type*} {cond : σ → Option Bool} {body : σ → Option σ} {s s' : σ} {n : Nat}

/-- A loop with a bound on the number of times its condition is looked at. -/
def loop (cond : σ → Option Bool) (body : σ → Option σ) : Nat → σ → Option σ
  | 0, _ => none
  | n + 1, s => (cond s).bind fun b => if b then (body s).bind (loop cond body n) else some s

theorem loop_stop (h : cond s = some false) : loop cond body (n + 1) s = some s := by
  simp [loop, h]

theorem loop_next (h : cond s = some true) (hb : body s = some s') :
    loop cond body (n + 1) s = loop cond body n s' := by
  simp [loop, h, hb]

/-- A loop that goes through `f 0`, `f 1`, ... stops at the first state whose condition fails. -/
theorem loop_trace (f : Nat → σ) (d : Nat) (hstep : ∀ k < d, cond (f k) = some true ∧ body (f k) = some (f (k + 1)))
    (hstop : cond (f d) = some false) (hn : d < n) : loop cond body n (f 0) = some (f d) := by
  induction d generalizing f n with
  | zero =>
    obtain ⟨n, rfl⟩ := Nat.exists_eq_add_of_lt hn
    exact loop_stop hstop
  | succ d ih =>
    obtain ⟨n, rfl⟩ := Nat.exists_eq_add_of_lt hn
    obtain ⟨hcond, hbody⟩ := hstep 0 (Nat.succ_pos d)
    rw [Nat.zero_add] at hbody
    rw [loop_next hcond hbody]
    exact ih (fun k => f (k + 1)) (fun k hk => hstep (k + 1) (Nat.succ_lt_succ hk)) hstop (by omega)

/-- An invariant and a measure that decreases: the loop ends in a state with the invariant whose condition fails. -/
theorem loop_total {Inv : σ → Prop} {measure : σ → Nat}
    (hstep : ∀ s, Inv s → cond s = some false ∨
      cond s = some true ∧ ∃ s', body s = some s' ∧ Inv s' ∧ measure s' < measure s)
    (hs : Inv s) (hn : measure s < n) : ∃ s', loop cond body n s = some s' ∧ Inv s' ∧ cond s' = some false := by
  induction n generalizing s with
  | zero => exact absurd hn (Nat.not_lt_zero _)
  | succ n ih =>
    rcases hstep s hs with hstop | ⟨hcond, s', hbody, hs', hlt⟩
    · exact ⟨s, loop_stop hstop, hs, hstop⟩
    · rw [loop_next hcond hbody]
      exact ih hs' (by omega)

end Loop

end Checked
