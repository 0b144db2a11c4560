import Mathlib.Data.List.Chain
import Mathlib.Data.List.Induction
import Mathlib.Order.Bounds.Basic

/-!
# Streaks

A streak of a stream is a contiguous part of it in which every element is followed by a related one.  `tally` counts the
streak at the end of a stream and the longest one in a single pass; `current_isGreatest` and `longest_isGreatest` say that
these are the greatest lengths of a streak at the end and of a streak anywhere.
-/

namespace Streaks

variable {α : Type*} {R : α → α → Prop} {l : List α}

/-- A chain with one more element. -/
theorem isChain_concat_iff {s : List α} {a : α} :
    (s ++ [a]).IsChain R ↔ s.IsChain R ∧ ∀ b ∈ s.getLast?, R b a := by
  rw [List.isChain_append]
  simp

/-- The last element of a suffix that is not empty. -/
theorem getLast?_of_suffix {s : List α} (h : s <:+ l) (hs : s ≠ []) : s.getLast? = l.getLast? := by
  obtain ⟨front, rfl⟩ := h
  rw [List.getLast?_append_of_ne_nil _ hs]

variable [DecidableRel R]

structure Tally (α : Type*) where
  last : Option α
  current : Nat
  longest : Nat
  deriving DecidableEq, Repr

/-- The length of the streak at the end when one more element comes. -/
def Tally.grown (R : α → α → Prop) [DecidableRel R] (t : Tally α) (a : α) : Nat :=
  if t.last.any (fun b => R b a) then t.current + 1 else 1

def Tally.next (R : α → α → Prop) [DecidableRel R] (t : Tally α) (a : α) : Tally α :=
  ⟨some a, t.grown R a, max t.longest (t.grown R a)⟩

def tally (R : α → α → Prop) [DecidableRel R] (l : List α) : Tally α := l.foldl (Tally.next R) ⟨none, 0, 0⟩

theorem tally_concat (l : List α) (a : α) : tally R (l ++ [a]) = (tally R l).next R a := List.foldl_concat ..

theorem tally_last (l : List α) : (tally R l).last = l.getLast? := by
  induction l using List.reverseRecOn with
  | nil => rfl
  | append_singleton l a _ => rw [tally_concat, List.getLast?_concat, Tally.next]

/-- The streak at the end. -/
theorem current_isGreatest (R : α → α → Prop) [DecidableRel R] (l : List α) :
    IsGreatest {n | ∃ s, s <:+ l ∧ s.IsChain R ∧ s.length = n} (tally R l).current := by
  induction l using List.reverseRecOn with
  | nil =>
    refine ⟨⟨[], List.nil_suffix, List.isChain_nil, rfl⟩, ?_⟩
    rintro n ⟨s, hs, -, rfl⟩
    rw [List.suffix_nil.1 hs]
    exact Nat.le_refl 0
  | append_singleton l a ih =>
    obtain ⟨⟨s, hs, hchain, hlen⟩, hmax⟩ := ih
    have hlast := tally_last (R := R) l
    rw [tally_concat]
    change IsGreatest _ ((tally R l).grown R a)
    unfold Tally.grown
    rw [hlast]
    by_cases hrel : l.getLast?.any (fun b => R b a) = true
    -- the streak goes on
    · rw [if_pos hrel]
      obtain ⟨b, hb, hba⟩ := (Option.any_eq_true _ _).1 hrel
      constructor
      · have hgrown : s ++ [a] <:+ l ++ [a] := List.suffix_concat_iff.2 (.inr ⟨s, rfl, hs⟩)
        refine ⟨s ++ [a], hgrown, isChain_concat_iff.2 ⟨hchain, fun c hc => ?_⟩, ?_⟩
        · have hne : s ≠ [] := by
            rintro rfl
            simp at hc
          rw [getLast?_of_suffix hs hne] at hc
          obtain rfl : c = b := Option.mem_unique hc hb
          simpa using hba
        · rw [List.length_append, List.length_singleton, hlen]
      · rintro n ⟨t, ht, htchain, rfl⟩
        obtain rfl | ⟨u, rfl, hu⟩ := List.suffix_concat_iff.1 ht
        · exact Nat.zero_le _
        · rw [List.length_append, List.length_singleton]
          exact Nat.succ_le_succ (hmax ⟨u, hu, (isChain_concat_iff.1 htchain).1, rfl⟩)
    -- a new streak begins
    · rw [if_neg hrel]
      constructor
      · exact ⟨[a], List.suffix_append l [a], List.isChain_singleton a, rfl⟩
      · rintro n ⟨t, ht, htchain, rfl⟩
        obtain rfl | ⟨u, rfl, hu⟩ := List.suffix_concat_iff.1 ht
        · exact Nat.zero_le _
        · obtain rfl | hne := eq_or_ne u []
          · exact Nat.le_refl 1
          · obtain ⟨b, hb⟩ := Option.ne_none_iff_exists'.1 fun hnone => hne (List.getLast?_eq_none_iff.1 hnone)
            have hba := (isChain_concat_iff.1 htchain).2 b hb
            rw [getLast?_of_suffix hu hne] at hb
            exact absurd ((Option.any_eq_true _ _).2 ⟨b, hb, by simpa using hba⟩) hrel

/-- The longest streak. -/
theorem longest_isGreatest (R : α → α → Prop) [DecidableRel R] (l : List α) :
    IsGreatest {n | ∃ s, s <:+: l ∧ s.IsChain R ∧ s.length = n} (tally R l).longest := by
  induction l using List.reverseRecOn with
  | nil =>
    refine ⟨⟨[], List.nil_infix, List.isChain_nil, rfl⟩, ?_⟩
    rintro n ⟨s, hs, -, rfl⟩
    rw [List.infix_nil.1 hs]
    exact Nat.le_refl 0
  | append_singleton l a ih =>
    obtain ⟨⟨s, hs, hchain, hlen⟩, hmax⟩ := ih
    obtain ⟨⟨t, ht, htchain, htlen⟩, htmax⟩ := current_isGreatest R (l ++ [a])
    have hlongest : (tally R (l ++ [a])).longest = max (tally R l).longest (tally R (l ++ [a])).current := by
      rw [tally_concat]
      rfl
    rw [hlongest]
    constructor
    · rcases le_total (tally R (l ++ [a])).current (tally R l).longest with hle | hle
      · rw [max_eq_left hle]
        exact ⟨s, hs.trans (List.prefix_append l [a]).isInfix, hchain, hlen⟩
      · rw [max_eq_right hle]
        exact ⟨t, ht.isInfix, htchain, htlen⟩
    · rintro n ⟨u, hu, huchain, rfl⟩
      obtain hu | hu := List.infix_concat_iff.1 hu
      · exact (htmax ⟨u, hu, huchain, rfl⟩).trans (le_max_right _ _)
      · exact (hmax ⟨u, hu, huchain, rfl⟩).trans (le_max_left _ _)

theorem current_le_longest (l : List α) : (tally R l).current ≤ (tally R l).longest := by
  obtain ⟨s, hs, hchain, hlen⟩ := (current_isGreatest R l).1
  exact (longest_isGreatest R l).2 ⟨s, hs.isInfix, hchain, hlen⟩

/-- Two elements in a row that are related. -/
theorem two_le_longest_iff : 2 ≤ (tally R l).longest ↔ ∃ a b, [a, b] <:+: l ∧ R a b := by
  constructor
  · intro h
    obtain ⟨s, hs, hchain, hlen⟩ := (longest_isGreatest R l).1
    rw [← hlen] at h
    match s with
    | a :: b :: s => exact ⟨a, b, List.IsInfix.trans ⟨[], s, rfl⟩ hs, (List.isChain_cons_cons.1 hchain).1⟩
    | [] => simp at h
    | [_] => simp at h
  · rintro ⟨a, b, hab, hrel⟩
    exact (longest_isGreatest R l).2 ⟨[a, b], hab, List.isChain_pair.2 hrel, rfl⟩

end Streaks
