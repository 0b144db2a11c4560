import Mathlib.Algebra.Ring.Parity
import Mathlib.Data.List.DropRight
import TiMcu.Lib.Framing

/-!
# Preambles of two symbols

A receiver waits for `s₀` and then for `s₁`, and drops what it holds when the second symbol is another one.  The symbol
that breaks the pair is not looked at again.  So in a stream without the pair the symbols `s₀` at the end are taken two
by two, and whether one of them is held depends on their number (`held_of_pairless`).
-/

namespace Framing

variable {α : Type*} [DecidableEq α] {verdict : List α → Verdict} {s₀ s₁ : α} {noise : List α}

/-- The number of symbols `s` at the end of a stream. -/
def trailing (s : α) (bs : List α) : Nat := (bs.rtakeWhile fun b => b = s).length

theorem trailing_concat_self (s : α) (bs : List α) : trailing s (bs ++ [s]) = trailing s bs + 1 := by
  rw [trailing, List.rtakeWhile_concat_pos _ _ _ (by simp), List.length_append, List.length_singleton, trailing]

theorem trailing_concat_ne {s b : α} (h : b ≠ s) (bs : List α) : trailing s (bs ++ [b]) = 0 := by
  rw [trailing, List.rtakeWhile_concat_neg _ _ _ (by simpa using h), List.length_nil]

/-- A stream that ends with `s`, if there is one at its end at all. -/
theorem eq_concat_of_trailing {s : α} {bs : List α} (h : trailing s bs ≠ 0) : ∃ bs', bs = bs' ++ [s] := by
  induction bs using List.reverseRecOn with
  | nil => exact absurd rfl h
  | append_singleton bs b _ =>
    by_cases hb : b = s
    · exact ⟨bs, by rw [hb]⟩
    · exact absurd (trailing_concat_ne hb bs) h

/-- The verdicts of a receiver that waits for the two symbols. -/
structure Preamble (verdict : List α → Verdict) (s₀ s₁ : α) : Prop where
  ne : s₀ ≠ s₁
  first : verdict [s₀] = .more
  other : ∀ b, b ≠ s₀ → verdict [b] = .drop
  broken : ∀ b, b ≠ s₁ → verdict [s₀, b] = .drop

/-- A stream without the pair completes nothing, and its last symbol is held if an odd number of `s₀` ends it. -/
theorem Preamble.held_of_pairless (h : Preamble verdict s₀ s₁) (hpair : ¬[s₀, s₁] <:+: noise) :
    held verdict [] noise = (if Even (trailing s₀ noise) then [] else [s₀]) ∧ frames verdict [] noise = [] := by
  induction noise using List.reverseRecOn with
  | nil => exact ⟨rfl, rfl⟩
  | append_singleton noise b ih =>
    obtain ⟨hheld, hframes⟩ := ih fun hin => hpair (hin.trans (List.prefix_append noise [b]).isInfix)
    have hcomplete : ∀ l, verdict l = .drop → complete verdict l = [] := fun l hl =>
      complete_of_ne (by rw [hl]; simp)
    rw [held_append, frames_append, hframes, List.nil_append, hheld, held, held_nil, frames, frames_nil,
      List.append_nil]
    by_cases hb : b = s₀
    -- one more `s₀` changes the parity
    · subst hb
      rw [trailing_concat_self]
      by_cases heven : Even (trailing b noise)
      · have hnext : ¬Even (trailing b noise + 1) := Nat.even_add_one.not.2 (not_not.2 heven)
        rw [if_pos heven, if_neg hnext, List.nil_append, keep_more h.first]
        exact ⟨rfl, complete_of_ne (by rw [h.first]; simp)⟩
      · have hdrop : verdict ([b] ++ [b]) = .drop := h.broken b h.ne
        rw [if_neg heven, if_pos (Nat.even_add_one.2 heven), keep_drop hdrop]
        exact ⟨rfl, hcomplete _ hdrop⟩
    -- another symbol is dropped, with the `s₀` that may be held
    · rw [trailing_concat_ne hb, if_pos Even.zero]
      by_cases heven : Even (trailing s₀ noise)
      · have hdrop : verdict ([] ++ [b]) = .drop := h.other b hb
        rw [if_pos heven, keep_drop hdrop]
        exact ⟨rfl, hcomplete _ hdrop⟩
      · have hne : trailing s₀ noise ≠ 0 := fun hzero => heven (hzero ▸ Even.zero)
        obtain ⟨front, rfl⟩ := eq_concat_of_trailing hne
        have hsecond : b ≠ s₁ := by
          rintro rfl
          exact hpair ⟨front, [], by simp⟩
        have hdrop : verdict ([s₀] ++ [b]) = .drop := h.broken b hsecond
        rw [if_neg heven, keep_drop hdrop]
        exact ⟨rfl, hcomplete _ hdrop⟩

/-- A frame behind a stream without the pair is completed if an even number of `s₀` ends the stream. -/
theorem Preamble.frames_of_even {f : List α} (h : Preamble verdict s₀ s₁) (hpair : ¬[s₀, s₁] <:+: noise)
    (hf : IsFrame verdict f) (heven : Even (trailing s₀ noise)) : frames verdict [] (noise ++ f) = [f] := by
  obtain ⟨hheld, hframes⟩ := h.held_of_pairless hpair
  rw [frames_append, hframes, hheld, if_pos heven, hf.fed.2, List.nil_append]

/-- Otherwise only shorter frames are completed, inside it. -/
theorem Preamble.length_lt_of_odd {f g : List α} (h : Preamble verdict s₀ s₁) (hpair : ¬[s₀, s₁] <:+: noise)
    (hodd : ¬Even (trailing s₀ noise)) (hg : g ∈ frames verdict [] (noise ++ s₀ :: f)) : g.length ≤ f.length := by
  obtain ⟨hheld, hframes⟩ := h.held_of_pairless hpair
  have hdrop : verdict ([s₀] ++ [s₀]) = .drop := h.broken s₀ h.ne
  rw [frames_append, hframes, hheld, if_neg hodd, List.nil_append, frames, keep_drop hdrop,
    complete_of_ne (by rw [hdrop]; simp), List.nil_append] at hg
  simpa using length_of_mem_frames hg

end Framing
