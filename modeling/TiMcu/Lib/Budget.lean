import Mathlib.Data.Set.Card
import Mathlib.Order.Interval.Finset.Nat

/-!
# Events that use up a budget

An infinite run takes one event after the other.  A potential that no event raises and that every hit lowers bounds the
number of hits of the whole run.
-/

namespace Budget

variable {σ ε : Type*} {step : σ → ε → σ} {s : σ} {es : ℕ → ε}

/-- The state before each event of an infinite run. -/
def states (step : σ → ε → σ) (s : σ) (es : ℕ → ε) : ℕ → σ
  | 0 => s
  | n + 1 => step (states step s es n) (es n)

@[simp] theorem states_zero : states step s es 0 = s := rfl

theorem states_succ (n : ℕ) : states step s es (n + 1) = step (states step s es n) (es n) := rfl

/-- What an event preserves holds from the first state on in which it holds. -/
theorem states_stays {P : σ → Prop} (hstep : ∀ s e, P s → P (step s e)) {n m : ℕ} (hnm : n ≤ m)
    (h : P (states step s es n)) : P (states step s es m) := by
  induction m, hnm using Nat.le_induction with
  | base => exact h
  | succ m _ ih => exact hstep _ _ ih

section Potential

variable (potential : σ → ℕ) {Hit : σ → ε → Prop}

theorem states_antitone (hstep : ∀ s e, potential (step s e) ≤ potential s) :
    Antitone fun n => potential (states step s es n) :=
  antitone_nat_of_succ_le fun n => hstep (states step s es n) (es n)

/-- There are not more hits than the potential of the first state. -/
theorem encard_hits_le (hstep : ∀ s e, potential (step s e) ≤ potential s)
    (hhit : ∀ s e, Hit s e → potential (step s e) < potential s) :
    {n | Hit (states step s es n) (es n)}.encard ≤ potential s := by
  have hanti : Antitone fun n => potential (states step s es n) := states_antitone potential hstep
  -- a hit is known by the potential before it, which is positive
  have hbound : ∀ n ∈ {n | Hit (states step s es n) (es n)},
      potential (states step s es n) ∈ (Finset.Icc 1 (potential s) : Set ℕ) := by
    intro n hn
    have hdrop := hhit _ _ hn
    have hle : potential (states step s es n) ≤ potential s := hanti (Nat.zero_le n)
    rw [Finset.mem_coe, Finset.mem_Icc]
    omega
  have hinj : Set.InjOn (fun n => potential (states step s es n)) {n | Hit (states step s es n) (es n)} := by
    intro n hn m hm heq
    have hlt : ∀ {a b : ℕ}, Hit (states step s es a) (es a) → a < b →
        potential (states step s es b) < potential (states step s es a) := by
      intro a b ha hab
      exact lt_of_le_of_lt (hanti hab) (hhit _ _ ha)
    rcases Nat.lt_trichotomy n m with hnm | hnm | hnm
    · exact absurd heq (hlt hn hnm).ne'
    · exact hnm
    · exact absurd heq (hlt hm hnm).ne
  have hcard := Set.encard_le_encard_of_injOn hbound hinj
  rwa [Set.encard_coe_eq_coe_finsetCard, Nat.card_Icc, Nat.add_sub_cancel] at hcard

end Potential

end Budget
