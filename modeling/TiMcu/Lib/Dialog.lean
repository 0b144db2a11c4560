import Mathlib.Data.List.Range

/-!
# Dialogs with a device

A program that talks to a device is a tree: each node asks something and goes on with the answer.  A device is a step
that takes a state and a question to an answer and the next state.  `run` is what comes of a program with a device: the
result, the state of the device and the log of questions with their answers.

A `stream` answers with one given sequence, whatever is asked.
-/

inductive Dialog (τ ρ α : Type) where
  | done (a : α)
  | ask (t : τ) (next : ρ → Dialog τ ρ α)

namespace Dialog

variable {τ ρ σ α β : Type}

def andThen : Dialog τ ρ α → (α → Dialog τ ρ β) → Dialog τ ρ β
  | .done a, g => g a
  | .ask t next, g => .ask t fun r => andThen (next r) g

instance : Monad (Dialog τ ρ) where
  pure := .done
  bind := andThen

/-- One question; the result is the answer. -/
def question (t : τ) : Dialog τ ρ ρ := .ask t .done

structure Outcome (τ ρ σ α : Type) where
  result : α
  state : σ
  log : List (τ × ρ)

def run (dev : σ → τ → ρ × σ) (s : σ) : Dialog τ ρ α → Outcome τ ρ σ α
  | .done a => ⟨a, s, []⟩
  | .ask t next =>
    let r := dev s t
    let o := run dev r.2 (next r.1)
    ⟨o.result, o.state, (t, r.1) :: o.log⟩

variable (dev : σ → τ → ρ × σ) (s : σ)

@[simp] theorem run_pure (a : α) : run dev s (pure a : Dialog τ ρ α) = ⟨a, s, []⟩ := rfl

@[simp] theorem run_question (t : τ) :
    run dev s (question t : Dialog τ ρ ρ) = ⟨(dev s t).1, (dev s t).2, [(t, (dev s t).1)]⟩ := rfl

@[simp] theorem run_bind (p : Dialog τ ρ α) (g : α → Dialog τ ρ β) :
    run dev s (p >>= g) =
      let o := run dev s p
      let o' := run dev o.state (g o.result)
      ⟨o'.result, o'.state, o.log ++ o'.log⟩ := by
  induction p generalizing s with
  | done a => rfl
  | ask t next ih =>
    have hrest := ih (dev s t).1 (dev s t).2
    change (⟨_, _, _ :: _⟩ : Outcome τ ρ σ β) = _
    rw [show run dev (dev s t).2 (andThen (next (dev s t).1) g) = _ from hrest]
    rfl

/-- The sequence behind the first `k` answers. -/
def later (ω : Nat → ρ) (k : Nat) : Nat → ρ := fun n => ω (k + n)

@[simp] theorem later_apply (ω : Nat → ρ) (k n : Nat) : later ω k n = ω (k + n) := rfl

@[simp] theorem later_later (ω : Nat → ρ) (j k : Nat) : later (later ω j) k = later ω (j + k) := by
  funext n
  simp [Nat.add_assoc]

@[simp] theorem later_zero (ω : Nat → ρ) : later ω 0 = ω := by
  funext n
  rw [later_apply, Nat.zero_add]

/-- The first `n` answers. -/
def first (ω : Nat → ρ) (n : Nat) : List ρ := (List.range n).map ω

theorem first_add (ω : Nat → ρ) (m n : Nat) : first ω (m + n) = first ω m ++ first (later ω m) n := by
  rw [first, List.range_add, List.map_append, List.map_map]
  rfl

theorem forall_mem_first {ω : Nat → ρ} {n : Nat} {good : ρ → Prop} :
    (∀ r ∈ first ω n, good r) ↔ ∀ k < n, good (ω k) := by
  simp [first]

/-- The device that answers with a sequence. -/
def stream (ω : Nat → ρ) (_ : τ) : ρ × (Nat → ρ) := (ω 0, later ω 1)

end Dialog
