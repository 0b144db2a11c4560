import Mathlib.Data.List.Basic

/-!
# Traces and their past

A trace is a list of observations, the newest first.  `Since p q` says that some observation satisfies `q` and every
newer one satisfies `p`; `Always` says something of every observation together with the trace before it.  Both are
defined by recursion on the trace, which is what an invariant needs; `Since.mem_newer` and `always_iff` say in terms of
positions what follows from them.
-/

namespace Past

variable {α : Type*} {p q : α → Prop} {φ : α → List α → Prop} {a : α} {l : List α}

/-- There was an observation with `q`, and all after it have `p`. -/
def Since (p q : α → Prop) : List α → Prop
  | [] => False
  | a :: l => q a ∨ p a ∧ Since p q l

/-- Every observation stands in the given relation to the trace before it. -/
def Always (φ : α → List α → Prop) : List α → Prop
  | [] => True
  | a :: l => φ a l ∧ Always φ l

@[simp] theorem since_nil : ¬ Since p q [] := id

@[simp] theorem always_nil : Always φ [] := trivial

theorem Since.here (h : q a) : Since p q (a :: l) := .inl h

theorem Since.cons (ha : p a) (h : Since p q l) : Since p q (a :: l) := .inr ⟨ha, h⟩

theorem Always.cons (ha : φ a l) (h : Always φ l) : Always φ (a :: l) := ⟨ha, h⟩

theorem Since.exists_mem (h : Since p q l) : ∃ o ∈ l, q o := by
  induction l with
  | nil => exact absurd h id
  | cons b l ih =>
    rcases h with hb | ⟨-, hl⟩
    · exact ⟨b, List.mem_cons_self, hb⟩
    · obtain ⟨o, ho, hq⟩ := ih hl
      exact ⟨o, List.mem_cons_of_mem b ho, hq⟩

/-- An observation with neither property stops the search: the one with `q` is newer. -/
theorem Since.mem_newer {newer before : List α} (h : Since p q (newer ++ a :: before)) (hp : ¬ p a) (hq : ¬ q a) :
    ∃ o ∈ newer, q o := by
  induction newer with
  | nil =>
    rcases h with hqa | ⟨hpa, -⟩
    · exact absurd hqa hq
    · exact absurd hpa hp
  | cons o newer ih =>
    rcases h with hqo | ⟨-, h⟩
    · exact ⟨o, List.mem_cons_self, hqo⟩
    · obtain ⟨o', hmem, hqo⟩ := ih h
      exact ⟨o', List.mem_cons_of_mem o hmem, hqo⟩

theorem always_iff : Always φ l ↔ ∀ newer a before, l = newer ++ a :: before → φ a before := by
  induction l with
  | nil => simp
  | cons b l ih =>
    constructor
    · rintro ⟨hb, hl⟩ newer a before heq
      cases newer with
      | nil =>
        obtain ⟨rfl, rfl⟩ := List.cons.inj heq
        exact hb
      | cons c newer =>
        obtain ⟨rfl, rfl⟩ := List.cons.inj heq
        exact ih.1 hl newer a before rfl
    · intro h
      exact ⟨h [] b l rfl, ih.2 fun newer a before heq => h (b :: newer) a before (by rw [heq]; rfl)⟩

end Past
