import Mathlib.Logic.Basic

/-!
# Runs under a condition

A run applies a list of events to a state.  `Guarded` says that every event of the run is taken in a state where the
condition allows it; an invariant that allowed events preserve then holds at the end of every guarded run.
-/

namespace Runs

variable {σ ε : Type*} {step : σ → ε → σ} {ok : σ → ε → Prop} {Inv : σ → Prop} {s : σ}

/-- The state at the end of a run. -/
def run (step : σ → ε → σ) (s : σ) (es : List ε) : σ := es.foldl step s

/-- Every event of the run is taken in a state that allows it. -/
def Guarded (step : σ → ε → σ) (ok : σ → ε → Prop) : σ → List ε → Prop
  | _, [] => True
  | s, e :: es => ok s e ∧ Guarded step ok (step s e) es

instance decidableGuarded [∀ s e, Decidable (ok s e)] : ∀ (s : σ) (es : List ε), Decidable (Guarded step ok s es)
  | _, [] => .isTrue trivial
  | s, e :: es => @instDecidableAnd _ _ _ (decidableGuarded (step s e) es)

@[simp] theorem run_nil : run step s [] = s := rfl

@[simp] theorem run_cons (e : ε) (es : List ε) : run step s (e :: es) = run step (step s e) es := rfl

theorem run_append (es es' : List ε) : run step s (es ++ es') = run step (run step s es) es' :=
  List.foldl_append

/-- An invariant that allowed events preserve holds at the end of every guarded run. -/
theorem Guarded.invariant {es : List ε} (h : Guarded step ok s es) (h0 : Inv s)
    (hstep : ∀ s e, Inv s → ok s e → Inv (step s e)) : Inv (run step s es) := by
  induction es generalizing s with
  | nil => exact h0
  | cons e es ih => exact ih h.2 (hstep s e h0 h.1)

/-- An invariant that every event preserves holds at the end of every run. -/
theorem run_invariant (es : List ε) (h0 : Inv s) (hstep : ∀ s e, Inv s → Inv (step s e)) : Inv (run step s es) := by
  induction es generalizing s with
  | nil => exact h0
  | cons e es ih => exact ih (hstep s e h0)

theorem Guarded.append {es es' : List ε} :
    Guarded step ok s (es ++ es') ↔ Guarded step ok s es ∧ Guarded step ok (run step s es) es' := by
  induction es generalizing s with
  | nil => simp [Guarded]
  | cons e es ih => simp [Guarded, ih, and_assoc]

/-- A run that is guarded when seen through a function that the steps respect. -/
theorem Guarded.of_image {τ : Type*} {step' : τ → ε → τ} {ok' : τ → ε → Prop} (π : σ → τ)
    (hstep : ∀ s e, π (step s e) = step' (π s) e) (hok : ∀ s e, ok' (π s) e → ok s e) {es : List ε}
    (h : Guarded step' ok' (π s) es) : Guarded step ok s es := by
  induction es generalizing s with
  | nil => trivial
  | cons e es ih =>
    obtain ⟨he, hes⟩ := h
    rw [← hstep] at hes
    exact ⟨hok s e he, ih hes⟩

theorem Guarded.imp {ok' : σ → ε → Prop} {es : List ε} (h : Guarded step ok s es) (hok : ∀ s e, ok s e → ok' s e) :
    Guarded step ok' s es :=
  Guarded.of_image id (fun s e => (rfl : id (step s e) = step (id s) e)) hok h

/-! ### What a run emits -/

section Emit

variable {ι : Type*} {emit : σ → ε → List ι} {Good : ι → Prop}

/-- Everything that the events of a run emit. -/
def emitted (step : σ → ε → σ) (emit : σ → ε → List ι) : σ → List ε → List ι
  | _, [] => []
  | s, e :: es => emit s e ++ emitted step emit (step s e) es

/-- When an event that is allowed, and no other, emits only good things and keeps the invariant, a run emits only good
things exactly when it is guarded. -/
theorem emitted_iff_guarded (hemit : ∀ s e, Inv s → ((∀ i ∈ emit s e, Good i) ↔ ok s e))
    (hstep : ∀ s e, Inv s → ok s e → Inv (step s e)) (h0 : Inv s) (es : List ε) :
    (∀ i ∈ emitted step emit s es, Good i) ↔ Guarded step ok s es := by
  induction es generalizing s with
  | nil => exact iff_of_true (fun i hi => absurd hi List.not_mem_nil) trivial
  | cons e es ih =>
    rw [emitted, List.forall_mem_append, Guarded, hemit s e h0]
    constructor
    · intro ⟨hok, hrest⟩
      exact ⟨hok, (ih (hstep s e h0 hok)).1 hrest⟩
    · intro ⟨hok, hrest⟩
      exact ⟨hok, (ih (hstep s e h0 hok)).2 hrest⟩

end Emit

end Runs
