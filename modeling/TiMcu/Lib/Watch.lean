import TiMcu.Lib.Dialog

/-!
# Watching dialogs

A watch follows the questions of a dialog and their answers with a state of its own, and says which questions are
allowed in which state.  `Holds` is the weakest precondition: whatever is answered, every question is allowed, and the
result and the state of the watch in the end are as demanded.  `Holds.run` says what that means for the log of a run.
-/

namespace Dialog

structure Watch (τ ρ μ : Type) where
  allowed : μ → τ → Prop
  next : μ → τ → ρ → μ

variable {τ ρ σ α β μ : Type}

def Holds (w : Watch τ ρ μ) (post : α → μ → Prop) : μ → Dialog τ ρ α → Prop
  | m, .done a => post a m
  | m, .ask t next => w.allowed m t ∧ ∀ r, Holds w post (w.next m t r) (next r)

/-- Every question of the log is allowed. -/
def Watch.Allows (w : Watch τ ρ μ) : μ → List (τ × ρ) → Prop
  | _, [] => True
  | m, (t, r) :: log => w.allowed m t ∧ w.Allows (w.next m t r) log

/-- The state of the watch after a log. -/
def Watch.after (w : Watch τ ρ μ) (m : μ) (log : List (τ × ρ)) : μ := log.foldl (fun m e => w.next m e.1 e.2) m

variable {w : Watch τ ρ μ} {post post' : α → μ → Prop} {m : μ} {p : Dialog τ ρ α}

theorem Holds.mono (h : Holds w post m p) (himp : ∀ a m', post a m' → post' a m') : Holds w post' m p := by
  induction p generalizing m with
  | done a => exact himp a m h
  | ask t next ih => exact ⟨h.1, fun r => ih r (h.2 r)⟩

theorem holds_bind {g : α → Dialog τ ρ β} {post : β → μ → Prop} :
    Holds w post m (p >>= g) ↔ Holds w (fun a m' => Holds w post m' (g a)) m p := by
  induction p generalizing m with
  | done a => exact Iff.rfl
  | ask t next ih => exact and_congr_right fun _ => forall_congr' fun r => ih r

theorem Holds.bind {g : α → Dialog τ ρ β} {post' : β → μ → Prop} (h : Holds w post m p)
    (hg : ∀ a m', post a m' → Holds w post' m' (g a)) : Holds w post' m (p >>= g) :=
  holds_bind.2 (h.mono hg)

/-- A run with any device. -/
theorem Holds.run (h : Holds w post m p) (dev : σ → τ → ρ × σ) (s : σ) :
    w.Allows m (Dialog.run dev s p).log ∧
      post (Dialog.run dev s p).result (w.after m (Dialog.run dev s p).log) := by
  induction p generalizing m s with
  | done a => exact ⟨trivial, h⟩
  | ask t next ih =>
    have hrest := ih (dev s t).1 (h.2 (dev s t).1) (dev s t).2
    exact ⟨⟨h.1, hrest.1⟩, hrest.2⟩

theorem Watch.allows_append {log log' : List (τ × ρ)} :
    w.Allows m (log ++ log') ↔ w.Allows m log ∧ w.Allows (w.after m log) log' := by
  induction log generalizing m with
  | nil => simp [Watch.Allows, Watch.after]
  | cons e log ih => simp only [List.cons_append, Watch.Allows, ih, and_assoc, Watch.after, List.foldl_cons]

/-- A question stands in the log only where it is allowed. -/
theorem Watch.Allows.at {log log' : List (τ × ρ)} {e : τ × ρ} (h : w.Allows m (log ++ e :: log')) :
    w.allowed (w.after m log) e.1 := (allows_append.1 h).2.1

end Dialog
