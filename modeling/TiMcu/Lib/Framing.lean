import Mathlib.Data.List.Basic
import Mathlib.Data.List.Flatten
import Mathlib.Data.List.Induction

/-!
# Frames in a stream

A receiver holds the symbols of the frame it is loading.  Every further symbol is appended, and a verdict on the held
symbols says whether more are needed, whether they are dropped, or whether they are a complete frame.

`held` and `frames` are what a receiver holds and has completed at the end of a stream.  Both depend on the stream only,
not on how it was cut into pieces (`held_append`, `frames_append`), and a concatenation of frames gives back exactly
these frames (`frames_flatten`).
-/

namespace Framing

/-- The verdict on the symbols loaded so far. -/
inductive Verdict
  | more | drop | frame
  deriving DecidableEq, Repr

variable {α : Type*} {verdict : List α → Verdict} {l f : List α}

/-- What a receiver holds after one more symbol. -/
def keep (verdict : List α → Verdict) (l : List α) : List α :=
  match verdict l with
  | .more => l
  | _ => []

/-- The frame that one more symbol completes. -/
def complete (verdict : List α → Verdict) (l : List α) : List (List α) :=
  match verdict l with
  | .frame => [l]
  | _ => []

/-- What a receiver that holds `l` holds after the stream. -/
def held (verdict : List α → Verdict) : List α → List α → List α
  | l, [] => l
  | l, b :: bs => held verdict (keep verdict (l ++ [b])) bs

/-- The frames that a receiver that holds `l` completes in the stream. -/
def frames (verdict : List α → Verdict) : List α → List α → List (List α)
  | _, [] => []
  | l, b :: bs => complete verdict (l ++ [b]) ++ frames verdict (keep verdict (l ++ [b])) bs

/-- The symbols are a frame: no shorter part of them is dropped or complete. -/
structure IsFrame (verdict : List α → Verdict) (f : List α) : Prop where
  ne_nil : f ≠ []
  more : ∀ p, p ≠ [] → p <+: f → p ≠ f → verdict p = .more
  frame : verdict f = .frame

/-! ### Pieces of a stream -/

@[simp] theorem held_nil : held verdict l [] = l := rfl

@[simp] theorem frames_nil : frames verdict l [] = [] := rfl

theorem keep_more (h : verdict l = .more) : keep verdict l = l := by
  simp [keep, h]

theorem keep_drop (h : verdict l = .drop) : keep verdict l = [] := by
  simp [keep, h]

theorem keep_frame (h : verdict l = .frame) : keep verdict l = [] := by
  simp [keep, h]

theorem complete_frame (h : verdict l = .frame) : complete verdict l = [l] := by
  simp [complete, h]

theorem complete_of_ne (h : verdict l ≠ .frame) : complete verdict l = [] := by
  cases hv : verdict l with
  | frame => exact absurd hv h
  | more | drop => simp [complete, hv]

theorem held_append (l bs cs : List α) : held verdict l (bs ++ cs) = held verdict (held verdict l bs) cs := by
  induction bs generalizing l with
  | nil => rfl
  | cons b bs ih => exact ih _

theorem frames_append (l bs cs : List α) :
    frames verdict l (bs ++ cs) = frames verdict l bs ++ frames verdict (held verdict l bs) cs := by
  induction bs generalizing l with
  | nil => rfl
  | cons b bs ih => rw [List.cons_append, frames, frames, ih, List.append_assoc, held]

/-- One symbol more of a stream. -/
theorem held_take_succ (l : List α) {bs : List α} {n : Nat} (h : n < bs.length) :
    held verdict l (bs.take (n + 1)) = keep verdict (held verdict l (bs.take n) ++ [bs[n]]) := by
  rw [List.take_succ_eq_append_getElem h, held_append, held, held_nil]

theorem frames_take_succ (l : List α) {bs : List α} {n : Nat} (h : n < bs.length) :
    frames verdict l (bs.take (n + 1)) =
      frames verdict l (bs.take n) ++ complete verdict (held verdict l (bs.take n) ++ [bs[n]]) := by
  rw [List.take_succ_eq_append_getElem h, frames_append, frames, frames_nil, List.append_nil]

/-- The front of a stream completes the first frames of it. -/
theorem frames_isPrefix (l : List α) {bs cs : List α} (h : bs <+: cs) : frames verdict l bs <+: frames verdict l cs := by
  obtain ⟨ds, rfl⟩ := h
  rw [frames_append]
  exact List.prefix_append _ _

/-! ### What is held and what is completed -/

/-- A frame is completed by the first symbol, or later. -/
theorem mem_frames_cons {b : α} {bs : List α} (h : f ∈ frames verdict l (b :: bs)) :
    (f = l ++ [b] ∧ verdict f = .frame) ∨ f ∈ frames verdict (keep verdict (l ++ [b])) bs := by
  rw [frames, List.mem_append] at h
  refine h.imp_left fun hf => ?_
  cases hv : verdict (l ++ [b]) with
  | frame =>
    rw [complete_frame hv, List.mem_singleton] at hf
    exact ⟨hf, hf ▸ hv⟩
  | more | drop => simp [complete, hv] at hf

theorem verdict_of_mem_frames {bs : List α} (h : f ∈ frames verdict l bs) : verdict f = .frame := by
  induction bs generalizing l with
  | nil => simp at h
  | cons b bs ih =>
    rcases mem_frames_cons h with ⟨-, hv⟩ | h
    · exact hv
    · exact ih h

theorem keep_length_le (verdict : List α → Verdict) (l : List α) : (keep verdict l).length ≤ l.length := by
  unfold keep
  split
  · exact Nat.le_refl _
  · exact Nat.zero_le _

theorem held_length_le (l bs : List α) : (held verdict l bs).length ≤ l.length + bs.length := by
  induction bs generalizing l with
  | nil => exact Nat.le_refl _
  | cons b bs ih =>
    have hkeep := keep_length_le verdict (l ++ [b])
    have h := ih (keep verdict (l ++ [b]))
    simp only [List.length_append, List.length_cons, List.length_nil] at hkeep ⊢
    rw [held]
    omega

/-- A completed frame is no longer than what was held and fed. -/
theorem length_of_mem_frames {bs : List α} (h : f ∈ frames verdict l bs) : f.length ≤ l.length + bs.length := by
  induction bs generalizing l with
  | nil => simp at h
  | cons b bs ih =>
    rcases mem_frames_cons h with ⟨rfl, -⟩ | h
    · simp
    · have hkeep := keep_length_le verdict (l ++ [b])
      have hle := ih h
      simp only [List.length_append, List.length_cons, List.length_nil] at hkeep ⊢
      omega

/-! ### Streams of frames -/

/-- Symbols behind each of which more are needed are all held. -/
theorem front_of_more {p : List α} (h : ∀ q, q ≠ [] → q <+: p → verdict q = .more) :
    held verdict [] p = p ∧ frames verdict [] p = [] := by
  induction p using List.reverseRecOn with
  | nil => exact ⟨rfl, rfl⟩
  | append_singleton p b ih =>
    obtain ⟨hheld, hframes⟩ := ih fun q hne hq => h q hne (hq.trans (List.prefix_append p [b]))
    have hmore : verdict (p ++ [b]) = .more := h _ (by simp) List.prefix_rfl
    rw [held_append, frames_append, hheld, hframes]
    exact ⟨keep_more hmore, by simp [frames, complete, hmore]⟩

/-- The splits of a frame into a front and what is still to come. -/
theorem IsFrame.of_splits (hne : f ≠ [])
    (hmore : ∀ p t, p ≠ [] → 0 < t.length → f = p ++ t → verdict p = .more) (hf : verdict f = .frame) :
    IsFrame verdict f := by
  refine ⟨hne, ?_, hf⟩
  rintro p hp ⟨t, rfl⟩ hlt
  refine hmore p t hp ?_ rfl
  rw [List.length_pos_iff]
  rintro rfl
  exact hlt (List.append_nil p).symm

/-- Loading the front of a frame. -/
theorem IsFrame.front (h : IsFrame verdict f) {p q : List α} (hf : f = p ++ q) (hq : q ≠ []) :
    held verdict [] p = p ∧ frames verdict [] p = [] := by
  refine front_of_more fun r hne hr => h.more r hne (hf ▸ hr.trans (List.prefix_append p q)) fun heq => hq ?_
  have hle := hr.length_le
  rw [heq, hf, List.length_append] at hle
  exact List.length_eq_zero_iff.1 (by omega)

theorem IsFrame.fed (h : IsFrame verdict f) : held verdict [] f = [] ∧ frames verdict [] f = [f] := by
  obtain ⟨p, b, rfl⟩ := List.eq_nil_or_concat f |>.resolve_left h.ne_nil
  rw [List.concat_eq_append] at h ⊢
  obtain ⟨hheld, hframes⟩ := h.front rfl (List.cons_ne_nil b [])
  rw [held_append, frames_append, hheld, hframes]
  exact ⟨keep_frame h.frame, by simp [frames, complete_frame h.frame]⟩

/-- A concatenation of frames is received as these frames, and nothing is held at its end. -/
theorem frames_flatten {fs : List (List α)} (h : ∀ f ∈ fs, IsFrame verdict f) :
    held verdict [] fs.flatten = [] ∧ frames verdict [] fs.flatten = fs := by
  induction fs with
  | nil => exact ⟨rfl, rfl⟩
  | cons f fs ih =>
    obtain ⟨hheld, hframes⟩ := (h f List.mem_cons_self).fed
    obtain ⟨hheld', hframes'⟩ := ih fun g hg => h g (List.mem_cons_of_mem f hg)
    rw [List.flatten_cons, held_append, frames_append, hheld, hframes, hheld', hframes']
    exact ⟨rfl, rfl⟩

/-- Symbols that begin no frame are passed over. -/
theorem held_noise {bs : List α} (h : ∀ b ∈ bs, verdict [b] = .drop) :
    held verdict [] bs = [] ∧ frames verdict [] bs = [] := by
  induction bs with
  | nil => exact ⟨rfl, rfl⟩
  | cons b bs ih =>
    have hdrop : verdict ([] ++ [b]) = .drop := h b List.mem_cons_self
    have hne : verdict ([] ++ [b]) ≠ .frame := by rw [hdrop]; simp
    rw [held, frames, keep_drop hdrop, complete_of_ne hne]
    exact ih fun c hc => h c (List.mem_cons_of_mem b hc)

/-- What a receiver holds begins every stream of it: loaded from nothing it is held again, without a frame. -/
theorem frames_front {fs : List (List α)} {bs : List α} (h : ∀ f ∈ fs, IsFrame verdict f) (hbs : bs <+: fs.flatten) :
    frames verdict [] bs <+: fs := by
  obtain ⟨cs, hcs⟩ := hbs
  have hall := (frames_flatten h).2
  rw [← hcs, frames_append] at hall
  exact ⟨_, hall⟩

end Framing
