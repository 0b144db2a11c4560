import Mathlib.Algebra.GroupWithZero.Nat
import Mathlib.Data.List.Forall2

/-!
# Sections laid out by a running address

A list of sections is laid out in a memory: each section starts at the running address, which is then advanced.  When
the advance is not the length of the section, sections can overlap; `pairwise_apart_iff` says exactly when they do not.
-/

namespace Placement

/-- A range of addresses, by its start and its length. -/
structure Span where
  start : Nat
  len : Nat
  deriving DecidableEq

/-- The address lies in the range. -/
def Span.Has (a : Span) (x : Nat) : Prop := a.start ≤ x ∧ x < a.start + a.len

/-- No address lies in both ranges. -/
def Apart (a b : Span) : Prop := ∀ x, a.Has x → ¬b.Has x

/-- The ranges are the same, up to the starts of empty ones. -/
def Alike (a b : Span) : Prop := a.len = b.len ∧ (0 < a.len → a.start = b.start)

/-- A section before it gets its address: its length and the advance behind it. -/
structure Slot where
  len : Nat
  adv : Nat

/-- The layout from an address on. -/
def place (s : Nat) : List Slot → List Span
  | [] => []
  | x :: xs => ⟨s, x.len⟩ :: place (s + x.adv) xs

/-- The way to the first section that is not empty. -/
def gap : List Slot → Option Nat
  | [] => none
  | x :: xs => if 0 < x.len then some 0 else (gap xs).map (x.adv + ·)

/-- Every section is empty, or ends before the next one that is not. -/
def Separated : List Slot → Prop
  | [] => True
  | x :: xs => (0 < x.len → ∀ g, gap xs = some g → x.len ≤ x.adv + g) ∧ Separated xs

/-! ### Ranges -/

theorem apart_iff {a b : Span} : Apart a b ↔
    a.len = 0 ∨ b.len = 0 ∨ a.start + a.len ≤ b.start ∨ b.start + b.len ≤ a.start := by
  constructor
  · intro h
    by_contra hnot
    -- the later start lies in both
    have hmax := h (max a.start b.start)
    unfold Span.Has at hmax
    omega
  · intro h x ha hb
    unfold Span.Has at ha hb
    omega

theorem apart_congr {a b a' b' : Span} (ha : Alike a a') (hb : Alike b b') : Apart a b ↔ Apart a' b' := by
  unfold Alike at ha hb
  rw [apart_iff, apart_iff]
  omega

theorem pairwise_congr {as bs : List Span} (h : List.Forall₂ Alike as bs) :
    as.Pairwise Apart ↔ bs.Pairwise Apart := by
  induction h with
  | nil => simp
  | @cons a b as bs hab hall ih =>
    rw [List.pairwise_cons, List.pairwise_cons, ih]
    have hhead : (∀ x ∈ as, Apart a x) ↔ ∀ y ∈ bs, Apart b y := by
      clear ih
      induction hall with
      | nil => simp
      | cons hxy _ ih => rw [List.forall_mem_cons, List.forall_mem_cons, ih, apart_congr hab hxy]
    rw [hhead]

theorem has_lt_iff {a : Span} {limit : Nat} :
    (∀ x, a.Has x → x < limit) ↔ (0 < a.len → a.start + a.len ≤ limit) := by
  constructor
  · intro h hpos
    -- the last address of the range
    have hlast := h (a.start + a.len - 1)
    unfold Span.Has at hlast
    omega
  · intro h x hx
    unfold Span.Has at hx
    omega

theorem inside_congr {as bs : List Span} (h : List.Forall₂ Alike as bs) (limit : Nat) :
    (∀ a ∈ as, ∀ x, a.Has x → x < limit) ↔ ∀ b ∈ bs, 0 < b.len → b.start + b.len ≤ limit := by
  induction h with
  | nil => simp
  | @cons a b as bs hab _ ih =>
    obtain ⟨hlen, hstart⟩ := hab
    rw [List.forall_mem_cons, List.forall_mem_cons, ih, has_lt_iff]
    have hhead : (0 < a.len → a.start + a.len ≤ limit) ↔ (0 < b.len → b.start + b.len ≤ limit) := by omega
    rw [hhead]

theorem lens_congr {as bs : List Span} (h : List.Forall₂ Alike as bs) : as.map Span.len = bs.map Span.len := by
  induction h with
  | nil => rfl
  | cons hab _ ih => rw [List.map_cons, List.map_cons, hab.1, ih]

/-! ### Layouts -/

/-- Behind a range, the layout stays apart from it when the first section that is not empty does. -/
theorem apart_place_iff {a : Span} {s : Nat} (hs : a.start ≤ s) (xs : List Slot) :
    (∀ b ∈ place s xs, Apart a b) ↔ (0 < a.len → ∀ g, gap xs = some g → a.start + a.len ≤ s + g) := by
  induction xs generalizing s with
  | nil => simp [place, gap]
  | cons x xs ih =>
    rw [place, List.forall_mem_cons, ih (by omega), gap, apart_iff]
    by_cases hx : 0 < x.len
    · rw [if_pos hx]
      constructor
      · rintro ⟨hhead, -⟩ ha g hg
        obtain rfl := Option.some.inj hg
        dsimp only at hhead
        omega
      · intro h
        constructor
        · by_cases ha : 0 < a.len
          · exact Or.inr (Or.inr (Or.inl (h ha 0 rfl)))
          · exact Or.inl (Nat.eq_zero_of_not_pos ha)
        · intro ha g _
          have hfirst := h ha 0 rfl
          omega
    · rw [if_neg hx]
      constructor
      · rintro ⟨-, hrest⟩ ha g hg
        obtain ⟨g', hg', rfl⟩ := Option.map_eq_some_iff.1 hg
        have hle := hrest ha g' hg'
        omega
      · intro h
        refine ⟨Or.inr (Or.inl (Nat.eq_zero_of_not_pos hx)), fun ha g hg => ?_⟩
        have hle := h ha (x.adv + g) (by rw [hg]; rfl)
        omega

/-- The sections of a layout do not overlap exactly when they are separated. -/
theorem pairwise_apart_iff (s : Nat) (xs : List Slot) : (place s xs).Pairwise Apart ↔ Separated xs := by
  induction xs generalizing s with
  | nil => simp [place, Separated]
  | cons x xs ih =>
    have hhead := apart_place_iff (a := ⟨s, x.len⟩) (Nat.le_add_right s x.adv) xs
    simp only [Nat.add_assoc, Nat.add_le_add_iff_left] at hhead
    rw [place, List.pairwise_cons, ih, hhead, Separated]

/-- A section whose advance covers it is separated from what follows. -/
theorem separated_cons_of_le {x : Slot} (h : x.len ≤ x.adv) (xs : List Slot) : Separated (x :: xs) ↔ Separated xs :=
  and_iff_right fun _ _ _ => Nat.le_trans h (Nat.le_add_right _ _)

/-- Before sections that are advanced by their lengths, the way is zero unless all of them are empty. -/
theorem gap_exact (lens : List Nat) : gap (lens.map fun n => ⟨n, n⟩) = if 0 < lens.sum then some 0 else none := by
  induction lens with
  | nil => rfl
  | cons n lens ih =>
    rw [List.map_cons, gap, ih, List.sum_cons]
    by_cases hn : 0 < n
    · rw [if_pos hn, if_pos (by omega)]
    · obtain rfl : n = 0 := by omega
      rw [if_neg hn, Nat.zero_add]
      split <;> rfl

theorem separated_exact (lens : List Nat) : Separated (lens.map fun n => ⟨n, n⟩) := by
  induction lens with
  | nil => trivial
  | cons n lens ih => exact (separated_cons_of_le (Nat.le_refl n) _).2 ih

end Placement
