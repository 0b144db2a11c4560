import Mathlib.Algebra.GroupWithZero.Nat
import Mathlib.Data.List.Basic

/-!
# Resynchronising scans

A scanner walks over a range of offsets one by one.  At every offset a recogniser `item` decides whether an item starts
there; when it does, the scan records it and continues behind it, otherwise it continues at the next offset.  There is
no index: what the scan finds depends on every offset it visits.

`Layout` is the scan as a derivation, `Tiling` describes its result without the order of the steps: the items are
recognised where they stand, do not overlap, and nothing is recognised outside them.  The two agree (`Layout.tiling`,
`Tiling.layout`), and a recogniser has exactly one layout (`Layout.unique`), so a list of items that tiles the range is
what every scan finds.
-/

namespace Resync

variable {item item' : Nat → Option Nat} {hi o : Nat} {L : List (Nat × Nat)}

/-- The first of the `k` offsets from `o` on at which an item starts, with its length. -/
def next (item : Nat → Option Nat) : Nat → Nat → Option (Nat × Nat)
  | 0, _ => none
  | k + 1, o =>
    match item o with
    | some n => some (o, n)
    | none => next item k (o + 1)

/-- The items found from `o` on below `hi`; the first argument bounds their number. -/
def scan (item : Nat → Option Nat) (hi : Nat) : Nat → Nat → List (Nat × Nat)
  | 0, _ => []
  | k + 1, o =>
    match next item (hi - o) o with
    | none => []
    | some (p, n) => (p, n) :: scan item hi k (p + n)

/-- The offset behind the last item. -/
def finish : Nat → List (Nat × Nat) → Nat
  | o, [] => o
  | _, (p, n) :: L => finish (p + n) L

/-- The scan from `o` below `hi` finds the items `L`. -/
inductive Layout (item : Nat → Option Nat) (hi : Nat) : Nat → List (Nat × Nat) → Prop where
  | done {o : Nat} (gap : ∀ q, o ≤ q → q < hi → item q = none) : Layout item hi o []
  | found {o p n : Nat} {L : List (Nat × Nat)} (le : o ≤ p) (lt : p < hi)
      (gap : ∀ q, o ≤ q → q < p → item q = none) (hit : item p = some n) (rest : Layout item hi (p + n) L) :
      Layout item hi o ((p, n) :: L)

/-- The offset `q` is in none of the items. -/
def Outside (L : List (Nat × Nat)) (q : Nat) : Prop := ∀ it ∈ L, q < it.1 ∨ it.1 + it.2 ≤ q

/-- The items `L` stand side by side in the range, and nothing is recognised outside them. -/
structure Tiling (item : Nat → Option Nat) (hi o : Nat) (L : List (Nat × Nat)) : Prop where
  range : ∀ it ∈ L, o ≤ it.1 ∧ it.1 < hi
  hit : ∀ it ∈ L, item it.1 = some it.2
  sep : L.Pairwise fun a b => a.1 + a.2 ≤ b.1
  gap : ∀ q, o ≤ q → q < hi → Outside L q → item q = none

/-! ### The next item -/

theorem next_eq_none {k : Nat} : next item k o = none ↔ ∀ q, o ≤ q → q < o + k → item q = none := by
  induction k generalizing o with
  | zero => exact ⟨fun _ q h1 h2 => by omega, fun _ => rfl⟩
  | succ k ih =>
    cases h : item o with
    | some n =>
      simp only [next, h, reduceCtorEq, false_iff]
      intro hq
      have := hq o (Nat.le_refl _) (by omega)
      rw [h] at this
      exact absurd this (by simp)
    | none =>
      simp only [next, h, ih]
      constructor
      · intro hq q h1 h2
        by_cases hqo : q = o
        · rw [hqo, h]
        · exact hq q (by omega) (by omega)
      · exact fun hq q h1 h2 => hq q (by omega) (by omega)

theorem next_eq_some {k p n : Nat} :
    next item k o = some (p, n) ↔
      o ≤ p ∧ p < o + k ∧ item p = some n ∧ ∀ q, o ≤ q → q < p → item q = none := by
  induction k generalizing o with
  | zero => simp only [next, reduceCtorEq, false_iff]; omega
  | succ k ih =>
    cases h : item o with
    | some m =>
      simp only [next, h, Option.some.injEq, Prod.mk.injEq]
      constructor
      · rintro ⟨rfl, rfl⟩
        exact ⟨Nat.le_refl _, by omega, h, fun q h1 h2 => by omega⟩
      · rintro ⟨h1, _, h3, h4⟩
        have hop : o = p := by
          by_contra hne
          have := h4 o (Nat.le_refl _) (by omega)
          rw [h] at this
          exact absurd this (by simp)
        subst hop
        rw [h] at h3
        exact ⟨rfl, by simpa using h3⟩
    | none =>
      simp only [next, h, ih]
      constructor
      · rintro ⟨h1, h2, h3, h4⟩
        refine ⟨by omega, by omega, h3, fun q hq1 hq2 => ?_⟩
        by_cases hqo : q = o
        · rw [hqo, h]
        · exact h4 q (by omega) hq2
      · rintro ⟨h1, h2, h3, h4⟩
        have hop : o ≠ p := by
          rintro rfl
          rw [h] at h3
          exact absurd h3 (by simp)
        exact ⟨by omega, by omega, h3, fun q hq1 hq2 => h4 q (by omega) hq2⟩

/-! ### Layouts -/

theorem Layout.next_nil (h : Layout item hi o []) : next item (hi - o) o = none := by
  cases h with
  | done gap => exact next_eq_none.2 fun q h1 h2 => gap q h1 (by omega)

theorem Layout.next_cons {p n : Nat} (h : Layout item hi o ((p, n) :: L)) :
    next item (hi - o) o = some (p, n) ∧ Layout item hi (p + n) L := by
  cases h with
  | found le lt gap hit rest => exact ⟨next_eq_some.2 ⟨le, by omega, hit, gap⟩, rest⟩

theorem Layout.unique {L' : List (Nat × Nat)} (h : Layout item hi o L) (h' : Layout item hi o L') : L = L' := by
  induction h generalizing L' with
  | done gap =>
    cases h' with
    | done _ => rfl
    | found le lt _ hit _ => rw [gap _ le lt] at hit; exact absurd hit (by simp)
  | @found o p n L le lt gap hit rest ih =>
    cases h' with
    | done gap' => rw [gap' p le lt] at hit; exact absurd hit (by simp)
    | @found _ p' n' L' le' lt' gap' hit' rest' =>
      have hp : p = p' := by
        rcases Nat.lt_trichotomy p p' with hlt | heq | hgt
        · rw [gap' p le hlt] at hit; exact absurd hit (by simp)
        · exact heq
        · rw [gap p' le' hgt] at hit'; exact absurd hit' (by simp)
      subst hp
      rw [hit] at hit'
      obtain rfl : n = n' := by simpa using hit'
      rw [ih rest']

/-- A recogniser that agrees on the range has the same layout. -/
theorem Layout.congr (h : Layout item hi o L) (hitem : ∀ q, o ≤ q → q < hi → item' q = item q) :
    Layout item' hi o L := by
  induction h with
  | done gap => exact Layout.done fun q h1 h2 => by rw [hitem q h1 h2, gap q h1 h2]
  | @found o p n L le lt gap hit rest ih =>
    refine Layout.found le lt ?_ ?_ (ih fun q h1 h2 => hitem q (by omega) h2)
    · intro q h1 h2
      rw [hitem q h1 (by omega), gap q h1 h2]
    · rw [hitem p le lt, hit]

/-- Items of positive length leave room for at most one item an offset. -/
theorem Layout.length_le (hpos : ∀ q n, item q = some n → 0 < n) (h : Layout item hi o L) : L.length ≤ hi - o := by
  induction h with
  | done _ => simp
  | @found o p n L le lt _ hit _ ih =>
    have := hpos p n hit
    simp only [List.length_cons]
    omega

/-- With items of positive length every range has a layout, and the scan finds it. -/
theorem layout_scan (hpos : ∀ q n, item q = some n → 0 < n) {k : Nat} (hk : hi - o < k) :
    Layout item hi o (scan item hi k o) := by
  induction k generalizing o with
  | zero => omega
  | succ k ih =>
    rw [scan]
    cases h : next item (hi - o) o with
    | none => exact Layout.done fun q h1 h2 => next_eq_none.1 h q h1 (by omega)
    | some it =>
      obtain ⟨p, n⟩ := it
      obtain ⟨h1, h2, h3, h4⟩ := next_eq_some.1 h
      have := hpos p n h3
      exact Layout.found h1 (by omega) h4 h3 (ih (by omega))

/-! ### Tilings -/

theorem Layout.tiling (h : Layout item hi o L) : Tiling item hi o L := by
  induction h with
  | done gap => exact ⟨by simp, by simp, List.Pairwise.nil, fun q h1 h2 _ => gap q h1 h2⟩
  | @found o p n L le lt gap hit rest ih =>
    refine ⟨?_, ?_, ?_, ?_⟩
    · intro it hit
      rcases List.mem_cons.1 hit with rfl | hit
      · exact ⟨le, lt⟩
      · have := ih.range it hit; omega
    · intro it hmem
      rcases List.mem_cons.1 hmem with rfl | hmem
      · exact hit
      · exact ih.hit it hmem
    · exact List.pairwise_cons.2 ⟨fun b hb => (ih.range b hb).1, ih.sep⟩
    · intro q h1 h2 hout
      rcases hout (p, n) (List.mem_cons_self ..) with hq | hq
      · exact gap q h1 hq
      · exact ih.gap q hq h2 fun it hmem => hout it (List.mem_cons_of_mem _ hmem)

theorem Tiling.layout (h : Tiling item hi o L) : Layout item hi o L := by
  induction L generalizing o with
  | nil => exact Layout.done fun q h1 h2 => h.gap q h1 h2 (by simp [Outside])
  | cons it L ih =>
    obtain ⟨p, n⟩ := it
    obtain ⟨hp1, hp2⟩ := h.range (p, n) (List.mem_cons_self ..)
    obtain ⟨hsep, hrest⟩ := List.pairwise_cons.1 h.sep
    refine Layout.found hp1 hp2 ?_ (h.hit _ (List.mem_cons_self ..)) (ih ⟨?_, ?_, hrest, ?_⟩)
    · intro q h1 h2
      refine h.gap q h1 (by omega) fun it hmem => ?_
      rcases List.mem_cons.1 hmem with rfl | hmem
      · exact Or.inl h2
      · have := hsep it hmem; left; omega
    · exact fun it hmem => ⟨hsep it hmem, (h.range it (List.mem_cons_of_mem _ hmem)).2⟩
    · exact fun it hmem => h.hit it (List.mem_cons_of_mem _ hmem)
    · intro q h1 h2 hout
      refine h.gap q (by omega) h2 fun it hmem => ?_
      rcases List.mem_cons.1 hmem with rfl | hmem
      · exact Or.inr h1
      · exact hout it hmem

/-- A recogniser that keeps the items, and whose further items run over the end `e` behind them, finds items of the
same lengths only when it finds the same items. -/
theorem Layout.eq_of_lengths {L' : List (Nat × Nat)} {e : Nat} (h : Layout item hi o L) (h' : Layout item' hi o L')
    (hlen : L.map Prod.snd = L'.map Prod.snd) (hin : ∀ it ∈ L, it.1 + it.2 ≤ e)
    (hkeep : ∀ it ∈ L, item' it.1 = some it.2)
    (hnew : ∀ q n, o ≤ q → q < hi → item' q = some n → item q = some n ∨ e < q + n) : L = L' := by
  induction h generalizing L' with
  | done gap => exact (List.map_eq_nil_iff.1 hlen.symm).symm
  | @found o p n L le lt gap hit rest ih =>
    cases h' with
    | done gap' => exact absurd hlen (by simp)
    | @found _ p' n' L' le' lt' gap' hit' rest' =>
      simp only [List.map_cons, List.cons.injEq] at hlen
      obtain ⟨rfl, hlen⟩ := hlen
      have hp : p = p' := by
        rcases Nat.lt_trichotomy p p' with hlt | heq | hgt
        · have hk := hkeep (p, n) (List.mem_cons_self ..)
          rw [gap' p le hlt] at hk
          exact absurd hk (by simp)
        · exact heq
        · -- the earlier item would have to be as long as the one it precedes, which ends before `e`
          have hend := hin (p, n) (List.mem_cons_self ..)
          rcases hnew p' n le' lt' hit' with hold | hover
          · rw [gap p' le' hgt] at hold
            exact absurd hold (by simp)
          · simp only at hend
            omega
      subst hp
      rw [ih rest' hlen (fun it hmem => hin it (List.mem_cons_of_mem _ hmem))
        (fun it hmem => hkeep it (List.mem_cons_of_mem _ hmem)) fun q n hq => hnew q n (by omega)]

/-! ### The end of the scan -/

/-- The layout behind a prefix of the items. -/
theorem Layout.drop {L' : List (Nat × Nat)} (h : Layout item hi o (L ++ L')) : Layout item hi (finish o L) L' := by
  induction L generalizing o with
  | nil => exact h
  | cons it L ih => exact ih h.next_cons.2

theorem finish_append (L L' : List (Nat × Nat)) : finish o (L ++ L') = finish (finish o L) L' := by
  induction L generalizing o with
  | nil => rfl
  | cons it L ih => exact ih

theorem finish_concat (L : List (Nat × Nat)) (p n : Nat) : finish o (L ++ [(p, n)]) = p + n := by
  rw [finish_append]
  rfl

theorem start_le_finish (hstart : ∀ it ∈ L, o ≤ it.1) (hsep : L.Pairwise fun a b => a.1 + a.2 ≤ b.1) :
    o ≤ finish o L := by
  induction L generalizing o with
  | nil => exact Nat.le_refl _
  | cons a L ih =>
    obtain ⟨hlt, hrest⟩ := List.pairwise_cons.1 hsep
    have h1 := hstart a (List.mem_cons_self ..)
    have h2 : a.1 + a.2 ≤ finish (a.1 + a.2) L := ih hlt hrest
    show o ≤ finish (a.1 + a.2) L
    omega

/-- Every item ends before the offset behind the last one. -/
theorem le_finish (hsep : L.Pairwise fun a b => a.1 + a.2 ≤ b.1) {it : Nat × Nat} (h : it ∈ L) :
    it.1 + it.2 ≤ finish o L := by
  induction L generalizing o with
  | nil => exact absurd h (by simp)
  | cons a L ih =>
    obtain ⟨hlt, hrest⟩ := List.pairwise_cons.1 hsep
    rcases List.mem_cons.1 h with rfl | h
    · exact start_le_finish hlt hrest
    · exact ih hrest h

/-- The items take no more room than the scan needs to pass them. -/
theorem Layout.sum_le_finish (h : Layout item hi o L) : o + (L.map Prod.snd).sum ≤ finish o L := by
  induction h with
  | done _ => exact Nat.le_refl _
  | @found o p n L le lt gap hit rest ih =>
    simp only [List.map_cons, List.sum_cons, finish]
    omega

theorem finish_le {e : Nat} (ho : o ≤ e) (h : ∀ it ∈ L, it.1 + it.2 ≤ e) : finish o L ≤ e := by
  induction L generalizing o with
  | nil => exact ho
  | cons a L ih => exact ih (h a (List.mem_cons_self ..)) fun it hit => h it (List.mem_cons_of_mem _ hit)

/-! ### Packing -/

/-- The same items one directly behind the other. -/
def pack : Nat → List (Nat × Nat) → List (Nat × Nat)
  | _, [] => []
  | o, (_, n) :: L => (o, n) :: pack (o + n) L

theorem finish_pack : finish o (pack o L) = o + (L.map Prod.snd).sum := by
  induction L generalizing o with
  | nil => rfl
  | cons it L ih =>
    simp only [pack, finish, ih, List.map_cons, List.sum_cons]
    omega

theorem pack_range {it : Nat × Nat} (h : it ∈ pack o L) :
    o ≤ it.1 ∧ it.1 + it.2 ≤ o + (L.map Prod.snd).sum := by
  induction L generalizing o with
  | nil => exact absurd h (by simp [pack])
  | cons a L ih =>
    simp only [List.map_cons, List.sum_cons]
    rcases List.mem_cons.1 h with rfl | h
    · exact ⟨Nat.le_refl _, by omega⟩
    · have := ih h
      omega

end Resync
