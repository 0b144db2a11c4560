import TiMcu.FlashFs.Page

/-!
# The lookup

What `mm_find_field` returns on a page that holds the items `L`: nothing when no item carries the identifier
(`mmFindField_none`), the item when exactly one does (`mmFindField_one`), and the later one of two, after the earlier one
was zeroed (`mmFindField_two`).  When the earlier one is too long to be zeroed the lookup fails
(`mmFindField_two_of_gt`).  The loop is followed in pieces: a part of the page without the identifier is passed over
(`mmFindLoop_skip`), an item with it takes one more turn.
-/

namespace TiMcu.FlashFs

open NorFlash

variable {crc : List UInt8 → UInt8} {f : Mem} {s hi k : Nat} {id : UInt16} {c : MmCursor} {A B C L : List (Nat × Nat)}

/-- No item carries the identifier. -/
def NoMatch (f : Mem) (id : UInt16) (L : List (Nat × Nat)) : Prop := ∀ it ∈ L, itemId f it ≠ id

theorem NoMatch.congr {g : Mem} (h : NoMatch f id L) (hids : ∀ it ∈ L, itemId g it = itemId f it) : NoMatch g id L :=
  fun it hit => by rw [hids it hit]; exact h it hit

theorem noMatch_iff : NoMatch f id L ↔ id ∉ L.map (itemId f) := by
  unfold NoMatch
  rw [List.mem_map]
  constructor
  · rintro h ⟨it, hit, hid⟩
    exact h it hit hid
  · exact fun h it hit hid => h ⟨it, hit, hid⟩

private theorem mmFindLoop_done (h : Resync.Layout (mmItemAt crc c.nvs.mem) (hi - minFileLen) c.offset []) :
    mmFindLoop crc id hi k c = (true, c) := by
  cases k with
  | zero => rfl
  | succ k => rw [mmFindLoop, mmGetNext, h.next_nil]

/-- A part of the page without the identifier is passed over. -/
theorem mmFindLoop_skip (h : Resync.Layout (mmItemAt crc c.nvs.mem) (hi - minFileLen) c.offset (A ++ B))
    (hA : NoMatch c.nvs.mem id A) :
    ∃ item, mmFindLoop crc id hi (A.length + k) c =
      mmFindLoop crc id hi k ⟨c.nvs, Resync.finish c.offset A, item, c.prevItemOffset⟩ := by
  induction A generalizing c with
  | nil => exact ⟨c.item, by simp [Resync.finish]⟩
  | cons it A ih =>
    obtain ⟨p, n⟩ := it
    obtain ⟨hnext, hrest⟩ := h.next_cons
    have hp : (mmItem c.nvs.mem p).id ≠ id := hA (p, n) (List.mem_cons_self ..)
    obtain ⟨item, hloop⟩ := @ih ⟨c.nvs, p + n, some p, c.prevItemOffset⟩ hrest
      fun it hit => hA it (List.mem_cons_of_mem _ hit)
    refine ⟨item, ?_⟩
    rw [show ((p, n) :: A).length + k = A.length + k + 1 by simp only [List.length_cons]; omega, mmFindLoop, mmGetNext,
      hnext]
    simp only [hp, false_and, ↓reduceIte]
    exact hloop

/-- The first item with the identifier. -/
private theorem mmFindLoop_first {p n : Nat}
    (h : Resync.Layout (mmItemAt crc c.nvs.mem) (hi - minFileLen) c.offset ((p, n) :: B))
    (hid : (mmItem c.nvs.mem p).id = id) (hprev : c.prevItemOffset = none) :
    mmFindLoop crc id hi (k + 1) c = mmFindLoop crc id hi k ⟨c.nvs, p + n, some p, some p⟩ := by
  have hnid := mmItemAt_id (h.tiling.hit (p, n) (List.mem_cons_self ..))
  rw [mmFindLoop, mmGetNext, h.next_cons.1]
  simp only [hprev]
  rw [if_pos ⟨hid, hnid⟩]

/-- A further item with the identifier: the earlier one is zeroed. -/
private theorem mmFindLoop_again {p n a m : Nat}
    (h : Resync.Layout (mmItemAt crc c.nvs.mem) (hi - minFileLen) c.offset ((p, n) :: B))
    (hid : (mmItem c.nvs.mem p).id = id) (hprev : c.prevItemOffset = some a)
    (hm : itemHeaderSz + (mmItem c.nvs.mem a).length.toNat = m) :
    mmFindLoop crc id hi (k + 1) c =
      if (mmFlashZero c.nvs a m).1 then
        mmFindLoop crc id hi k ⟨(mmFlashZero c.nvs a m).2, p + n, some p, some p⟩
      else (false, ⟨(mmFlashZero c.nvs a m).2, p, some p, some a⟩) := by
  have hnid := mmItemAt_id (h.tiling.hit (p, n) (List.mem_cons_self ..))
  rw [mmFindLoop, mmGetNext, h.next_cons.1]
  simp only [hprev, hm]
  rw [if_pos ⟨hid, hnid⟩]

/-! ### The result -/

/-- The output parameters of a lookup that reaches the end of the page. -/
def foundOut (s : Nat) (L : List (Nat × Nat)) (item : Option Nat) : MmFound :=
  ⟨item, some (pageEmpty s L), s + flashFsPageSize - pageEmpty s L⟩

theorem PageHolds.remSpace (h : PageHolds crc f s L) :
    sub32 flashFsPageSize (pageEmpty s L - s) = s + flashFsPageSize - pageEmpty s L := by
  have h1 := h.le_empty
  have h2 := h.empty_le
  have h3 := flashFsPageSize_eq
  rw [sub32_of_le (by omega) (by omega)]
  unfold qwordLen at h1
  omega

variable {nvs : Nvs} {out : MmFound}

/-- What `mm_find_field` makes of the end of its loop. -/
private def findResult (s : Nat) (out : MmFound) : Bool × MmCursor → Bool × Nvs × MmFound
  | (false, c) => (false, c.nvs, { out with item := c.item })
  | (true, c) =>
    (c.prevItemOffset.isSome, c.nvs, ⟨c.prevItemOffset, some c.offset, sub32 flashFsPageSize (c.offset - s)⟩)

private theorem mmFindField_of_loop {n : Nat} {t : Bool × MmCursor} (h : ActivePage nvs.mem s)
    (hn : flashFsPageSize = n)
    (hloop : mmFindLoop crc id (s + flashFsPageSize) n ⟨nvs, s + qwordLen, out.item, none⟩ = t) :
    mmFindField crc nvs id out = findResult s out t := by
  subst hn hloop
  rw [mmFindField, show mmGetActivePage nvs.mem = some (s, flashFsPageSize) from h]
  dsimp only
  cases mmFindLoop crc id (s + flashFsPageSize) flashFsPageSize ⟨nvs, s + qwordLen, out.item, none⟩ with
  | mk ok c => cases ok <;> rfl

private theorem findResult_found (h : PageHolds crc f s L) {item prev : Option Nat} :
    findResult s out (true, ⟨nvs, pageEmpty s L, item, prev⟩) = (prev.isSome, nvs, foundOut s L prev) := by
  simp only [findResult, h.remSpace, foundOut]

private theorem fuel_split {n : Nat} (h : n ≤ flashFsPageSize) : ∃ k, flashFsPageSize = n + k :=
  ⟨flashFsPageSize - n, by omega⟩

/-- No item carries the identifier. -/
theorem mmFindField_none (h : PageHolds crc nvs.mem s L) (hL : NoMatch nvs.mem id L) :
    mmFindField crc nvs id out = (false, nvs, foundOut s L none) := by
  obtain ⟨k, hk⟩ := fuel_split (Nat.le_of_lt h.length_le)
  have hlay := h.layout
  rw [← List.append_nil L] at hlay
  obtain ⟨item, hskip⟩ := @mmFindLoop_skip crc (s + flashFsPageSize) k id ⟨nvs, s + qwordLen, out.item, none⟩ L []
    hlay hL
  have hdone := @mmFindLoop_done crc (s + flashFsPageSize) k id
    ⟨nvs, Resync.finish (s + qwordLen) L, item, none⟩ hlay.drop
  rw [mmFindField_of_loop h.active hk (hskip.trans hdone)]
  exact findResult_found h

/-- Exactly one item carries the identifier. -/
theorem mmFindField_one {it : Nat × Nat} (h : PageHolds crc nvs.mem s (A ++ it :: B)) (hA : NoMatch nvs.mem id A)
    (hit : itemId nvs.mem it = id) (hB : NoMatch nvs.mem id B) :
    mmFindField crc nvs id out = (true, nvs, foundOut s (A ++ it :: B) (some it.1)) := by
  obtain ⟨p, n⟩ := it
  obtain ⟨k, hk⟩ := fuel_split (Nat.le_of_lt h.length_le)
  obtain ⟨item, hskip⟩ := @mmFindLoop_skip crc (s + flashFsPageSize) (B.length + k + 1) id
    ⟨nvs, s + qwordLen, out.item, none⟩ A ((p, n) :: B) h.layout hA
  have hlay := h.layout.drop
  have hfirst := @mmFindLoop_first crc (s + flashFsPageSize) (B.length + k) id
    ⟨nvs, Resync.finish (s + qwordLen) A, item, none⟩ B p n hlay hit rfl
  have hlayB := hlay.next_cons.2
  rw [← List.append_nil B] at hlayB
  obtain ⟨item', hskip'⟩ := @mmFindLoop_skip crc (s + flashFsPageSize) k id ⟨nvs, p + n, some p, some p⟩ B []
    hlayB hB
  have hdone := @mmFindLoop_done crc (s + flashFsPageSize) k id
    ⟨nvs, Resync.finish (p + n) B, item', some p⟩ hlayB.drop
  rw [show (A ++ (p, n) :: B).length + k = A.length + (B.length + k + 1) by simp; omega] at hk
  rw [mmFindField_of_loop h.active hk (hskip.trans (hfirst.trans (hskip'.trans hdone))),
    show Resync.finish (p + n) B = pageEmpty s (A ++ (p, n) :: B) by rw [pageEmpty, Resync.finish_append]; rfl]
  exact findResult_found h

/-- The lookup follows the loop up to the second of two items with the identifier. -/
private theorem mmFindLoop_two {a b : Nat × Nat} (h : PageHolds crc nvs.mem s (A ++ a :: B ++ b :: C))
    (hA : NoMatch nvs.mem id A) (ha : itemId nvs.mem a = id) (hB : NoMatch nvs.mem id B)
    (hb : itemId nvs.mem b = id) {item : Option Nat} :
    Resync.Layout (mmItemAt crc nvs.mem) (scanEnd s) (b.1 + b.2) C ∧
      ∃ n k, flashFsPageSize = n ∧ mmFindLoop crc id (s + flashFsPageSize) n ⟨nvs, s + qwordLen, item, none⟩ =
        if (mmFlashZero nvs a.1 a.2).1 then
          mmFindLoop crc id (s + flashFsPageSize) (C.length + k)
            ⟨(mmFlashZero nvs a.1 a.2).2, b.1 + b.2, some b.1, some b.1⟩
        else (false, ⟨(mmFlashZero nvs a.1 a.2).2, b.1, some b.1, some a.1⟩) := by
  obtain ⟨p, n⟩ := a
  obtain ⟨r, m⟩ := b
  obtain ⟨k, hk⟩ := fuel_split (Nat.le_of_lt h.length_le)
  rw [show (A ++ (p, n) :: B ++ (r, m) :: C).length + k = A.length + (B.length + (C.length + k + 1) + 1) by
    simp; omega] at hk
  have hmem : (p, n) ∈ A ++ (p, n) :: B ++ (r, m) :: C := by simp
  have hlen := h.item_length hmem
  have hlay := h.layout
  rw [List.append_assoc] at hlay
  obtain ⟨item₁, hskipA⟩ := @mmFindLoop_skip crc (s + flashFsPageSize) (B.length + (C.length + k + 1) + 1) id
    ⟨nvs, s + qwordLen, item, none⟩ A ((p, n) :: B ++ (r, m) :: C) hlay hA
  have hlayA := hlay.drop
  have hfirst := @mmFindLoop_first crc (s + flashFsPageSize) (B.length + (C.length + k + 1)) id
    ⟨nvs, Resync.finish (s + qwordLen) A, item₁, none⟩ (B ++ (r, m) :: C) p n hlayA ha rfl
  obtain ⟨item₂, hskipB⟩ := @mmFindLoop_skip crc (s + flashFsPageSize) (C.length + k + 1) id
    ⟨nvs, p + n, some p, some p⟩ B ((r, m) :: C) hlayA.next_cons.2 hB
  have hlayB : Resync.Layout (mmItemAt crc nvs.mem) (scanEnd s) (Resync.finish (p + n) B) ((r, m) :: C) :=
    hlayA.next_cons.2.drop
  have hagain := @mmFindLoop_again crc (s + flashFsPageSize) (C.length + k) id
    ⟨nvs, Resync.finish (p + n) B, item₂, some p⟩ C r m p n hlayB hb rfl hlen
  refine ⟨hlayB.next_cons.2, A.length + (B.length + (C.length + k + 1) + 1), k, hk, ?_⟩
  exact hskipA.trans (hfirst.trans (hskipB.trans hagain))

/-- Two items carry the identifier and the earlier one is too long to be zeroed. -/
theorem mmFindField_two_of_gt {a b : Nat × Nat} (h : PageHolds crc nvs.mem s (A ++ a :: B ++ b :: C))
    (hA : NoMatch nvs.mem id A) (ha : itemId nvs.mem a = id) (hB : NoMatch nvs.mem id B)
    (hb : itemId nvs.mem b = id) (hgt : maxFlashZeroSize < a.2) :
    mmFindField crc nvs id out = (false, nvs, { out with item := some b.1 }) := by
  obtain ⟨-, n, k, hn, hloop⟩ := @mmFindLoop_two _ _ _ _ _ _ _ _ _ h hA ha hB hb out.item
  rw [mmFlashZero_of_gt hgt] at hloop
  rw [mmFindField_of_loop h.active hn hloop]
  rfl

/-! ### Zeroing an item -/

/-- The image after an item was zeroed. -/
def zeroItem (f : Mem) (it : Nat × Nat) : Mem := program f it.1 (List.replicate it.2 0)

theorem zeroItem_agreeOutside (f : Mem) (it : Nat × Nat) : AgreeOutside f (zeroItem f it) it.1 (it.1 + it.2) := by
  have := program_agreeOutside f it.1 (List.replicate it.2 0)
  rwa [List.length_replicate] at this

theorem PageHolds.active_of_agree {g : Mem} (h : PageHolds crc f s L)
    (hfg : AgreeOutside f g (s + qwordLen) (s + flashFsPageSize)) : ActivePage g s :=
  h.active.congr h.active.cases hfg

theorem PageHolds.zeroItem_active (h : PageHolds crc f s L) {it : Nat × Nat} (hit : it ∈ L) :
    ActivePage (zeroItem f it) s :=
  h.active_of_agree ((zeroItem_agreeOutside f it).mono (h.tiling.range it hit).1 (h.inside it hit))

theorem PageHolds.item_inNvs (h : PageHolds crc f s L) {it : Nat × Nat} (hit : it ∈ L) :
    InNvs it.1 (it.1 + it.2) := by
  have hrange := h.tiling.range it hit
  have hsz := h.header_le hit
  have h7 : itemHeaderSz = 7 := rfl
  exact h.active.inNvs (by omega) (by omega) (h.inside it hit)

/-- Behind a zeroed item the page reads as before. -/
private theorem PageHolds.zeroItem_read (h : PageHolds crc f s L) {it : Nat × Nat} (hit : it ∈ L) {q : Nat}
    (h1 : it.1 + it.2 ≤ q) (h2 : q < scanEnd s) : mmItemAt crc (zeroItem f it) q = mmItemAt crc f q := by
  have hrange := h.tiling.range it hit
  have hagree : ∀ x, it.1 + it.2 ≤ x → zeroItem f it x = f x := fun x hx =>
    ((zeroItem_agreeOutside f it) x (Or.inr hx)).symm
  unfold scanEnd qwordLen at *
  exact mmItemAt_congr (h.zeroItem_active hit) h.active (by omega) (by omega) (fun x hx1 hx2 => hagree x (by omega))
    fun _ _ x hx1 hx2 => hagree x (by omega)

/-- Two items carry the identifier: the earlier one is zeroed and the later one is found. -/
theorem mmFindField_two {a b : Nat × Nat} (h : PageHolds crc nvs.mem s (A ++ a :: B ++ b :: C))
    (hA : NoMatch nvs.mem id A) (ha : itemId nvs.mem a = id) (hB : NoMatch nvs.mem id B)
    (hb : itemId nvs.mem b = id) (hC : NoMatch nvs.mem id C) (hle : a.2 ≤ maxFlashZeroSize) :
    mmFindField crc nvs id out =
      (true, nvs.apply (.program a.1 (List.replicate a.2 0)),
        foundOut s (A ++ a :: B ++ b :: C) (some b.1)) := by
  obtain ⟨hlayC, n, k, hn, hloop⟩ := @mmFindLoop_two _ _ _ _ _ _ _ _ _ h hA ha hB hb out.item
  have hmema : a ∈ A ++ a :: B ++ b :: C := by simp
  have hab : a.1 + a.2 ≤ b.1 := by
    have hsep := h.tiling.sep
    rw [List.pairwise_append] at hsep
    exact hsep.2.2 a (by simp) b (by simp)
  rw [mmFlashZero_eq (h.item_inNvs hmema) hle] at hloop
  -- the rest of the page lies behind `a` and reads as before
  have hlayC' : Resync.Layout (mmItemAt crc (zeroItem nvs.mem a)) (scanEnd s) (b.1 + b.2) (C ++ []) := by
    rw [List.append_nil]
    exact hlayC.congr fun q h1 h2 => h.zeroItem_read hmema (by omega) h2
  have hC' : NoMatch (zeroItem nvs.mem a) id C := by
    intro it hit
    have hge := (hlayC.tiling.range it hit).1
    have hsz := mmItemAt_pos (hlayC.tiling.hit it hit)
    rw [← itemId_congr hsz ((zeroItem_agreeOutside nvs.mem a).agree (Or.inr (by omega)))]
    exact hC it hit
  obtain ⟨item', hskip⟩ := @mmFindLoop_skip crc (s + flashFsPageSize) k id
    ⟨nvs.apply (.program a.1 (List.replicate a.2 0)), b.1 + b.2, some b.1, some b.1⟩ C [] hlayC' hC'
  have hdone := @mmFindLoop_done crc (s + flashFsPageSize) k id
    ⟨nvs.apply (.program a.1 (List.replicate a.2 0)), Resync.finish (b.1 + b.2) C, item', some b.1⟩ hlayC'.drop
  rw [if_pos rfl] at hloop
  rw [mmFindField_of_loop h.active hn (hloop.trans (hskip.trans hdone)),
    show Resync.finish (b.1 + b.2) C = pageEmpty s (A ++ a :: B ++ b :: C) by
      rw [pageEmpty, Resync.finish_append]; rfl]
  exact findResult_found h

end TiMcu.FlashFs
