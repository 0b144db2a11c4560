import TiMcu.FlashFs.Store

/-!
# The items of the active page

`ActivePage f s` says that the active page starts at `s`, and `PageHolds f s L` that a scan of that page finds the items
`L` (pairs of an offset and a complete length) and that they lie inside the page.  What the scan finds at an offset
depends on the bytes from there to the end of the item it reads and on which page is active (`mmItemAt_congr`), so a
write elsewhere keeps it.

The main result is `PageHolds.update`: an image that keeps some of the items, holds new ones behind the last, and reads as
nothing in between (`NoItem`) holds exactly these items.
-/

namespace TiMcu.FlashFs

open NorFlash LittleEndian

variable {f g : Mem} {s q : Nat} {L L' N : List (Nat × Nat)}

/-! ### The active page -/

/-- The active page starts at `s`. -/
def ActivePage (f : Mem) (s : Nat) : Prop := mmGetActivePage f = some (s, flashFsPageSize)

theorem ActivePage.cases (h : ActivePage f s) : s = memoryManager1Offset ∨ s = memoryManager2Offset := by
  unfold ActivePage mmGetActivePage at h
  split at h
  · left; simp_all
  · split at h
    · right; simp_all
    · exact absurd h (by simp)

theorem ActivePage.inNvs (h : ActivePage f s) {a b : Nat} (ha : s ≤ a) (hab : a < b) (hb : b ≤ s + flashFsPageSize) :
    InNvs a b := by
  unfold InNvs
  have h1 : nvsFlashStart = 319488 := rfl
  have h2 : nvsSize = 32768 := rfl
  have h3 := flashFsPageSize_eq
  rcases h.cases with rfl | rfl
  · have := memoryManager1Offset_eq; omega
  · have := memoryManager2Offset_eq; omega

theorem ActivePage.unique {t : Nat} (h : ActivePage f s) (h' : ActivePage f t) : s = t := by
  rw [ActivePage, h] at h'
  simpa using h'

/-- Writes behind the state bytes of a page keep both state words. -/
theorem ActivePage.congr (h : ActivePage f s) {t : Nat} (ht : t = memoryManager1Offset ∨ t = memoryManager2Offset)
    (hfg : AgreeOutside f g (t + qwordLen) (t + flashFsPageSize)) : ActivePage g s := by
  have hsize := flashFsPageSize_eq
  have h1 := memoryManager1Offset_eq
  have h2 := memoryManager2Offset_eq
  have e1 : bytesAt f memoryManager1Offset qwordLen = bytesAt g memoryManager1Offset qwordLen :=
    bytesAt_congr (hfg.agree (by unfold qwordLen at *; omega))
  have e2 : bytesAt f memoryManager2Offset qwordLen = bytesAt g memoryManager2Offset qwordLen :=
    bytesAt_congr (hfg.agree (by unfold qwordLen at *; omega))
  unfold ActivePage mmGetActivePage at *
  rwa [← e1, ← e2]

theorem sub32_of_le {a b : Nat} (h : b ≤ a) (ha : a < 2 ^ 32) : sub32 a b = a - b := by
  unfold sub32
  omega

theorem ActivePage.calcRemSize (h : ActivePage f s) (hs : s < q) (hq : q ≤ s + flashFsPageSize) :
    calcRemSize f q = s + flashFsPageSize - q := by
  have hsize := flashFsPageSize_eq
  unfold TiMcu.FlashFs.calcRemSize
  rw [h]
  show (if s < q then sub32 flashFsPageSize (q - s) else 0) = _
  rw [if_pos hs, sub32_of_le (by omega) (by omega)]
  omega

/-! ### Headers -/

private theorem mmItem_bytes (f : Mem) (a : Nat) : (mmItem f a).bytes = bytesAt f a itemHeaderSz := by
  simp [MmItem.bytes, mmItem, itemHeaderSz, bytesAt, List.range'_succ]

theorem mmItem_of_bytes {a : Nat} {item : MmItem} (h : bytesAt f a itemHeaderSz = item.bytes) : mmItem f a = item := by
  rw [← mmItem_bytes] at h
  simp only [MmItem.bytes, List.cons.injEq, and_true] at h
  obtain ⟨h1, h2, h3, h4, h5, h6, h7⟩ := h
  have e : ∀ x y : UInt16, lo x = lo y → hi x = hi y → x = y := fun x y hl hh => by
    rw [← join_lo_hi x, ← join_lo_hi y, hl, hh]
  cases item
  simp only [mmItem, MmItem.mk.injEq] at *
  exact ⟨e _ _ h1 h2, e _ _ h3 h4, e _ _ h5 h6, h7⟩

theorem mmItem_congr {a b : Nat} (h : bytesAt f a itemHeaderSz = bytesAt g b itemHeaderSz) : mmItem f a = mmItem g b :=
  mmItem_of_bytes (by rw [h, mmItem_bytes])

@[simp] theorem MmItem.bytes_length (item : MmItem) : item.bytes.length = itemHeaderSz := rfl

/-! ### What reads as an item -/

variable {crc : List UInt8 → UInt8}

theorem mmItemAt_eq_some (h : ActivePage f s) (hs : s < q) (hq : q ≤ s + flashFsPageSize) {n : Nat} :
    mmItemAt crc f q = some n ↔
      (mmItem f q).id = mask16Bit ^^^ (mmItem f q).nid ∧ n = (mmItem f q).length.toNat + itemHeaderSz ∧
        q + (mmItem f q).length.toNat < s + flashFsPageSize ∧
        crc (bytesAt f (q + itemHeaderSz) (mmItem f q).length.toNat) = (mmItem f q).crc8 := by
  unfold mmItemAt
  simp only [h.calcRemSize hs hq]
  split
  · rename_i hid
    simp only [reduceCtorEq, false_iff]
    exact fun hc => hid hc.1
  · rename_i hid
    split
    · split
      · rename_i hcrc
        simp only [reduceCtorEq, false_iff]
        exact fun hc => hcrc hc.2.2.2
      · rename_i hlt hcrc
        simp only [Option.some.injEq]
        constructor
        · rintro rfl
          exact ⟨by simpa using hid, rfl, by omega, by simpa using hcrc⟩
        · exact fun hc => hc.2.1.symm
    · rename_i hlt
      simp only [reduceCtorEq, false_iff]
      omega

theorem mmItemAt_pos {n : Nat} (h : mmItemAt crc f q = some n) : itemHeaderSz ≤ n := by
  unfold mmItemAt at h
  simp only at h
  split at h
  · exact absurd h (by simp)
  · split at h
    · split at h
      · exact absurd h (by simp)
      · have : (mmItem f q).length.toNat + itemHeaderSz = n := by simpa using h
        omega
    · exact absurd h (by simp)

theorem mmItemAt_length {n : Nat} (h : mmItemAt crc f q = some n) : n = (mmItem f q).length.toNat + itemHeaderSz := by
  unfold mmItemAt at h
  simp only at h
  split at h
  · exact absurd h (by simp)
  · split at h
    · split at h
      · exact absurd h (by simp)
      · simpa using h.symm
    · exact absurd h (by simp)

theorem mmItemAt_id {n : Nat} (h : mmItemAt crc f q = some n) : (mmItem f q).id = mask16Bit ^^^ (mmItem f q).nid := by
  unfold mmItemAt at h
  simp only at h
  split at h
  · exact absurd h (by simp)
  · rename_i hid
    simpa using hid

/-- What reads at an offset depends on the header there and on the bytes its length field covers. -/
theorem mmItemAt_congr (hf : ActivePage f s) (hg : ActivePage g s) (hs : s < q) (hq : q ≤ s + flashFsPageSize)
    (hhead : Agree f g q (q + itemHeaderSz))
    (hfile : (mmItem f q).id = mask16Bit ^^^ (mmItem f q).nid →
      q + (mmItem f q).length.toNat < s + flashFsPageSize →
      Agree f g (q + itemHeaderSz) (q + itemHeaderSz + (mmItem f q).length.toNat)) :
    mmItemAt crc f q = mmItemAt crc g q := by
  have hitem : mmItem f q = mmItem g q := mmItem_congr (bytesAt_congr hhead)
  unfold mmItemAt
  simp only [hf.calcRemSize hs hq, hg.calcRemSize hs hq, ← hitem]
  split
  · rfl
  · rename_i hid
    split
    · rename_i hlt
      rw [bytesAt_congr (hfile (by simpa using hid) (by omega))]
    · rfl

/-- Nothing reads as an item where the first four bytes are erased. -/
theorem mmItemAt_of_erased (h : Erased f q (q + 4)) : mmItemAt crc f q = none := by
  have hid : (mmItem f q).id = 0xFFFF := by
    simp only [mmItem, h q (by omega) (by omega), h (q + 1) (by omega) (by omega)]
    decide
  have hnid : (mmItem f q).nid = 0xFFFF := by
    simp only [mmItem, h (q + 2) (by omega) (by omega), h (q + 3) (by omega) (by omega)]
    decide
  unfold mmItemAt
  simp only [hid, hnid]
  rw [if_pos (by decide)]

/-- The identifier of an item and its complement, byte by byte. -/
private theorem mmItemAt_id_bytes {n : Nat} (h : mmItemAt crc f q = some n) :
    f q = 0xFF ^^^ f (q + 2) ∧ f (q + 1) = 0xFF ^^^ f (q + 3) := by
  have hid : join (f q) (f (q + 1)) = mask16Bit ^^^ join (f (q + 2)) (f (q + 3)) := mmItemAt_id h
  have hlo := congrArg lo hid
  have hhi := congrArg hi hid
  rw [lo_join, lo_xor, lo_join] at hlo
  rw [hi_join, hi_xor, hi_join] at hhi
  exact ⟨hlo, hhi⟩

/-- A zero reads as the start of an item only when `0xFF` stands two bytes behind it. -/
theorem mmItemAt_of_zero (h0 : f q = 0) (h2 : f (q + 2) ≠ 0xFF) : mmItemAt crc f q = none := by
  cases hat : mmItemAt crc f q with
  | none => rfl
  | some n =>
    have hlo := (mmItemAt_id_bytes hat).1
    rw [h0] at hlo
    exact absurd (UInt8.xor_eq_zero_iff.1 hlo.symm).symm h2

/-- Nothing reads as an item among zeros behind which two bytes other than `0xFF` stand. -/
theorem mmItemAt_before {a b : Nat} (hz : ∀ x, a ≤ x → x < b → f x = 0) (h0 : f b ≠ 0xFF) (h1 : f (b + 1) ≠ 0xFF)
    (ha : a ≤ q) (hb : q < b) : mmItemAt crc f q = none := by
  refine mmItemAt_of_zero (hz q ha hb) ?_
  by_cases hq : q + 2 < b
  · rw [hz (q + 2) (by omega) hq]
    decide
  · obtain hq | hq : q + 2 = b ∨ q + 2 = b + 1 := by omega
    · rw [hq]
      exact h0
    · rw [hq]
      exact h1

/-- Nothing reads as an item among zeros behind which everything is erased. -/
theorem mmItemAt_of_zeros {b : Nat} (hs : ActivePage f s) (hsq : s < q) (hq : q < s + flashFsPageSize - minFileLen)
    (hz : ∀ x, q ≤ x → x < b → f x = 0) (he : Erased f b (s + flashFsPageSize)) : mmItemAt crc f q = none := by
  have h8 : minFileLen = 8 := rfl
  by_cases hb : b ≤ q
  · exact mmItemAt_of_erased (he.mono hb (by omega))
  by_cases h2 : q + 2 < b
  · refine mmItemAt_of_zero (hz q (Nat.le_refl q) (by omega)) ?_
    rw [hz (q + 2) (by omega) h2]
    decide
  have hzero := hz q (Nat.le_refl q) (by omega)
  have hff : ∀ x, q + 2 ≤ x → x ≤ q + 5 → f x = 0xFF := fun x h1 h3 => he x (by omega) (by omega)
  cases hat : mmItemAt crc f q with
  | none => rfl
  | some n =>
    exfalso
    obtain ⟨-, hhi⟩ := mmItemAt_id_bytes hat
    rw [hff (q + 3) (by omega) (by omega)] at hhi
    -- the second byte is zero too, and the length field is erased
    rw [mmItemAt_eq_some hs hsq (by omega)] at hat
    have hlen : (mmItem f q).length = 0xFFFF := by
      simp only [mmItem, hff (q + 4) (by omega) (by omega), hff (q + 5) (by omega) (by omega)]
      decide
    have hfits := hat.2.2.1
    rw [hlen] at hfits
    have hsize := flashFsPageSize_eq
    have hbig : (0xFFFF : UInt16).toNat = 65535 := rfl
    rw [hbig] at hfits
    omega

/-- A header and a file as `mm_set` writes them read as an item. -/
theorem mmItemAt_new (h : ActivePage f s) (hs : s < q) {dataId : UInt16} {newFile : MmFile}
    (hfit : q + itemHeaderSz + newFile.bytes.length ≤ s + flashFsPageSize)
    (hhead : bytesAt f q itemHeaderSz = (newHeader crc dataId newFile).bytes)
    (hfile : bytesAt f (q + itemHeaderSz) newFile.bytes.length = newFile.bytes) :
    mmItemAt crc f q = some (newFile.bytes.length + itemHeaderSz) := by
  have hitem := mmItem_of_bytes hhead
  have hlen : (newHeader crc dataId newFile).length.toNat = newFile.bytes.length := by
    have := newFile.length_lt
    simp only [newHeader, UInt16.toNat_ofNat']
    omega
  have hsz : itemHeaderSz = 7 := rfl
  rw [mmItemAt_eq_some h hs (by omega), hitem, hlen]
  refine ⟨?_, rfl, by omega, ?_⟩
  · show dataId = mask16Bit ^^^ (mask16Bit ^^^ dataId)
    rw [← UInt16.xor_assoc, UInt16.xor_self, UInt16.zero_xor]
  · rw [hfile]; rfl

/-! ### The items of the page -/

/-- The bound of the scan of a page. -/
def scanEnd (s : Nat) : Nat := s + flashFsPageSize - minFileLen

/-- Outside the items `L` nothing in the page reads as an item. -/
def NoItem (crc : List UInt8 → UInt8) (f : Mem) (s : Nat) (L : List (Nat × Nat)) : Prop :=
  ∀ q, s + qwordLen ≤ q → q < scanEnd s → Resync.Outside L q → mmItemAt crc f q = none

/-- The active page starts at `s`, the scan finds the items `L`, and they lie inside the page. -/
structure PageHolds (crc : List UInt8 → UInt8) (f : Mem) (s : Nat) (L : List (Nat × Nat)) : Prop where
  active : ActivePage f s
  layout : Resync.Layout (mmItemAt crc f) (scanEnd s) (s + qwordLen) L
  inside : ∀ it ∈ L, it.1 + it.2 ≤ s + flashFsPageSize

/-- The items a scan of the active page finds. -/
def mmItems (crc : List UInt8 → UInt8) (f : Mem) : List (Nat × Nat) :=
  match mmGetActivePage f with
  | none => []
  | some (s, _) => Resync.scan (mmItemAt crc f) (scanEnd s) flashFsPageSize (s + qwordLen)

/-- The end of the last item: the pointer `empty` of `mm_find_field`. -/
def pageEmpty (s : Nat) (L : List (Nat × Nat)) : Nat := Resync.finish (s + qwordLen) L

/-- The identifier and the file of an item. -/
def itemId (f : Mem) (it : Nat × Nat) : UInt16 := (mmItem f it.1).id

def itemFile (f : Mem) (it : Nat × Nat) : List UInt8 := bytesAt f (it.1 + itemHeaderSz) (it.2 - itemHeaderSz)

theorem ActivePage.layout_mmItems (h : ActivePage f s) :
    Resync.Layout (mmItemAt crc f) (scanEnd s) (s + qwordLen) (mmItems crc f) := by
  have hpos : ∀ q n, mmItemAt crc f q = some n → 0 < n := fun q n hq => by
    have := mmItemAt_pos hq
    have : itemHeaderSz = 7 := rfl
    omega
  unfold mmItems
  rw [h]
  apply Resync.layout_scan hpos
  have := flashFsPageSize_eq
  unfold scanEnd qwordLen
  omega

theorem PageHolds.mmItems_eq (h : PageHolds crc f s L) : mmItems crc f = L :=
  h.active.layout_mmItems.unique h.layout

theorem PageHolds.tiling (h : PageHolds crc f s L) : Resync.Tiling (mmItemAt crc f) (scanEnd s) (s + qwordLen) L :=
  h.layout.tiling

theorem PageHolds.noItem (h : PageHolds crc f s L) : NoItem crc f s L := h.tiling.gap

theorem PageHolds.empty_le (h : PageHolds crc f s L) : pageEmpty s L ≤ s + flashFsPageSize :=
  Resync.finish_le (by unfold qwordLen flashFsPageSize flashSectorSize kBytes; omega) h.inside

theorem PageHolds.le_empty (h : PageHolds crc f s L) : s + qwordLen ≤ pageEmpty s L :=
  Resync.start_le_finish (fun it hit => (h.tiling.range it hit).1) h.tiling.sep

theorem PageHolds.item_le_empty (h : PageHolds crc f s L) {it : Nat × Nat} (hit : it ∈ L) :
    it.1 + it.2 ≤ pageEmpty s L :=
  Resync.le_finish h.tiling.sep hit

theorem PageHolds.header_le (h : PageHolds crc f s L) {it : Nat × Nat} (hit : it ∈ L) : itemHeaderSz ≤ it.2 :=
  mmItemAt_pos (h.tiling.hit it hit)

theorem PageHolds.length_le (h : PageHolds crc f s L) : L.length < flashFsPageSize := by
  have hpos : ∀ q n, mmItemAt crc f q = some n → 0 < n := fun q n hq => by
    have := mmItemAt_pos hq
    have : itemHeaderSz = 7 := rfl
    omega
  have hlen := h.layout.length_le hpos
  have hsize := flashFsPageSize_eq
  unfold scanEnd qwordLen at hlen
  omega

theorem PageHolds.item_length (h : PageHolds crc f s L) {it : Nat × Nat} (hit : it ∈ L) :
    itemHeaderSz + (mmItem f it.1).length.toNat = it.2 := by
  have := mmItemAt_length (h.tiling.hit it hit)
  omega

/-- An item reads the same in an image that agrees on its bytes. -/
theorem itemId_congr {it : Nat × Nat} (hn : itemHeaderSz ≤ it.2) (h : Agree f g it.1 (it.1 + it.2)) :
    itemId f it = itemId g it := by
  unfold itemId
  rw [mmItem_congr (bytesAt_congr (h.mono (Nat.le_refl _) (by omega)))]

theorem itemFile_congr {it : Nat × Nat} (hn : itemHeaderSz ≤ it.2) (h : Agree f g it.1 (it.1 + it.2)) :
    itemFile f it = itemFile g it :=
  bytesAt_congr (h.mono (by omega) (by omega))

theorem PageHolds.itemAt_congr (h : PageHolds crc f s L) (hg : ActivePage g s) {it : Nat × Nat} (hit : it ∈ L)
    (hfg : Agree f g it.1 (it.1 + it.2)) : mmItemAt crc g it.1 = some it.2 := by
  have hrange := h.tiling.range it hit
  have hlen := h.item_length hit
  have hsz : itemHeaderSz = 7 := rfl
  rw [← h.tiling.hit it hit]
  symm
  have hq : it.1 ≤ s + flashFsPageSize := by have := h.inside it hit; omega
  refine mmItemAt_congr h.active hg (by unfold qwordLen at hrange; omega) hq ?_ ?_
  · exact hfg.mono (Nat.le_refl _) (by omega)
  · intro _ _
    exact hfg.mono (by omega) (by omega)

/-- Items whose bytes an image keeps carry the same identifiers in it. -/
theorem PageHolds.itemId_kept (h : PageHolds crc f s L) (hsub : L'.Sublist L)
    (hkeep : ∀ it ∈ L', Agree f g it.1 (it.1 + it.2)) : ∀ it ∈ L', itemId g it = itemId f it := fun it hit =>
  (itemId_congr (h.header_le (hsub.subset hit)) (hkeep it hit)).symm

/-- An image that keeps some of the items of a page, holds new items behind the last one, and reads as nothing outside
them, holds exactly these items. -/
theorem PageHolds.update (h : PageHolds crc f s L) (hg : ActivePage g s) (hsub : L'.Sublist L)
    (hkeep : ∀ it ∈ L', Agree f g it.1 (it.1 + it.2))
    (hnew : ∀ it ∈ N, pageEmpty s L ≤ it.1 ∧ it.1 < scanEnd s ∧ it.1 + it.2 ≤ s + flashFsPageSize ∧
      mmItemAt crc g it.1 = some it.2)
    (hsep : N.Pairwise fun a b => a.1 + a.2 ≤ b.1) (hno : NoItem crc g s (L' ++ N)) :
    PageHolds crc g s (L' ++ N) := by
  refine ⟨hg, Resync.Tiling.layout ⟨?_, ?_, ?_, hno⟩, ?_⟩
  · intro it hit
    rcases List.mem_append.1 hit with hit | hit
    · exact h.tiling.range it (hsub.subset hit)
    · have := hnew it hit
      exact ⟨Nat.le_trans h.le_empty this.1, this.2.1⟩
  · intro it hit
    rcases List.mem_append.1 hit with hit | hit
    · exact h.itemAt_congr hg (hsub.subset hit) (hkeep it hit)
    · exact (hnew it hit).2.2.2
  · refine List.pairwise_append.2 ⟨h.tiling.sep.sublist hsub, hsep, fun a ha b hb => ?_⟩
    exact Nat.le_trans (h.item_le_empty (hsub.subset ha)) (hnew b hb).1
  · intro it hit
    rcases List.mem_append.1 hit with hit | hit
    · exact h.inside it (hsub.subset hit)
    · exact (hnew it hit).2.2.1

/-- An image that keeps some of the items of a page and reads as nothing outside them. -/
theorem PageHolds.sublist (h : PageHolds crc f s L) (hg : ActivePage g s) (hsub : L'.Sublist L)
    (hkeep : ∀ it ∈ L', Agree f g it.1 (it.1 + it.2)) (hno : NoItem crc g s L') : PageHolds crc g s L' := by
  have hup : PageHolds crc g s (L' ++ []) := h.update hg hsub hkeep (by simp) List.Pairwise.nil (by simpa using hno)
  simpa using hup

end TiMcu.FlashFs
