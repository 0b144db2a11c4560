import TiMcu.FlashFs.Update

/-!
# Turning the page

`mm_turn_page` erases the passive page, copies the items of the active page there one behind the other, writes the
state of the new page and zeroes the state of the old one.  `turnOps` is the list of these operations.  An image left by
a cut is the replay of a prefix of it: some of the items are copied (`copyImage`), the new state is written too
(`headImage`), or the turn is complete (`turnImage`).

While page 2 is filled its first bytes change, and they stand directly behind page 1.  The scan reads them: the length
test of `mm_get_next` compares the file with the rest of the page without the seven bytes of the header.  So bytes of
page 1 that look like a header near the end of the page become an item when the bytes behind the page happen to match
their checksum.  `TurnInert` says that this does not happen for any of the three contents (`turnHeads`) that the first
six bytes of page 2 go through.
-/

namespace TiMcu.FlashFs

open NorFlash

variable {crc : List UInt8 → UInt8} {f g : Mem} {s : Nat} {nvs : Nvs} {t : List UInt8} {A B L : List (Nat × Nat)}

/-! ### The operations of a turn -/

/-- The bytes of the items, one behind the other. -/
def copied (f : Mem) (L : List (Nat × Nat)) : List UInt8 := L.flatMap fun it => bytesAt f it.1 it.2

/-- The copies written from an offset on. -/
def copyOps (f : Mem) : Nat → List (Nat × Nat) → List Op
  | _, [] => []
  | d, it :: L => .program d (bytesAt f it.1 it.2) :: copyOps f (d + it.2) L

/-- The operations of `mm_turn_page` on a page that starts at `s` and holds the items `L`. -/
def turnOps (f : Mem) (s : Nat) (L : List (Nat × Nat)) : List Op :=
  .erase (passivePage s) flashFsPageSize :: (copyOps f (passivePage s + qwordLen) L ++
    [.program (passivePage s) mmPageStateActive, .program s (List.replicate qwordLen 0)])

/-- The image when the items `A` are copied. -/
def copyImage (f : Mem) (s : Nat) (A : List (Nat × Nat)) : Mem :=
  program (erase f (passivePage s) flashFsPageSize) (passivePage s + qwordLen) (copied f A)

/-- The image when the state of the new page is written. -/
def headImage (f : Mem) (s : Nat) (L : List (Nat × Nat)) : Mem :=
  program (copyImage f s L) (passivePage s) mmPageStateActive

/-- The image at the end of the turn. -/
def turnImage (f : Mem) (s : Nat) (L : List (Nat × Nat)) : Mem :=
  program (headImage f s L) s (List.replicate qwordLen 0)

theorem copied_length (f : Mem) (L : List (Nat × Nat)) : (copied f L).length = (L.map Prod.snd).sum := by
  simp [copied, List.length_flatMap]

theorem copied_cons (f : Mem) (it : Nat × Nat) (L : List (Nat × Nat)) :
    copied f (it :: L) = bytesAt f it.1 it.2 ++ copied f L := rfl

private theorem copied_append (f : Mem) (A B : List (Nat × Nat)) : copied f (A ++ B) = copied f A ++ copied f B :=
  List.flatMap_append

private theorem copyOps_length (f : Mem) (d : Nat) (L : List (Nat × Nat)) : (copyOps f d L).length = L.length := by
  induction L generalizing d with
  | nil => rfl
  | cons it L ih => simp [copyOps, ih]

private theorem take_copyOps (f : Mem) (d k : Nat) (L : List (Nat × Nat)) :
    (copyOps f d L).take k = copyOps f d (L.take k) := by
  induction L generalizing d k with
  | nil => simp [copyOps]
  | cons it L ih =>
    cases k with
    | zero => rfl
    | succ k => simp [copyOps, ih]

/-- The copies are one program operation of all the bytes. -/
theorem replay_copyOps (f g : Mem) (d : Nat) (L : List (Nat × Nat)) :
    replay g (copyOps f d L) = program g d (copied f L) := by
  induction L generalizing g d with
  | nil => simp [copyOps, copied]
  | cons it L ih =>
    have happ := program_append g d (bytesAt f it.1 it.2) (copied f L)
    rw [bytesAt_length] at happ
    rw [copyOps, replay_cons, ih, copied_cons, ← happ]
    rfl

/-- The images the prefixes of a turn leave. -/
theorem replay_take_turnOps (f : Mem) (s k : Nat) (L : List (Nat × Nat)) :
    replay f ((turnOps f s L).take k) = f ∨ (∃ A B, L = A ++ B ∧ replay f ((turnOps f s L).take k) = copyImage f s A) ∨
      replay f ((turnOps f s L).take k) = headImage f s L ∨ replay f ((turnOps f s L).take k) = turnImage f s L := by
  cases k with
  | zero => exact Or.inl rfl
  | succ k =>
    right
    have himage : ∀ A, replay (erase f (passivePage s) flashFsPageSize) (copyOps f (passivePage s + qwordLen) A) =
        copyImage f s A := fun A => replay_copyOps f _ _ A
    rw [turnOps, List.take_succ_cons, replay_cons, List.take_append, take_copyOps, copyOps_length, replay_append]
    simp only [Op.run]
    rw [himage]
    by_cases hk : k ≤ L.length
    · left
      refine ⟨L.take k, L.drop k, (List.take_append_drop k L).symm, ?_⟩
      rw [Nat.sub_eq_zero_of_le hk]
      rfl
    · right
      rw [List.take_of_length_le (Nat.le_of_not_le hk)]
      by_cases hone : k - L.length = 1
      · left
        rw [hone]
        rfl
      · right
        rw [List.take_of_length_le (by simp only [List.length_cons, List.length_nil]; omega)]
        rfl

/-! ### The two pages -/

theorem ActivePage.pages (h : ActivePage f s) :
    (s = 319488 ∧ passivePage s = 335872) ∨ (s = 335872 ∧ passivePage s = 319488) := by
  rcases h.cases with rfl | rfl
  · left; decide
  · right; decide

theorem ActivePage.state (h : ActivePage f s) : bytesAt f s qwordLen = mmPageStateActive := by
  unfold ActivePage mmGetActivePage at h
  split at h
  · rename_i hstate
    simp only [Option.some.injEq, Prod.mk.injEq] at h
    rw [← h.1]
    exact hstate
  · split at h
    · rename_i hstate
      simp only [Option.some.injEq, Prod.mk.injEq] at h
      rw [← h.1]
      exact hstate
    · exact absurd h (by simp)

theorem activePage_one (h : bytesAt g memoryManager1Offset qwordLen = mmPageStateActive) :
    ActivePage g memoryManager1Offset := by
  unfold ActivePage mmGetActivePage
  rw [if_pos h]
  rfl

theorem activePage_two (h1 : bytesAt g memoryManager1Offset qwordLen ≠ mmPageStateActive)
    (h2 : bytesAt g memoryManager2Offset qwordLen = mmPageStateActive) : ActivePage g memoryManager2Offset := by
  unfold ActivePage mmGetActivePage
  rw [if_neg h1, if_pos h2]
  rfl

/-- A page whose first state byte is not that of an active page. -/
private theorem state_ne {a : Nat} (h : g a ≠ 0x00) : bytesAt g a qwordLen ≠ mmPageStateActive := fun hc =>
  h (apply_of_bytesAt_eq hc (show 0 < mmPageStateActive.length by decide))

theorem state_ne' {a : Nat} (h : g (a + 2) ≠ 0xa5) : bytesAt g a qwordLen ≠ mmPageStateActive := fun hc =>
  h (apply_of_bytesAt_eq hc (show 2 < mmPageStateActive.length by decide))

/-! ### What a turn leaves unchanged -/

theorem PageHolds.copied_le (h : PageHolds crc f s L) (hA : L = A ++ B) :
    qwordLen + (copied f A).length ≤ flashFsPageSize := by
  have hsum := h.layout.sum_le_finish
  have hle := h.empty_le
  unfold pageEmpty at hle
  rw [hA, List.map_append, List.sum_append] at hsum
  rw [hA] at hle
  rw [copied_length]
  omega

theorem PageHolds.copyImage_agreeOutside (h : PageHolds crc f s L) (hA : L = A ++ B) :
    AgreeOutside f (copyImage f s A) (passivePage s) (passivePage s + flashFsPageSize) := by
  have hle := h.copied_le hA
  refine (erase_agreeOutside f _ _).trans ((program_agreeOutside _ _ _).mono (by omega) (by omega))

theorem PageHolds.headImage_agreeOutside (h : PageHolds crc f s L) :
    AgreeOutside f (headImage f s L) (passivePage s) (passivePage s + flashFsPageSize) := by
  refine (h.copyImage_agreeOutside (List.append_nil L).symm).trans ?_
  exact (program_agreeOutside _ _ _).mono (Nat.le_refl _) (Nat.add_le_add_left (by decide) _)

/-- The state bytes of the new page stay erased while the items are copied. -/
private theorem copyImage_state (f : Mem) (s : Nat) (A : List (Nat × Nat)) :
    Erased (copyImage f s A) (passivePage s) (passivePage s + qwordLen) := by
  intro x h1 h2
  have hsize := flashFsPageSize_eq
  have hq : qwordLen = 4 := rfl
  rw [copyImage, program_of_lt h2]
  exact erased_erase f _ _ x h1 (by omega)

/-- The old page stays active while the items are copied. -/
theorem PageHolds.copyImage_active (h : PageHolds crc f s L) (hA : L = A ++ B) : ActivePage (copyImage f s A) s := by
  have hagree := h.copyImage_agreeOutside hA
  have hstate : bytesAt (copyImage f s A) s qwordLen = mmPageStateActive := by
    rw [← h.active.state]
    refine (bytesAt_congr (hagree.agree ?_)).symm
    have hsize := flashFsPageSize_eq
    have hq : qwordLen = 4 := rfl
    rcases h.active.pages with ⟨hs, hp⟩ | ⟨hs, hp⟩
    · left; omega
    · right; omega
  rcases h.active.cases with rfl | rfl
  · exact activePage_one hstate
  · refine activePage_two (state_ne ?_) hstate
    have hff := copyImage_state f memoryManager2Offset A memoryManager1Offset (by decide) (by decide)
    rw [hff]
    decide

/-! ### Bytes behind the page -/

/-- The first two bytes behind the state of the new page when the items are copied. -/
def firstBytes (f : Mem) : List (Nat × Nat) → List UInt8
  | [] => List.replicate 2 0xFF
  | it :: _ => bytesAt f it.1 2

/-- The contents of the first six bytes of the new page during a turn: erased, with the first item, and with the state. -/
def turnHeads (f : Mem) (L : List (Nat × Nat)) : List (List UInt8) :=
  [List.replicate 6 0xFF, List.replicate 4 0xFF ++ firstBytes f L, mmPageStateActive ++ firstBytes f L]

/-- The image with page 2 erased except for the bytes `t` at its start. -/
def neighbour (f : Mem) (t : List UInt8) : Mem :=
  program (erase f memoryManager2Offset flashFsPageSize) memoryManager2Offset t

/-- None of the contents page 2 goes through makes bytes of page 1 outside the items `L` read as an item. -/
def TurnInert (crc : List UInt8 → UInt8) (f : Mem) (s : Nat) (L : List (Nat × Nat)) : Prop :=
  s = memoryManager1Offset → ∀ t ∈ turnHeads f L, NoItem crc (neighbour f t) s L

/-- The bytes behind page 1 are those of `neighbour`. -/
private theorem neighbour_agree (ht : t.length = 6) (hfg : AgreeOutside f g memoryManager2Offset
    (memoryManager2Offset + flashFsPageSize)) (hg : bytesAt g memoryManager2Offset 6 = t) :
    Agree (neighbour f t) g memoryManager1Offset (memoryManager2Offset + 6) := by
  intro x h1 h2
  by_cases hx : x < memoryManager2Offset
  · rw [neighbour, program_of_lt hx, erase_of_lt hx]
    exact hfg x (Or.inl hx)
  · obtain ⟨i, rfl⟩ := Nat.exists_eq_add_of_le (Nat.le_of_not_lt hx)
    have hi : i < t.length := by omega
    have hsize := flashFsPageSize_eq
    rw [neighbour, program_inside hi, erased_erase f _ _ _ (by omega) (by omega), ff_and]
    exact (apply_of_bytesAt_eq hg hi).symm

private theorem neighbour_active (h : ActivePage f memoryManager1Offset) (t : List UInt8) :
    ActivePage (neighbour f t) memoryManager1Offset := by
  apply activePage_one
  rw [← h.state]
  refine (bytesAt_congr ?_).symm
  intro x h1 h2
  have hx : x < memoryManager2Offset := by
    have hpage1 := memoryManager1Offset_eq
    have hpage2 := memoryManager2Offset_eq
    have hq : qwordLen = 4 := rfl
    omega
  rw [neighbour, program_of_lt hx, erase_of_lt hx]

/-- The scan of page 1 reads at most six bytes of page 2. -/
theorem mmItemAt_neighbour (hf : ActivePage f memoryManager1Offset) (hg : ActivePage g memoryManager1Offset)
    (ht : t.length = 6)
    (hfg : AgreeOutside f g memoryManager2Offset (memoryManager2Offset + flashFsPageSize))
    (hhead : bytesAt g memoryManager2Offset 6 = t) {q : Nat} (h1 : memoryManager1Offset + qwordLen ≤ q)
    (h2 : q < scanEnd memoryManager1Offset) : mmItemAt crc (neighbour f t) q = mmItemAt crc g q := by
  have hagree := neighbour_agree ht hfg hhead
  have hpage1 := memoryManager1Offset_eq
  have hpage2 := memoryManager2Offset_eq
  have hsize := flashFsPageSize_eq
  have hq : qwordLen = 4 := rfl
  have h7 : itemHeaderSz = 7 := rfl
  have h8 : minFileLen = 8 := rfl
  unfold scanEnd at h2
  refine mmItemAt_congr (neighbour_active hf t) hg (by omega) (by omega) (hagree.mono (by omega) (by omega)) ?_
  intro _ hlt
  exact hagree.mono (by omega) (by omega)

/-- The page holds the same items while the other page is filled. -/
theorem PageHolds.other_page (h : PageHolds crc f s L) (hg : ActivePage g s)
    (hfg : AgreeOutside f g (passivePage s) (passivePage s + flashFsPageSize)) (ht : t.length = 6)
    (hhead : bytesAt g (passivePage s) 6 = t) (hno : s = memoryManager1Offset → NoItem crc (neighbour f t) s L) :
    PageHolds crc g s L ∧ ∀ it ∈ L, Agree f g it.1 (it.1 + it.2) := by
  have hsize := flashFsPageSize_eq
  have hq : qwordLen = 4 := rfl
  have hkeep : ∀ it ∈ L, Agree f g it.1 (it.1 + it.2) := by
    intro it hit
    have hrange := h.tiling.range it hit
    have hin := h.inside it hit
    apply hfg.agree
    rcases h.active.pages with ⟨hs, hp⟩ | ⟨hs, hp⟩
    · left; omega
    · right; omega
  refine ⟨h.sublist hg (List.Sublist.refl L) hkeep ?_, hkeep⟩
  intro q h1 h2 hout
  rcases h.active.cases with rfl | rfl
  · rw [← mmItemAt_neighbour h.active hg ht hfg hhead h1 h2]
    exact hno rfl q h1 h2 hout
  · -- nothing behind page 2 changes
    have hread : mmItemAt crc f q = mmItemAt crc g q := by
      have hp : passivePage memoryManager2Offset = 319488 := rfl
      have hs := memoryManager2Offset_eq
      have h8 : minFileLen = 8 := rfl
      unfold scanEnd at h2
      exact mmItemAt_congr h.active hg (by omega) (by omega) (hfg.agree (Or.inr (by omega)))
        fun _ _ => hfg.agree (Or.inr (by omega))
    rw [← hread]
    exact h.noItem q h1 h2 hout

/-! ### The images of a turn -/

theorem PageHolds.copyImage_copied (h : PageHolds crc f s L) (hA : L = A ++ B) :
    bytesAt (copyImage f s A) (passivePage s + qwordLen) (copied f A).length = copied f A := by
  have hle := h.copied_le hA
  apply bytesAt_program
  exact ((erased_erase f _ _).mono (by omega) (by omega)).programmable

theorem copyImage_rest (f : Mem) (s : Nat) (A : List (Nat × Nat)) :
    Erased (copyImage f s A) (passivePage s + qwordLen + (copied f A).length) (passivePage s + flashFsPageSize) := by
  intro x h1 h2
  rw [copyImage, program_of_ge h1]
  exact erased_erase f _ _ x (by omega) h2

theorem firstBytes_length (f : Mem) (L : List (Nat × Nat)) : (firstBytes f L).length = 2 := by
  cases L <;> simp [firstBytes]

/-- The copied items start with the first two bytes of the first one. -/
private theorem PageHolds.copyImage_first (h : PageHolds crc f s L) (hA : L = A ++ B) :
    bytesAt (copyImage f s A) (passivePage s + qwordLen) 2 = firstBytes f A := by
  cases A with
  | nil =>
    have hrest := copyImage_rest f s []
    have hsize := flashFsPageSize_eq
    have hq : qwordLen = 4 := rfl
    exact Erased.bytesAt_eq (hrest.mono (Nat.le_refl _) (by omega))
  | cons it A =>
    have hmem : it ∈ L := by rw [hA]; simp
    have hsz := h.header_le hmem
    have h7 : itemHeaderSz = 7 := rfl
    have hcopied := h.copyImage_copied hA
    have htake := congrArg (List.take 2) hcopied
    have hlen : (copied f (it :: A)).length = it.2 + (copied f A).length := by simp [copied_cons]
    rw [take_bytesAt (by omega), copied_cons,
      List.take_append_of_le_length (by rw [bytesAt_length]; omega), take_bytesAt (by omega)] at htake
    exact htake

theorem PageHolds.copyImage_head (h : PageHolds crc f s L) (hA : L = A ++ B) :
    bytesAt (copyImage f s A) (passivePage s) 6 = List.replicate 4 0xFF ++ firstBytes f A := by
  rw [show 6 = qwordLen + 2 from rfl, bytesAt_add, h.copyImage_first hA, (copyImage_state f s A).bytesAt_eq]
  rfl

theorem headImage_state (f : Mem) (s : Nat) (L : List (Nat × Nat)) :
    bytesAt (headImage f s L) (passivePage s) qwordLen = mmPageStateActive :=
  bytesAt_program (copyImage_state f s L).programmable

theorem headImage_agree (f : Mem) (s : Nat) (L : List (Nat × Nat)) {b : Nat} :
    Agree (copyImage f s L) (headImage f s L) (passivePage s + qwordLen) b :=
  (program_agreeOutside _ _ _).agree (Or.inr (Nat.le_refl _))

theorem PageHolds.headImage_head (h : PageHolds crc f s L) :
    bytesAt (headImage f s L) (passivePage s) 6 = mmPageStateActive ++ firstBytes f L := by
  rw [show 6 = qwordLen + 2 from rfl, bytesAt_add, headImage_state, ← bytesAt_congr (headImage_agree f s L),
    h.copyImage_first (List.append_nil L).symm]

/-- The page holds its items while they are copied. -/
theorem PageHolds.copyImage_holds (h : PageHolds crc f s L) (hA : L = A ++ B)
    (hno : s = memoryManager1Offset → NoItem crc (neighbour f (List.replicate 4 0xFF ++ firstBytes f A)) s L) :
    PageHolds crc (copyImage f s A) s L ∧ ∀ it ∈ L, Agree f (copyImage f s A) it.1 (it.1 + it.2) :=
  h.other_page (h.copyImage_active hA) (h.copyImage_agreeOutside hA) (by simp [firstBytes_length])
    (h.copyImage_head hA) hno

/-! ### The loop -/

/-- `nvs'` is reached from `nvs` by operations on the flash. -/
def Extends (nvs nvs' : Nvs) : Prop := ∃ ops, nvs' = nvs.applyAll ops

theorem Extends.refl (nvs : Nvs) : Extends nvs nvs := ⟨[], by simp⟩

theorem Extends.trans {nvs nvs' nvs'' : Nvs} (h : Extends nvs nvs') (h' : Extends nvs' nvs'') : Extends nvs nvs'' := by
  obtain ⟨ops, rfl⟩ := h
  obtain ⟨ops', rfl⟩ := h'
  exact ⟨ops ++ ops', by simp [Nvs.applyAll, replay_append]⟩

theorem Extends.apply (nvs : Nvs) (op : Op) : Extends nvs (nvs.apply op) := ⟨[op], rfl⟩

theorem mmFlashWrite_extends (nvs : Nvs) (a : Nat) (bs : List UInt8) : Extends nvs (mmFlashWrite nvs a bs).2 := by
  unfold mmFlashWrite flashNvsWrite nvsWrite
  split
  · split
    · exact Extends.apply nvs _
    · exact Extends.refl nvs
  · exact Extends.refl nvs

theorem mmFlashZero_extends (nvs : Nvs) (a n : Nat) : Extends nvs (mmFlashZero nvs a n).2 := by
  unfold mmFlashZero
  split
  · exact mmFlashWrite_extends nvs a _
  · exact Extends.refl nvs

theorem mmCopyLoop_extends (hi k a d : Nat) (nvs : Nvs) : Extends nvs (mmCopyLoop crc hi k nvs a d).2 := by
  induction k generalizing nvs a d with
  | zero => exact Extends.refl nvs
  | succ k ih =>
    rw [mmCopyLoop]
    cases mmGetNext crc nvs.mem a hi with
    | none => exact Extends.refl nvs
    | some it =>
      obtain ⟨p, n⟩ := it
      have hwrite := mmFlashWrite_extends nvs d (bytesAt nvs.mem p n)
      cases hres : mmFlashWrite nvs d (bytesAt nvs.mem p n) with
      | mk ok nvs' =>
        rw [hres] at hwrite
        simp only [hres]
        cases ok with
        | false => exact hwrite
        | true => exact hwrite.trans (ih _ _ nvs')

/-- The loop copies the next item. -/
theorem mmCopyLoop_step {it : Nat × Nat} {k : Nat} (h : PageHolds crc f s L) (hA : L = A ++ it :: B)
    (hmem : nvs.mem = copyImage f s A) (hholds : PageHolds crc (copyImage f s A) s L)
    (hkeep : ∀ it ∈ L, Agree f (copyImage f s A) it.1 (it.1 + it.2)) :
    mmCopyLoop crc (s + flashFsPageSize) (k + 1) nvs (Resync.finish (s + qwordLen) A)
        (passivePage s + qwordLen + (copied f A).length) =
      mmCopyLoop crc (s + flashFsPageSize) k
        (nvs.apply (.program (passivePage s + qwordLen + (copied f A).length) (bytesAt f it.1 it.2)))
        (Resync.finish (s + qwordLen) (A ++ [it])) (passivePage s + qwordLen + (copied f (A ++ [it])).length) := by
  obtain ⟨p, n⟩ := it
  have hitmem : (p, n) ∈ L := by rw [hA]; simp
  have hlayout := hholds.layout
  rw [hA] at hlayout
  have hnext := hlayout.drop.next_cons.1
  have hbytes : bytesAt (copyImage f s A) p n = bytesAt f p n := (bytesAt_congr (hkeep (p, n) hitmem)).symm
  -- the copy lies in the passive page
  have hle := h.copied_le (A := A ++ [(p, n)]) (B := B) (by rw [hA]; simp)
  have hlen : (copied f (A ++ [(p, n)])).length = (copied f A).length + n := by simp [copied]
  have hsz := h.header_le hitmem
  have h7 : itemHeaderSz = 7 := rfl
  have hin : InNvs (passivePage s + qwordLen + (copied f A).length)
      (passivePage s + qwordLen + (copied f A).length + (bytesAt f p n).length) := by
    rw [bytesAt_length]
    have h1 : nvsFlashStart = 319488 := rfl
    have h2 : nvsSize = 32768 := rfl
    have hsize := flashFsPageSize_eq
    unfold InNvs
    rcases h.active.pages with ⟨-, hp⟩ | ⟨-, hp⟩
    · omega
    · omega
  rw [mmCopyLoop, mmGetNext, hmem]
  unfold scanEnd at hnext
  rw [hnext]
  simp only [hbytes]
  rw [mmFlashWrite_eq hin, hlen, Resync.finish_concat, Nat.add_assoc _ _ n]

/-- The loop copies all items. -/
theorem mmCopyLoop_eq {k : Nat} (h : PageHolds crc f s L)
    (hno : s = memoryManager1Offset → ∀ A B, L = A ++ B →
      NoItem crc (neighbour f (List.replicate 4 0xFF ++ firstBytes f A)) s L)
    (hA : L = A ++ B) (hmem : nvs.mem = copyImage f s A) (hk : B.length ≤ k) :
    mmCopyLoop crc (s + flashFsPageSize) k nvs (Resync.finish (s + qwordLen) A)
        (passivePage s + qwordLen + (copied f A).length) =
      (true, nvs.applyAll (copyOps f (passivePage s + qwordLen + (copied f A).length) B)) := by
  induction B generalizing A nvs k with
  | nil =>
    obtain ⟨hholds, -⟩ := h.copyImage_holds hA fun hs => hno hs A [] hA
    rw [copyOps, Nvs.applyAll_nil]
    cases k with
    | zero => rfl
    | succ k =>
      have hlayout := hholds.layout
      rw [hA] at hlayout
      have hnext := hlayout.drop.next_nil
      unfold scanEnd at hnext
      rw [mmCopyLoop, mmGetNext, hmem, hnext]
  | cons it B ih =>
    obtain ⟨k, rfl⟩ : ∃ j, k = j + 1 := ⟨k - 1, by simp only [List.length_cons] at hk; omega⟩
    obtain ⟨hholds, hkeep⟩ := h.copyImage_holds hA fun hs => hno hs A (it :: B) hA
    have hA' : L = (A ++ [it]) ++ B := by rw [hA]; simp
    have hlen : (copied f (A ++ [it])).length = (copied f A).length + it.2 := by simp [copied]
    have hmem' : (nvs.apply (.program (passivePage s + qwordLen + (copied f A).length) (bytesAt f it.1 it.2))).mem =
        copyImage f s (A ++ [it]) := by
      rw [Nvs.apply_mem, hmem, Op.run, copyImage, copyImage, program_append, copied_append]
      simp [copied]
    rw [mmCopyLoop_step h hA hmem hholds hkeep, ih hA' hmem' (by simpa using hk), Nvs.apply_applyAll, hlen, copyOps,
      Nat.add_assoc _ _ it.2]

/-! ### The whole turn -/

/-- The part of `mm_turn_page` behind the loop. -/
def turnRest (s : Nat) : Bool × Nvs → Bool × Nvs
  | (false, nvs) => (false, nvs)
  | (true, nvs) =>
    match mmFlashWrite nvs (passivePage s) mmPageStateActive with
    | (false, nvs) => (false, nvs)
    | (true, nvs) => mmFlashZero nvs s qwordLen

private theorem ActivePage.page_inNvs (h : ActivePage f s) {n : Nat} (hn : n ≤ flashFsPageSize) :
    InNvs s (s + n) ∧ InNvs (passivePage s) (passivePage s + n) := by
  have h1 : nvsFlashStart = 319488 := rfl
  have h2 : nvsSize = 32768 := rfl
  have hsize := flashFsPageSize_eq
  unfold InNvs
  rcases h.pages with ⟨hs, hp⟩ | ⟨hs, hp⟩
  · omega
  · omega

theorem ActivePage.mmTurnPage_eq (h : ActivePage nvs.mem s) :
    mmTurnPage crc nvs = turnRest s (mmCopyLoop crc (s + flashFsPageSize) flashFsPageSize
      (nvs.apply (.erase (passivePage s) flashFsPageSize)) (s + qwordLen) (passivePage s + qwordLen)) := by
  have hin := (h.page_inNvs (Nat.le_refl flashFsPageSize)).2
  rw [mmTurnPage, show mmGetActivePage nvs.mem = some (s, flashFsPageSize) from h]
  dsimp only
  rw [flashNvsErase_eq hin]
  dsimp only
  cases mmCopyLoop crc (s + flashFsPageSize) flashFsPageSize (nvs.apply (.erase (passivePage s) flashFsPageSize))
      (s + qwordLen) (passivePage s + qwordLen) with
  | mk ok nvs' => cases ok <;> rfl

theorem turnRest_true {nvs' : Nvs} (h : ActivePage nvs.mem s) :
    turnRest s (true, nvs') = (true, nvs'.applyAll
      [.program (passivePage s) mmPageStateActive, .program s (List.replicate qwordLen 0)]) := by
  have hin : InNvs s (s + qwordLen) ∧ InNvs (passivePage s) (passivePage s + qwordLen) := h.page_inNvs (by decide)
  rw [turnRest, mmFlashWrite_eq hin.2]
  dsimp only
  rw [mmFlashZero_eq hin.1 (by decide)]
  simp [Nvs.applyAll, Nvs.apply]

theorem turnRest_extends (s : Nat) (r : Bool × Nvs) : Extends r.2 (turnRest s r).2 := by
  obtain ⟨ok, nvs⟩ := r
  cases ok with
  | false => exact Extends.refl nvs
  | true =>
    have hwrite := mmFlashWrite_extends nvs (passivePage s) mmPageStateActive
    rw [turnRest]
    cases hres : mmFlashWrite nvs (passivePage s) mmPageStateActive with
    | mk ok nvs' =>
      rw [hres] at hwrite
      cases ok with
      | false => exact hwrite
      | true => exact hwrite.trans (mmFlashZero_extends nvs' s qwordLen)

theorem TurnInert.copying (h : TurnInert crc f s L) (hA : L = A ++ B) (hs : s = memoryManager1Offset) :
    NoItem crc (neighbour f (List.replicate 4 0xFF ++ firstBytes f A)) s L := by
  cases A with
  | nil => exact h hs _ (List.mem_cons_self ..)
  | cons it A =>
    rw [show firstBytes f (it :: A) = firstBytes f L by rw [hA]; rfl]
    exact h hs _ (List.mem_cons_of_mem _ (List.mem_cons_self ..))

/-- The operations of a turn. -/
theorem PageHolds.mmTurnPage_eq (h : PageHolds crc nvs.mem s L) (hinert : TurnInert crc nvs.mem s L) :
    mmTurnPage crc nvs = (true, nvs.applyAll (turnOps nvs.mem s L)) := by
  have hmem : (nvs.apply (.erase (passivePage s) flashFsPageSize)).mem = copyImage nvs.mem s [] := by
    simp [copyImage, copied, Op.run]
  have hloop := mmCopyLoop_eq (A := []) h (fun hs A B hA => hinert.copying hA hs) rfl hmem (Nat.le_of_lt h.length_le)
  rw [h.active.mmTurnPage_eq]
  rw [show (s + qwordLen) = Resync.finish (s + qwordLen) [] from rfl,
    show passivePage s + qwordLen = passivePage s + qwordLen + (copied nvs.mem []).length from rfl, hloop,
    turnRest_true h.active]
  simp [Nvs.applyAll, Nvs.apply, turnOps, replay_append, copied]

end TiMcu.FlashFs
