import TiMcu.FlashFs.TurnPage

/-!
# What survives a turn

A page that holds the copied bytes and is erased behind them holds the same items one directly behind the other
(`PageHolds.packed`): the scan goes from one item to the next without a gap, and the erased tail reads as nothing.  So
when nothing near the end of page 1 becomes an item (`TurnInert`), every image a cut can leave enumerates the files of
the image before the turn, and that condition is exact (`turnSafe_iff`).
-/

namespace TiMcu.FlashFs

open NorFlash

variable {crc : List UInt8 → UInt8} {f g : Mem} {s o p d q n : Nat} {nvs : Nvs} {A B L : List (Nat × Nat)}

/-! ### Copied items -/

/-- The header and the file of a copied item. -/
private theorem copied_item (hn : itemHeaderSz ≤ n) (h : bytesAt g d n = bytesAt f q n) :
    mmItem g d = mmItem f q ∧
      bytesAt g (d + itemHeaderSz) (n - itemHeaderSz) = bytesAt f (q + itemHeaderSz) (n - itemHeaderSz) := by
  obtain ⟨m, rfl⟩ := Nat.exists_eq_add_of_le hn
  rw [bytesAt_add, bytesAt_add] at h
  obtain ⟨hhead, hfile⟩ := List.append_inj h (by simp)
  rw [Nat.add_sub_cancel_left]
  exact ⟨mmItem_congr hhead, hfile⟩

/-- A copy of an item reads as an item. -/
private theorem mmItemAt_copy (hf : ActivePage f s) (hg : ActivePage g p) (hs : s < q)
    (hq : q + n ≤ s + flashFsPageSize)
    (hp : p < d) (hd : d + n ≤ p + flashFsPageSize) (hbytes : bytesAt g d n = bytesAt f q n)
    (hat : mmItemAt crc f q = some n) : mmItemAt crc g d = some n := by
  have hn := mmItemAt_pos hat
  have hlen := mmItemAt_length hat
  have h7 : itemHeaderSz = 7 := rfl
  obtain ⟨hitem, hfile⟩ := copied_item hn hbytes
  rw [hlen, Nat.add_sub_cancel] at hfile
  rw [mmItemAt_eq_some hf hs (by omega)] at hat
  rw [mmItemAt_eq_some hg hp (by omega), hitem, hfile]
  exact ⟨hat.1, hat.2.1, by omega, hat.2.2.2⟩

/-- The copied bytes of the first item and of the others. -/
private theorem copied_split {it : Nat × Nat} (h : bytesAt g d (copied f (it :: L)).length = copied f (it :: L)) :
    bytesAt g d it.2 = bytesAt f it.1 it.2 ∧ bytesAt g (d + it.2) (copied f L).length = copied f L := by
  rw [copied_cons, List.length_append, bytesAt_length, bytesAt_add] at h
  exact List.append_inj h (by simp)

private theorem itemFiles_pack (hsz : ∀ it ∈ L, itemHeaderSz ≤ it.2)
    (hbytes : bytesAt g d (copied f L).length = copied f L) : itemFiles g (Resync.pack d L) = itemFiles f L := by
  induction L generalizing d with
  | nil => rfl
  | cons it L ih =>
    obtain ⟨hfirst, hrest⟩ := copied_split hbytes
    obtain ⟨hitem, hfile⟩ := copied_item (hsz it (List.mem_cons_self ..)) hfirst
    have hids : itemId g (d, it.2) = itemId f it := by rw [itemId, itemId, hitem]
    have hfiles : itemFile g (d, it.2) = itemFile f it := hfile
    have htail := ih (fun it' hit => hsz it' (List.mem_cons_of_mem _ hit)) hrest
    simp only [itemFiles, Resync.pack, List.map_cons, hids, hfiles, List.cons.injEq, true_and] at htail ⊢
    exact htail

/-- The scan of the new page goes over the copied items without a gap. -/
private theorem pack_layout (hf : ActivePage f s) (hg : ActivePage g p)
    (h : Resync.Layout (mmItemAt crc f) (scanEnd s) o L) (hin : ∀ it ∈ L, it.1 + it.2 ≤ s + flashFsPageSize)
    (hs : s < o) (hp : p < d) (hdo : d + s ≤ o + p) (hbytes : bytesAt g d (copied f L).length = copied f L)
    (hrest : Erased g (d + (copied f L).length) (p + flashFsPageSize)) :
    Resync.Layout (mmItemAt crc g) (scanEnd p) d (Resync.pack d L) := by
  have hsize := flashFsPageSize_eq
  have h8 : minFileLen = 8 := rfl
  unfold scanEnd at *
  induction h generalizing d with
  | done gap =>
    refine Resync.Layout.done fun q h1 h2 => mmItemAt_of_erased (hrest.mono ?_ (by omega))
    simpa [copied] using h1
  | @found o q n L le lt gap hit rest ih =>
    obtain ⟨hfirst, hbytes'⟩ := copied_split hbytes
    have hend := hin (q, n) (List.mem_cons_self ..)
    simp only at hfirst hbytes' hend
    have hcopy := mmItemAt_copy hf hg (by omega) hend hp (by omega) hfirst hit
    have hlen : (copied f ((q, n) :: L)).length = n + (copied f L).length := by simp [copied_cons]
    refine Resync.Layout.found (Nat.le_refl d) (by omega) (fun x h1 h2 => by omega) hcopy ?_
    refine ih (fun it hmem => hin it (List.mem_cons_of_mem _ hmem)) (by omega) (by omega) (by omega) hbytes' ?_
    exact hrest.mono (by omega) (Nat.le_refl _)

/-- A page with the copied bytes and an erased tail holds the items one directly behind the other. -/
theorem PageHolds.packed (h : PageHolds crc f s L) (hg : ActivePage g p)
    (hbytes : bytesAt g (p + qwordLen) (copied f L).length = copied f L)
    (hrest : Erased g (p + qwordLen + (copied f L).length) (p + flashFsPageSize)) :
    PageHolds crc g p (Resync.pack (p + qwordLen) L) ∧
      itemFiles g (Resync.pack (p + qwordLen) L) = itemFiles f L := by
  have hq : qwordLen = 4 := rfl
  have hle := h.copied_le (List.append_nil L).symm
  rw [copied_length] at hle
  refine ⟨⟨hg, ?_, ?_⟩, itemFiles_pack (fun it hit => h.header_le hit) hbytes⟩
  · exact pack_layout h.active hg h.layout h.inside (by omega) (by omega) (by omega) hbytes hrest
  · intro it hit
    have hrange := (Resync.pack_range hit).2
    omega

/-! ### The images of a turn -/

theorem PageHolds.mmFiles_eq (h : PageHolds crc f s L) : mmFiles crc f = itemFiles f L := by
  rw [mmFiles, h.mmItems_eq]

/-- Page 1 stays selected while both pages are active. -/
private theorem PageHolds.headImage_active (h : PageHolds crc f s L) (hs : s = memoryManager1Offset) :
    ActivePage (headImage f s L) s := by
  have hstate : bytesAt (headImage f s L) s qwordLen = mmPageStateActive := by
    rw [← h.active.state]
    refine (bytesAt_congr (h.headImage_agreeOutside.agree (Or.inl ?_))).symm
    have hq : qwordLen = 4 := rfl
    have hpages := h.active.pages
    have hone := memoryManager1Offset_eq
    omega
  subst hs
  exact activePage_one hstate

/-- The image with the new state enumerates the same files: page 1 stays selected while both pages are active. -/
private theorem PageHolds.headImage_files (h : PageHolds crc f s L) (hinert : TurnInert crc f s L) :
    ∃ p' L', PageHolds crc (headImage f s L) p' L' ∧ itemFiles (headImage f s L) L' = itemFiles f L := by
  have hsize := flashFsPageSize_eq
  have hq : qwordLen = 4 := rfl
  rcases h.active.cases with hs | hs
  · have hno : s = memoryManager1Offset → NoItem crc (neighbour f (mmPageStateActive ++ firstBytes f L)) s L :=
      fun hs => hinert hs _ (by simp [turnHeads])
    have hlen : (mmPageStateActive ++ firstBytes f L).length = 6 := by
      rw [List.length_append, firstBytes_length]
      rfl
    obtain ⟨hholds, hkeep⟩ := h.other_page (h.headImage_active hs) h.headImage_agreeOutside hlen h.headImage_head hno
    exact ⟨s, L, hholds, h.itemFiles_congr (List.Sublist.refl L) hkeep⟩
  · have hp : passivePage s = memoryManager1Offset := by rw [hs]; rfl
    have hactive : ActivePage (headImage f s L) (passivePage s) := by
      rw [hp]
      apply activePage_one
      rw [← hp]
      exact headImage_state f s L
    obtain ⟨hholds, hfiles⟩ := h.packed hactive
      (by rw [← bytesAt_congr (headImage_agree f s L), h.copyImage_copied (List.append_nil L).symm])
      ((copyImage_rest f s L).congr ((headImage_agree f s L).mono (by omega) (Nat.le_refl _)))
    exact ⟨_, _, hholds, hfiles⟩

/-- The image at the end of a turn: the other page is active and holds the items one directly behind the other. -/
theorem PageHolds.turnImage_page (h : PageHolds crc f s L) :
    ActivePage (turnImage f s L) (passivePage s) ∧
      bytesAt (turnImage f s L) (passivePage s + qwordLen) (copied f L).length = copied f L ∧
      Erased (turnImage f s L) (passivePage s + qwordLen + (copied f L).length) (passivePage s + flashFsPageSize) := by
  have hsize := flashFsPageSize_eq
  have hq : qwordLen = 4 := rfl
  have hle := h.copied_le (List.append_nil L).symm
  -- the old state stands outside the new page
  have hpage : Agree (headImage f s L) (turnImage f s L) (passivePage s) (passivePage s + flashFsPageSize) := by
    apply (program_agreeOutside _ _ _).agree
    rw [List.length_replicate]
    rcases h.active.pages with ⟨hs, hp⟩ | ⟨hs, hp⟩
    · right; omega
    · left; omega
  have hcopy : Agree (copyImage f s L) (turnImage f s L) (passivePage s + qwordLen)
      (passivePage s + flashFsPageSize) :=
    (headImage_agree f s L).trans (hpage.mono (by omega) (Nat.le_refl _))
  have hstate : bytesAt (turnImage f s L) (passivePage s) qwordLen = mmPageStateActive := by
    rw [← headImage_state f s L]
    exact (bytesAt_congr (hpage.mono (Nat.le_refl _) (by omega))).symm
  refine ⟨?_, ?_, (copyImage_rest f s L).congr (hcopy.mono (by omega) (Nat.le_refl _))⟩
  · rcases h.active.cases with rfl | rfl
    · refine activePage_two (state_ne' ?_) hstate
      rw [turnImage, program_replicate_zero (by omega) (by omega)]
      decide
    · exact activePage_one hstate
  · refine (bytesAt_congr (hcopy.symm.mono (Nat.le_refl _) ?_)).trans (h.copyImage_copied (List.append_nil L).symm)
    omega

/-- The page after a turn. -/
theorem PageHolds.turnImage_holds (h : PageHolds crc f s L) :
    PageHolds crc (turnImage f s L) (passivePage s) (Resync.pack (passivePage s + qwordLen) L) ∧
      itemFiles (turnImage f s L) (Resync.pack (passivePage s + qwordLen) L) = itemFiles f L := by
  obtain ⟨hactive, hbytes, hrest⟩ := h.turnImage_page
  exact h.packed hactive hbytes hrest

theorem replay_turnOps (f : Mem) (s : Nat) (L : List (Nat × Nat)) :
    replay f (turnOps f s L) = turnImage f s L := by
  rw [turnOps, replay_cons, replay_append, replay_copyOps]
  rfl

/-- Every prefix of a turn leaves an image with the files of the image before it. -/
private theorem PageHolds.turn_prefix (h : PageHolds crc f s L) (hinert : TurnInert crc f s L) (k : Nat) :
    ∃ p' L', PageHolds crc (replay f ((turnOps f s L).take k)) p' L' ∧
      itemFiles (replay f ((turnOps f s L).take k)) L' = itemFiles f L := by
  rcases replay_take_turnOps f s k L with heq | ⟨A, B, hA, heq⟩ | heq | heq
  · rw [heq]
    exact ⟨s, L, h, rfl⟩
  · rw [heq]
    obtain ⟨hholds, hkeep⟩ := h.copyImage_holds hA (hinert.copying hA)
    exact ⟨s, L, hholds, h.itemFiles_congr (List.Sublist.refl L) hkeep⟩
  · rw [heq]
    exact h.headImage_files hinert
  · rw [heq]
    exact ⟨_, _, h.turnImage_holds⟩

/-! ### The condition is exact -/

/-- After the turn the other page is selected, it holds the items of the image before one directly behind the other,
and the rest of it is erased. -/
structure Turned (crc : List UInt8 → UInt8) (f g : Mem) (s : Nat) : Prop where
  active : ActivePage g (passivePage s)
  items : mmItems crc g = Resync.pack (passivePage s + qwordLen) (mmItems crc f)
  bytes : bytesAt g (passivePage s + qwordLen) (copied f (mmItems crc f)).length = copied f (mmItems crc f)
  erased : Erased g (passivePage s + qwordLen + (copied f (mmItems crc f)).length) (passivePage s + flashFsPageSize)

/-- A turn of the page that starts at `s` loses nothing: the image left by any prefix of its operations has an active
page with the same files in the same order, and a turn that returns true has moved them to the other page. -/
def TurnSafe (crc : List UInt8 → UInt8) (f : Mem) (s : Nat) : Prop :=
  (∀ k, (mmGetActivePage (replay f ((mmTurnPage crc (Nvs.ofMem f)).2.ops.take k))).isSome = true ∧
    mmFiles crc (replay f ((mmTurnPage crc (Nvs.ofMem f)).2.ops.take k)) = mmFiles crc f) ∧
  ((mmTurnPage crc (Nvs.ofMem f)).1 = true → Turned crc f (mmTurnPage crc (Nvs.ofMem f)).2.mem s)

private theorem PageHolds.turnSafe (h : PageHolds crc f s L) (hinert : TurnInert crc f s L) : TurnSafe crc f s := by
  have hmem : PageHolds crc (Nvs.ofMem f).mem s L := h
  have hops : (Nvs.ofMem f).ops ++ turnOps f s L = turnOps f s L := List.nil_append _
  unfold TurnSafe
  rw [hmem.mmTurnPage_eq hinert]
  simp only [Nvs.applyAll_ops, Nvs.applyAll_mem, Nvs.ofMem_mem, hops]
  constructor
  · intro k
    obtain ⟨p', L', hholds, hfiles⟩ := h.turn_prefix hinert k
    have hactive : mmGetActivePage (replay f ((turnOps f s L).take k)) = some (p', flashFsPageSize) := hholds.active
    rw [hholds.mmFiles_eq, hfiles, h.mmFiles_eq, hactive]
    exact ⟨rfl, rfl⟩
  · intro _
    obtain ⟨hactive, hbytes, hrest⟩ := h.turnImage_page
    rw [replay_turnOps]
    refine ⟨hactive, ?_, ?_, ?_⟩
    · rw [h.turnImage_holds.1.mmItems_eq, h.mmItems_eq]
    · rw [h.mmItems_eq]
      exact hbytes
    · rw [h.mmItems_eq]
      exact hrest

/-- The image left by the operations that are certain to come first. -/
theorem Extends.take {nvs' : Nvs} {ops : List Op} (h : Extends ((Nvs.ofMem f).applyAll ops) nvs') :
    replay f (nvs'.ops.take ops.length) = replay f ops := by
  obtain ⟨more, rfl⟩ := h
  simp

/-- Page 1 enumerates the same files beside another page 2 only when nothing new reads as an item: such an item would run
over the end of the page and cannot be one of the files. -/
private theorem PageHolds.noItem_of_files (h : PageHolds crc f s L) (hs : s = memoryManager1Offset)
    (hg : ActivePage g s)
    (hfg : AgreeOutside f g (passivePage s) (passivePage s + flashFsPageSize))
    (hfiles : mmFiles crc g = mmFiles crc f) : NoItem crc g s L := by
  have hsize := flashFsPageSize_eq
  have hq : qwordLen = 4 := rfl
  have h8 : minFileLen = 8 := rfl
  have hone := memoryManager1Offset_eq
  have hp : passivePage s = 335872 := by rw [hs]; rfl
  have hlayout : Resync.Layout (mmItemAt crc g) (scanEnd s) (s + qwordLen) (mmItems crc g) := hg.layout_mmItems
  have hpage : Agree f g s (s + flashFsPageSize) := hfg.agree (Or.inl (by omega))
  have hkeep : ∀ it ∈ L, mmItemAt crc g it.1 = some it.2 := by
    intro it hit
    have hrange := h.tiling.range it hit
    exact h.itemAt_congr hg hit (hpage.mono (by omega) (h.inside it hit))
  have hlens : L.map Prod.snd = (mmItems crc g).map Prod.snd := by
    have hlen : ∀ (k : Mem) (M : List (Nat × Nat)), (∀ it ∈ M, itemHeaderSz ≤ it.2) →
        (itemFiles k M).map (fun e => e.2.length + itemHeaderSz) = M.map Prod.snd := by
      intro k M hM
      rw [itemFiles, List.map_map]
      apply List.map_congr_left
      intro it hit
      have hsz := hM it hit
      simp only [Function.comp_apply, itemFile, bytesAt_length]
      omega
    have hsz' : ∀ it ∈ mmItems crc g, itemHeaderSz ≤ it.2 := fun it hit => mmItemAt_pos (hlayout.tiling.hit it hit)
    rw [← hlen f L fun it hit => h.header_le hit, ← hlen g (mmItems crc g) hsz', ← h.mmFiles_eq, ← hfiles]
    rfl
  have hnew : ∀ q n, s + qwordLen ≤ q → q < scanEnd s → mmItemAt crc g q = some n →
      mmItemAt crc f q = some n ∨ s + flashFsPageSize < q + n := by
    intro q n h1 h2 hat
    unfold scanEnd at h2
    have hn := mmItemAt_length hat
    by_cases hover : s + flashFsPageSize < q + n
    · exact Or.inr hover
    · left
      have h7 : itemHeaderSz = 7 := rfl
      rw [← hat]
      refine (mmItemAt_congr hg h.active (by omega) (by omega) ?_ ?_).symm
      · exact (hpage.mono (by omega) (by omega)).symm
      · exact fun _ _ => (hpage.mono (by omega) (by omega)).symm
  have hL := h.layout.eq_of_lengths hlayout hlens h.inside hkeep hnew
  rw [hL]
  exact hlayout.tiling.gap

/-- What a safe turn says about the bytes behind page 1 in the image that some first operations of the turn leave. -/
private theorem PageHolds.inert_of_prefix (h : PageHolds crc f s L) (hsafe : TurnSafe crc f s)
    (hs : s = memoryManager1Offset) (ops : List Op) (himage : replay f ops = g)
    (hops : Extends ((Nvs.ofMem f).applyAll ops) (mmTurnPage crc (Nvs.ofMem f)).2) (hg : ActivePage g s)
    (hfg : AgreeOutside f g (passivePage s) (passivePage s + flashFsPageSize)) {t : List UInt8} (ht : t.length = 6)
    (hhead : bytesAt g (passivePage s) 6 = t) : NoItem crc (neighbour f t) s L := by
  have hfiles := (hsafe.1 ops.length).2
  rw [hops.take, himage] at hfiles
  have hno := h.noItem_of_files hs hg hfg hfiles
  have hactive := h.active
  subst hs
  intro q h1 h2 hout
  rw [mmItemAt_neighbour hactive hg ht hfg hhead h1 h2]
  exact hno q h1 h2 hout

/-- The image of the erase. -/
private theorem erased_image (f : Mem) (s : Nat) :
    ((Nvs.ofMem f).apply (.erase (passivePage s) flashFsPageSize)).mem = copyImage f s [] := by
  simp [copyImage, copied, Op.run]

/-- The erase comes first in any case. -/
private theorem PageHolds.inert_erased (h : PageHolds crc f s L) (hsafe : TurnSafe crc f s)
    (hs : s = memoryManager1Offset) : NoItem crc (neighbour f (List.replicate 4 0xFF ++ firstBytes f [])) s L := by
  have hA : L = [] ++ L := rfl
  refine h.inert_of_prefix hsafe hs [.erase (passivePage s) flashFsPageSize] (erased_image f s) ?_
    (h.copyImage_active hA) (h.copyImage_agreeOutside hA) (by simp [firstBytes_length]) (h.copyImage_head hA)
  have hactive : ActivePage (Nvs.ofMem f).mem s := h.active
  rw [hactive.mmTurnPage_eq]
  exact (mmCopyLoop_extends _ _ _ _ _).trans (turnRest_extends s _)

/-- When the erase makes nothing read as an item, the first item is copied. -/
private theorem PageHolds.inert_first {it : Nat × Nat} (h : PageHolds crc f s L) (hsafe : TurnSafe crc f s)
    (hs : s = memoryManager1Offset) (hL : L = it :: B) :
    NoItem crc (neighbour f (List.replicate 4 0xFF ++ firstBytes f [it])) s L := by
  have hA : L = [it] ++ B := hL
  have himage : replay f [.erase (passivePage s) flashFsPageSize,
      .program (passivePage s + qwordLen) (bytesAt f it.1 it.2)] = copyImage f s [it] := by
    simp [copyImage, copied, Op.run]
  refine h.inert_of_prefix hsafe hs _ himage ?_ (h.copyImage_active hA) (h.copyImage_agreeOutside hA)
    (by simp [firstBytes_length]) (h.copyImage_head hA)
  obtain ⟨hholds, hkeep⟩ := h.copyImage_holds (A := []) (B := L) rfl fun _ => h.inert_erased hsafe hs
  obtain ⟨k, hk⟩ : ∃ k, flashFsPageSize = k + 1 := ⟨16383, rfl⟩
  have hstep := mmCopyLoop_step (k := k) h (A := []) hL (erased_image f s) hholds hkeep
  have hactive : ActivePage (Nvs.ofMem f).mem s := h.active
  rw [hactive.mmTurnPage_eq]
  refine Extends.trans ?_ (turnRest_extends s _)
  generalize hn : flashFsPageSize = n at hk ⊢
  subst hk
  rw [← hn] at hstep ⊢
  exact hstep ▸ mmCopyLoop_extends _ _ _ _ _

private theorem PageHolds.inert_copying (h : PageHolds crc f s L) (hsafe : TurnSafe crc f s)
    (hs : s = memoryManager1Offset) (hA : L = A ++ B) :
    NoItem crc (neighbour f (List.replicate 4 0xFF ++ firstBytes f A)) s L := by
  cases A with
  | nil => exact h.inert_erased hsafe hs
  | cons it A => exact h.inert_first hsafe hs hA

/-- Then the loop comes to its end, and the state is written. -/
private theorem PageHolds.inert_head (h : PageHolds crc f s L) (hsafe : TurnSafe crc f s)
    (hs : s = memoryManager1Offset) : NoItem crc (neighbour f (mmPageStateActive ++ firstBytes f L)) s L := by
  have himage : replay f (.erase (passivePage s) flashFsPageSize :: (copyOps f (passivePage s + qwordLen) L ++
      [.program (passivePage s) mmPageStateActive])) = headImage f s L := by
    rw [replay_cons, replay_append, replay_copyOps]
    rfl
  have hactive : ActivePage (headImage f s L) s := h.headImage_active hs
  have hlen : (mmPageStateActive ++ firstBytes f L).length = 6 := by
    rw [List.length_append, firstBytes_length]
    rfl
  refine h.inert_of_prefix hsafe hs _ himage ?_ hactive h.headImage_agreeOutside hlen h.headImage_head
  have hloop := mmCopyLoop_eq (A := []) h (fun _ A B hA => h.inert_copying hsafe hs hA) rfl (erased_image f s)
    (Nat.le_of_lt h.length_le)
  have hofMem : ActivePage (Nvs.ofMem f).mem s := h.active
  rw [hofMem.mmTurnPage_eq, show (s + qwordLen) = Resync.finish (s + qwordLen) [] from rfl,
    show passivePage s + qwordLen = passivePage s + qwordLen + (copied f []).length from rfl, hloop,
    turnRest_true hofMem]
  exact ⟨[.program s (List.replicate qwordLen 0)], by simp [Nvs.applyAll, Nvs.apply, replay_append, copied]⟩

private theorem PageHolds.inert_of_safe (h : PageHolds crc f s L) (hsafe : TurnSafe crc f s) : TurnInert crc f s L := by
  intro hs t ht
  simp only [turnHeads, List.mem_cons, List.not_mem_nil, or_false] at ht
  rcases ht with rfl | rfl | rfl
  · exact h.inert_erased hsafe hs
  · exact h.inert_copying hsafe hs (List.append_nil L).symm
  · exact h.inert_head hsafe hs

/-- A turn loses nothing exactly when nothing on page 1 becomes an item while page 2 is filled. -/
theorem turnSafe_iff (crc : List UInt8 → UInt8) (f : Mem) (s : Nat) (h : ActivePage f s)
    (hin : ∀ it ∈ mmItems crc f, it.1 + it.2 ≤ s + flashFsPageSize) :
    TurnSafe crc f s ↔ TurnInert crc f s (mmItems crc f) := by
  have hholds : PageHolds crc f s (mmItems crc f) := ⟨h, h.layout_mmItems, hin⟩
  exact ⟨hholds.inert_of_safe, hholds.turnSafe⟩

/-! ### A header that runs over the end of page 1 -/

/-- Page 1 is active and holds nothing but seven bytes that look like the header of a file of three bytes, two of which
are left in the page.  Page 2 starts with zeros, as formatting leaves it. -/
def overrunningHeader : Mem :=
  program (program (program (fun _ => 0xFF) memoryManager1Offset mmPageStateActive) (memoryManager2Offset - 9)
    (newHeader crc8Autosar 1 ⟨[0xFF, 0xFF, 0xFF], by decide⟩).bytes) memoryManager2Offset [0x00, 0x00, 0x00, 0x00]

private theorem overrunningHeader_holds : PageHolds crc8Autosar overrunningHeader memoryManager1Offset [] := by
  have hactive : ActivePage overrunningHeader memoryManager1Offset := activePage_one (by decide +kernel)
  refine ⟨hactive, Resync.Layout.done fun q h1 h2 => ?_, by simp⟩
  have hend : scanEnd memoryManager1Offset = 335864 := rfl
  rw [hend] at h2
  by_cases hq : q + 4 ≤ 335863
  · -- in front of the header everything is erased
    apply mmItemAt_of_erased
    intro x hx1 hx2
    have hpage1 := memoryManager1Offset_eq
    have hpage2 := memoryManager2Offset_eq
    have hstate : mmPageStateActive.length = 4 := rfl
    have h4 : qwordLen = 4 := rfl
    rw [overrunningHeader, program_of_lt (by omega), program_of_lt (by omega), program_of_ge (by omega)]
  · obtain rfl | rfl | rfl | rfl : q = 335860 ∨ q = 335861 ∨ q = 335862 ∨ q = 335863 := by omega
    all_goals decide +kernel

/-- The same page with an item at its begin. -/
def occupied : Mem :=
  program overrunningHeader (memoryManager1Offset + 4)
    ((newHeader crc8Autosar 7 ⟨[0x2A], by decide⟩).bytes ++ [0x2A])

private theorem occupied_holds :
    PageHolds crc8Autosar occupied memoryManager1Offset [(memoryManager1Offset + 4, 8)] := by
  have hactive : ActivePage occupied memoryManager1Offset := activePage_one (by decide +kernel)
  have hat : mmItemAt crc8Autosar occupied (memoryManager1Offset + 4) = some 8 := by decide +kernel
  refine ⟨hactive, Resync.Tiling.layout ⟨by decide, List.forall_mem_singleton.2 hat, by decide, fun q h1 h2 hout => ?_⟩,
    by decide⟩
  -- behind the item the page is the one without it
  have hsize := flashFsPageSize_eq
  have hscan : scanEnd memoryManager1Offset = memoryManager1Offset + 16376 := rfl
  have hfour : qwordLen = 4 := rfl
  have hbehind : memoryManager1Offset + 12 ≤ q := by
    rcases hout _ (List.mem_cons_self ..) with hlt | hge
    · exact absurd (show q < memoryManager1Offset + 4 from hlt) (Nat.not_lt.2 h1)
    · exact hge
  have hagree : ∀ b, Agree overrunningHeader occupied q b := fun b x hx _ => by
    have hge : memoryManager1Offset + 4 + 8 ≤ x := Nat.le_trans hbehind hx
    exact (program_of_ge hge).symm
  rw [← mmItemAt_congr overrunningHeader_holds.active hactive (by omega) (by omega) (hagree _) fun _ _ =>
    (hagree _).mono (Nat.le_add_right _ _) (Nat.le_refl _)]
  exact overrunningHeader_holds.noItem q h1 h2 fun it hit => absurd hit List.not_mem_nil

theorem turnSafe_iff_occupied :
    TurnSafe crc8Autosar occupied memoryManager1Offset ↔
      TurnInert crc8Autosar occupied memoryManager1Offset (mmItems crc8Autosar occupied) :=
  turnSafe_iff crc8Autosar occupied memoryManager1Offset occupied_holds.active
    (by rw [occupied_holds.mmItems_eq]; decide)

/-- Erasing page 2 turns the seven bytes into an item. -/
theorem not_turnSafe_overrunningHeader :
    ¬ ∀ f s, ActivePage f s → (∀ it ∈ mmItems crc8Autosar f, it.1 + it.2 ≤ s + flashFsPageSize) →
      TurnSafe crc8Autosar f s := by
  intro h
  have hholds := overrunningHeader_holds
  have hsafe := h overrunningHeader memoryManager1Offset hholds.active (by rw [hholds.mmItems_eq]; simp)
  have hinert := hholds.inert_of_safe hsafe rfl (List.replicate 6 0xFF) (List.mem_cons_self ..) (memoryManager2Offset - 9)
    (by decide) (by decide) (by simp [Resync.Outside])
  exact absurd hinert (by decide +kernel)

end TiMcu.FlashFs
