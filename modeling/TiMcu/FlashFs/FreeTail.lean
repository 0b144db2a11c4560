import TiMcu.FlashFs.Twins

/-!
# The erased tail, with power cuts

The next item is programmed where the lookup says the items end, so the page has to be erased from there on.  `Event` is
a call that runs to its end or a call of `mm_set` that is cut behind some of its operations.  On a torn page such an
event leaves a torn page (`Torn.event`) provided that it does not move the end of the items back onto programmed bytes:
`mm_invalidate` must not remove the last item, and `mm_set` must not be cut right behind the header.

In every run whose events meet the condition the tail is erased and the next file that fits there can be read back
(`run_erasedTail`).
-/

namespace TiMcu.FlashFs

open NorFlash

variable {crc : List UInt8 → UInt8} {f g : Mem} {s j k : Nat} {id i : UInt16} {file : MmFile} {nvs : Nvs}
  {L L' : List (Nat × Nat)}

/-! ### Writing on a torn page -/

/-- The file a header finds behind it when nothing else was written. -/
def blankFile (file : MmFile) : MmFile :=
  ⟨List.replicate file.bytes.length 0xFF, by rw [List.length_replicate]; exact file.length_lt⟩

/-- The condition on the image after `j` of the writes of `mm_set`. -/
def CutTailOk (crc : List UInt8 → UInt8) (f : Mem) (s : Nat) (L : List (Nat × Nat)) (id : UInt16) (file : MmFile) :
    Nat → Prop
  | 0 => True
  -- the header alone is an item only when its checksum is that of erased bytes
  | 1 => crc (blankFile file).bytes = crc file.bytes ∧
      NoItem crc (bothImage crc f s L id (blankFile file)) s (L ++ [newItem s L (blankFile file)])
  | 2 => NoItem crc (bothImage crc f s L id file) s (L ++ [newItem s L file])
  | _ => NoItem crc (setImage crc f s L id file) s (setItems crc f s L id file)

/-- The condition on the first `j` writes of `mm_set` on a page with at most one item of the identifier. -/
def WriteTailOk (crc : List UInt8 → UInt8) (f : Mem) (s : Nat) (L : List (Nat × Nat)) (id : UInt16) (file : MmFile)
    (j : Nat) : Prop :=
  j = 0 ∨ Unchanged f L id file ∨ remaining s L < file.bytes.length ∨
    Fits s L file ∧ pageEmpty s L < scanEnd s ∧ CutTailOk crc f s L id file j

/-- The condition on the first `k` operations of a call of `mm_set`, those of its lookup included. -/
def SetTailOk (crc : List UInt8 → UInt8) (f : Mem) (s : Nat) (L : List (Nat × Nat)) (id : UInt16) (file : MmFile)
    (k : Nat) : Prop :=
  BadParams id file ∨ Stuck f L id ∨
    NoItem crc (settledImage f L id) s (settledItems f L id) ∧
      WriteTailOk crc (settledImage f L id) s (settledItems f L id) id file (k - (settleOps f L id).length)

theorem Torn.readable (h : Torn crc f s L) (hfit : Fits s L file) (hlt : pageEmpty s L < scanEnd s) :
    Readable crc f s L id file :=
  ⟨h.free.programmable h.toPageHolds hfit, hlt⟩

/-- The header alone on a page, when its checksum is that of erased bytes. -/
private theorem headerImage_blank (hcrc : crc (blankFile file).bytes = crc file.bytes) :
    headerImage crc f s L id file = bothImage crc f s L id (blankFile file) := by
  have hlen : (blankFile file).bytes.length = file.bytes.length := List.length_replicate
  have hheader : newHeader crc id (blankFile file) = newHeader crc id file := by
    rw [newHeader, newHeader, hcrc, hlen]
  rw [headerImage, bothImage, newBytes, hheader, ← program_append]
  exact (program_replicate_ff _ _ _).symm

/-- The page with the new item and the one it supersedes. -/
theorem Torn.both (h : Torn crc f s L) (hone : AtMostOne f id L) (hid : mmInvalidId ≠ id) (hfit : Fits s L file)
    (hlt : pageEmpty s L < scanEnd s)
    (hno : NoItem crc (bothImage crc f s L id file) s (L ++ [newItem s L file])) :
    Torn crc (bothImage crc f s L id file) s (L ++ [newItem s L file]) := by
  obtain ⟨hholds, hkeep, hnew, -⟩ := h.toPageHolds.bothImage hfit (h.readable hfit hlt) hno
  have hids : (L ++ [newItem s L file]).map (itemId (bothImage crc f s L id file)) = L.map (itemId f) ++ [id] := by
    rw [List.map_append, List.map_singleton, hnew, List.map_congr_left (h.itemId_kept (List.Sublist.refl L) hkeep)]
  refine ⟨hholds, fun i => ?_, noMatch_iff.2 ?_, h.free.write⟩
  · rw [hids, List.count_append, List.count_singleton]
    by_cases hi : id = i
    · subst hi
      have hle := atMostOne_iff.1 hone
      simp only [beq_self_eq_true, ↓reduceIte]
      omega
    · have hne : (id == i) = false := by simpa using hi
      rw [hne]
      exact h.twins i
  · rw [hids, List.mem_append]
    rintro (hmem | hmem)
    · exact noMatch_iff.1 h.valid hmem
    · exact hid (List.mem_singleton.1 hmem)

/-- The page with the new item in place of the one it supersedes. -/
theorem Torn.set (h : Torn crc f s L) (hid : mmInvalidId ≠ id) (hfit : Fits s L file) (hlt : pageEmpty s L < scanEnd s)
    (hno : NoItem crc (setImage crc f s L id file) s (setItems crc f s L id file)) :
    Torn crc (setImage crc f s L id file) s (setItems crc f s L id file) := by
  have hread : Readable crc f s L id file := h.readable hfit hlt
  have hids := @PageHolds.set_ids crc f s id file L h.toPageHolds hfit
  rw [if_pos hread] at hids
  refine ⟨h.toPageHolds.set hfit hno, fun i => ?_, h.set_noMatch hfit hid h.valid, ?_⟩
  · rw [hids, List.count_append, List.count_singleton]
    by_cases hi : id = i
    · subst hi
      have hnone : ((keptItems f L id).map (itemId f)).count id = 0 := (noMatch_keptItems f L id).count_eq
      simp only [hnone, beq_self_eq_true, ↓reduceIte]
      omega
    · have hne : (id == i) = false := by simpa using hi
      rw [hne]
      exact Nat.le_trans (((keptItems_sublist f L id).map (itemId f)).count_le i) (h.twins i)
  · have hfree : FreeTail (setImage crc f s L id file) s (L ++ [newItem s L file]) := h.free.setImage h.toPageHolds
    rw [FreeTail, pageEmpty_concat] at hfree
    rw [setItems, if_pos hread, FreeTail, pageEmpty_concat]
    exact hfree

private theorem setOps_length (crc : List UInt8 → UInt8) (f : Mem) (s : Nat) (L : List (Nat × Nat)) (id : UInt16)
    (file : MmFile) : (setOps crc f s L id file).length ≤ 3 := by
  unfold setOps
  cases oldItem f L id <;> simp

/-- The first writes of `mm_set` leave a torn page. -/
private theorem Torn.take_setOps (h : Torn crc f s L) (hone : AtMostOne f id L) (hid : mmInvalidId ≠ id)
    (hfit : Fits s L file)
    (hlt : pageEmpty s L < scanEnd s) (hok : CutTailOk crc f s L id file j) :
    ∃ L', Torn crc (replay f ((setOps crc f s L id file).take j)) s L' := by
  match j with
  | 0 => exact ⟨L, h⟩
  | 1 =>
    obtain ⟨hcrc, hno⟩ := hok
    have hlen : (blankFile file).bytes.length = file.bytes.length := List.length_replicate
    have hfit' : Fits s L (blankFile file) := by
      unfold Fits at hfit ⊢
      omega
    have hblank := h.both hone hid hfit' hlt hno
    rw [← headerImage_blank hcrc] at hblank
    exact ⟨_, hblank⟩
  | 2 =>
    rw [replay_take_two]
    exact ⟨_, h.both hone hid hfit hlt hok⟩
  | j + 3 =>
    have hlen := setOps_length crc f s L id file
    rw [List.take_of_length_le (by omega), replay_setOps]
    exact ⟨_, h.set hid hfit hlt hok⟩

private theorem mmSetWrites_extends (nvs : Nvs) (id : UInt16) (file : MmFile) (out : MmFound) :
    Extends nvs (mmSetWrites crc nvs id file out).2 := by
  simp only [mmSetWrites]
  have hhead := mmFlashWrite_extends nvs (out.empty.getD 0) (newHeader crc id file).bytes
  cases hres : mmFlashWrite nvs (out.empty.getD 0) (newHeader crc id file).bytes with
  | mk ok nvs₁ =>
    rw [hres] at hhead
    cases ok with
    | false => exact hhead
    | true =>
      dsimp only
      have hfile := mmFlashWrite_extends nvs₁ (out.empty.getD 0 + itemHeaderSz) file.bytes
      cases hres' : mmFlashWrite nvs₁ (out.empty.getD 0 + itemHeaderSz) file.bytes with
      | mk ok nvs₂ =>
        rw [hres'] at hfile
        have hboth := Extends.trans hhead hfile
        cases ok with
        | false => exact hboth
        | true =>
          cases out.item with
          | none => exact hboth
          | some it => exact Extends.trans hboth (mmFlashZero_extends nvs₂ it itemHeaderSz)

/-- A call of `mm_set` on a page with at most one item of the identifier. -/
theorem Torn.write (h : Torn crc nvs.mem s L) (hone : AtMostOne nvs.mem id L) (hbad : ¬ BadParams id file)
    (hok : WriteTailOk crc nvs.mem s L id file j) :
    ∃ ops L', (mmSet crc nvs id file).2 = nvs.applyAll ops ∧ (3 ≤ j → ops.length ≤ j) ∧
      Torn crc (replay nvs.mem (ops.take j)) s L' := by
  have hsingle := h.single hone
  obtain ⟨hid, hne⟩ := not_or.1 hbad
  by_cases hun : Unchanged nvs.mem L id file
  · rw [hsingle.mmSet_unchanged hid hne hun]
    exact ⟨[], L, by simp, by simp, by simpa using h⟩
  by_cases hrem : remaining s L < file.bytes.length
  · rw [hsingle.mmSet_refused hid hne hun hrem]
    exact ⟨[], L, by simp, by simp, by simpa using h⟩
  rcases hok with hj | hc | hc | ⟨hfit, hlt, hok⟩
  · rw [hsingle.mmSet_reaches hid hne hun, if_neg hrem]
    obtain ⟨ops, hops⟩ := @mmSetWrites_extends crc nvs id file (foundOut s L ((oldItem nvs.mem L id).map Prod.fst))
    refine ⟨ops, L, hops, by omega, ?_⟩
    rw [hj]
    exact h
  · exact absurd hc hun
  · exact absurd hc hrem
  · obtain ⟨L', htorn⟩ := h.take_setOps hone hid hfit hlt hok
    have hlen := setOps_length crc nvs.mem s L id file
    rw [hsingle.mmSet_writes hid hne hun hfit]
    exact ⟨_, L', rfl, by omega, htorn⟩

/-! ### Calls on a torn page -/

/-- `mm_set` and `mm_invalidate` use the flash through the lookup only. -/
private theorem mmSet_congr {nvs' : Nvs} (hbad : ¬ BadParams id file)
    (h : mmFindField crc nvs id ⟨none, none, 0⟩ = mmFindField crc nvs' id ⟨none, none, 0⟩) :
    mmSet crc nvs id file = mmSet crc nvs' id file := by
  unfold BadParams at hbad
  rw [mmSet, mmSet, if_neg hbad, if_neg hbad, h]

private theorem mmInvalidate_congr {nvs' : Nvs}
    (h : mmFindField crc nvs id ⟨none, none, 0⟩ = mmFindField crc nvs' id ⟨none, none, 0⟩) :
    mmInvalidate crc nvs id = mmInvalidate crc nvs' id := by
  rw [mmInvalidate, mmInvalidate, h]

private theorem settleOps_length (f : Mem) (L : List (Nat × Nat)) (id : UInt16) : (settleOps f L id).length ≤ 1 := by
  unfold settleOps
  cases twin f L id with
  | none => exact Nat.zero_le 1
  | some a =>
    simp only
    split <;> simp

/-- A lookup that fails on an old item fails the call. -/
private theorem Torn.mmSet_stuck (h : Torn crc nvs.mem s L) (hbad : ¬ BadParams id file) (hstuck : Stuck nvs.mem L id) :
    mmSet crc nvs id file = (false, nvs) := by
  obtain ⟨item, hfind⟩ := h.mmFindField_stuck hstuck ⟨none, none, 0⟩
  have hlen : 0 < file.bytes.length := Nat.pos_of_ne_zero (not_or.1 hbad).2
  unfold BadParams at hbad
  rw [mmSet, if_neg hbad, hfind]
  simp [hlen]

private theorem Torn.mmInvalidate_stuck (h : Torn crc nvs.mem s L) (hstuck : Stuck nvs.mem L id) :
    mmInvalidate crc nvs id = (false, nvs) := by
  obtain ⟨item, hfind⟩ := h.mmFindField_stuck hstuck ⟨none, none, 0⟩
  rw [mmInvalidate, hfind]

/-- The first operations of a call of `mm_set` leave a torn page; a call that is not cut has four at most. -/
private theorem Torn.set_prefix (h : Torn crc nvs.mem s L) (hok : SetTailOk crc nvs.mem s L id file k) (hk : k ≠ 0) :
    ∃ ops L', (mmSet crc nvs id file).2 = nvs.applyAll ops ∧ (4 ≤ k → ops.length ≤ k) ∧
      Torn crc (replay nvs.mem (ops.take k)) s L' := by
  by_cases hbad : BadParams id file
  · rw [mmSet_badParams hbad]
    exact ⟨[], L, by simp, by simp, by simpa using h⟩
  by_cases hstuck : Stuck nvs.mem L id
  · rw [h.mmSet_stuck hbad hstuck]
    exact ⟨[], L, by simp, by simp, by simpa using h⟩
  rcases hok with hc | hc | ⟨hno, hwrite⟩
  · exact absurd hc hbad
  · exact absurd hc hstuck
  obtain ⟨hsettled, hone⟩ := h.settled hstuck hno
  have hmem : Torn crc (nvs.applyAll (settleOps nvs.mem L id)).mem s (settledItems nvs.mem L id) := hsettled
  obtain ⟨ops, L', hset, hlen, htorn⟩ := hmem.write hone hbad hwrite
  have hone' := settleOps_length nvs.mem L id
  refine ⟨settleOps nvs.mem L id ++ ops, L', ?_, fun hk4 => ?_, ?_⟩
  · rw [mmSet_congr hbad (h.mmFindField_settled hstuck hno), hset]
    simp [Nvs.applyAll, replay_append]
  · have hle := hlen (by omega)
    rw [List.length_append]
    omega
  · rw [List.take_append, List.take_of_length_le (by omega), replay_append]
    exact htorn

/-- The condition on `mm_invalidate`: the item does not stand at the end. -/
def InvalidateTailOk (crc : List UInt8 → UInt8) (f : Mem) (s : Nat) (L : List (Nat × Nat)) (id : UInt16) : Prop :=
  Stuck f L id ∨
    NoItem crc (settledImage f L id) s (settledItems f L id) ∧
      ∀ it, oldItem (settledImage f L id) (settledItems f L id) id = some it → it.2 ≤ maxFlashZeroSize →
        (settledItems f L id).getLast? ≠ some it ∧
          NoItem crc (zeroItem (settledImage f L id) it) s (keptItems (settledImage f L id) (settledItems f L id) id)

/-- The items end where they did when one in front of the last is removed. -/
private theorem AtMostOne.pageEmpty_kept {it : Nat × Nat} (h : AtMostOne f id L) (hold : oldItem f L id = some it)
    (hlast : L.getLast? ≠ some it) (s : Nat) : pageEmpty s (keptItems f L id) = pageEmpty s L := by
  rcases h with hno | ⟨A, it', B, rfl, hA, hit, hB⟩
  · rw [hno.oldItem_eq] at hold
    exact absurd hold (by simp)
  · rw [oldItem_split hA hit] at hold
    obtain rfl : it' = it := Option.some.inj hold
    rw [keptItems_split hA hit hB]
    rcases List.eq_nil_or_concat B with rfl | ⟨B, b, rfl⟩
    · exact absurd (by simp) hlast
    · rw [List.concat_eq_append, ← List.append_assoc, pageEmpty_concat, ← List.cons_append, ← List.append_assoc,
        pageEmpty_concat]

theorem Torn.zero {it : Nat × Nat} (h : Torn crc f s L) (hone : AtMostOne f id L) (hold : oldItem f L id = some it)
    (hlast : L.getLast? ≠ some it) (hno : NoItem crc (zeroItem f it) s (keptItems f L id)) :
    Torn crc (zeroItem f it) s (keptItems f L id) := by
  have hmem := (oldItem_mem hold).1
  refine h.keep (h.zeroItem_active hmem) (keptItems_sublist f L id) (fun it' hit' => ?_) hno
    (hone.pageEmpty_kept hold hlast s) ?_
  · exact zeroItem_kept h.toPageHolds hold hit'
  · exact (zeroItem_agreeOutside f it).agree (Or.inr (h.item_le_empty hmem))

theorem Torn.invalidate (h : Torn crc nvs.mem s L) (hok : InvalidateTailOk crc nvs.mem s L id) :
    ∃ L', Torn crc (mmInvalidate crc nvs id).2.mem s L' := by
  by_cases hstuck : Stuck nvs.mem L id
  · rw [h.mmInvalidate_stuck hstuck]
    exact ⟨L, h⟩
  rcases hok with hc | ⟨hno, hzero⟩
  · exact absurd hc hstuck
  obtain ⟨hsettled, hone⟩ := h.settled hstuck hno
  have hmem : Torn crc (nvs.applyAll (settleOps nvs.mem L id)).mem s (settledItems nvs.mem L id) := hsettled
  rw [mmInvalidate_congr (h.mmFindField_settled hstuck hno), (hmem.single hone).mmInvalidate_eq]
  have hold' : oldItem (nvs.applyAll (settleOps nvs.mem L id)).mem (settledItems nvs.mem L id) id =
      oldItem (settledImage nvs.mem L id) (settledItems nvs.mem L id) id := rfl
  rw [hold']
  cases hold : oldItem (settledImage nvs.mem L id) (settledItems nvs.mem L id) id with
  | none => exact ⟨_, hmem⟩
  | some it =>
    by_cases hle : it.2 ≤ maxFlashZeroSize
    · obtain ⟨hlast, hno'⟩ := hzero it hold hle
      simp only [hle, ↓reduceIte]
      exact ⟨_, hsettled.zero hone hold hlast hno'⟩
    · simp only [hle, ↓reduceIte]
      exact ⟨_, hmem⟩

/-- A turn copies both items of an identifier and leaves the rest of the page erased. -/
theorem Torn.turn (h : Torn crc nvs.mem s L) (hinert : TurnInert crc nvs.mem s L) :
    Torn crc (mmTurnPage crc nvs).2.mem (passivePage s) (Resync.pack (passivePage s + qwordLen) L) := by
  obtain ⟨hholds, hfiles⟩ := h.turnImage_holds
  obtain ⟨-, -, hrest⟩ := h.turnImage_page
  have hids := itemIds_of_files hfiles
  rw [h.mmTurnPage_eq hinert, Nvs.applyAll_mem, replay_turnOps]
  refine ⟨hholds, fun id => ?_, noMatch_iff.2 ?_, ?_⟩
  · rw [hids]
    exact h.twins id
  · rw [hids]
    exact noMatch_iff.1 h.valid
  · rw [FreeTail, pageEmpty, Resync.finish_pack, ← copied_length nvs.mem]
    exact hrest

/-! ### Runs with power cuts -/

/-- A call, or a call of `mm_set` that is cut behind its first `k` operations. -/
inductive Event where
  | call (c : Call)
  | cut (dataId : UInt16) (newFile : MmFile) (k : Nat)

/-- The store after an event; after a cut it starts from the image in the flash. -/
def eventStep (crc : List UInt8 → UInt8) (nvs : Nvs) : Event → Nvs
  | .call c => callStep crc nvs c
  | .cut id file k => Nvs.ofMem (replay nvs.mem ((mmSet crc (Nvs.ofMem nvs.mem) id file).2.ops.take k))

/-- The condition on an event in an image whose active page starts at `s` and holds the items `L`. -/
def EventOk (crc : List UInt8 → UInt8) (f : Mem) (s : Nat) (L : List (Nat × Nat)) : Event → Prop
  | .call (.set id file) => SetTailOk crc f s L id file 4
  | .call (.invalidate id) => InvalidateTailOk crc f s L id
  | .call .maintain => remaining s L < minFileLen → TurnInert crc f s L
  | .call .turnPage => TurnInert crc f s L
  | .cut id file k => k = 0 ∨ SetTailOk crc f s L id file k

/-- The condition on an event in a state of a run. -/
def TailOk (crc : List UInt8 → UInt8) (nvs : Nvs) (e : Event) : Prop :=
  ∀ s, ActivePage nvs.mem s → EventOk crc nvs.mem s (mmItems crc nvs.mem) e

/-- An event that meets the condition leaves a torn page. -/
theorem Torn.event (h : Torn crc nvs.mem s L) {e : Event} (hok : EventOk crc nvs.mem s L e) :
    ∃ s' L', Torn crc (eventStep crc nvs e).mem s' L' := by
  cases e with
  | call c =>
    cases c with
    | set id file =>
      obtain ⟨ops, L', hset, hlen, htorn⟩ := h.set_prefix hok (by decide)
      rw [List.take_of_length_le (hlen (Nat.le_refl 4))] at htorn
      refine ⟨s, L', ?_⟩
      rw [eventStep, callStep, Call.run, hset]
      exact htorn
    | invalidate id =>
      obtain ⟨L', htorn⟩ := h.invalidate hok
      exact ⟨s, L', htorn⟩
    | maintain =>
      show ∃ s' L', Torn crc (mmMaintain crc nvs).2.mem s' L'
      rw [h.mmMaintain_eq h.valid]
      by_cases hrem : remaining s L < minFileLen
      · rw [if_pos hrem]
        exact ⟨_, _, h.turn (hok hrem)⟩
      · rw [if_neg hrem]
        exact ⟨s, L, h⟩
    | turnPage => exact ⟨_, _, h.turn hok⟩
  | cut id file k =>
    by_cases hk : k = 0
    · subst hk
      exact ⟨s, L, h⟩
    rcases hok with hc | hok
    · exact absurd hc hk
    have hf : Torn crc (Nvs.ofMem nvs.mem).mem s L := h
    obtain ⟨ops, L', hset, -, htorn⟩ := hf.set_prefix hok hk
    refine ⟨s, L', ?_⟩
    rw [eventStep, hset, Nvs.applyAll_ops, Nvs.ofMem_ops, List.nil_append]
    exact htorn

private theorem Torn.tailOk_iff (h : Torn crc nvs.mem s L) {e : Event} :
    TailOk crc nvs e ↔ EventOk crc nvs.mem s L e := by
  unfold TailOk
  rw [h.mmItems_eq]
  constructor
  · exact fun hok => hok s h.active
  · intro hok t ht
    rw [ht.unique h.active]
    exact hok

private theorem formatted_torn (f : Mem) : Torn crc (formatted f).mem memoryManager1Offset [] := by
  have hdense : Dense crc (formatted f).mem memoryManager1Offset [] := formatted_dense f
  exact ⟨hdense.toPageHolds, by simp, by simp [NoMatch], hdense.free⟩

/-- Every state of a run whose events meet the condition has a torn page. -/
private theorem run_torn (f : Mem) (es : List Event)
    (hok : Runs.Guarded (eventStep crc) (TailOk crc) (formatted f) es) :
    ∃ s L, Torn crc (Runs.run (eventStep crc) (formatted f) es).mem s L := by
  refine @Runs.Guarded.invariant _ _ _ _ (fun nvs => ∃ s L, Torn crc nvs.mem s L) _ _ hok
    ⟨_, _, formatted_torn f⟩ ?_
  rintro nvs e ⟨s, L, h⟩ hstep
  exact h.event (h.tailOk_iff.1 hstep)

/-! ### What the erased tail is for -/

/-- Behind the pointer that a lookup computes the active page is erased, before the lookup and after it. -/
def ErasedTail (crc : List UInt8 → UInt8) (nvs : Nvs) : Prop :=
  ∃ s, ActivePage nvs.mem s ∧ ∀ id e, (mmFindField crc nvs id ⟨none, none, 0⟩).2.2.empty = some e →
    Erased nvs.mem e (s + flashFsPageSize) ∧
      Erased (mmFindField crc nvs id ⟨none, none, 0⟩).2.1.mem e (s + flashFsPageSize)

/-- The operation stays in front of `e` or programs erased bytes. -/
def LandsErased (f : Mem) (e : Nat) : Op → Prop
  | .program a bs => a + bs.length ≤ e ∨ Erased f a (a + bs.length)
  | .erase _ _ => False

/-- A valid file that fits behind the items is accepted, written on erased bytes and read back. -/
def SetLands (crc : List UInt8 → UInt8) (nvs : Nvs) (id : UInt16) (file : MmFile) : Prop :=
  ∀ s e, ActivePage nvs.mem s → (mmFindField crc nvs id ⟨none, none, 0⟩).2.2.empty = some e → ¬ BadParams id file →
    e + itemHeaderSz + file.bytes.length ≤ s + flashFsPageSize →
    (mmSet crc nvs id file).1 = true ∧
      (∃ ops, (mmSet crc nvs id file).2 = nvs.applyAll ops ∧ ∀ op ∈ ops, LandsErased nvs.mem e op) ∧
      ∀ maxValueLen : UInt16, file.bytes.length ≤ maxValueLen.toNat →
        (mmGet crc (mmSet crc nvs id file).2 id maxValueLen).1 = some (file.bytes, UInt16.ofNat file.bytes.length)

private theorem Torn.erasedTail (h : Torn crc nvs.mem s L) : ErasedTail crc nvs := by
  refine ⟨s, h.active, fun id e he => ?_⟩
  rcases h.mmFindField_empty id with hnone | ⟨hsome, -, hnvs⟩
  · rw [hnone] at he
    exact absurd he (by simp)
  · rw [hsome] at he
    obtain rfl : pageEmpty s L = e := Option.some.inj he
    rw [hnvs]
    exact ⟨h.free, h.settled_free⟩

/-- The writes of `mm_set` land behind the end of the items or zero an old header in front of it. -/
private theorem Torn.setOps_lands (h : Torn crc f s L) (hfit : Fits s L file) {g : Mem}
    (hfree : Erased g (pageEmpty s L) (s + flashFsPageSize)) :
    ∀ op ∈ setOps crc f s L id file, LandsErased g (pageEmpty s L) op := by
  have hrem := h.remaining_eq
  have h7 : itemHeaderSz = 7 := rfl
  unfold Fits at hfit
  refine forall_mem_setOps ?_ ?_ fun it hmem => ?_
  · exact Or.inr (hfree.mono (Nat.le_refl _) (by rw [MmItem.bytes_length]; omega))
  · exact Or.inr (hfree.mono (Nat.le_add_right _ _) (by omega))
  · have hle := h.item_le_empty hmem
    have hsz := h.header_le hmem
    left
    rw [List.length_replicate]
    omega

/-- A file that fits on a page with at most one item of the identifier is read back. -/
private theorem Torn.lands (h : Torn crc nvs.mem s L) (hone : AtMostOne nvs.mem id L) (hbad : ¬ BadParams id file)
    (hfit : Fits s L file) (hok : WriteTailOk crc nvs.mem s L id file (j + 3)) {g : Mem}
    (hfree : Erased g (pageEmpty s L) (s + flashFsPageSize)) :
    (mmSet crc nvs id file).1 = true ∧
      (∃ ops, (mmSet crc nvs id file).2 = nvs.applyAll ops ∧ ∀ op ∈ ops, LandsErased g (pageEmpty s L) op) ∧
      ∀ maxValueLen : UInt16, file.bytes.length ≤ maxValueLen.toNat →
        (mmGet crc (mmSet crc nvs id file).2 id maxValueLen).1 = some (file.bytes, UInt16.ofNat file.bytes.length) := by
  have hsingle := h.single hone
  obtain ⟨hid, hne⟩ := not_or.1 hbad
  have hmax : ∀ maxValueLen : UInt16, file.bytes.length ≤ maxValueLen.toNat → maxValueLen ≠ 0 := by
    rintro maxValueLen hle rfl
    exact hne (Nat.le_zero.1 hle)
  by_cases hun : Unchanged nvs.mem L id file
  · rw [hsingle.mmSet_unchanged hid hne hun]
    refine ⟨rfl, ⟨[], by simp, by simp⟩, fun maxValueLen hle => ?_⟩
    rw [hsingle.mmGet_eq hid (hmax maxValueLen hle), hun.lookup]
    exact intoBuffer_of_le hle
  rcases hok with hc | hc | hc | ⟨-, hlt, hno⟩
  · omega
  · exact absurd hc hun
  · unfold Fits at hfit
    omega
  rw [hsingle.mmSet_writes hid hne hun hfit]
  refine ⟨rfl, ⟨_, rfl, h.setOps_lands hfit hfree⟩, fun maxValueLen hle => ?_⟩
  have hread : Readable crc nvs.mem s L id file := h.readable hfit hlt
  have hitems : setItems crc nvs.mem s L id file = keptItems nvs.mem L id ++ newItem s L file :: [] := if_pos hread
  obtain ⟨-, hnew, hfile⟩ := setImage_newItem h.toPageHolds hfit hread.1
  have hkept : NoMatch (setImage crc nvs.mem s L id file) id (keptItems nvs.mem L id) :=
    (noMatch_keptItems nvs.mem L id).congr
      (h.itemId_kept (keptItems_sublist nvs.mem L id) fun it hit => setImage_kept hfit h.toPageHolds hit)
  have hholds := h.toPageHolds.set hfit hno
  have hmem : (nvs.applyAll (setOps crc nvs.mem s L id file)).mem = setImage crc nvs.mem s L id file := by
    rw [Nvs.applyAll_mem, replay_setOps]
  rw [hitems, ← hmem] at hholds
  rw [← hmem] at hnew hfile hkept
  rw [hholds.mmGet_one hkept hnew (by simp [NoMatch]) hid (hmax maxValueLen hle), hfile]
  exact intoBuffer_of_le hle

private theorem Torn.setLands (h : Torn crc nvs.mem s L) (hok : SetTailOk crc nvs.mem s L id file 4) :
    SetLands crc nvs id file := by
  intro t e ht he hbad hfits
  obtain rfl := ht.unique h.active
  rcases h.mmFindField_empty id with hnone | ⟨hsome, hstuck, -⟩
  · rw [hnone] at he
    exact absurd he (by simp)
  rw [hsome] at he
  obtain rfl : pageEmpty t L = e := Option.some.inj he
  rcases hok with hc | hc | ⟨hno, hwrite⟩
  · exact absurd hc hbad
  · exact absurd hc hstuck
  obtain ⟨hsettled, hone⟩ := h.settled hstuck hno
  have hmem : Torn crc (nvs.applyAll (settleOps nvs.mem L id)).mem t (settledItems nvs.mem L id) := hsettled
  have hempty := h.settledItems_pageEmpty id
  have hfit : Fits t (settledItems nvs.mem L id) file := by
    rw [Fits, remaining, hempty]
    omega
  obtain ⟨j, hj⟩ : ∃ j, 4 - (settleOps nvs.mem L id).length = j + 3 := by
    have hone' := settleOps_length nvs.mem L id
    exact ⟨4 - (settleOps nvs.mem L id).length - 3, by omega⟩
  rw [hj] at hwrite
  have hfree : Erased nvs.mem (pageEmpty t (settledItems nvs.mem L id)) (t + flashFsPageSize) := by
    rw [hempty]
    exact h.free
  obtain ⟨hres, ⟨ops, hops, hlands⟩, hget⟩ := hmem.lands hone hbad hfit hwrite hfree
  rw [hempty] at hlands
  rw [mmSet_congr hbad (h.mmFindField_settled hstuck hno)]
  refine ⟨hres, ⟨settleOps nvs.mem L id ++ ops, ?_, fun op hop => ?_⟩, hget⟩
  · rw [hops]
    simp [Nvs.applyAll, replay_append]
  · rcases List.mem_append.1 hop with hop | hop
    · obtain ⟨a, bs, rfl, hle⟩ := h.settleOps_front id op hop
      exact Or.inl hle
    · exact hlands op hop

/-- In every state of a run whose events meet the condition the tail is erased, and the next file that fits there is
written on erased bytes and read back when its call meets the condition too. -/
theorem run_erasedTail (crc : List UInt8 → UInt8) (f : Mem) (es : List Event)
    (hok : Runs.Guarded (eventStep crc) (TailOk crc) (formatted f) es) :
    ErasedTail crc (Runs.run (eventStep crc) (formatted f) es) ∧
      ∀ id file, TailOk crc (Runs.run (eventStep crc) (formatted f) es) (.call (.set id file)) →
        SetLands crc (Runs.run (eventStep crc) (formatted f) es) id file := by
  obtain ⟨s, L, h⟩ := run_torn f es hok
  exact ⟨h.erasedTail, fun id file hset => h.setLands (h.tailOk_iff.1 hset)⟩

/-- On a formatted store a file that fits meets the condition, whether the call is cut behind the file or not. -/
private theorem formatted_setTailOk (f : Mem) (hid : mmInvalidId ≠ id) (hfit : Fits memoryManager1Offset [] file)
    (hk : 2 ≤ k) :
    SetTailOk crc (formatted f).mem memoryManager1Offset [] id file k := by
  have hdense : Dense crc (formatted f).mem memoryManager1Offset [] := formatted_dense f
  obtain ⟨-, hitems, hset⟩ := @formatted_set crc id file f hid hfit
  have hlt : pageEmpty memoryManager1Offset [] < scanEnd memoryManager1Offset := by decide
  refine Or.inr (Or.inr ⟨hdense.noItem, Or.inr (Or.inr (Or.inr ⟨hfit, hlt, ?_⟩))⟩)
  show CutTailOk crc (formatted f).mem memoryManager1Offset [] id file k
  match k with
  | 2 => exact hdense.bothImage
  | k + 3 =>
    show NoItem crc _ _ (setItems crc (formatted f).mem memoryManager1Offset [] id file)
    rw [hitems]
    exact hset.noItem

theorem run_erasedTail_cut :
    ErasedTail crc8Autosar (Runs.run (eventStep crc8Autosar) (formatted fun _ => 0xFF) [.cut 1 (byteFile 0x2A) 2]) ∧
      SetLands crc8Autosar (formatted fun _ => 0xFF) 1 (byteFile 0x2A) := by
  have hid : mmInvalidId ≠ 1 := by decide
  have hfit : Fits memoryManager1Offset [] (byteFile 0x2A) := fits_nil _ (by decide)
  have htorn : Torn crc8Autosar (formatted fun _ => 0xFF).mem memoryManager1Offset [] := formatted_torn _
  have hcut : TailOk crc8Autosar (formatted fun _ => 0xFF) (.cut 1 (byteFile 0x2A) 2) :=
    htorn.tailOk_iff.2 (Or.inr (formatted_setTailOk _ hid hfit (Nat.le_refl 2)))
  have hset : TailOk crc8Autosar (formatted fun _ => 0xFF) (.call (.set 1 (byteFile 0x2A))) :=
    htorn.tailOk_iff.2 (formatted_setTailOk _ hid hfit (by decide))
  exact ⟨(run_erasedTail crc8Autosar (fun _ => 0xFF) [.cut 1 (byteFile 0x2A) 2] ⟨hcut, trivial⟩).1,
    (run_erasedTail crc8Autosar (fun _ => 0xFF) [] trivial).2 1 (byteFile 0x2A) hset⟩

private theorem run_removed (f : Mem) (b : UInt8) :
    Runs.run (eventStep crc) (formatted f) [.call (.set 1 (byteFile b)), .call (.invalidate 1)] = removed crc f b := rfl

/-- Whatever the checksum, removing the only file moves the end of the items back onto its zeros. -/
theorem not_erasedTail_removed :
    ¬ ∃ crc, ∀ f es, ErasedTail crc (Runs.run (eventStep crc) (formatted f) es) ∧
      ∀ id file, SetLands crc (Runs.run (eventStep crc) (formatted f) es) id file := by
  rintro ⟨crc, h⟩
  obtain ⟨-, -, htidy, hzero, -⟩ := @removed_spec crc (fun _ => 0xFF) 0x2A
  obtain ⟨⟨s, hs, htail⟩, -⟩ := h (fun _ => 0xFF) [.call (.set 1 (byteFile 0x2A)), .call (.invalidate 1)]
  rw [run_removed] at hs htail
  obtain rfl := hs.unique htidy.active
  have hempty := htail 1 (pageEmpty memoryManager1Offset []) (by rw [(htidy.single 1).mmFindField_eq]; rfl)
  have hff := hempty.1 (memoryManager1Offset + 4) (Nat.le_refl _) (by decide)
  rw [hzero _ (Nat.le_refl _) (by decide)] at hff
  exact absurd hff (by decide)

end TiMcu.FlashFs
