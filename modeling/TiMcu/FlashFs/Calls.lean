import TiMcu.FlashFs.TurnSafe
import TiMcu.Lib.Runs

/-!
# Runs of the store

A run is a list of calls on a store that `mm_flash_format` has set up.  `CallOk` is the condition under which a call on
a tidy page leaves a tidy page: a value that is written has to fit behind the last item, and the bytes that the call
uncovers must not read as items.  Every state of a run whose calls meet the condition has a tidy page (`run_tidy`).
-/

namespace TiMcu.FlashFs

open NorFlash

variable {crc : List UInt8 → UInt8} {f g : Mem} {s : Nat} {id : UInt16} {file : MmFile} {nvs : Nvs}
  {L : List (Nat × Nat)}

/-! ### Formatting -/

/-- The image `mm_flash_format` leaves. -/
def formatImage (f : Mem) : Mem :=
  program (erase (program f memoryManager2Offset (List.replicate qwordLen 0)) memoryManager1Offset memoryManager1Length)
    memoryManager1Offset mmPageStateActive

/-- The store after `mm_flash_format`. -/
def formatted (f : Mem) : Nvs := (mmFlashFormat (Nvs.ofMem f)).2

private theorem formatted_mem (f : Mem) : (formatted f).mem = formatImage f := by
  have h2 : InNvs memoryManager2Offset (memoryManager2Offset + qwordLen) := ⟨by decide, by decide, by decide⟩
  have h1 : InNvs memoryManager1Offset (memoryManager1Offset + memoryManager1Length) :=
    ⟨by decide, by decide, by decide⟩
  have h3 : InNvs memoryManager1Offset (memoryManager1Offset + mmPageStateActive.length) :=
    ⟨by decide, by decide, by decide⟩
  rw [formatted, mmFlashFormat, mmFlashZero_eq h2 (by decide)]
  dsimp only
  rw [flashNvsErase_eq h1]
  dsimp only
  rw [mmFlashWrite_eq h3]
  rfl

/-- The tail of the page behind the last item is erased. -/
def FreeTail (f : Mem) (s : Nat) (L : List (Nat × Nat)) : Prop := Erased f (pageEmpty s L) (s + flashFsPageSize)

private theorem formatImage_freeTail (f : Mem) : FreeTail (formatImage f) memoryManager1Offset [] := by
  intro x h1 h2
  have hstart : pageEmpty memoryManager1Offset [] = memoryManager1Offset + mmPageStateActive.length := rfl
  rw [hstart] at h1
  rw [formatImage, program_of_ge h1]
  exact erased_erase _ _ _ x (by omega) h2

/-- Only among the written bytes something can read as an item. -/
theorem noItem_of_erased {e : Nat} (hfree : Erased f e (s + flashFsPageSize))
    (hwritten : ∀ q, s + qwordLen ≤ q → q < e → Resync.Outside L q → mmItemAt crc f q = none) : NoItem crc f s L := by
  intro q h1 h2 hout
  have hsize := flashFsPageSize_eq
  have h8 : minFileLen = 8 := rfl
  unfold scanEnd at h2
  by_cases hq : q < e
  · exact hwritten q h1 hq hout
  · exact mmItemAt_of_erased (hfree.mono (Nat.le_of_not_lt hq) (by omega))

/-- Nothing reads as an item in a page that is filled without gaps and erased behind the last item. -/
theorem FreeTail.noItem (h : FreeTail f s L) (hgap : ∀ q, s + qwordLen ≤ q → Resync.Outside L q → pageEmpty s L ≤ q) :
    NoItem crc f s L :=
  noItem_of_erased h fun q h1 hlt hout => absurd (hgap q h1 hout) (Nat.not_le.2 hlt)

/-- A formatted store has an empty page. -/
theorem formatted_tidy (f : Mem) : Tidy crc (formatted f).mem memoryManager1Offset [] := by
  have hactive : ActivePage (formatImage f) memoryManager1Offset := by
    apply activePage_one
    apply bytesAt_program
    exact ((erased_erase _ _ _).mono (Nat.le_refl _) (Nat.add_le_add_left (by decide) _)).programmable
  have hno : NoItem crc (formatImage f) memoryManager1Offset [] := (formatImage_freeTail f).noItem fun q h1 _ => h1
  rw [formatted_mem]
  refine ⟨⟨hactive, Resync.Layout.done fun q h1 h2 => hno q h1 h2 (by simp [Resync.Outside]), by simp⟩, ?_, by simp⟩
  exact List.nodup_nil

/-! ### Calls -/

/-- A call of the store. -/
inductive Call where
  | set (dataId : UInt16) (newFile : MmFile)
  | invalidate (dataId : UInt16)
  | maintain
  | turnPage

/-- What the call returns and leaves. -/
def Call.run (crc : List UInt8 → UInt8) (nvs : Nvs) : Call → Bool × Nvs
  | .set dataId newFile => mmSet crc nvs dataId newFile
  | .invalidate dataId => mmInvalidate crc nvs dataId
  | .maintain => mmMaintain crc nvs
  | .turnPage => mmTurnPage crc nvs

def callStep (crc : List UInt8 → UInt8) (nvs : Nvs) (call : Call) : Nvs := (call.run crc nvs).2

/-- The call is refused because of its parameters. -/
def BadParams (id : UInt16) (file : MmFile) : Prop := mmInvalidId = id ∨ file.bytes.length = 0

/-- The condition on `mm_set`: the file is not written, or it fits and its writes uncover no item. -/
def SetOk (crc : List UInt8 → UInt8) (f : Mem) (s : Nat) (L : List (Nat × Nat)) (id : UInt16) (file : MmFile) : Prop :=
  BadParams id file ∨ Unchanged f L id file ∨ remaining s L < file.bytes.length ∨
    Fits s L file ∧ NoItem crc (setImage crc f s L id file) s (setItems crc f s L id file)

/-- The condition on `mm_invalidate`: the item is not zeroed, or that uncovers no item. -/
def InvalidateOk (crc : List UInt8 → UInt8) (f : Mem) (s : Nat) (L : List (Nat × Nat)) (id : UInt16) : Prop :=
  ∀ it, oldItem f L id = some it → it.2 ≤ maxFlashZeroSize → NoItem crc (zeroItem f it) s (keptItems f L id)

/-- The condition on a call in an image whose active page starts at `s` and holds the items `L`. -/
def CallOk (crc : List UInt8 → UInt8) (f : Mem) (s : Nat) (L : List (Nat × Nat)) : Call → Prop
  | .set id file => SetOk crc f s L id file
  | .invalidate id => InvalidateOk crc f s L id
  | .maintain => remaining s L < minFileLen → TurnInert crc f s L
  | .turnPage => TurnInert crc f s L

/-- The condition on a call in a state of a run. -/
def StepOk (crc : List UInt8 → UInt8) (nvs : Nvs) (call : Call) : Prop :=
  ∀ s, ActivePage nvs.mem s → CallOk crc nvs.mem s (mmItems crc nvs.mem) call

/-! ### One call on a tidy page -/

theorem NoMatch.not_unchanged (h : NoMatch f id L) : ¬ Unchanged f L id file := by
  rintro ⟨it, hold, -⟩
  rw [h.oldItem_eq] at hold
  exact absurd hold (by simp)

theorem mmSet_badParams (h : BadParams id file) : mmSet crc nvs id file = (false, nvs) := by
  unfold mmSet
  exact if_pos h

/-- What a call of `mm_set` leaves when it writes. -/
theorem Tidy.callStep_set (h : Tidy crc nvs.mem s L) (hid : mmInvalidId ≠ id) (hlen : file.bytes.length ≠ 0)
    (hun : ¬ Unchanged nvs.mem L id file) (hfit : Fits s L file) :
    (callStep crc nvs (.set id file)).mem = setImage crc nvs.mem s L id file := by
  rw [callStep, Call.run, (h.single _).mmSet_writes hid hlen hun hfit, Nvs.applyAll_mem, replay_setOps]

/-- The reserved identifier is never found on a tidy page. -/
theorem Tidy.noMatch_invalidId (h : Tidy crc f s L) : NoMatch f mmInvalidId L := h.valid

/-- What `mm_maintain` does on a page without the reserved identifier. -/
theorem PageHolds.mmMaintain_eq (h : PageHolds crc nvs.mem s L) (hvalid : NoMatch nvs.mem mmInvalidId L) :
    mmMaintain crc nvs = if remaining s L < minFileLen then mmTurnPage crc nvs else (true, nvs) := by
  rw [mmMaintain, mmFindField_none h hvalid]
  rfl

theorem Tidy.mmMaintain_eq (h : Tidy crc nvs.mem s L) :
    mmMaintain crc nvs = if remaining s L < minFileLen then mmTurnPage crc nvs else (true, nvs) :=
  h.toPageHolds.mmMaintain_eq h.noMatch_invalidId

/-- A turn leaves a tidy page with the same files. -/
theorem Tidy.turnPage (h : Tidy crc nvs.mem s L) (hinert : TurnInert crc nvs.mem s L) :
    (mmTurnPage crc nvs).2.mem = turnImage nvs.mem s L ∧
      Tidy crc (turnImage nvs.mem s L) (passivePage s) (Resync.pack (passivePage s + qwordLen) L) := by
  obtain ⟨hholds, hfiles⟩ := h.turnImage_holds
  rw [h.mmTurnPage_eq hinert]
  exact ⟨replay_turnOps _ _ _, h.of_files hholds hfiles⟩

/-- A call that meets the condition leaves a tidy page. -/
theorem Tidy.step_tidy (h : Tidy crc nvs.mem s L) {call : Call} (hok : CallOk crc nvs.mem s L call) :
    ∃ s' L', Tidy crc (callStep crc nvs call).mem s' L' := by
  cases call with
  | set id file =>
    show ∃ s' L', Tidy crc (mmSet crc nvs id file).2.mem s' L'
    by_cases hbad : BadParams id file
    · rw [mmSet_badParams hbad]
      exact ⟨s, L, h⟩
    obtain ⟨hid, hlen⟩ := not_or.1 hbad
    by_cases hun : Unchanged nvs.mem L id file
    · rw [(h.single _).mmSet_unchanged hid hlen hun]
      exact ⟨s, L, h⟩
    rcases hok with hc | hc | hrem | ⟨hfit, hno⟩
    · exact absurd hc hbad
    · exact absurd hc hun
    · rw [(h.single _).mmSet_refused hid hlen hun hrem]
      exact ⟨s, L, h⟩
    · rw [(h.single _).mmSet_writes hid hlen hun hfit, Nvs.applyAll_mem, replay_setOps]
      exact ⟨s, _, h.set hid hfit hno⟩
  | invalidate id =>
    show ∃ s' L', Tidy crc (mmInvalidate crc nvs id).2.mem s' L'
    rw [(h.single _).mmInvalidate_eq]
    cases hold : oldItem nvs.mem L id with
    | none => exact ⟨s, L, h⟩
    | some it =>
      by_cases hle : it.2 ≤ maxFlashZeroSize
      · simp only [hle, ↓reduceIte]
        exact ⟨s, _, (h.zero hold (hok it hold hle)).1⟩
      · simp only [hle, ↓reduceIte]
        exact ⟨s, L, h⟩
  | maintain =>
    show ∃ s' L', Tidy crc (mmMaintain crc nvs).2.mem s' L'
    rw [h.mmMaintain_eq]
    by_cases hrem : remaining s L < minFileLen
    · obtain ⟨hmem, hturn⟩ := h.turnPage (hok hrem)
      rw [if_pos hrem, hmem]
      exact ⟨_, _, hturn⟩
    · rw [if_neg hrem]
      exact ⟨s, L, h⟩
  | turnPage =>
    show ∃ s' L', Tidy crc (mmTurnPage crc nvs).2.mem s' L'
    obtain ⟨hmem, hturn⟩ := h.turnPage hok
    rw [hmem]
    exact ⟨_, _, hturn⟩

/-- The condition on a call in terms of the items the page holds. -/
theorem Tidy.stepOk_iff (h : Tidy crc nvs.mem s L) {call : Call} :
    StepOk crc nvs call ↔ CallOk crc nvs.mem s L call := by
  unfold StepOk
  rw [h.mmItems_eq]
  constructor
  · exact fun hok => hok s h.active
  · intro hok t ht
    rw [ht.unique h.active]
    exact hok

/-- Every state of a run whose calls meet the condition has a tidy page. -/
theorem run_tidy (f : Mem) (calls : List Call)
    (hok : Runs.Guarded (callStep crc) (StepOk crc) (formatted f) calls) :
    ∃ s L, Tidy crc (Runs.run (callStep crc) (formatted f) calls).mem s L := by
  refine @Runs.Guarded.invariant _ _ _ _ (fun nvs => ∃ s L, Tidy crc nvs.mem s L) _ _ hok
    ⟨_, _, formatted_tidy f⟩ ?_
  rintro nvs call ⟨s, L, h⟩ hstep
  exact h.step_tidy (h.stepOk_iff.1 hstep)

/-! ### A page without garbage -/

/-- A tidy page that is filled without gaps and erased behind the last item. -/
structure Dense (crc : List UInt8 → UInt8) (f : Mem) (s : Nat) (L : List (Nat × Nat)) : Prop
    extends Tidy crc f s L where
  free : FreeTail f s L
  gap : ∀ q, s + qwordLen ≤ q → Resync.Outside L q → pageEmpty s L ≤ q

theorem formatted_dense (f : Mem) : Dense crc (formatted f).mem memoryManager1Offset [] := by
  refine ⟨formatted_tidy f, ?_, fun q h1 _ => h1⟩
  rw [formatted_mem]
  exact formatImage_freeTail f

theorem pageEmpty_concat (s : Nat) (L : List (Nat × Nat)) (it : Nat × Nat) :
    pageEmpty s (L ++ [it]) = it.1 + it.2 := Resync.finish_concat L it.1 it.2

private theorem pageEmpty_nil (s : Nat) : pageEmpty s [] = s + 4 := rfl

theorem remaining_nil (s : Nat) : remaining s [] = 16380 := by
  have hsize := flashFsPageSize_eq
  rw [remaining, pageEmpty_nil]
  omega

theorem fits_nil (s : Nat) (h : file.bytes.length ≤ 16373) : Fits s [] file := by
  have h7 : itemHeaderSz = 7 := rfl
  rw [Fits, remaining_nil]
  omega

theorem gap_concat {it : Nat × Nat} (hgap : ∀ q, s + qwordLen ≤ q → Resync.Outside L q → pageEmpty s L ≤ q)
    (hit : it.1 = pageEmpty s L) :
    ∀ q, s + qwordLen ≤ q → Resync.Outside (L ++ [it]) q → pageEmpty s (L ++ [it]) ≤ q := by
  intro q h1 hout
  have hL := hgap q h1 fun it' hmem => hout it' (List.mem_append_left _ hmem)
  rw [pageEmpty_concat]
  rcases hout it (by simp) with hlt | hge
  · omega
  · exact hge

/-- The bytes behind the last item can be programmed while they are erased. -/
theorem FreeTail.programmable (h : FreeTail f s L) (hholds : PageHolds crc f s L) (hfit : Fits s L file) :
    Programmable f (pageEmpty s L) (newBytes crc id file) := by
  have hrem := hholds.remaining_eq
  unfold Fits at hfit
  exact (h.mono (Nat.le_refl _) (by rw [newBytes_length]; omega)).programmable

/-- A write behind the last item leaves the rest of the tail erased. -/
theorem FreeTail.write (h : FreeTail f s L) :
    FreeTail (program f (pageEmpty s L) (newBytes crc id file)) s (L ++ [newItem s L file]) := by
  intro x h1 h2
  rw [pageEmpty_concat] at h1
  have hge : pageEmpty s L + (file.bytes.length + itemHeaderSz) ≤ x := h1
  rw [program_of_ge (by rw [newBytes_length]; omega)]
  exact h x (by omega) h2

theorem FreeTail.setImage (h : FreeTail f s L) (hholds : PageHolds crc f s L) :
    FreeTail (setImage crc f s L id file) s (L ++ [newItem s L file]) := by
  have hwrite : FreeTail (program f (pageEmpty s L) (newBytes crc id file)) s (L ++ [newItem s L file]) := h.write
  unfold FlashFs.setImage
  cases hold : oldItem f L id with
  | none => exact hwrite
  | some it =>
    have hmem := (oldItem_mem hold).1
    have hle := hholds.item_le_empty hmem
    have hsz := hholds.header_le hmem
    refine Erased.congr hwrite ((program_agreeOutside _ _ _).agree (Or.inr ?_))
    rw [List.length_replicate, pageEmpty_concat]
    show it.1 + itemHeaderSz ≤ pageEmpty s L + (file.bytes.length + itemHeaderSz)
    omega

/-- The first value of an identifier is written behind the last item, and the page has no garbage again. -/
theorem Dense.set_first (h : Dense crc f s L) (hid : mmInvalidId ≠ id) (hno : NoMatch f id L) (hfit : Fits s L file)
    (hlt : pageEmpty s L < scanEnd s) :
    Readable crc f s L id file ∧ setItems crc f s L id file = L ++ [newItem s L file] ∧
      Dense crc (setImage crc f s L id file) s (L ++ [newItem s L file]) := by
  have hread : Readable crc f s L id file := ⟨h.free.programmable h.toPageHolds hfit, hlt⟩
  have hitems : setItems crc f s L id file = L ++ [newItem s L file] := by
    rw [setItems, if_pos hread, hno.keptItems_eq]
  have hfree : FreeTail (setImage crc f s L id file) s (L ++ [newItem s L file]) := h.free.setImage h.toPageHolds
  have hgap := @gap_concat s L (newItem s L file) h.gap rfl
  have htidy := h.set hid hfit (hitems ▸ hfree.noItem hgap)
  rw [hitems] at htidy
  exact ⟨hread, hitems, htidy, hfree, hgap⟩

/-- Zeroing the last item moves the end of the items back onto the zeros. -/
private theorem Dense.zero_last {it : Nat × Nat} (h : Dense crc f s (L ++ [it])) :
    (∀ x, it.1 ≤ x → x < it.1 + it.2 → zeroItem f it x = 0) ∧
      Erased (zeroItem f it) (it.1 + it.2) (s + flashFsPageSize) ∧ NoItem crc (zeroItem f it) s L := by
  have hmem : it ∈ L ++ [it] := by simp
  have hzero : ∀ x, it.1 ≤ x → x < it.1 + it.2 → zeroItem f it x = 0 := fun x h1 h2 => program_replicate_zero h1 h2
  have hfree : Erased (zeroItem f it) (it.1 + it.2) (s + flashFsPageSize) := by
    have hf := h.free
    rw [FreeTail, pageEmpty_concat] at hf
    exact hf.congr ((zeroItem_agreeOutside f it).agree (Or.inr (Nat.le_refl _)))
  refine ⟨hzero, hfree, ?_⟩
  intro q h1 h2 hout
  have hrange := h.tiling.range it hmem
  have hq4 : qwordLen = 4 := rfl
  -- in front of the item there are no gaps
  have hq : it.1 ≤ q := by
    by_contra hlt
    have hge := h.gap q h1 fun it' hit' => by
      rcases List.mem_append.1 hit' with hit' | hit'
      · exact hout it' hit'
      · rw [List.mem_singleton.1 hit']
        left; omega
    rw [pageEmpty_concat] at hge
    omega
  exact mmItemAt_of_zeros (h.zeroItem_active hmem) (by omega) h2 (fun x hx => hzero x (by omega)) hfree

/-- On a formatted store any file that fits is written and found again. -/
theorem formatted_set (f : Mem) (hid : mmInvalidId ≠ id) (hfit : Fits memoryManager1Offset [] file) :
    Readable crc (formatted f).mem memoryManager1Offset [] id file ∧
      setItems crc (formatted f).mem memoryManager1Offset [] id file = [newItem memoryManager1Offset [] file] ∧
      Dense crc (setImage crc (formatted f).mem memoryManager1Offset [] id file) memoryManager1Offset
        [newItem memoryManager1Offset [] file] :=
  (formatted_dense f).set_first hid (by simp [NoMatch]) hfit (by decide)

/-! ### Runs on fixed files -/

/-- A file of one byte. -/
def byteFile (b : UInt8) : MmFile := ⟨[b], by simp⟩

/-- A file of `n` zeros. -/
def zeroFile (n : Nat) (h : n < 2 ^ 16) : MmFile := ⟨List.replicate n 0, by rw [List.length_replicate]; exact h⟩

theorem zeroFile_length (n : Nat) (h : n < 2 ^ 16) : (zeroFile n h).bytes.length = n := List.length_replicate

private theorem formatted_mmSet (f : Mem) (hid : mmInvalidId ≠ id) (hlen : file.bytes.length ≠ 0)
    (hfit : Fits memoryManager1Offset [] file) :
    mmSet crc (formatted f) id file =
      (true, (formatted f).applyAll (setOps crc (formatted f).mem memoryManager1Offset [] id file)) := by
  have hnone : NoMatch (formatted f).mem id [] := by simp [NoMatch]
  exact ((formatted_tidy f).single _).mmSet_writes hid hlen hnone.not_unchanged hfit

/-- The item of the first file on page 1. -/
def firstItem (file : MmFile) : Nat × Nat := (memoryManager1Offset + 4, file.bytes.length + 7)

/-- Page 1 is active and holds one file and no garbage. -/
structure OneFile (crc : List UInt8 → UInt8) (f : Mem) (id : UInt16) (file : MmFile) : Prop where
  dense : Dense crc f memoryManager1Offset [firstItem file]
  itemId_eq : itemId f (firstItem file) = id
  itemFile_eq : itemFile f (firstItem file) = file.bytes

theorem pageEmpty_firstItem (file : MmFile) :
    pageEmpty memoryManager1Offset [firstItem file] = memoryManager1Offset + 4 + (file.bytes.length + 7) :=
  pageEmpty_concat _ [] _

private theorem remaining_firstItem (file : MmFile) :
    remaining memoryManager1Offset [firstItem file] = 16373 - file.bytes.length := by
  have hsize := flashFsPageSize_eq
  rw [remaining, pageEmpty_firstItem]
  omega

theorem OneFile.oldItem_eq (h : OneFile crc f id file) : oldItem f [firstItem file] id = some (firstItem file) :=
  oldItem_split (A := []) (B := []) (by simp [NoMatch]) h.itemId_eq

theorem OneFile.keptItems_eq (h : OneFile crc f id file) : keptItems f [firstItem file] id = [] :=
  keptItems_split (A := []) (B := []) (by simp [NoMatch]) h.itemId_eq (by simp [NoMatch])

/-- The first file of a formatted store. -/
theorem formatted_oneFile (f : Mem) (hid : mmInvalidId ≠ id) (hlen : file.bytes.length ≠ 0)
    (hle : file.bytes.length ≤ 16373) :
    (mmSet crc (formatted f) id file).1 = true ∧
      OneFile crc (callStep crc (formatted f) (.set id file)).mem id file := by
  have hfit : Fits memoryManager1Offset [] file := fits_nil _ hle
  have hset := @formatted_mmSet crc id file f hid hlen hfit
  obtain ⟨hread, -, hdense⟩ := @formatted_set crc id file f hid hfit
  obtain ⟨-, hitid, hitfile⟩ := setImage_newItem (formatted_tidy f).toPageHolds hfit hread.1
  rw [callStep, Call.run, hset, Nvs.applyAll_mem, replay_setOps]
  exact ⟨rfl, hdense, hitid, hitfile⟩

/-- A second file that fits can be found again. -/
theorem OneFile.readable (h : OneFile crc f id file) (newFile : MmFile)
    (hroom : file.bytes.length + newFile.bytes.length ≤ 16364) :
    Fits memoryManager1Offset [firstItem file] newFile ∧
      Readable crc f memoryManager1Offset [firstItem file] id newFile := by
  have hsize := flashFsPageSize_eq
  have h7 : itemHeaderSz = 7 := rfl
  have h8 : minFileLen = 8 := rfl
  have hfit : Fits memoryManager1Offset [firstItem file] newFile := by
    rw [Fits, remaining_firstItem]
    omega
  refine ⟨hfit, h.dense.free.programmable h.dense.toPageHolds hfit, ?_⟩
  rw [pageEmpty_firstItem, scanEnd]
  omega

theorem OneFile.not_unchanged {newFile : MmFile} (h : OneFile crc f id file)
    (hne : file.bytes.length ≠ newFile.bytes.length) : ¬ Unchanged f [firstItem file] id newFile := by
  rintro ⟨it, hold, hfile⟩
  rw [h.oldItem_eq] at hold
  obtain rfl : firstItem file = it := Option.some.inj hold
  exact hne (congrArg List.length (h.itemFile_eq.symm.trans hfile))

/-- Zeroing the file uncovers nothing. -/
theorem OneFile.invalidateOk (h : OneFile crc f id file) :
    InvalidateOk crc f memoryManager1Offset [firstItem file] id := by
  intro it hold _
  obtain rfl : firstItem file = it := Option.some.inj (h.oldItem_eq.symm.trans hold)
  rw [h.keptItems_eq]
  exact (Dense.zero_last (L := []) h.dense).2.2

/-- Removing the file leaves its zeros behind the page state and nothing else. -/
theorem OneFile.removed (h : OneFile crc nvs.mem id file) (hle : file.bytes.length + 7 ≤ maxFlashZeroSize) :
    (mmInvalidate crc nvs id).1 = true ∧ Tidy crc (mmInvalidate crc nvs id).2.mem memoryManager1Offset [] ∧
      (∀ x, memoryManager1Offset + 4 ≤ x → x < memoryManager1Offset + 4 + (file.bytes.length + 7) →
        (mmInvalidate crc nvs id).2.mem x = 0) ∧
      Erased (mmInvalidate crc nvs id).2.mem (memoryManager1Offset + 4 + (file.bytes.length + 7))
        (memoryManager1Offset + flashFsPageSize) := by
  have hle' : (firstItem file).2 ≤ maxFlashZeroSize := hle
  obtain ⟨hzero, hfree, -⟩ := Dense.zero_last (L := []) h.dense
  have htidy := (h.dense.toTidy.zero h.oldItem_eq (h.invalidateOk _ h.oldItem_eq hle')).1
  rw [h.keptItems_eq] at htidy
  rw [(h.dense.toTidy.single id).mmInvalidate_eq, h.oldItem_eq]
  simp only [hle', ↓reduceIte]
  exact ⟨trivial, htidy, hzero, hfree⟩

/-- A first file for another identifier stands behind the file. -/
private theorem OneFile.set_other {other : UInt16} (h : OneFile crc nvs.mem id file) (hne : id ≠ other)
    (hid : mmInvalidId ≠ other) (newFile : MmFile) (hlen : newFile.bytes.length ≠ 0)
    (hroom : file.bytes.length + newFile.bytes.length ≤ 16364) :
    let L := [firstItem file, newItem memoryManager1Offset [firstItem file] newFile]
    let image := setImage crc nvs.mem memoryManager1Offset [firstItem file] other newFile
    (callStep crc nvs (.set other newFile)).mem = image ∧ Dense crc image memoryManager1Offset L ∧
      itemFiles image L = [(id, file.bytes), (other, newFile.bytes)] := by
  have hnone : NoMatch nvs.mem other [firstItem file] := fun it hit => by
    rw [List.mem_singleton.1 hit, h.itemId_eq]
    exact hne
  obtain ⟨hfit, -, hlt⟩ := h.readable newFile hroom
  obtain ⟨hread, hitems, hdense⟩ := h.dense.set_first hid hnone hfit hlt
  have hfiles := h.dense.toTidy.set_files hfit hread
  rw [hitems, hnone.keptItems_eq] at hfiles
  refine ⟨h.dense.toTidy.callStep_set hid hlen hnone.not_unchanged hfit, hdense, hfiles.trans ?_⟩
  rw [itemFiles, List.map_singleton, h.itemId_eq, h.itemFile_eq]
  rfl

/-- The image in which the only file is superseded: zeros over its header, its bytes, the new item, and the erased
tail. -/
structure Superseded (crc : List UInt8 → UInt8) (g : Mem) (id : UInt16) (file newFile : MmFile) : Prop where
  active : ActivePage g memoryManager1Offset
  header : ∀ x, memoryManager1Offset + 4 ≤ x → x < memoryManager1Offset + 11 → g x = 0
  stale : bytesAt g (memoryManager1Offset + 11) file.bytes.length = file.bytes
  item : bytesAt g (memoryManager1Offset + 4 + (file.bytes.length + 7)) (itemHeaderSz + newFile.bytes.length) =
    newBytes crc id newFile
  free : Erased g (memoryManager1Offset + 4 + (file.bytes.length + 7) + (itemHeaderSz + newFile.bytes.length))
    (memoryManager1Offset + flashFsPageSize)

theorem OneFile.superseded (h : OneFile crc f id file) (newFile : MmFile)
    (hroom : file.bytes.length + newFile.bytes.length ≤ 16364) :
    Superseded crc (setImage crc f memoryManager1Offset [firstItem file] id newFile) id file newFile := by
  have h7 : itemHeaderSz = 7 := rfl
  obtain ⟨hfit, hread⟩ := h.readable newFile hroom
  have hempty := pageEmpty_firstItem file
  have himage : setImage crc f memoryManager1Offset [firstItem file] id newFile =
      program (program f (memoryManager1Offset + 4 + (file.bytes.length + 7)) (newBytes crc id newFile))
        (memoryManager1Offset + 4) (List.replicate itemHeaderSz 0) := by
    rw [setImage, h.oldItem_eq, hempty]
    rfl
  refine ⟨setImage_active h.dense.toPageHolds hfit, fun x h1 h2 => ?_, ?_, ?_, ?_⟩
  · rw [himage]
    exact program_replicate_zero h1 h2
  · -- both writes keep the bytes of the file
    have hagree : Agree f (setImage crc f memoryManager1Offset [firstItem file] id newFile) (memoryManager1Offset + 11)
        (memoryManager1Offset + 11 + file.bytes.length) := by
      rw [himage]
      exact ((program_agreeOutside _ _ _).agree (Or.inl (by omega))).trans
        ((program_agreeOutside _ _ _).agree (Or.inr (Nat.le_refl _)))
    exact (bytesAt_congr hagree).symm.trans h.itemFile_eq
  · rw [← hempty]
    exact setImage_new h.dense.toPageHolds hread.1
  · have hfree : FreeTail (setImage crc f memoryManager1Offset [firstItem file] id newFile) memoryManager1Offset
        ([firstItem file] ++ [newItem memoryManager1Offset [firstItem file] newFile]) :=
      h.dense.free.setImage h.dense.toPageHolds
    rwa [FreeTail, pageEmpty_concat, newItem, hempty, Nat.add_comm newFile.bytes.length] at hfree

/-- The state after the only file of a formatted store was removed. -/
def removed (crc : List UInt8 → UInt8) (f : Mem) (b : UInt8) : Nvs :=
  Runs.run (callStep crc) (formatted f) [.set 1 (byteFile b), .invalidate 1]

/-- Both calls return true, and the page holds nothing but eight zeros behind its state. -/
theorem removed_spec (f : Mem) (b : UInt8) :
    (mmSet crc (formatted f) 1 (byteFile b)).1 = true ∧
      (mmInvalidate crc (callStep crc (formatted f) (.set 1 (byteFile b))) 1).1 = true ∧
      Tidy crc (removed crc f b).mem memoryManager1Offset [] ∧
      (∀ x, memoryManager1Offset + 4 ≤ x → x < memoryManager1Offset + 12 → (removed crc f b).mem x = 0) ∧
      Erased (removed crc f b).mem (memoryManager1Offset + 12) (memoryManager1Offset + flashFsPageSize) := by
  obtain ⟨hset, hone⟩ := @formatted_oneFile crc 1 (byteFile b) f (by decide) (by simp [byteFile]) (by simp [byteFile])
  have hrun : removed crc f b = (mmInvalidate crc (callStep crc (formatted f) (.set 1 (byteFile b))) 1).2 := by
    rw [removed, Runs.run_cons, Runs.run_cons, Runs.run_nil, callStep, Call.run]
  rw [hrun]
  exact ⟨hset, hone.removed (by simp [byteFile, maxFlashZeroSize])⟩

/-- Two files of one byte, side by side. -/
def twoFiles : Nvs :=
  Runs.run (callStep crc8Autosar) (formatted fun _ => 0xFF) [.set 1 (byteFile 0x2A), .set 2 (byteFile 0x17)]

def twoItems : List (Nat × Nat) := [(memoryManager1Offset + 4, 8), (memoryManager1Offset + 12, 8)]

def twoImage : Mem :=
  setImage crc8Autosar (setImage crc8Autosar (formatImage fun _ => 0xFF) memoryManager1Offset [] 1 (byteFile 0x2A))
    memoryManager1Offset [firstItem (byteFile 0x2A)] 2 (byteFile 0x17)

theorem twoFiles_spec :
    twoFiles.mem = twoImage ∧ Dense crc8Autosar twoFiles.mem memoryManager1Offset twoItems ∧
      itemFiles twoFiles.mem twoItems = [(1, [0x2A]), (2, [0x17])] := by
  have hnone : NoMatch (formatted fun _ => 0xFF).mem 1 [] := by simp [NoMatch]
  have hfirst := (@formatted_tidy crc8Autosar fun _ => 0xFF).callStep_set (by decide) (by decide) hnone.not_unchanged
    (fits_nil memoryManager1Offset (show (byteFile 0x2A).bytes.length ≤ 16373 by decide))
  obtain ⟨-, hone⟩ := @formatted_oneFile crc8Autosar 1 (byteFile 0x2A) (fun _ => 0xFF) (by decide) (by decide)
    (by decide)
  have hitems : [firstItem (byteFile 0x2A),
      newItem memoryManager1Offset [firstItem (byteFile 0x2A)] (byteFile 0x17)] = twoItems := by decide
  rw [formatted_mem] at hfirst
  rw [twoFiles, Runs.run_cons, Runs.run_cons, Runs.run_nil]
  generalize callStep crc8Autosar (formatted fun _ => 0xFF) (.set 1 (byteFile 0x2A)) = nvs at hone hfirst ⊢
  obtain ⟨hmem, hdense, hfiles⟩ := hone.set_other (show (1 : UInt16) ≠ 2 by decide) (by decide) (byteFile 0x17)
    (by decide) (by decide)
  rw [hitems] at hdense hfiles
  rw [hmem, twoImage, ← hfirst]
  exact ⟨rfl, hdense, hfiles⟩

/-- What the page holds when the first of the two files is superseded. -/
def updatedItems : List (Nat × Nat) := [(memoryManager1Offset + 12, 8), (memoryManager1Offset + 20, 8)]

/-- Nothing reads as an item between the zeroed header of the superseded file and the next item. -/
theorem updated_spec :
    Fits memoryManager1Offset twoItems (byteFile 0x55) ∧
      Readable crc8Autosar twoFiles.mem memoryManager1Offset twoItems 1 (byteFile 0x55) ∧
      setItems crc8Autosar twoFiles.mem memoryManager1Offset twoItems 1 (byteFile 0x55) = updatedItems ∧
      NoItem crc8Autosar (setImage crc8Autosar twoFiles.mem memoryManager1Offset twoItems 1 (byteFile 0x55))
        memoryManager1Offset updatedItems := by
  obtain ⟨hmem, hdense, -⟩ := twoFiles_spec
  have hfit : Fits memoryManager1Offset twoItems (byteFile 0x55) := by
    unfold Fits
    decide
  have hread : Readable crc8Autosar twoFiles.mem memoryManager1Offset twoItems 1 (byteFile 0x55) :=
    ⟨hdense.free.programmable hdense.toPageHolds hfit, by decide⟩
  have hkept : keptItems twoFiles.mem twoItems 1 = [(memoryManager1Offset + 12, 8)] := by
    rw [hmem]
    decide +kernel
  refine ⟨hfit, hread, ?_, noItem_of_erased (hdense.free.setImage hdense.toPageHolds) ?_⟩
  · rw [setItems, if_pos hread, hkept]
    decide
  · intro q h1 h2 hout
    have hstart : memoryManager1Offset + qwordLen = 319492 := rfl
    have hend : pageEmpty memoryManager1Offset (twoItems ++ [newItem memoryManager1Offset twoItems (byteFile 0x55)]) =
        319516 := by decide
    have hsecond : q < 319500 ∨ 319508 ≤ q := hout (319500, 8) (List.mem_cons_self ..)
    have hthird : q < 319508 ∨ 319516 ≤ q := hout (319508, 8) (by decide)
    have hstale : ∀ k < 8,
        mmItemAt crc8Autosar (setImage crc8Autosar twoImage memoryManager1Offset twoItems 1 (byteFile 0x55))
          (319492 + k) = none := by
      decide +kernel
    rw [hmem]
    obtain ⟨k, rfl⟩ := Nat.exists_eq_add_of_le (hstart ▸ h1)
    exact hstale k (by omega)

end TiMcu.FlashFs
