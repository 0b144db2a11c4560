import TiMcu.FlashFs.PowerCut

/-!
# Space in the page

`mm_set` compares the length of the file with the space behind the last item, but it writes the header too.  Where only
the file fits, the header and the file run over the end of the page: from page 1 into page 2, and from page 2 out of the
region, where the driver refuses the write of the file.  `Tidy.staysInside_iff` says exactly when a call keeps to its
page.

`mm_maintain` turns the page when fewer than eight bytes are left.  A file that is longer than the rest of the page but
fits beside the live items is refused until then (`Tidy.accepts_iff`).
-/

namespace TiMcu.FlashFs

open NorFlash

variable {crc : List UInt8 → UInt8} {f g : Mem} {s : Nat} {id : UInt16} {file : MmFile} {nvs : Nvs}
  {L : List (Nat × Nat)}

/-! ### Writes inside the page -/

/-- The operation touches the page that starts at `s` only. -/
def InPage (s : Nat) : Op → Prop
  | .program a bs => s ≤ a ∧ a + bs.length ≤ s + flashFsPageSize
  | .erase a n => s ≤ a ∧ a + n ≤ s + flashFsPageSize

/-- The results of the lookup `mm_set` makes. -/
def foundBySet (crc : List UInt8 → UInt8) (f : Mem) (id : UInt16) : MmFound :=
  (mmFindField crc (Nvs.ofMem f) id ⟨none, none, 0⟩).2.2

/-- A call of `mm_set` keeps to the page that starts at `s`: so do its writes, the remaining space is the distance from
the end of the items to the end of the page, and a new item that does not fit in between is refused without a write. -/
structure StaysInside (crc : List UInt8 → UInt8) (f : Mem) (s : Nat) (id : UInt16) (file : MmFile) : Prop where
  writes : ∀ op ∈ (mmSet crc (Nvs.ofMem f) id file).2.ops, InPage s op
  space : ∀ e, (foundBySet crc f id).empty = some e →
    e ≤ s + flashFsPageSize ∧ (foundBySet crc f id).remSpace = s + flashFsPageSize - e
  refuses : ∀ e, (foundBySet crc f id).empty = some e → fileMap crc f id ≠ some file.bytes →
    s + flashFsPageSize < e + itemHeaderSz + file.bytes.length →
    mmSet crc (Nvs.ofMem f) id file = (false, Nvs.ofMem f)

/-- The file is stored already, or the item fits, or the length of the file alone rules it out.  On page 2 the driver
also refuses a header that would leave the region. -/
def SpaceOk (f : Mem) (s : Nat) (L : List (Nat × Nat)) (id : UInt16) (file : MmFile) : Prop :=
  BadParams id file ∨ Unchanged f L id file ∨ Fits s L file ∨ remaining s L < file.bytes.length ∨
    s = memoryManager2Offset ∧ remaining s L < itemHeaderSz

private theorem Tidy.unchanged_iff (h : Tidy crc f s L) :
    Unchanged f L id file ↔ fileMap crc f id = some file.bytes := by
  rw [fileMap, h.mmFiles_eq, lookup_itemFiles, Option.map_eq_some_iff]
  rfl

theorem Tidy.foundBySet (h : Tidy crc f s L) (id : UInt16) :
    (foundBySet crc f id).empty = some (pageEmpty s L) ∧ (foundBySet crc f id).remSpace = remaining s L := by
  have hf : Tidy crc (Nvs.ofMem f).mem s L := h
  unfold FlashFs.foundBySet
  rw [(hf.single _).mmFindField_eq]
  exact ⟨rfl, rfl⟩

/-- The operations of a file that fits stay inside the page. -/
private theorem Tidy.setOps_inPage (h : Tidy crc f s L) (hfit : Fits s L file) :
    ∀ op ∈ setOps crc f s L id file, InPage s op := by
  have hrem := h.remaining_eq
  have hle := h.le_empty
  have h7 : itemHeaderSz = 7 := rfl
  unfold Fits at hfit
  refine forall_mem_setOps ?_ ?_ fun it hmem => ?_
  · exact ⟨by omega, by rw [MmItem.bytes_length]; omega⟩
  · exact ⟨by omega, by omega⟩
  · have hrange := h.tiling.range it hmem
    have hin := h.inside it hmem
    have hsz := h.header_le hmem
    exact ⟨by omega, by rw [List.length_replicate]; omega⟩

/-- The header of an item that does not fit is written whenever the driver accepts it. -/
private theorem Tidy.mmSet_header (h : Tidy crc nvs.mem s L) (hid : mmInvalidId ≠ id) (hlen : file.bytes.length ≠ 0)
    (hun : ¬ Unchanged nvs.mem L id file) (hrem : file.bytes.length ≤ remaining s L)
    (hin : InNvs (pageEmpty s L) (pageEmpty s L + itemHeaderSz)) :
    Extends (nvs.apply (.program (pageEmpty s L) (newHeader crc id file).bytes)) (mmSet crc nvs id file).2 := by
  have hhead : InNvs (pageEmpty s L) (pageEmpty s L + (newHeader crc id file).bytes.length) := hin
  rw [(h.single _).mmSet_reaches hid hlen hun, if_neg (by omega), mmSetWrites]
  simp only [foundOut, Option.getD_some]
  rw [mmFlashWrite_eq hhead]
  dsimp only
  have hwrite := mmFlashWrite_extends (nvs.apply (.program (pageEmpty s L) (newHeader crc id file).bytes))
    (pageEmpty s L + itemHeaderSz) file.bytes
  cases hres : mmFlashWrite (nvs.apply (.program (pageEmpty s L) (newHeader crc id file).bytes))
      (pageEmpty s L + itemHeaderSz) file.bytes with
  | mk ok nvs' =>
    rw [hres] at hwrite
    cases ok with
    | false => exact hwrite
    | true =>
      cases oldItem nvs.mem L id with
      | none => exact hwrite
      | some it => exact hwrite.trans (mmFlashZero_extends nvs' it.1 itemHeaderSz)

/-- A header the driver refuses: nothing is written. -/
private theorem Tidy.mmSet_outside (h : Tidy crc nvs.mem s L) (hid : mmInvalidId ≠ id) (hlen : file.bytes.length ≠ 0)
    (hun : ¬ Unchanged nvs.mem L id file) (hs : s = memoryManager2Offset) (hrem : remaining s L < itemHeaderSz) :
    mmSet crc nvs id file = (false, nvs) := by
  rw [(h.single _).mmSet_reaches hid hlen hun]
  by_cases hlt : remaining s L < file.bytes.length
  · rw [if_pos hlt]
  · have hfull := h.remaining_eq
    have hsize := flashFsPageSize_eq
    have hpage := memoryManager2Offset_eq
    have h1 : nvsFlashStart = 319488 := rfl
    have h2 : nvsSize = 32768 := rfl
    rw [if_neg hlt, mmSetWrites]
    simp only [foundOut, Option.getD_some]
    rw [mmFlashWrite_of_gt (by rw [MmItem.bytes_length]; omega)]

/-- The space the lookup reports. -/
private theorem Tidy.foundBySet_space (h : Tidy crc f s L) {e : Nat}
    (he : (FlashFs.foundBySet crc f id).empty = some e) :
    e = pageEmpty s L ∧ e ≤ s + flashFsPageSize ∧
      (FlashFs.foundBySet crc f id).remSpace = s + flashFsPageSize - e := by
  obtain ⟨hempty, hspace⟩ := h.foundBySet id
  obtain rfl : pageEmpty s L = e := Option.some.inj (hempty.symm.trans he)
  exact ⟨rfl, h.empty_le, hspace⟩

/-- A call that returns false without a write keeps to the page. -/
private theorem Tidy.staysInside_of_refused (h : Tidy crc f s L)
    (hset : mmSet crc (Nvs.ofMem f) id file = (false, Nvs.ofMem f)) : StaysInside crc f s id file := by
  refine ⟨?_, fun e he => (h.foundBySet_space he).2, fun _ _ _ _ => hset⟩
  rw [hset]
  exact fun op hop => absurd hop (by simp)

/-- An item that does not fit is written whenever its file alone does and the driver takes the header. -/
private theorem Tidy.not_staysInside (h : Tidy crc f s L) (hid : mmInvalidId ≠ id) (hlen : file.bytes.length ≠ 0)
    (hun : ¬ Unchanged f L id file) (hfit : ¬ Fits s L file) (hrem : file.bytes.length ≤ remaining s L)
    (hout : s = memoryManager2Offset → itemHeaderSz ≤ remaining s L) : ¬ StaysInside crc f s id file := by
  have hf : Tidy crc (Nvs.ofMem f).mem s L := h
  have hfull := h.remaining_eq
  have hstart := h.le_empty
  have hover : s + flashFsPageSize < pageEmpty s L + itemHeaderSz + file.bytes.length := by
    unfold Fits at hfit
    omega
  have hin : InNvs (pageEmpty s L) (pageEmpty s L + itemHeaderSz) := by
    have h1 : nvsFlashStart = 319488 := rfl
    have h2 : nvsSize = 32768 := rfl
    have h7 : itemHeaderSz = 7 := rfl
    have hsize := flashFsPageSize_eq
    have hpage2 := memoryManager2Offset_eq
    unfold InNvs
    rcases h.active.pages with ⟨hs, -⟩ | ⟨hs, -⟩
    · omega
    · have hge := hout (by omega)
      omega
  intro hstay
  have hext := hf.mmSet_header hid hlen hun hrem hin
  rw [hstay.refuses _ (h.foundBySet id).1 (fun hc => hun (h.unchanged_iff.2 hc)) hover] at hext
  obtain ⟨ops, hops⟩ := hext
  have hnil := congrArg Nvs.ops hops
  exact absurd hnil (by simp)

/-- When the call keeps to its page. -/
theorem Tidy.staysInside_iff (h : Tidy crc f s L) : StaysInside crc f s id file ↔ SpaceOk f s L id file := by
  have hf : Tidy crc (Nvs.ofMem f).mem s L := h
  have hspace : ∀ e, (FlashFs.foundBySet crc f id).empty = some e →
      e ≤ s + flashFsPageSize ∧ (FlashFs.foundBySet crc f id).remSpace = s + flashFsPageSize - e :=
    fun e he => (h.foundBySet_space he).2
  by_cases hbad : BadParams id file
  · exact ⟨fun _ => Or.inl hbad, fun _ => h.staysInside_of_refused (mmSet_badParams hbad)⟩
  obtain ⟨hid, hlen⟩ := not_or.1 hbad
  by_cases hun : Unchanged f L id file
  · refine ⟨fun _ => Or.inr (Or.inl hun), fun _ => ⟨?_, hspace, ?_⟩⟩
    · rw [(hf.single _).mmSet_unchanged hid hlen hun]
      exact fun op hop => absurd hop (by simp)
    · exact fun _ _ hnew _ => absurd (h.unchanged_iff.1 hun) hnew
  by_cases hfit : Fits s L file
  · refine ⟨fun _ => Or.inr (Or.inr (Or.inl hfit)), fun _ => ⟨?_, hspace, ?_⟩⟩
    · rw [(hf.single _).mmSet_writes hid hlen hun hfit, Nvs.applyAll_ops, Nvs.ofMem_ops, List.nil_append]
      exact h.setOps_inPage hfit
    · intro e he _ hover
      have hrem := h.remaining_eq
      rw [(h.foundBySet_space he).1] at hover
      unfold Fits at hfit
      omega
  by_cases hlt : remaining s L < file.bytes.length
  · exact ⟨fun _ => Or.inr (Or.inr (Or.inr (Or.inl hlt))),
      fun _ => h.staysInside_of_refused ((hf.single _).mmSet_refused hid hlen hun hlt)⟩
  by_cases hout : s = memoryManager2Offset ∧ remaining s L < itemHeaderSz
  · exact ⟨fun _ => Or.inr (Or.inr (Or.inr (Or.inr hout))),
      fun _ => h.staysInside_of_refused (hf.mmSet_outside hid hlen hun hout.1 hout.2)⟩
  have hnot : ¬ StaysInside crc f s id file :=
    h.not_staysInside hid hlen hun hfit (by omega) fun hs => Nat.le_of_not_lt fun hc => hout ⟨hs, hc⟩
  refine ⟨fun hstay => absurd hstay hnot, ?_⟩
  rintro (hc | hc | hc | hc | hc)
  · exact absurd hc hbad
  · exact absurd hc hun
  · exact absurd hc hfit
  · exact absurd hc hlt
  · exact absurd hc hout

/-- In every state of a run whose calls meet their conditions, a call of `mm_set` keeps to the active page exactly when
the file is stored already, fits with its header, or is ruled out by its length alone. -/
theorem mmSet_staysInside (crc : List UInt8 → UInt8) (f : Mem) (calls : List Call)
    (hok : Runs.Guarded (callStep crc) (StepOk crc) (formatted f) calls) (id : UInt16) (file : MmFile) (s : Nat)
    (hs : ActivePage (Runs.run (callStep crc) (formatted f) calls).mem s) :
    StaysInside crc (Runs.run (callStep crc) (formatted f) calls).mem s id file ↔
      SpaceOk (Runs.run (callStep crc) (formatted f) calls).mem s
        (mmItems crc (Runs.run (callStep crc) (formatted f) calls).mem) id file := by
  obtain ⟨s', L, h⟩ := run_tidy f calls hok
  rw [hs.unique h.active, h.mmItems_eq]
  exact h.staysInside_iff

/-- The second of two files gets another value behind a superseded one. -/
theorem mmSet_staysInside_update :
    StaysInside crc8Autosar (Runs.run (callStep crc8Autosar) (formatted fun _ => 0xFF) storedTwice).mem
      memoryManager1Offset 2 (byteFile 0x99) := by
  obtain ⟨-, htidy, -⟩ := storedTwice_spec rfl
  have hiff := mmSet_staysInside crc8Autosar (fun _ => 0xFF) storedTwice (storedTwice_mapOk.imp fun _ _ hok => hok.1) 2
    (byteFile 0x99) memoryManager1Offset htidy.active
  rw [htidy.mmItems_eq] at hiff
  refine hiff.2 (Or.inr (Or.inr (Or.inl ?_)))
  unfold Fits
  decide

/-- Whatever the checksum, a file as long as the space left is written beyond the end of page 1. -/
theorem not_mmSet_staysInside_full :
    ¬ ∃ crc, ∀ f calls s id file, ActivePage (Runs.run (callStep crc) (formatted f) calls).mem s →
      StaysInside crc (Runs.run (callStep crc) (formatted f) calls).mem s id file := by
  rintro ⟨crc, h⟩
  have htidy : Tidy crc (formatted fun _ => 0xFF).mem memoryManager1Offset [] := formatted_tidy _
  have hstay := h (fun _ => 0xFF) [] memoryManager1Offset 1 (zeroFile 16380 (by decide)) htidy.active
  rw [Runs.run_nil, htidy.staysInside_iff] at hstay
  have h7 : itemHeaderSz = 7 := rfl
  rcases hstay with (hc | hc) | ⟨it, hold, -⟩ | hc | hc | ⟨hc, -⟩
  · exact absurd hc (by decide)
  · rw [zeroFile_length] at hc
    omega
  · exact absurd hold (by simp [oldItem])
  · rw [Fits, remaining_nil, zeroFile_length] at hc
    omega
  · rw [remaining_nil, zeroFile_length] at hc
    omega
  · exact absurd hc (by decide)

/-! ### Accepting a file that fits beside the live items -/

/-- An item that runs over the end of the page is accepted on page 1: behind it there is room for the rest. -/
private theorem Tidy.mmSet_overrun (h : Tidy crc nvs.mem s L) (hid : mmInvalidId ≠ id) (hlen : file.bytes.length ≠ 0)
    (hun : ¬ Unchanged nvs.mem L id file) (hfit : ¬ Fits s L file) (hrem : file.bytes.length ≤ remaining s L) :
    (mmSet crc nvs id file).1 = true ↔ s = memoryManager1Offset := by
  have hfull := h.remaining_eq
  have hstart := h.le_empty
  have hsize := flashFsPageSize_eq
  have h7 : itemHeaderSz = 7 := rfl
  have h1 : nvsFlashStart = 319488 := rfl
  have h2 : nvsSize = 32768 := rfl
  have hpage1 := memoryManager1Offset_eq
  have hpage2 := memoryManager2Offset_eq
  rw [(h.single _).mmSet_reaches hid hlen hun, if_neg (by omega), mmSetWrites]
  simp only [foundOut, Option.getD_some]
  unfold Fits at hfit
  rcases h.active.cases with hs | hs
  · have hhead : InNvs (pageEmpty s L) (pageEmpty s L + (newHeader crc id file).bytes.length) := by
      rw [MmItem.bytes_length]
      exact ⟨by omega, by omega, by omega⟩
    have hfile : InNvs (pageEmpty s L + itemHeaderSz) (pageEmpty s L + itemHeaderSz + file.bytes.length) :=
      ⟨by omega, by omega, by omega⟩
    rw [mmFlashWrite_eq hhead]
    dsimp only
    rw [mmFlashWrite_eq hfile]
    refine ⟨fun _ => hs, fun _ => ?_⟩
    cases hold : oldItem nvs.mem L id with
    | none => rfl
    | some it =>
      have hmem := (oldItem_mem hold).1
      have hzero : InNvs it.1 (it.1 + itemHeaderSz) := by
        have hin := h.item_inNvs hmem
        have hsz := h.header_le hmem
        exact ⟨hin.1, hin.2.1, Nat.le_trans (by omega) hin.2.2⟩
      simp only [Option.map_some]
      rw [mmFlashZero_eq hzero (by decide)]
  · -- on page 2 the driver refuses the header or the file
    refine ⟨fun hc => ?_, fun hc => by omega⟩
    by_cases hhead : remaining s L < itemHeaderSz
    · rw [mmFlashWrite_of_gt (by rw [MmItem.bytes_length]; omega)] at hc
      exact absurd hc (by simp)
    · have hin : InNvs (pageEmpty s L) (pageEmpty s L + (newHeader crc id file).bytes.length) := by
        rw [MmItem.bytes_length]
        exact ⟨by omega, by omega, by omega⟩
      rw [mmFlashWrite_eq hin] at hc
      dsimp only at hc
      rw [mmFlashWrite_of_gt (by omega)] at hc
      exact absurd hc (by simp)

/-- When `mm_set` returns true. -/
private theorem Tidy.mmSet_true_iff (h : Tidy crc nvs.mem s L) (hid : mmInvalidId ≠ id) (hlen : file.bytes.length ≠ 0) :
    (mmSet crc nvs id file).1 = true ↔
      Unchanged nvs.mem L id file ∨ Fits s L file ∨ file.bytes.length ≤ remaining s L ∧ s = memoryManager1Offset := by
  by_cases hun : Unchanged nvs.mem L id file
  · rw [(h.single _).mmSet_unchanged hid hlen hun]
    exact ⟨fun _ => Or.inl hun, fun _ => rfl⟩
  by_cases hfit : Fits s L file
  · rw [(h.single _).mmSet_writes hid hlen hun hfit]
    exact ⟨fun _ => Or.inr (Or.inl hfit), fun _ => rfl⟩
  by_cases hlt : remaining s L < file.bytes.length
  · rw [(h.single _).mmSet_refused hid hlen hun hlt]
    constructor
    · intro hc
      exact absurd hc (by simp)
    · rintro (hc | hc | hc)
      · exact absurd hc hun
      · exact absurd hc hfit
      · omega
  · rw [h.mmSet_overrun hid hlen hun hfit (by omega)]
    constructor
    · exact fun hs => Or.inr (Or.inr ⟨by omega, hs⟩)
    · rintro (hc | hc | ⟨-, hs⟩)
      · exact absurd hc hun
      · exact absurd hc hfit
      · exact hs

/-- The room the items of the page take. -/
def liveSize (crc : List UInt8 → UInt8) (f : Mem) : Nat := ((mmItems crc f).map Prod.snd).sum

/-- The state of the page, the live items and the new item fit in one page. -/
def LiveFits (crc : List UInt8 → UInt8) (f : Mem) (file : MmFile) : Prop :=
  qwordLen + liveSize crc f + (itemHeaderSz + file.bytes.length) ≤ flashFsPageSize

/-- The page is turned, the file is stored already, or it fits (on page 1 without its header). -/
def AcceptOk (f : Mem) (s : Nat) (L : List (Nat × Nat)) (id : UInt16) (file : MmFile) : Prop :=
  remaining s L < minFileLen ∨ Unchanged f L id file ∨ Fits s L file ∨
    file.bytes.length ≤ remaining s L ∧ s = memoryManager1Offset

theorem Tidy.accepts_iff (h : Tidy crc nvs.mem s L) (hinert : remaining s L < minFileLen → TurnInert crc nvs.mem s L)
    (hid : mmInvalidId ≠ id) (hlen : file.bytes.length ≠ 0) (hlive : LiveFits crc nvs.mem file) :
    (mmSet crc (mmMaintain crc nvs).2 id file).1 = true ↔ AcceptOk nvs.mem s L id file := by
  rw [h.mmMaintain_eq]
  by_cases hrem : remaining s L < minFileLen
  · rw [if_pos hrem]
    refine ⟨fun _ => Or.inl hrem, fun _ => ?_⟩
    obtain ⟨hmem, hturn⟩ := h.turnPage (hinert hrem)
    rw [← hmem] at hturn
    refine (hturn.mmSet_true_iff hid hlen).2 (Or.inr (Or.inl ?_))
    -- after the turn the items stand side by side
    unfold LiveFits liveSize at hlive
    rw [h.mmItems_eq] at hlive
    rw [Fits, remaining, pageEmpty, Resync.finish_pack]
    omega
  · rw [if_neg hrem, h.mmSet_true_iff hid hlen]
    constructor
    · exact Or.inr
    · rintro (hc | hc)
      · exact absurd hc hrem
      · exact hc

/-- In every state of a run whose calls, a last `mm_maintain` included, meet their conditions: a file that fits beside
the live items is accepted after `mm_maintain` exactly when the page was turned or the rest of it is large enough. -/
theorem mmMaintain_mmSet_accepts (crc : List UInt8 → UInt8) (f : Mem) (calls : List Call)
    (hok : Runs.Guarded (callStep crc) (StepOk crc) (formatted f) (calls ++ [.maintain])) (id : UInt16) (file : MmFile)
    (hid : mmInvalidId ≠ id) (hlen : file.bytes.length ≠ 0)
    (hlive : LiveFits crc (Runs.run (callStep crc) (formatted f) calls).mem file) (s : Nat)
    (hs : ActivePage (Runs.run (callStep crc) (formatted f) calls).mem s) :
    (mmSet crc (mmMaintain crc (Runs.run (callStep crc) (formatted f) calls)).2 id file).1 = true ↔
      AcceptOk (Runs.run (callStep crc) (formatted f) calls).mem s
        (mmItems crc (Runs.run (callStep crc) (formatted f) calls).mem) id file := by
  obtain ⟨hcalls, hmaintain⟩ := Runs.Guarded.append.1 hok
  obtain ⟨s', L, h⟩ := run_tidy f calls hcalls
  have hinert := h.stepOk_iff.1 hmaintain.1
  rw [hs.unique h.active, h.mmItems_eq]
  exact h.accepts_iff hinert hid hlen hlive

/-- The same after a call of `mm_maintain`. -/
theorem mmMaintain_mmSet_accepts_update :
    (mmSet crc8Autosar (mmMaintain crc8Autosar
      (Runs.run (callStep crc8Autosar) (formatted fun _ => 0xFF) storedTwice)).2 2 (byteFile 0x99)).1 = true := by
  obtain ⟨-, htidy, -⟩ := storedTwice_spec rfl
  have hrem : remaining memoryManager1Offset updatedItems = 16356 := by decide
  have hmaintain : StepOk crc8Autosar (Runs.run (callStep crc8Autosar) (formatted fun _ => 0xFF) storedTwice)
      .maintain := by
    refine htidy.stepOk_iff.2 fun hlt => ?_
    rw [hrem] at hlt
    exact absurd hlt (by decide)
  have hlive : LiveFits crc8Autosar (Runs.run (callStep crc8Autosar) (formatted fun _ => 0xFF) storedTwice).mem
      (byteFile 0x99) := by
    rw [LiveFits, liveSize, htidy.mmItems_eq]
    decide
  have hiff := mmMaintain_mmSet_accepts crc8Autosar (fun _ => 0xFF) storedTwice
    (Runs.Guarded.append.2 ⟨storedTwice_mapOk.imp fun _ _ hok => hok.1, hmaintain, trivial⟩) 2 (byteFile 0x99) (by decide)
    (by decide) hlive memoryManager1Offset htidy.active
  rw [htidy.mmItems_eq] at hiff
  refine hiff.2 (Or.inr (Or.inr (Or.inl ?_)))
  rw [Fits, hrem]
  decide

/-- A superseded file of zeros leaves zeros up to the new item. -/
private theorem Superseded.zeros {n : Nat} {hn : n < 2 ^ 16} (h : Superseded crc g id (zeroFile n hn) file) {x : Nat}
    (h1 : memoryManager1Offset + 4 ≤ x) (h2 : x < memoryManager1Offset + 4 + (n + 7)) : g x = 0 := by
  by_cases hx : x < memoryManager1Offset + 11
  · exact h.header x h1 hx
  · obtain ⟨i, rfl⟩ := Nat.exists_eq_add_of_le (Nat.le_of_not_lt hx)
    have hi : i < (zeroFile n hn).bytes.length := by
      rw [zeroFile_length]
      omega
    rw [apply_of_bytesAt_eq h.stale hi]
    exact List.getElem_replicate _

/-- A file of zeros overwritten by a longer one: the page holds the new item behind the zeros of the old one. -/
private theorem overwritten_tidy (f : Mem) {n m : Nat} (hn : n < 2 ^ 16) (hm : m < 2 ^ 16) (hn0 : n ≠ 0) (hnm : n < m)
    (hfits : n + m ≤ 16000) :
    Tidy crc (Runs.run (callStep crc) (formatted f) [.set 1 (zeroFile n hn), .set 1 (zeroFile m hm)]).mem
      memoryManager1Offset [(memoryManager1Offset + 4 + (n + 7), m + 7)] := by
  have hid : mmInvalidId ≠ 1 := by decide
  have hnlen := zeroFile_length n hn
  have hmlen := zeroFile_length m hm
  have h7 : itemHeaderSz = 7 := rfl
  have h8 : minFileLen = 8 := rfl
  have h4 : qwordLen = 4 := rfl
  have hsize := flashFsPageSize_eq
  obtain ⟨-, h⟩ := @formatted_oneFile crc 1 (zeroFile n hn) f hid (by omega) (by omega)
  rw [Runs.run_cons, Runs.run_cons, Runs.run_nil]
  generalize callStep crc (formatted f) (.set 1 (zeroFile n hn)) = nvs at h
  obtain ⟨hfit, hread⟩ := h.readable (zeroFile m hm) (by omega)
  have hun : ¬ Unchanged nvs.mem [firstItem (zeroFile n hn)] 1 (zeroFile m hm) := h.not_unchanged (by omega)
  have hsup := h.superseded (zeroFile m hm) (by omega)
  have hitems : setItems crc nvs.mem memoryManager1Offset [firstItem (zeroFile n hn)] 1 (zeroFile m hm) =
      [(memoryManager1Offset + 4 + (n + 7), m + 7)] := by
    rw [setItems, if_pos hread, h.keptItems_eq, newItem, pageEmpty_firstItem, hnlen, hmlen]
    rfl
  obtain ⟨hfirst, hsecond⟩ := newBytes_id hsup.item
  have hfree := hsup.free
  have htidy := @Tidy.set crc nvs.mem memoryManager1Offset 1 (zeroFile m hm) _ h.dense.toTidy hid hfit
  rw [h.dense.toTidy.callStep_set hid (by omega) hun hfit]
  rw [hnlen] at hfirst hsecond hfree
  rw [hitems] at htidy
  refine htidy (noItem_of_erased hfree fun q h1 h2 hout => ?_)
  rcases hout _ (List.mem_singleton.2 rfl) with hlt | hge
  · -- among the zeros of the old item
    exact mmItemAt_before (fun x => hsup.zeros) (by rw [hfirst]; decide) (by rw [hsecond]; decide) h1 hlt
  · simp only at hge
    omega

/-- A file that fits beside the live item, but not behind the zeros and the live item, is refused. -/
private theorem overwritten_refuses {n m : Nat} (h : Tidy crc nvs.mem memoryManager1Offset
    [(memoryManager1Offset + 4 + (n + 7), m + 7)]) (hid : mmInvalidId ≠ id) (hlong : 16366 < n + m + file.bytes.length)
    (hne : m ≠ file.bytes.length) (hlen : file.bytes.length ≠ 0) (hroom : n + m ≤ 16000)
    (hfits : m + file.bytes.length ≤ 16366) :
    LiveFits crc nvs.mem file ∧ (mmSet crc (mmMaintain crc nvs).2 id file).1 ≠ true := by
  have hsize := flashFsPageSize_eq
  have h4 : qwordLen = 4 := rfl
  have h7 : itemHeaderSz = 7 := rfl
  have h8 : minFileLen = 8 := rfl
  have hempty : pageEmpty memoryManager1Offset [(memoryManager1Offset + 4 + (n + 7), m + 7)] =
      memoryManager1Offset + 4 + (n + 7) + (m + 7) := pageEmpty_concat _ [] _
  have hrem : remaining memoryManager1Offset [(memoryManager1Offset + 4 + (n + 7), m + 7)] = 16366 - n - m := by
    rw [remaining, hempty]
    omega
  have hlive : LiveFits crc nvs.mem file := by
    rw [LiveFits, liveSize, h.mmItems_eq]
    simp only [List.map_cons, List.map_nil, List.sum_cons, List.sum_nil]
    omega
  refine ⟨hlive, fun haccept => ?_⟩
  have hinert : remaining memoryManager1Offset [(memoryManager1Offset + 4 + (n + 7), m + 7)] < minFileLen →
      TurnInert crc nvs.mem memoryManager1Offset [(memoryManager1Offset + 4 + (n + 7), m + 7)] := by
    intro hc
    omega
  rcases (h.accepts_iff hinert hid hlen hlive).1 haccept with hc | ⟨it, hold, hfile⟩ | hc | ⟨hc, -⟩
  · omega
  · have hit := List.mem_singleton.1 (oldItem_mem hold).1
    have hlens := congrArg List.length hfile
    rw [itemFile, bytesAt_length, hit] at hlens
    simp only at hlens
    omega
  · unfold Fits at hc
    omega
  · omega

/-- Whatever the checksum, three values of 6000 bytes for one identifier wedge the store although one live value takes
less than half of the page. -/
theorem not_accepts_overwritten :
    ¬ ∃ crc, ∀ f calls id file, mmInvalidId ≠ id → file.bytes.length ≠ 0 →
      LiveFits crc (Runs.run (callStep crc) (formatted f) calls).mem file →
      (mmSet crc (mmMaintain crc (Runs.run (callStep crc) (formatted f) calls)).2 id file).1 = true := by
  rintro ⟨crc, h⟩
  have htidy := @overwritten_tidy crc (fun _ => 0xFF) 6000 6001 (by decide) (by decide) (by decide) (by decide) (by decide)
  have hlen : (zeroFile 6000 (by decide)).bytes.length = 6000 := zeroFile_length 6000 (by decide)
  obtain ⟨hlive, hrefused⟩ := overwritten_refuses htidy (show mmInvalidId ≠ 1 by decide) (by rw [hlen]; decide)
    (by rw [hlen]; decide) (by rw [hlen]; decide) (by decide) (by rw [hlen]; decide)
  exact hrefused (h (fun _ => 0xFF) _ 1 (zeroFile 6000 (by decide)) (by decide) (by rw [hlen]; decide) hlive)

end TiMcu.FlashFs
