import TiMcu.FlashFs.Page
import Mathlib.Algebra.GroupWithZero.Nat

/-!
# The statistics of a page

`mm_cnt_files` counts the files and the spare bytes of a page, `flash_fs_scan` lists the files; both look at every offset
of the page at which the shortest item still fits.

`mm_cnt_files` tests an offset only while `res` is set, and nothing sets it: the loop starts with `false`, and each of
the tests only keeps or clears it.  So it counts no file on any page (`mmCntFiles_eq`), and the statistics match the page
exactly when there is nothing to count (`statsMatch_iff`).  The spare bytes are right.
-/

namespace TiMcu.FlashFs

open NorFlash LittleEndian

/-- A page of the flash: `NULL` is not in it, the shortest item fits, and its end is an address. -/
structure FlashPage where
  startPageAddr : Nat
  pageLen : Nat
  start_pos : 0 < startPageAddr
  min_le : minFileLen ≤ pageLen
  end_lt : startPageAddr + pageLen < 2 ^ 32

namespace FlashPage

variable (page : FlashPage)

def pageEnd : Nat := page.startPageAddr + page.pageLen

/-- The values of `cur_offset`. -/
def offsets : List Nat := List.range' page.startPageAddr (page.pageLen - minFileLen + 1)

theorem mem_offsets {q : Nat} : q ∈ page.offsets ↔ page.startPageAddr ≤ q ∧ q ≤ page.pageEnd - minFileLen := by
  have := page.min_le
  rw [offsets, List.mem_range'_1, pageEnd]
  omega

/-- The first page of the store. -/
def page1 : FlashPage := ⟨memoryManager1Offset, memoryManager1Length, by decide, by decide, by decide⟩

end FlashPage

/-! ### The two functions -/

section

variable (crc8AutosarCalc : List UInt8 → UInt8) (f : Mem) (page : FlashPage)

/-- The local variables of `mm_cnt_files`. -/
structure CntFiles where
  res : Bool
  fileCnt : Nat
  spareCnt : Nat

def CntFiles.countSpare (c : CntFiles) (byte : UInt8) : CntFiles :=
  if 0xFF = byte then { c with spareCnt := c.spareCnt + 1 } else c

def CntFiles.checkNull (c : CntFiles) (curOffset : Nat) : CntFiles := if curOffset = 0 then { c with res := false } else c

def CntFiles.checkId (c : CntFiles) (item : MmItem) : CntFiles :=
  if c.res then { c with res := decide (item.id = mask16Bit ^^^ item.nid) } else c

def CntFiles.countFile (c : CntFiles) (curOffset : Nat) (item : MmItem) : CntFiles :=
  if c.res then
    let remSize := page.pageEnd - curOffset
    if item.length.toNat < remSize ∧ 0 < item.length.toNat then
      let calcCrc8 := crc8AutosarCalc (bytesAt f (curOffset + itemHeaderSz) item.length.toNat)
      if calcCrc8 = item.crc8 then { c with fileCnt := c.fileCnt + 1 } else c
    else c
  else c

/-- The loop body of `mm_cnt_files`. -/
def CntFiles.step (c : CntFiles) (curOffset : Nat) : CntFiles :=
  let item := mmItem f curOffset
  (((c.countSpare (f curOffset)).checkNull curOffset).checkId item).countFile crc8AutosarCalc f page curOffset item

/-- The number of files and `spare_cnt`. -/
def mmCntFiles : Nat × Nat :=
  let c := page.offsets.foldl (CntFiles.step crc8AutosarCalc f page) ⟨false, 0, 0⟩
  (c.fileCnt, c.spareCnt)

/-- The tests of `flash_fs_scan` at an offset. -/
def scanItem (curOffset : Nat) : Bool :=
  let item := mmItem f curOffset
  let remSize := page.pageEnd - curOffset
  item.id = mask16Bit ^^^ item.nid ∧ ¬remSize < item.length.toNat ∧ 0 ≠ item.length.toNat ∧
    crc8AutosarCalc (bytesAt f (curOffset + itemHeaderSz) item.length.toNat) = item.crc8

/-- The helpers that decide about the row of a file: whether `hex2ascii` can print the payload and whether `is_contain`
finds the key words in the row, which has the header, the address and the payload. -/
structure Row where
  hex2ascii : List UInt8 → Bool
  isContain : MmItem → Nat → List UInt8 → Bool

def Row.printed (row : Row) (curOffset : Nat) : Bool :=
  let item := mmItem f curOffset
  let payload := bytesAt f (curOffset + itemHeaderSz) item.length.toNat
  row.isContain item curOffset payload || row.hex2ascii payload

/-- The loop body of `flash_fs_scan`: `file_cnt` and the number of rows `num`. -/
def scanStep (row : Row) (c : Nat × Nat) (curOffset : Nat) : Nat × Nat :=
  if scanItem crc8AutosarCalc f page curOffset then
    (c.1 + 1, if row.printed f curOffset then c.2 + 1 else c.2)
  else c

/-- The result and the number of files that are listed. -/
def flashFsScan (row : Row) : Bool × Nat :=
  let c := page.offsets.foldl (scanStep crc8AutosarCalc f page row) (0, 0)
  (decide (0 < c.1), c.2)

end

/-! ### What there is to count -/

/-- A valid item starts at the offset. -/
structure ValidAt (crc8AutosarCalc : List UInt8 → UInt8) (f : Mem) (page : FlashPage) (q : Nat) : Prop where
  id : (mmItem f q).id = mask16Bit ^^^ (mmItem f q).nid
  pos : 0 < (mmItem f q).length.toNat
  fits : (mmItem f q).length.toNat < page.pageEnd - q
  crc8 : crc8AutosarCalc (bytesAt f (q + itemHeaderSz) (mmItem f q).length.toNat) = (mmItem f q).crc8

variable {crc : List UInt8 → UInt8} {f : Mem} {page : FlashPage} {q : Nat}

private theorem validAt_iff : ValidAt crc f page q ↔ (mmItem f q).id = mask16Bit ^^^ (mmItem f q).nid ∧
    0 < (mmItem f q).length.toNat ∧ (mmItem f q).length.toNat < page.pageEnd - q ∧
      crc (bytesAt f (q + itemHeaderSz) (mmItem f q).length.toNat) = (mmItem f q).crc8 :=
  ⟨fun h => ⟨h.id, h.pos, h.fits, h.crc8⟩, fun ⟨h1, h2, h3, h4⟩ => ⟨h1, h2, h3, h4⟩⟩

instance : Decidable (ValidAt crc f page q) := decidable_of_iff' _ validAt_iff

private theorem scanItem_iff : scanItem crc f page q ↔ (mmItem f q).id = mask16Bit ^^^ (mmItem f q).nid ∧
    (mmItem f q).length.toNat ≤ page.pageEnd - q ∧ 0 < (mmItem f q).length.toNat ∧
      crc (bytesAt f (q + itemHeaderSz) (mmItem f q).length.toNat) = (mmItem f q).crc8 := by
  simp only [scanItem, decide_eq_true_eq, Nat.not_lt]
  exact and_congr_right fun _ => and_congr_right fun _ => and_congr_left fun _ => Nat.pos_iff_ne_zero.trans ne_comm |>.symm

/-- `flash_fs_scan` lets the length reach the end of the page. -/
private theorem scanItem_iff_validAt : scanItem crc f page q ↔ ValidAt crc f page q ∨
    scanItem crc f page q ∧ (mmItem f q).length.toNat = page.pageEnd - q := by
  constructor
  · intro h
    obtain ⟨hid, hle, hpos, hcrc⟩ := scanItem_iff.1 h
    by_cases hlt : (mmItem f q).length.toNat < page.pageEnd - q
    · exact .inl ⟨hid, hpos, hlt, hcrc⟩
    · exact .inr ⟨h, by omega⟩
  · rintro (h | h)
    · exact scanItem_iff.2 ⟨h.id, Nat.le_of_lt h.fits, h.pos, h.crc8⟩
    · exact h.1

/-! ### What the loops count -/

/-- `res` stays cleared, so an offset only counts a spare byte. -/
private theorem CntFiles.step_of_not {c : CntFiles} (hres : c.res = false) :
    c.step crc f page q = { c with spareCnt := c.spareCnt + if 0xFF = f q then 1 else 0 } := by
  have hspare : (c.countSpare (f q)) = { c with spareCnt := c.spareCnt + if 0xFF = f q then 1 else 0 } := by
    unfold CntFiles.countSpare
    split <;> rfl
  have hnull : ∀ d : CntFiles, d.res = false → d.checkNull q = d := by
    rintro ⟨res, fileCnt, spareCnt⟩ hd
    unfold CntFiles.checkNull
    split
    · exact congrArg (CntFiles.mk · fileCnt spareCnt) hd.symm
    · rfl
  have hkeep : ∀ d : CntFiles, d.res = false →
      (d.checkId (mmItem f q)).countFile crc f page q (mmItem f q) = d := by
    intro d hd
    simp [CntFiles.checkId, CntFiles.countFile, hd]
  unfold CntFiles.step
  dsimp only
  rw [hspare, hnull _ (by exact hres), hkeep _ (by exact hres)]

private theorem cntFiles_foldl {c : CntFiles} (hres : c.res = false) (qs : List Nat) :
    qs.foldl (CntFiles.step crc f page) c = { c with spareCnt := c.spareCnt + qs.countP fun q => 0xFF = f q } := by
  induction qs generalizing c with
  | nil => rfl
  | cons q qs ih =>
    rw [List.foldl_cons, CntFiles.step_of_not hres, ih (by exact hres), List.countP_cons]
    simp only [decide_eq_true_eq, CntFiles.mk.injEq, true_and]
    omega

/-- No file is counted on any page; the spare bytes are those among the scanned offsets. -/
theorem mmCntFiles_eq : mmCntFiles crc f page = (0, page.offsets.countP fun q => 0xFF = f q) := by
  unfold mmCntFiles
  rw [cntFiles_foldl rfl]
  simp

private theorem scan_foldl (row : Row) (c : Nat × Nat) (qs : List Nat) : qs.foldl (scanStep crc f page row) c =
    (c.1 + qs.countP (scanItem crc f page), c.2 + qs.countP fun q => scanItem crc f page q && row.printed f q) := by
  induction qs generalizing c with
  | nil => rfl
  | cons q qs ih =>
    rw [List.foldl_cons, ih, List.countP_cons, List.countP_cons, scanStep]
    by_cases hitem : scanItem crc f page q
    · by_cases hrow : row.printed f q
      · simp only [hitem, hrow, if_true, Bool.and_true, Prod.mk.injEq]
        omega
      · simp only [hitem, hrow, if_true, if_false, Bool.and_false, Bool.false_eq_true, Prod.mk.injEq]
        omega
    · simp [hitem]

/-- `flash_fs_scan` lists the rows of the items that it finds. -/
private theorem flashFsScan_eq (row : Row) : (flashFsScan crc f page row).2 =
    page.offsets.countP fun q => scanItem crc f page q && row.printed f q := by
  unfold flashFsScan
  rw [scan_foldl]
  exact Nat.zero_add _

/-! ### The statistics -/

/-- The statistics match the page and what `flash_fs_scan` lists for it. -/
structure StatsMatch (crc8AutosarCalc : List UInt8 → UInt8) (f : Mem) (page : FlashPage) (row : Row) : Prop where
  files : (mmCntFiles crc8AutosarCalc f page).1 = page.offsets.countP (ValidAt crc8AutosarCalc f page ·)
  listed : (mmCntFiles crc8AutosarCalc f page).1 = (flashFsScan crc8AutosarCalc f page row).2
  spare : (mmCntFiles crc8AutosarCalc f page).2 = page.offsets.countP fun q => 0xFF = f q

/-- The statistics match the page exactly when there is no file on it, neither a valid one nor one that `flash_fs_scan`
lists because its length reaches the end of the page. -/
theorem statsMatch_iff (crc : List UInt8 → UInt8) (f : Mem) (page : FlashPage) (row : Row) :
    StatsMatch crc f page row ↔ ∀ q ∈ page.offsets, scanItem crc f page q →
      (mmItem f q).length.toNat = page.pageEnd - q ∧ ¬row.printed f q := by
  constructor
  · rintro ⟨hfiles, hlisted, -⟩ q hq hitem
    rw [mmCntFiles_eq] at hfiles hlisted
    rw [flashFsScan_eq] at hlisted
    have hnone := List.countP_eq_zero.1 hfiles.symm q hq
    have hrow := List.countP_eq_zero.1 hlisted.symm q hq
    rw [decide_eq_true_eq] at hnone
    rw [Bool.and_eq_true, not_and] at hrow
    exact ⟨((scanItem_iff_validAt.1 hitem).resolve_left hnone).2, hrow hitem⟩
  · intro h
    refine ⟨?_, ?_, ?_⟩
    · rw [mmCntFiles_eq, eq_comm, List.countP_eq_zero]
      intro q hq hvalid
      rw [decide_eq_true_eq] at hvalid
      have := (h q hq (scanItem_iff_validAt.2 (.inl hvalid))).1
      have := hvalid.fits
      omega
    · rw [mmCntFiles_eq, flashFsScan_eq, eq_comm, List.countP_eq_zero]
      intro q hq hrow
      rw [Bool.and_eq_true] at hrow
      exact (h q hq hrow.1).2 hrow.2
    · rw [mmCntFiles_eq]

/-- A file of one byte at the start of the first page, behind its state bytes. -/
def oneFilePage : Mem := fun x =>
  if x < memoryManager1Offset + qwordLen then 0xFF
  else ((newHeader crc8Autosar 0 ⟨[0x4E], by decide⟩).bytes ++ [0x4E]).getD (x - (memoryManager1Offset + qwordLen)) 0xFF

theorem not_statsMatch : ¬∀ (f : Mem) (page : FlashPage) (row : Row), StatsMatch crc8Autosar f page row := by
  intro h
  have hfiles := (h oneFilePage .page1 ⟨fun _ => true, fun _ _ _ => true⟩).files
  rw [mmCntFiles_eq] at hfiles
  have hmem : memoryManager1Offset + qwordLen ∈ FlashPage.page1.offsets := by
    rw [FlashPage.mem_offsets]
    decide
  have hnone := List.countP_eq_zero.1 hfiles.symm _ hmem
  rw [decide_eq_true_eq, validAt_iff] at hnone
  exact hnone (by decide +kernel)

end TiMcu.FlashFs
