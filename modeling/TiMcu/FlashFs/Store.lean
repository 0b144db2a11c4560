import TiMcu.FlashFs.Nvs
import TiMcu.Lib.Crc8
import TiMcu.Lib.LittleEndian
import TiMcu.Lib.Resync

/-!
# The key-value store in the flash

The functions of `flash_fs.c`.  A page starts with four state bytes; behind them stand the items, each a packed header
of seven bytes (`MmItem`) followed by its file.  There is no index: a lookup scans the active page offset by offset for
anything that reads as an item (`mmItemAt`, the body of the loop of `mm_get_next`).

The checksum `crc8_autosar_calc` is a parameter.  Output parameters of the C functions are returned next to the
result, and a null pointer is `none`.
-/

namespace TiMcu.FlashFs

open NorFlash LittleEndian

def qwordLen : Nat := 4
def mmInvalidId : UInt16 := 0xFFFF
def mask16Bit : UInt16 := 0xFFFF
def itemHeaderSz : Nat := 7
def minFileLen : Nat := itemHeaderSz + 1

/-- Status of an active page. -/
def mmPageStateActive : List UInt8 := [0x00, 0x00, 0xa5, 0x5a]

/-- The packed item header. -/
structure MmItem where
  id : UInt16
  nid : UInt16
  length : UInt16
  crc8 : UInt8
  deriving DecidableEq

/-- The header as it stands in the flash. -/
def MmItem.bytes (item : MmItem) : List UInt8 :=
  [lo item.id, hi item.id, lo item.nid, hi item.nid, lo item.length, hi item.length, item.crc8]

/-- The header at an address. -/
def mmItem (f : Mem) (a : Nat) : MmItem where
  id := join (f a) (f (a + 1))
  nid := join (f (a + 2)) (f (a + 3))
  length := join (f (a + 4)) (f (a + 5))
  crc8 := f (a + 6)

/-- A file handed to the store; its length is a 16-bit parameter. -/
structure MmFile where
  bytes : List UInt8
  length_lt : bytes.length < 2 ^ 16

/-- Unsigned 32-bit subtraction. -/
def sub32 (a b : Nat) : Nat := (a + 2 ^ 32 - b) % 2 ^ 32

def mmGetActivePage (f : Mem) : Option (Nat × Nat) :=
  if bytesAt f memoryManager1Offset qwordLen = mmPageStateActive then
    some (memoryManager1Offset, memoryManager1Length)
  else if bytesAt f memoryManager2Offset qwordLen = mmPageStateActive then
    some (memoryManager2Offset, memoryManager2Length)
  else none

def calcRemSize (f : Mem) (offset : Nat) : Nat :=
  match mmGetActivePage f with
  | some (mmPageStart, mmPageLen) =>
    if mmPageStart < offset then sub32 mmPageLen (offset - mmPageStart) else 0
  | none => 0

/-- The checksum of the AUTOSAR profile, for runs on fixed inputs; everything else holds for any checksum. -/
def crc8Autosar (bytes : List UInt8) : UInt8 := Crc8.crc8 0x2F 0xFF 0xFF bytes

example : crc8Autosar [0x31, 0x32, 0x33, 0x34, 0x35, 0x36, 0x37, 0x38, 0x39] = 0xDF := by decide +kernel

variable (crc8AutosarCalc : List UInt8 → UInt8)

/-- The test `mm_get_next` makes at one offset; the result is the complete length of the item. -/
def mmItemAt (f : Mem) (curOffset : Nat) : Option Nat :=
  let item := mmItem f curOffset
  if item.id ≠ mask16Bit ^^^ item.nid then none
  else if item.length.toNat < calcRemSize f curOffset then
    if crc8AutosarCalc (bytesAt f (curOffset + itemHeaderSz) item.length.toNat) ≠ item.crc8 then none
    else some (item.length.toNat + itemHeaderSz)
  else none

def mmGetNext (f : Mem) (offset maxOffset : Nat) : Option (Nat × Nat) :=
  Resync.next (mmItemAt crc8AutosarCalc f) (maxOffset - minFileLen - offset) offset

/-- The local variables of the loop of `mm_find_field`. -/
structure MmCursor where
  nvs : Nvs
  offset : Nat
  item : Option Nat
  prevItemOffset : Option Nat

/-- The loop of `mm_find_field`; `false` when an older duplicate could not be zeroed. -/
def mmFindLoop (fileId : UInt16) (maxOffset : Nat) : Nat → MmCursor → Bool × MmCursor
  | 0, c => (true, c)
  | k + 1, c =>
    match mmGetNext crc8AutosarCalc c.nvs.mem c.offset maxOffset with
    | none => (true, c)
    | some (offset, completeLen) =>
      let item := mmItem c.nvs.mem offset
      if item.id = fileId ∧ item.id = mask16Bit ^^^ item.nid then
        match c.prevItemOffset with
        | some prev =>
          let (res, nvs) := mmFlashZero c.nvs prev (itemHeaderSz + (mmItem c.nvs.mem prev).length.toNat)
          if res then mmFindLoop fileId maxOffset k ⟨nvs, offset + completeLen, some offset, some offset⟩
          else (false, ⟨nvs, offset, some offset, some prev⟩)
        | none => mmFindLoop fileId maxOffset k ⟨c.nvs, offset + completeLen, some offset, some offset⟩
      else mmFindLoop fileId maxOffset k ⟨c.nvs, offset + completeLen, some offset, c.prevItemOffset⟩

/-- The output parameters of `mm_find_field`. -/
structure MmFound where
  item : Option Nat
  empty : Option Nat
  remSpace : Nat

def mmFindField (nvs : Nvs) (fileId : UInt16) (out : MmFound) : Bool × Nvs × MmFound :=
  match mmGetActivePage nvs.mem with
  | none => (false, nvs, out)
  | some (mmPageStart, mmPageLen) =>
    match mmFindLoop crc8AutosarCalc fileId (mmPageStart + mmPageLen) mmPageLen
        ⟨nvs, mmPageStart + qwordLen, out.item, none⟩ with
    | (false, c) => (false, c.nvs, { out with item := c.item })
    | (true, c) =>
      (c.prevItemOffset.isSome, c.nvs,
        ⟨c.prevItemOffset, some c.offset, sub32 mmPageLen (c.offset - mmPageStart)⟩)

def mmFlashFormat (nvs : Nvs) : Bool × Nvs :=
  match mmFlashZero nvs memoryManager2Offset qwordLen with
  | (false, nvs) => (false, nvs)
  | (true, nvs) =>
    match flashNvsErase nvs memoryManager1Offset memoryManager1Length with
    | (false, nvs) => (false, nvs)
    | (true, nvs) => mmFlashWrite nvs memoryManager1Offset mmPageStateActive

/-- The loop of `mm_turn_page` that copies the valid items. -/
def mmCopyLoop (maxOffset : Nat) : Nat → Nvs → Nat → Nat → Bool × Nvs
  | 0, nvs, _, _ => (true, nvs)
  | k + 1, nvs, offsetActive, offsetPassive =>
    match mmGetNext crc8AutosarCalc nvs.mem offsetActive maxOffset with
    | none => (true, nvs)
    | some (offset, completeLen) =>
      match mmFlashWrite nvs offsetPassive (bytesAt nvs.mem offset completeLen) with
      | (false, nvs) => (false, nvs)
      | (true, nvs) => mmCopyLoop maxOffset k nvs (offset + completeLen) (offsetPassive + completeLen)

/-- The page that is not active. -/
def passivePage (mmPageActiveStart : Nat) : Nat :=
  if memoryManager1Offset = mmPageActiveStart then memoryManager2Offset else memoryManager1Offset

def mmTurnPage (nvs : Nvs) : Bool × Nvs :=
  match mmGetActivePage nvs.mem with
  | none => (false, nvs)
  | some (mmPageActiveStart, mmPageActiveLen) =>
    let mmPagePassiveStart := passivePage mmPageActiveStart
    match flashNvsErase nvs mmPagePassiveStart flashFsPageSize with
    | (false, nvs) => (false, nvs)
    | (true, nvs) =>
      match mmCopyLoop crc8AutosarCalc (mmPageActiveStart + mmPageActiveLen) mmPageActiveLen nvs
          (mmPageActiveStart + qwordLen) (mmPagePassiveStart + qwordLen) with
      | (false, nvs) => (false, nvs)
      | (true, nvs) =>
        match mmFlashWrite nvs mmPagePassiveStart mmPageStateActive with
        | (false, nvs) => (false, nvs)
        | (true, nvs) => mmFlashZero nvs mmPageActiveStart qwordLen

def mmMaintain (nvs : Nvs) : Bool × Nvs :=
  match mmFindField crc8AutosarCalc nvs mmInvalidId ⟨none, none, 100 * minFileLen⟩ with
  | (true, nvs, _) => (true, nvs)
  | (false, nvs, out) => if out.remSpace < minFileLen then mmTurnPage crc8AutosarCalc nvs else (true, nvs)

/-- The header `mm_set` writes for a file. -/
def newHeader (dataId : UInt16) (newFile : MmFile) : MmItem where
  id := dataId
  nid := mask16Bit ^^^ dataId
  length := UInt16.ofNat newFile.bytes.length
  crc8 := crc8AutosarCalc newFile.bytes

/-- The item at `item` holds the file already. -/
def sameFile (f : Mem) (item : Option Nat) (newFile : MmFile) : Bool :=
  match item with
  | none => false
  | some a =>
    (mmItem f a).length.toNat = newFile.bytes.length ∧
      bytesAt f (a + itemHeaderSz) newFile.bytes.length = newFile.bytes

/-- The three writes of `mm_set`: header, file, and zeros over the header of the previous item. -/
def mmSetWrites (nvs : Nvs) (dataId : UInt16) (newFile : MmFile) (out : MmFound) : Bool × Nvs :=
  let empty := out.empty.getD 0
  match mmFlashWrite nvs empty (newHeader crc8AutosarCalc dataId newFile).bytes with
  | (false, nvs) => (false, nvs)
  | (true, nvs) =>
    match mmFlashWrite nvs (empty + itemHeaderSz) newFile.bytes with
    | (false, nvs) => (false, nvs)
    | (true, nvs) =>
      match out.item with
      | none => (true, nvs)
      | some prevItem => mmFlashZero nvs prevItem itemHeaderSz

def mmSet (nvs : Nvs) (dataId : UInt16) (newFile : MmFile) : Bool × Nvs :=
  if mmInvalidId = dataId ∨ newFile.bytes.length = 0 then (false, nvs)
  else
    match mmFindField crc8AutosarCalc nvs dataId ⟨none, none, 0⟩ with
    | (res, nvs, out) =>
      if res ∧ sameFile nvs.mem out.item newFile then (true, nvs)
      -- the complete length is taken to be the length of the file, without the header
      else if out.remSpace < newFile.bytes.length then (false, nvs)
      else mmSetWrites crc8AutosarCalc nvs dataId newFile out

/-- `none` when the C function returns false; otherwise the bytes copied and the length reported. -/
def mmGet (nvs : Nvs) (dataId : UInt16) (maxValueLen : UInt16) : Option (List UInt8 × UInt16) × Nvs :=
  if mmInvalidId = dataId ∨ maxValueLen = 0 then (none, nvs)
  else
    match mmFindField crc8AutosarCalc nvs dataId ⟨none, none, 0⟩ with
    | (false, nvs, _) => (none, nvs)
    | (true, nvs, out) =>
      let item := out.item.getD 0
      let length := (mmItem nvs.mem item).length
      if maxValueLen < length then (none, nvs)
      else (some (bytesAt nvs.mem (item + itemHeaderSz) length.toNat, length), nvs)

def mmInvalidate (nvs : Nvs) (dataId : UInt16) : Bool × Nvs :=
  match mmFindField crc8AutosarCalc nvs dataId ⟨none, none, 0⟩ with
  | (false, nvs, _) => (false, nvs)
  | (true, nvs, out) =>
    let item := out.item.getD 0
    mmFlashZero nvs item (itemHeaderSz + (mmItem nvs.mem item).length.toNat)

end TiMcu.FlashFs
