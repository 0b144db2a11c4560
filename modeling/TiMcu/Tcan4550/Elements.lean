import Mathlib.Logic.Function.Basic
import TiMcu.Tcan4550.Spi

/-!
# Writing elements of the message memory

`tcan4550_write_sid_filter` and `tcan4550_write_tx_buff`, as programs of SPI transfers that all succeed.  The masks of
the identifiers and `uint8_limiter` are not in the repository; they are parameters.
-/

namespace TiMcu.Tcan4550

open Dialog Placement

/-! ### The functions -/

/-- The number of data bytes of a data length code. -/
def dlc2bytes (dlcCode : BitVec 8) : BitVec 8 :=
  if dlcCode < 9 then dlcCode
  else if dlcCode < 16 then [12, 16, 20, 24, 32, 48, 64].getD (dlcCode - 9).toNat 0
  else 0

structure CanTxHeader where
  id : BitVec 29
  rtr : BitVec 1
  xtd : BitVec 1
  esi : BitVec 1
  dlc : BitVec 4
  brs : BitVec 1
  fdf : BitVec 1
  efc : BitVec 1
  mm : BitVec 8

def StdIdFiltCfg.ofWord (w : BitVec 32) : StdIdFiltCfg where
  flssa := w.extractLsb' 0 16
  lss := w.extractLsb' 16 8
  rsvd := w.extractLsb' 24 8

def TxBufCfg.ofWord (w : BitVec 32) : TxBufCfg where
  txBufStartAddr := w.extractLsb' 0 16
  ndtb := w.extractLsb' 16 6
  tfqs := w.extractLsb' 24 6
  tfqm := w.extractLsb' 30 1

def TxBufElmSzCfg.ofWord (w : BitVec 32) : TxBufElmSzCfg where
  txBuffDataSize := w.extractLsb' 0 3

def writeSidFilter (filterIndex : BitVec 8) (filter : BitVec 32) : Bus Bool := do
  let (res, word) ← readReg addrMcanSidfc
  let reg := StdIdFiltCfg.ofWord word
  let (res, reg) :=
    if res then
      if reg.lss < filterIndex then (false, reg) else (true, { reg with lss := filterIndex })
    else (res, reg)
  if res then
    let startAddress := reg.flssa + addrMram.setWidth 16
    let startAddress := startAddress + reg.lss.setWidth 16 * 4
    let ok ← writeReg startAddress filter
    pure (ok && res)
  else pure res

/-- The loop over the data; that many words are left from index `i` on. -/
def writePayload (dataPayload : Nat → BitVec 8) : Nat → Nat → Bool → Bus Bool
  | 0, _, res => pure res
  | n + 1, i, _ => do
    let res ← sendSpiBurst (dataPayload (i + 3) ++ dataPayload (i + 2) ++ dataPayload (i + 1) ++ dataPayload i)
    writePayload dataPayload n (i + 4) res

section

variable (uint8Limiter : BitVec 8 → BitVec 8 → BitVec 8) (mask11bit mask29bit : BitVec 32)

/-- The first word of an element. -/
def CanTxHeader.w0 (header : CanTxHeader) : BitVec 32 :=
  let id : BitVec 29 :=
    if header.xtd = 1 then (header.id.setWidth 32 &&& mask29bit).setWidth 29
    else ((header.id.setWidth 32 &&& mask11bit) <<< 18).setWidth 29
  header.esi ++ header.xtd ++ header.rtr ++ id

/-- The second word of an element. -/
def CanTxHeader.w1 (header : CanTxHeader) : BitVec 32 :=
  header.mm ++ header.efc ++ 0#1 ++ header.fdf ++ header.brs ++ header.dlc ++ 0#16

/-- The number of data bytes of a frame. -/
def CanTxHeader.bytes (header : CanTxHeader) : BitVec 8 := dlc2bytes (header.dlc.setWidth 8 &&& 0x0F)

/-- The part of `tcan4550_write_tx_buff` between the two calls of `tcan4550_chip_select`. -/
def writeTxElement (startAddress : BitVec 16) (header : CanTxHeader) (dataPayload : Nat → BitVec 8) : Bus Bool := do
  let words := (header.bytes + 8) >>> 2
  let words := if 0 < header.bytes % 4 then words + 1 else words
  let res ← sendSpiHeader opCodeWrite startAddress words
  let _ ← sendSpiBurst (header.w0 mask11bit mask29bit)
  let _ ← sendSpiBurst header.w1
  writePayload dataPayload ((header.bytes.toNat + 3) / 4) 0 res

def writeTxBuff (bufIndex : BitVec 8) (header : CanTxHeader) (dataPayload : Nat → BitVec 8) : Bus Bool := do
  let (res, word) ← readReg addrMcanTxbc
  let reg := TxBufCfg.ofWord word
  let startAddress := addrMram.setWidth 16 + reg.txBufStartAddr
  let tfqs := (uint8Limiter (reg.tfqs.setWidth 8) 32).setWidth 6
  let ndtb := (uint8Limiter (reg.ndtb.setWidth 8) 32).setWidth 6
  let elementSize : BitVec 8 := tfqs.setWidth 8 + ndtb.setWidth 8
  let res := res && !decide ((elementSize.toNat : Int) - 1 < bufIndex.toNat)
  if res then
    let (_res, word) ← readReg addrMcanTxesc
    let elementSize := txrxesc2dataBytes ((TxBufElmSzCfg.ofWord word).txBuffDataSize.setWidth 8) + 8
    let startAddress := startAddress + (elementSize.setWidth 32 * bufIndex.setWidth 32).setWidth 16
    writeTxElement mask11bit mask29bit startAddress header dataPayload
  else pure res

end

/-! ### The controller -/

/-- The controller: its words by address, the transfer that goes on, with its next address, and the words that were
written. -/
structure Chip where
  mem : BitVec 16 → BitVec 32
  opCode : BitVec 8
  address : BitVec 16
  written : List (BitVec 16 × BitVec 32)

/-- The next word of a write. -/
def Chip.wrote (s : Chip) (word : BitVec 32) : Chip :=
  { s with
    mem := Function.update s.mem s.address word
    address := s.address + 4
    written := s.written ++ [(s.address, word)] }

/-- All transfers succeed. -/
def Chip.answer (s : Chip) : Transfer → Answer × Chip
  | .header opCode address _ => (⟨true, 0⟩, { s with opCode := opCode, address := address })
  | .burst word => (⟨true, 0⟩, if s.opCode = opCodeWrite then s.wrote word else s)
  | .read => (⟨true, s.mem s.address⟩, { s with address := s.address + 4 })

/-! ### The specification -/

/-- The list of filters. -/
def sidList (r : StdIdFiltCfg) : Span := ⟨addrMram.toNat + r.flssa.toNat, 4 * r.lss.toNat⟩

/-- The number of transmit buffers; the controller counts at most 32 of either kind. -/
def TxBufCfg.bufs (r : TxBufCfg) : Nat := min r.tfqs.toNat 32 + min r.ndtb.toNat 32

/-- The bytes of an element. -/
def TxBufElmSzCfg.len (e : TxBufElmSzCfg) : Nat := 8 + dataBytes e.txBuffDataSize

/-- An element of the transmit buffers. -/
def txElement (r : TxBufCfg) (e : TxBufElmSzCfg) (i : Nat) : Span :=
  ⟨addrMram.toNat + r.txBufStartAddr.toNat + e.len * i, e.len⟩

/-- The four bytes of a word lie in the range. -/
def WordIn (a : Span) (x : BitVec 16) : Prop := a.start ≤ x.toNat ∧ x.toNat + 4 ≤ a.start + a.len

/-- What is wanted of a write: every word is in its place, and what does not fit is refused. -/
structure StaysIn (place : Span) (fits : Prop) (o : Outcome Transfer Answer Chip Bool) : Prop where
  inside : ∀ x ∈ o.state.written, WordIn place x.1
  refused : ¬fits → o.result = false ∧ o.state.written = []

namespace Chip

variable (s : Chip)

def sidfc : StdIdFiltCfg := .ofWord (s.mem addrMcanSidfc)
def txbc : TxBufCfg := .ofWord (s.mem addrMcanTxbc)
def txesc : TxBufElmSzCfg := .ofWord (s.mem addrMcanTxesc)

/-- The registers describe sections inside the message memory, and nothing was written yet. -/
structure Ready : Prop where
  sid : s.sidfc.flssa.toNat + 4 * s.sidfc.lss.toNat ≤ mramSz.toNat
  tx : s.txbc.txBufStartAddr.toNat + s.txesc.len * s.txbc.bufs ≤ mramSz.toNat
  none : s.written = []

end Chip

/-! ### Transfers that succeed -/

section

variable (s : Chip)

private theorem readReg_chip (address : BitVec 16) : ∃ log, run Chip.answer s (readReg address) =
    ⟨(true, s.mem address), { s with opCode := opCodeRead, address := address + 4 }, log⟩ := by
  simp [readReg, withChipSelect, readRegProc, sendSpiHeader, spiRead, chipSelect, Chip.answer]

private theorem writeReg_chip (address : BitVec 16) (regVal : BitVec 32) :
    ∃ log, run Chip.answer s (writeReg address regVal) =
    ⟨true, Chip.wrote { s with opCode := opCodeWrite, address := address } regVal, log⟩ := by
  simp [writeReg, withChipSelect, writeRegProc, sendSpiHeader, sendSpiBurst, chipSelect, Chip.answer]

private theorem sendSpiHeader_chip (opCode : BitVec 8) (address : BitVec 16) (words : BitVec 8) :
    ∃ log, run Chip.answer s (sendSpiHeader opCode address words) =
      ⟨true, { s with opCode := opCode, address := address }, log⟩ := by
  simp [sendSpiHeader, Chip.answer]

private theorem sendSpiBurst_chip (h : s.opCode = opCodeWrite) (word : BitVec 32) :
    ∃ log, run Chip.answer s (sendSpiBurst word) = ⟨true, s.wrote word, log⟩ := by
  simp [sendSpiBurst, Chip.answer, h]

end

/-! ### Filters -/

section

variable (s : Chip) (filterIndex : BitVec 8) (filter : BitVec 32)

/-- The address that a filter is written to. -/
def sidAddress (r : StdIdFiltCfg) (filterIndex : BitVec 8) : BitVec 16 :=
  r.flssa + addrMram.setWidth 16 + filterIndex.setWidth 16 * 4

private theorem writeSidFilter_beyond (h : s.sidfc.lss < filterIndex) :
    (run Chip.answer s (writeSidFilter filterIndex filter)).result = false ∧
      (run Chip.answer s (writeSidFilter filterIndex filter)).state.written = s.written := by
  have hlss : (StdIdFiltCfg.ofWord (s.mem addrMcanSidfc)).lss < filterIndex := h
  obtain ⟨log, hread⟩ := readReg_chip s addrMcanSidfc
  rw [writeSidFilter, run_bind, hread]
  simp [hlss]

private theorem writeSidFilter_upto (h : ¬s.sidfc.lss < filterIndex) :
    (run Chip.answer s (writeSidFilter filterIndex filter)).result = true ∧
      (run Chip.answer s (writeSidFilter filterIndex filter)).state.written =
        s.written ++ [(sidAddress s.sidfc filterIndex, filter)] := by
  have hlss : ¬(StdIdFiltCfg.ofWord (s.mem addrMcanSidfc)).lss < filterIndex := h
  obtain ⟨log, hread⟩ := readReg_chip s addrMcanSidfc
  obtain ⟨log', hwrite⟩ := writeReg_chip { s with opCode := opCodeRead, address := addrMcanSidfc + 4 }
    ((StdIdFiltCfg.ofWord (s.mem addrMcanSidfc)).flssa + addrMram.setWidth 16 + filterIndex.setWidth 16 * 4) filter
  rw [writeSidFilter, run_bind, hread]
  dsimp only
  rw [if_pos rfl, if_neg hlss]
  dsimp only
  rw [if_pos rfl, run_bind, hwrite]
  exact ⟨rfl, rfl⟩

private theorem toNat_sidAddress (r : StdIdFiltCfg) (hend : r.flssa.toNat + 4 * r.lss.toNat ≤ mramSz.toNat)
    (hle : filterIndex.toNat ≤ r.lss.toNat) :
    (sidAddress r filterIndex).toNat = addrMram.toNat + r.flssa.toNat + 4 * filterIndex.toNat := by
  have hsize : mramSz.toNat = 2048 := rfl
  have hbase : addrMram.toNat = 32768 := rfl
  have hwide : (filterIndex.setWidth 16).toNat = filterIndex.toNat := toNat_widened (by decide) _
  have hstart : (r.flssa + addrMram.setWidth 16).toNat = r.flssa.toNat + 32768 := toNat_advance rfl rfl (by omega)
  have hlen : (filterIndex.setWidth 16 * 4).toNat = filterIndex.toNat * 4 := toNat_elements hwide rfl (by omega)
  rw [sidAddress, toNat_advance hstart hlen (by omega)]
  omega

/-- The filters stay in their list, but for the one right behind it. -/
private theorem writeSidFilter_staysIn_iff (hready : s.Ready) :
    StaysIn (sidList s.sidfc) (filterIndex < s.sidfc.lss) (run Chip.answer s (writeSidFilter filterIndex filter)) ↔
      filterIndex ≠ s.sidfc.lss := by
  by_cases hbeyond : s.sidfc.lss < filterIndex
  · obtain ⟨hres, hwritten⟩ := writeSidFilter_beyond s filterIndex filter hbeyond
    rw [hready.none] at hwritten
    refine iff_of_true ⟨?_, fun _ => ⟨hres, hwritten⟩⟩ ?_
    · rw [hwritten]
      exact fun x hx => absurd hx List.not_mem_nil
    · rintro rfl
      exact BitVec.lt_irrefl _ hbeyond
  · obtain ⟨hres, hwritten⟩ := writeSidFilter_upto s filterIndex filter hbeyond
    rw [hready.none, List.nil_append] at hwritten
    constructor
    · rintro ⟨-, hrefused⟩ heq
      have hfalse := (hrefused (by rw [heq]; exact BitVec.lt_irrefl _)).1
      rw [hres] at hfalse
      cases hfalse
    · intro hne
      have hlt : filterIndex < s.sidfc.lss := BitVec.lt_of_le_ne (BitVec.not_lt.1 hbeyond) hne
      refine ⟨?_, fun hnot => absurd hlt hnot⟩
      rw [hwritten]
      intro x hx
      obtain rfl := List.mem_singleton.1 hx
      have hindex : filterIndex.toNat < s.sidfc.lss.toNat := hlt
      have haddress := toNat_sidAddress filterIndex s.sidfc hready.sid hindex.le
      dsimp only [WordIn, sidList]
      omega

end

/-! ### Transmit buffers -/

/-- The addresses of words one after the other. -/
def addresses (address : BitVec 16) : Nat → List (BitVec 16)
  | 0 => []
  | n + 1 => address :: addresses (address + 4) n

private theorem wordIn_of_mem_addresses {address x : BitVec 16} {n : Nat} (hx : x ∈ addresses address n)
    (hend : address.toNat + 4 * n < 2 ^ 16) : WordIn ⟨address.toNat, 4 * n⟩ x := by
  induction n generalizing address with
  | zero => exact absurd hx List.not_mem_nil
  | succ n ih =>
    rcases List.mem_cons.1 hx with rfl | hx
    · exact ⟨le_refl _, by dsimp only; omega⟩
    · have hnext : (address + 4).toNat = address.toNat + 4 := toNat_advance rfl rfl (by omega)
      obtain ⟨hlo, hhi⟩ := ih hx (by omega)
      rw [hnext] at hlo hhi
      constructor <;> dsimp only at hlo hhi ⊢ <;> omega

section

variable (s : Chip) (dataPayload : Nat → BitVec 8)

private theorem writePayload_chip (h : s.opCode = opCodeWrite) (n i : Nat) :
    (run Chip.answer s (writePayload dataPayload n i true)).result = true ∧
      (run Chip.answer s (writePayload dataPayload n i true)).state.written.map Prod.fst =
        s.written.map Prod.fst ++ addresses s.address n := by
  induction n generalizing s i with
  | zero => simp [writePayload, addresses]
  | succ n ih =>
    obtain ⟨log, hburst⟩ := sendSpiBurst_chip s h
      (dataPayload (i + 3) ++ dataPayload (i + 2) ++ dataPayload (i + 1) ++ dataPayload i)
    obtain ⟨hres, hwritten⟩ := ih (s.wrote _) h (i + 4)
    rw [writePayload, run_bind, hburst]
    refine ⟨hres, hwritten.trans ?_⟩
    simp [Chip.wrote, addresses]

variable (mask11bit mask29bit : BitVec 32)

/-- The words of an element, two and those of the data. -/
def CanTxHeader.words (header : CanTxHeader) : Nat := 2 + (header.bytes.toNat + 3) / 4

private theorem writeTxElement_chip (startAddress : BitVec 16) (header : CanTxHeader) :
    (run Chip.answer s (writeTxElement mask11bit mask29bit startAddress header dataPayload)).result = true ∧
      (run Chip.answer s
        (writeTxElement mask11bit mask29bit startAddress header dataPayload)).state.written.map Prod.fst =
          s.written.map Prod.fst ++ addresses startAddress header.words := by
  let headed : Chip := { s with opCode := opCodeWrite, address := startAddress }
  let first := headed.wrote (header.w0 mask11bit mask29bit)
  let second := first.wrote header.w1
  obtain ⟨_, hheader⟩ := sendSpiHeader_chip s opCodeWrite startAddress
    (if 0 < header.bytes % 4 then (header.bytes + 8) >>> 2 + 1 else (header.bytes + 8) >>> 2)
  obtain ⟨_, hw0⟩ := sendSpiBurst_chip headed rfl (header.w0 mask11bit mask29bit)
  obtain ⟨_, hw1⟩ := sendSpiBurst_chip first rfl header.w1
  obtain ⟨hres, hwritten⟩ := writePayload_chip second dataPayload rfl ((header.bytes.toNat + 3) / 4) 0
  have haddresses : addresses startAddress header.words =
      startAddress :: (startAddress + 4) :: addresses (startAddress + 4 + 4) ((header.bytes.toNat + 3) / 4) := by
    rw [CanTxHeader.words, Nat.add_comm]
    rfl
  rw [writeTxElement, run_bind, hheader]
  dsimp only
  rw [run_bind, hw0]
  dsimp only
  rw [run_bind, hw1]
  refine ⟨hres, hwritten.trans ?_⟩
  rw [haddresses]
  simp [second, first, headed, Chip.wrote]

variable {uint8Limiter : BitVec 8 → BitVec 8 → BitVec 8}
  (hlimiter : ∀ val max, (uint8Limiter val max).toNat = min val.toNat max.toNat)
  (bufIndex : BitVec 8) (header : CanTxHeader)

include hlimiter in
/-- The check of the index, which is made on one more than the last one. -/
theorem beyond_iff (r : TxBufCfg) :
    ((((uint8Limiter (r.tfqs.setWidth 8) 32).setWidth 6).setWidth 8 +
      ((uint8Limiter (r.ndtb.setWidth 8) 32).setWidth 6).setWidth 8 : BitVec 8).toNat : Int) - 1 < bufIndex.toNat ↔
        r.bufs ≤ bufIndex.toNat := by
  have htfqs := toNat_limiter hlimiter r.tfqs
  have hndtb := toNat_limiter hlimiter r.ndtb
  have hwide : ∀ n : BitVec 6, (n.setWidth 8).toNat = n.toNat := fun n => BitVec.toNat_setWidth_of_le (by decide)
  rw [BitVec.toNat_add, hwide, hwide, htfqs, hndtb, TxBufCfg.bufs]
  omega

include hlimiter in
private theorem writeTxBuff_beyond (h : s.txbc.bufs ≤ bufIndex.toNat) :
    (run Chip.answer s (writeTxBuff uint8Limiter mask11bit mask29bit bufIndex header dataPayload)).result = false ∧
      (run Chip.answer s (writeTxBuff uint8Limiter mask11bit mask29bit bufIndex header dataPayload)).state.written =
        s.written := by
  have hbeyond := (beyond_iff hlimiter bufIndex (TxBufCfg.ofWord (s.mem addrMcanTxbc))).2 h
  obtain ⟨_, hread⟩ := readReg_chip s addrMcanTxbc
  rw [writeTxBuff, run_bind, hread]
  dsimp only
  rw [decide_eq_true hbeyond]
  exact ⟨rfl, rfl⟩

/-- The address that an element is written to. -/
def txAddress (r : TxBufCfg) (e : TxBufElmSzCfg) (bufIndex : BitVec 8) : BitVec 16 :=
  addrMram.setWidth 16 + r.txBufStartAddr +
    ((txrxesc2dataBytes (e.txBuffDataSize.setWidth 8) + 8).setWidth 32 * bufIndex.setWidth 32).setWidth 16

include hlimiter in
private theorem writeTxBuff_upto (h : bufIndex.toNat < s.txbc.bufs) :
    (run Chip.answer s (writeTxBuff uint8Limiter mask11bit mask29bit bufIndex header dataPayload)).result = true ∧
      (run Chip.answer s
        (writeTxBuff uint8Limiter mask11bit mask29bit bufIndex header dataPayload)).state.written.map Prod.fst =
          s.written.map Prod.fst ++ addresses (txAddress s.txbc s.txesc bufIndex) header.words := by
  have hupto := mt (beyond_iff hlimiter bufIndex (TxBufCfg.ofWord (s.mem addrMcanTxbc))).1 (Nat.not_le.2 h)
  obtain ⟨_, hread⟩ := readReg_chip s addrMcanTxbc
  obtain ⟨_, hread'⟩ := readReg_chip { s with opCode := opCodeRead, address := addrMcanTxbc + 4 } addrMcanTxesc
  rw [writeTxBuff, run_bind, hread]
  dsimp only
  rw [decide_eq_false hupto, if_pos (show (true && !false) = true from rfl), run_bind, hread']
  rw [txAddress, Chip.txbc, Chip.txesc]
  dsimp only
  exact writeTxElement_chip ⟨s.mem, opCodeRead, addrMcanTxesc + 4, s.written⟩ dataPayload mask11bit mask29bit _ header

/-- An element has room for its words exactly when the data fits. -/
private theorem words_le_iff (header : CanTxHeader) (e : TxBufElmSzCfg) :
    4 * header.words ≤ e.len ↔ header.bytes.toNat ≤ dataBytes e.txBuffDataSize := by
  have htable : ∀ (dlc : BitVec 4) (size : BitVec 3),
      4 * (2 + ((dlc2bytes (dlc.setWidth 8 &&& 0x0F)).toNat + 3) / 4) ≤ 8 + dataBytes size ↔
        (dlc2bytes (dlc.setWidth 8 &&& 0x0F)).toNat ≤ dataBytes size := by
    decide +kernel
  exact htable header.dlc e.txBuffDataSize

private theorem toNat_txAddress (r : TxBufCfg) (e : TxBufElmSzCfg)
    (hend : r.txBufStartAddr.toNat + e.len * r.bufs ≤ mramSz.toNat) (hlt : bufIndex.toNat < r.bufs) :
    (txAddress r e bufIndex).toNat = (txElement r e bufIndex.toNat).start ∧
      (txAddress r e bufIndex).toNat + e.len ≤ addrMram.toNat + mramSz.toNat := by
  have hsize : mramSz.toNat = 2048 := rfl
  have hbase : addrMram.toNat = 32768 := rfl
  have hmul : e.len * bufIndex.toNat + e.len ≤ e.len * r.bufs := Nat.mul_le_mul_left e.len hlt
  have hlen : (txrxesc2dataBytes (e.txBuffDataSize.setWidth 8) + 8).toNat = e.len := by
    have htable : ∀ size : BitVec 3, (txrxesc2dataBytes (size.setWidth 8) + 8).toNat = 8 + dataBytes size := by decide
    exact htable e.txBuffDataSize
  have hoffset : (((txrxesc2dataBytes (e.txBuffDataSize.setWidth 8) + 8).setWidth 32 *
      bufIndex.setWidth 32).setWidth 16).toNat = e.len * bufIndex.toNat := by
    rw [BitVec.toNat_setWidth, BitVec.toNat_mul, BitVec.toNat_setWidth_of_le (by decide),
      BitVec.toNat_setWidth_of_le (by decide), hlen]
    omega
  have hstart : (addrMram.setWidth 16 + r.txBufStartAddr).toNat = 32768 + r.txBufStartAddr.toNat :=
    toNat_advance rfl rfl (by omega)
  have haddress := toNat_advance hstart hoffset (by omega)
  rw [txAddress, haddress, txElement]
  dsimp only
  omega

include hlimiter in
/-- The elements stay in their buffers as long as their data fits. -/
private theorem writeTxBuff_staysIn_iff (hready : s.Ready) :
    StaysIn (txElement s.txbc s.txesc bufIndex.toNat)
        (bufIndex.toNat < s.txbc.bufs ∧ header.bytes.toNat ≤ dataBytes s.txesc.txBuffDataSize)
        (run Chip.answer s (writeTxBuff uint8Limiter mask11bit mask29bit bufIndex header dataPayload)) ↔
      s.txbc.bufs ≤ bufIndex.toNat ∨ header.bytes.toNat ≤ dataBytes s.txesc.txBuffDataSize := by
  by_cases hbeyond : s.txbc.bufs ≤ bufIndex.toNat
  · obtain ⟨hres, hwritten⟩ :=
      writeTxBuff_beyond s dataPayload mask11bit mask29bit hlimiter bufIndex header hbeyond
    rw [hready.none] at hwritten
    refine iff_of_true ⟨?_, fun _ => ⟨hres, hwritten⟩⟩ (Or.inl hbeyond)
    rw [hwritten]
    exact fun x hx => absurd hx List.not_mem_nil
  · have hlt := Nat.lt_of_not_le hbeyond
    obtain ⟨hres, hwritten⟩ := writeTxBuff_upto s dataPayload mask11bit mask29bit hlimiter bufIndex header hlt
    rw [hready.none, List.map_nil, List.nil_append] at hwritten
    rw [or_iff_right hbeyond]
    constructor
    · rintro ⟨-, hrefused⟩
      by_contra hlong
      have hfalse := (hrefused fun h => hlong h.2).1
      rw [hres] at hfalse
      cases hfalse
    · intro hfits
      refine ⟨?_, fun hnot => absurd ⟨hlt, hfits⟩ hnot⟩
      intro x hx
      have hmem := List.mem_map_of_mem (f := Prod.fst) hx
      rw [hwritten] at hmem
      obtain ⟨haddress, hend⟩ := toNat_txAddress bufIndex s.txbc s.txesc hready.tx hlt
      have hroom := (words_le_iff header s.txesc).2 hfits
      have hsize : addrMram.toNat + mramSz.toNat = 34816 := rfl
      obtain ⟨hlo, hhi⟩ := wordIn_of_mem_addresses hmem (by omega)
      dsimp only at hlo hhi
      rw [haddress] at hlo hhi
      exact ⟨hlo, hhi.trans (Nat.add_le_add_left hroom _)⟩

end

/-- Writes stay in their elements exactly when the filter is not the one right behind the list, and the data of a frame
for a buffer that exists is no longer than the elements allow. -/
theorem writes_staysIn_iff (uint8Limiter : BitVec 8 → BitVec 8 → BitVec 8)
    (hlimiter : ∀ val max, (uint8Limiter val max).toNat = min val.toNat max.toNat) (mask11bit mask29bit : BitVec 32)
    (s : Chip) (hready : s.Ready) (filterIndex : BitVec 8) (filter : BitVec 32) (bufIndex : BitVec 8)
    (header : CanTxHeader) (dataPayload : Nat → BitVec 8) :
    (StaysIn (sidList s.sidfc) (filterIndex < s.sidfc.lss) (run Chip.answer s (writeSidFilter filterIndex filter)) ↔
      filterIndex ≠ s.sidfc.lss) ∧
    (StaysIn (txElement s.txbc s.txesc bufIndex.toNat)
        (bufIndex.toNat < s.txbc.bufs ∧ header.bytes.toNat ≤ dataBytes s.txesc.txBuffDataSize)
        (run Chip.answer s (writeTxBuff uint8Limiter mask11bit mask29bit bufIndex header dataPayload)) ↔
      s.txbc.bufs ≤ bufIndex.toNat ∨ header.bytes.toNat ≤ dataBytes s.txesc.txBuffDataSize) :=
  ⟨writeSidFilter_staysIn_iff s filterIndex filter hready,
    writeTxBuff_staysIn_iff s dataPayload mask11bit mask29bit hlimiter bufIndex header hready⟩

/-- A controller with one filter at the start of the memory and two transmit buffers for eight bytes behind it. -/
def smallChip : Chip where
  mem address := if address = addrMcanSidfc then 0x00010000 else if address = addrMcanTxbc then 0x00020004 else 0
  opCode := opCodeRead
  address := 0
  written := []

/-- A frame of a standard identifier. -/
def stdHeader (dlc : BitVec 4) : CanTxHeader := ⟨0x123, 0, 0, 0, dlc, 0, 1, 0, 0⟩

theorem writes_staysIn_iff_small :
    (StaysIn (sidList smallChip.sidfc) (0 < smallChip.sidfc.lss)
        (run Chip.answer smallChip (writeSidFilter 0 0xC7FF0000)) ↔ 0 ≠ smallChip.sidfc.lss) ∧
    (StaysIn (txElement smallChip.txbc smallChip.txesc 1)
        (1 < smallChip.txbc.bufs ∧ (stdHeader 8).bytes.toNat ≤ dataBytes smallChip.txesc.txBuffDataSize)
        (run Chip.answer smallChip (writeTxBuff cutAt 0x7FF 0x1FFFFFFF 1 (stdHeader 8) fun _ => 0)) ↔
      smallChip.txbc.bufs ≤ 1 ∨ (stdHeader 8).bytes.toNat ≤ dataBytes smallChip.txesc.txBuffDataSize) :=
  writes_staysIn_iff cutAt toNat_cutAt 0x7FF 0x1FFFFFFF smallChip ⟨by decide, by decide, rfl⟩ 0 0xC7FF0000 1
    (stdHeader 8) fun _ => 0

/-- A second filter is written behind the list of one, and twelve bytes into the buffer for eight. -/
theorem writes_behind :
    ¬StaysIn (sidList smallChip.sidfc) (1 < smallChip.sidfc.lss)
        (run Chip.answer smallChip (writeSidFilter 1 0xC7FF0000)) ∧
    ¬StaysIn (txElement smallChip.txbc smallChip.txesc 1)
        (1 < smallChip.txbc.bufs ∧ (stdHeader 9).bytes.toNat ≤ dataBytes smallChip.txesc.txBuffDataSize)
        (run Chip.answer smallChip (writeTxBuff cutAt 0x7FF 0x1FFFFFFF 1 (stdHeader 9) fun _ => 0)) := by
  constructor
  · intro h
    exact absurd (h.refused (by decide)).1 (by decide)
  · intro h
    exact absurd (h.refused (by decide)).1 (by decide)

end TiMcu.Tcan4550
