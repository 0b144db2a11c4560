import TiMcu.Tcan4550.Elements

/-!
# Sending and receiving frames

`tcan4550_send_std` and `TCAN4x5x_MCAN_ReadNextFIFO` as programs of SPI transfers, and `tcan4550_proc`, which also calls
`can_proc_payload`: it is written for any monad that serves such programs.

A header whose data length is zero leaves the number of bytes that is returned as it is; `garbage` is what is in that
variable then.  Of the interrupts the bits are left out that are only printed.
-/

namespace TiMcu.Tcan4550

open Dialog

def addrMcanPsr : BitVec 16 := 0x1044
def addrMcanIr : BitVec 16 := 0x1050
def addrMcanRxf0s : BitVec 16 := 0x10A4
def addrMcanRxf0a : BitVec 16 := 0x10A8
def addrMcanRxf1s : BitVec 16 := 0x10B4
def addrMcanRxf1a : BitVec 16 := 0x10B8
def addrMcanTxbar : BitVec 16 := 0x10D0

/-! ### Sending -/

/-- The data length code of a number of bytes. -/
def bytes2dlc (len : BitVec 8) : BitVec 8 :=
  if len < 9 then len
  else if len ≤ 12 then 9
  else if len ≤ 16 then 10
  else if len ≤ 20 then 11
  else if len ≤ 24 then 12
  else if len ≤ 32 then 13
  else if len ≤ 48 then 14
  else 15

def txBuffContent (bufIndex : BitVec 8) : Bus Bool :=
  if bufIndex < 31 then writeReg addrMcanTxbar (1#32 <<< bufIndex.toNat) else pure false

/-- The bytes of a 64-bit word in memory. -/
def dataByte (data : BitVec 64) (i : Nat) : BitVec 8 := data.extractLsb' (8 * i) 8

section

variable (uint8Limiter : BitVec 8 → BitVec 8 → BitVec 8) (mask11bit mask29bit : BitVec 32)

/-- The header that `tcan4550_send_std` and `tcan4550_send_ext` fill in. -/
def sendHeader (xtd : BitVec 1) (id : BitVec 32) (len : BitVec 8) : CanTxHeader where
  id := id.setWidth 29
  rtr := 0
  xtd := xtd
  esi := 0
  dlc := (bytes2dlc (uint8Limiter len 8)).setWidth 4
  brs := 0
  fdf := 0
  efc := 0
  mm := 0

def sendFrame (xtd : BitVec 1) (id : BitVec 32) (data : BitVec 64) (len : BitVec 8) : Bus Bool := do
  let res ← writeTxBuff uint8Limiter mask11bit mask29bit 0 (sendHeader uint8Limiter xtd id len) (dataByte data)
  if res then txBuffContent 0 else pure res

def sendStd (id : BitVec 32) (data : BitVec 64) (len : BitVec 8) : Bus Bool :=
  sendFrame uint8Limiter mask11bit mask29bit 0 id data len

end

/-! ### Receiving -/

structure RxHeader where
  id : BitVec 29
  rtr : BitVec 1
  xtd : BitVec 1
  esi : BitVec 1
  rxts : BitVec 16
  dlc : BitVec 4
  brs : BitVec 1
  fdf : BitVec 1
  fidx : BitVec 7
  anmf : BitVec 1
  deriving DecidableEq, Repr

inductive RxFifo
  | rxFifo0 | rxFifo1
  deriving DecidableEq, Repr

def RxFifo.status : RxFifo → BitVec 16
  | .rxFifo0 => addrMcanRxf0s
  | .rxFifo1 => addrMcanRxf1s

def RxFifo.config : RxFifo → BitVec 16
  | .rxFifo0 => addrMcanRxf0c
  | .rxFifo1 => addrMcanRxf1c

def RxFifo.acknowledge : RxFifo → BitVec 16
  | .rxFifo0 => addrMcanRxf0a
  | .rxFifo1 => addrMcanRxf1a

/-- The element size in the register `RXESC`. -/
def RxFifo.elementSize (fifo : RxFifo) (word : BitVec 32) : BitVec 8 :=
  match fifo with
  | .rxFifo0 => txrxesc2dataBytes ((word &&& 0x07).setWidth 8)
  | .rxFifo1 => txrxesc2dataBytes (((word &&& 0x70) >>> 4).setWidth 8)

/-- The two header words of an element. -/
def RxHeader.ofWords (w0 w1 : BitVec 32) : RxHeader where
  id := if w0.extractLsb' 30 1 = 1 then w0.extractLsb' 0 29 else (w0.extractLsb' 18 11).setWidth 29
  rtr := w0.extractLsb' 29 1
  xtd := w0.extractLsb' 30 1
  esi := w0.extractLsb' 31 1
  rxts := w1.extractLsb' 0 16
  dlc := w1.extractLsb' 16 4
  brs := w1.extractLsb' 20 1
  fdf := w1.extractLsb' 21 1
  fidx := w1.extractLsb' 24 7
  anmf := w1.extractLsb' 31 1

/-- The next word of a burst; whether the transfer succeeded is not looked at. -/
def readSpiBurst : Bus (BitVec 32) := do
  let (_, word) ← spiRead
  pure word

/-- The loop over the data; that many bytes are left from index `i` on. -/
def readPayload : Nat → Nat → BitVec 32 → (Nat → BitVec 8) → Bus (Nat → BitVec 8)
  | 0, _, _, dataPayload => pure dataPayload
  | n + 1, i, readData, dataPayload => do
    let readData ← if i % 4 = 0 then readSpiBurst else pure readData
    readPayload n (i + 1) readData (Function.update dataPayload i (readData.extractLsb' (8 * (i % 4)) 8))

/-- The part of `TCAN4x5x_MCAN_ReadNextFIFO` behind the check of the fill level. -/
def readElement (garbage : BitVec 8) (fifo : RxFifo) (getIndex : BitVec 8) (dataPayload : Nat → BitVec 8) :
    Bus (BitVec 8 × RxHeader × (Nat → BitVec 8)) := do
  let (_, config) ← readReg fifo.config
  let (_, sizes) ← readReg addrMcanRxesc
  let elementSize := fifo.elementSize sizes
  let startAddress : BitVec 16 := config.setWidth 16 + addrMram.setWidth 16 +
    ((elementSize.setWidth 32 + 8) * getIndex.setWidth 32).setWidth 16
  let _ ← sendSpiHeader opCodeRead startAddress 2
  let w0 ← readSpiBurst
  let w1 ← readSpiBurst
  let header := RxHeader.ofWords w0 w1
  let bytes := dlc2bytes (header.dlc.setWidth 8)
  let elementSize := if bytes < elementSize then bytes else elementSize
  if 0 < elementSize then
    let _ ← sendSpiHeader opCodeRead (startAddress + 8) ((elementSize + 3) >>> 2)
    let dataPayload ← readPayload elementSize.toNat 0 w1 dataPayload
    let _ ← writeReg fifo.acknowledge (getIndex.setWidth 32)
    pure (elementSize, header, dataPayload)
  else
    let _ ← writeReg fifo.acknowledge (getIndex.setWidth 32)
    pure (garbage, header, dataPayload)

/-- The get index in the status of a FIFO. -/
def getIndexOf (status : BitVec 32) : BitVec 8 := ((status &&& 0x3F00) >>> 8).setWidth 8

/-- `TCAN4x5x_MCAN_ReadNextFIFO`: the number of bytes, the header and the data. -/
def readNextFifo (garbage : BitVec 8) (fifo : RxFifo) (header : RxHeader) (dataPayload : Nat → BitVec 8) :
    Bus (BitVec 8 × RxHeader × (Nat → BitVec 8)) := do
  let (_, status) ← readReg fifo.status
  if status &&& 0x7F = 0 then pure (0, header, dataPayload)
  else readElement garbage fifo (getIndexOf status) dataPayload

def getFifoCnt (fifoNum : BitVec 8) : Bus (BitVec 8) := do
  if 0 = fifoNum then
    let (res, word) ← readReg addrMcanRxf0s
    pure (if res then (word.extractLsb' 0 7).setWidth 8 else 0)
  -- the number is compared with 0 once more
  else if 0 = fifoNum then
    let (res, word) ← readReg addrMcanRxf1s
    pure (if res then (word.extractLsb' 0 7).setWidth 8 else 0)
  else pure 0

/-! ### The main loop -/

section

variable {m : Type → Type} [Monad m] (serve : {α : Type} → Bus α → m α) (canProcPayload : List UInt8 → m Bool)
  (garbage : BitVec 8)

/-- The first bytes of an array. -/
def payloadBytes (dataPayload : Nat → BitVec 8) (n : Nat) : List UInt8 :=
  (List.range n).map fun i => UInt8.ofBitVec (dataPayload i)

/-- What is done for a bit of the interrupts, and the result so far without it. -/
def forBit (bit : Bool) (res : Bool) (action : m Bool) : m Bool := if bit then action else pure res

/-- The bit `rf0n`: one frame is taken from the FIFO. -/
def pollFrame (res : Bool) : m Bool := do
  let (numBytes, _, dataPayload) ← serve (readNextFifo garbage .rxFifo0 (.ofWords 0 0) fun _ => 0)
  if numBytes ≠ 0 then
    let _ ← canProcPayload (payloadBytes dataPayload numBytes.toNat)
    pure true
  else pure res

/-- The bits `ped` and `pea`. -/
def pollProtStat : m Bool := do
  let (res, _) ← serve (readReg addrMcanPsr)
  pure res

def pollCanInterrupts : m Bool := do
  let (res, intReg) ← serve (readReg addrMcanIr)
  if res then
    let res ← forBit (intReg.getLsbD 0) res (pollFrame serve canProcPayload garbage res)
    let res ← forBit (intReg.getLsbD 28) res (pollProtStat serve)
    let res ← forBit (intReg.getLsbD 27) res (pollProtStat serve)
    forBit (intReg ≠ 0) res (serve (writeReg addrMcanIr intReg))
  else pure res

/-- The loop over the elements of a FIFO. -/
def procFrames (fifo : RxFifo) : Nat → Bool → (Nat → BitVec 8) → m (Bool × (Nat → BitVec 8))
  | 0, res, rxPayload => pure (res, rxPayload)
  | n + 1, res, rxPayload => do
    let (rxSize, _, rxPayload) ← serve (readNextFifo garbage fifo (.ofWords 0 0) rxPayload)
    if rxSize ≠ 0 then
      let res ← canProcPayload (payloadBytes rxPayload rxSize.toNat)
      procFrames fifo n res rxPayload
    else procFrames fifo n res rxPayload

/-- `tcan4550_proc` without `HAS_CAN_POLLING`. -/
def tcan4550Proc : m Bool := do
  let res ← pollCanInterrupts serve canProcPayload garbage
  let elements ← serve (getFifoCnt 0)
  let (res, rxPayload) ← procFrames serve canProcPayload garbage .rxFifo0 elements.toNat res fun _ => 0
  let elements ← serve (getFifoCnt 1)
  let (res, _) ← procFrames serve canProcPayload garbage .rxFifo1 elements.toNat res rxPayload
  pure res

end

end TiMcu.Tcan4550
