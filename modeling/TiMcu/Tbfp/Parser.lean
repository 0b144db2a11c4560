import TiMcu.Tbfp.Device

/-!
# The TBFP parser and the flow control

The states of `tbfp_proc_byte` in which a byte is only loaded, the check of a whole frame and the flow control of an
interface.  What happens to a complete frame is in `Receive`.
-/

namespace TiMcu.Tbfp

open NorFlash LittleEndian

variable {W : Type} {polls : Bool} (env : Env W polls)

/-! ### The header -/

/-- The fields of `TbfHeader_t` in front of a frame. -/
structure TbfHeader where
  preamble : UInt8
  flags : UInt8
  snum : UInt16
  len : UInt16
  deriving DecidableEq, Repr

def TbfHeader.read (arr : Mem) : TbfHeader where
  preamble := arr 0
  flags := arr tbfpIndexRetx
  snum := join (arr tbfpIndexSerNum) (arr (tbfpIndexSerNum + 1))
  len := join (arr tbfpIndexLen) (arr (tbfpIndexLen + 1))

/-- The header is what its six bytes are. -/
theorem read_congr {f g : Mem} (h : Agree f g 0 tbfpSizeHeader) : TbfHeader.read f = TbfHeader.read g := by
  have hbyte : ∀ i < tbfpSizeHeader, f i = g i := fun i hi => h i (Nat.zero_le i) hi
  simp only [TbfHeader.read, tbfpIndexRetx, tbfpIndexSerNum, tbfpIndexLen]
  rw [hbyte 0 (by decide), hbyte 1 (by decide), hbyte 2 (by decide), hbyte 3 (by decide), hbyte 4 (by decide),
    hbyte 5 (by decide)]

def TbfHeader.lifetime (h : TbfHeader) : UInt8 := h.flags &&& 0x0F

def TbfHeader.ackNeed (h : TbfHeader) : TbfpAck := if h.flags &&& 0x80 = 0 then .noNeed else .need

/-- The number of bytes under the checksum. -/
def TbfHeader.frameLen (h : TbfHeader) : Nat := tbfpSizeHeader + h.len.toNat

def isTbfpProtocol (arr : Mem) (len : UInt16) (preambleVal : UInt8) : Prop :=
  let header := TbfHeader.read arr
  preambleVal = header.preamble ∧ header.len < len ∧
    env.crc8SaeJ1850Calc (bytesAt arr 0 header.frameLen) = arr header.frameLen

instance (arr : Mem) (len : UInt16) (preambleVal : UInt8) : Decidable (isTbfpProtocol env arr len preambleVal) := by
  unfold isTbfpProtocol
  infer_instance

/-! ### Loading a frame -/

def tbfpParserResetRx (r : TbfpReceiver) : TbfpReceiver :=
  { r with parser.rxState := .waitPreamble, parser.loadLen := 0 }

/-- The byte goes behind the loaded ones. -/
def TbfpReceiver.load (r : TbfpReceiver) (rxByte : UInt8) (rxState : RxState) : TbfpReceiver :=
  { r with
    parser.rxFrame := Buffer.store r.parser.rxFrame r.parser.loadLen rxByte
    parser.loadLen := r.parser.loadLen + 1
    parser.rxState := rxState
    parser.stored := r.parser.loadLen :: r.parser.stored }

def tbfpParserProcWaitPreamble (preambleVal : UInt8) (r : TbfpReceiver) (rxByte : UInt8) : Bool × TbfpReceiver :=
  if preambleVal = rxByte ∧ r.parser.loadLen = 0 then (true, r.load rxByte .waitRetxCnt)
  else (true, tbfpParserResetRx r)

def tbfpParserProcRetransmitCnt (r : TbfpReceiver) (rxByte : UInt8) : Bool × TbfpReceiver :=
  if r.parser.loadLen = tbfpIndexRetx then (true, r.load rxByte .waitSerialNum)
  else (true, tbfpParserResetRx r)

/-- The serial number is complete. -/
def TbfpReceiver.takeSerialNum (r : TbfpReceiver) : TbfpReceiver :=
  { r with parser.sNum := join (r.parser.rxFrame tbfpIndexSerNum) (r.parser.rxFrame (tbfpIndexSerNum + 1)) }

def tbfpParserProcWaitSerialNum (r : TbfpReceiver) (rxByte : UInt8) : Bool × TbfpReceiver :=
  if r.parser.loadLen = tbfpIndexSerNum then (true, r.load rxByte .waitSerialNum)
  else if r.parser.loadLen = tbfpIndexSerNum + 1 then (true, (r.load rxByte .waitLen).takeSerialNum)
  else (true, tbfpParserResetRx r)

/-- The length is complete. -/
def TbfpReceiver.takeLen (r : TbfpReceiver) : TbfpReceiver :=
  { r with parser.expPayloadLen := join (r.parser.rxFrame tbfpIndexLen) (r.parser.rxFrame (tbfpIndexLen + 1)) }

/-- The length decides how the frame goes on. -/
def tbfpCheckLen (r : TbfpReceiver) : TbfpReceiver :=
  if 0 < r.parser.expPayloadLen.toNat then
    if r.parser.expPayloadLen.toNat ≤ tbfpMaxPayload then { r with parser.rxState := .waitPayload }
    else tbfpParserResetRx { r with lenErrCnt := r.lenErrCnt + 1 }
  else { r with parser.rxState := .waitCrc }

def tbfpParserProcWaitLen (r : TbfpReceiver) (rxByte : UInt8) : Bool × TbfpReceiver :=
  if r.parser.loadLen = tbfpIndexLen then (true, r.load rxByte .waitLen)
  else if r.parser.loadLen = tbfpIndexLen + 1 then (true, tbfpCheckLen (r.load rxByte .waitLen).takeLen)
  else (true, tbfpParserResetRx r)

def tbfpParserProcWaitPayload (r : TbfpReceiver) (rxByte : UInt8) : Bool × TbfpReceiver :=
  if tbfpSizeHeader + r.parser.expPayloadLen.toNat ≤ r.parser.loadLen then (true, tbfpParserResetRx r)
  else if r.parser.loadLen = tbfpSizeHeader + r.parser.expPayloadLen.toNat - 1 then (true, r.load rxByte .waitCrc)
  else (true, r.load rxByte .waitPayload)

/-- The 16-bit index of the checksum. -/
def TbfpParser.crc8Index (p : TbfpParser) : UInt16 := 6 + p.expPayloadLen

/-- The checksum is loaded. -/
def TbfpReceiver.loadCrc8 (r : TbfpReceiver) (rxByte : UInt8) : TbfpReceiver :=
  { r.load rxByte .waitCrc with parser.readCrc8 := rxByte, parser.loadLen := 0 }

/-- The loaded frame goes to `fix_frame`, and the parser is free for the next one. -/
def TbfpReceiver.takeFrame (r : TbfpReceiver) : TbfpReceiver :=
  tbfpParserResetRx { r with
    parser.fixFrame := Buffer.copy r.parser.fixFrame r.parser.rxFrame (r.parser.crc8Index.toNat + tbfpSizeCrc)
    rxPktCnt := r.rxPktCnt + 1 }

/-! ### The flow control -/

/-- A frame is not the next one.  The differences are taken as `int`. -/
def flowCtrlPrintLost (f : FlowControl) (snum : UInt16) : FlowControl :=
  if (f.prevSNum.toNat : Int) < snum.toNat - 1 then
    { f with lostRxFrames := f.lostRxFrames + UInt32.ofNat (snum.toNat - f.prevSNum.toNat - 1) }
  else f

/-- `con_flow` and `max_con_flow` are kept as 16-bit numbers. -/
def FlowControl.truncate (f : FlowControl) : FlowControl :=
  { f with conFlow := f.conFlow.toUInt16.toUInt32, maxConFlow := f.maxConFlow.toUInt16.toUInt32 }

/-- The frame is the next one. -/
def FlowControl.consecutive (f : FlowControl) : FlowControl :=
  let conFlow := f.conFlow.toUInt16 + 1
  { f with conFlow := conFlow.toUInt32, maxConFlow := (max f.maxConFlow.toUInt16 conFlow).toUInt32 }

/-- Frames are missing in front of this one. -/
def FlowControl.torn (f : FlowControl) (snum : UInt16) : FlowControl :=
  { flowCtrlPrintLost { f with flowTornCnt := f.flowTornCnt + 1 } snum with conFlow := 1 }

def tbfpCheckFlowControl (f : FlowControl) (snum : UInt16) : Bool × FlowControl :=
  if snum < f.prevSNum then (false, { f.truncate with prevSNum := snum })
  else if snum.toNat = 1 + f.prevSNum.toNat then (true, { f.truncate.consecutive with prevSNum := snum })
  else if f.prevSNum.toNat + 1 < snum.toNat then (true, { f.truncate.torn snum with prevSNum := snum })
  else (false, { f.truncate with prevSNum := snum })

end TiMcu.Tbfp
