import TiMcu.Tbfp.Parser
import TiMcu.Tbfp.Transmit

/-!
# The RTCM3 parser and the relay

`rtcm3_proc_byte` loads a frame, checks it and passes it on: the frames of the GNSS receiver on `IF_UART1` go to
`tbfp_send` for each interface with its forwarding flag set, the frames that come from `IF_LORA` go to the UART of the
GNSS receiver.

The checksum `calc_crc24_q` and the reversal of the bytes of a 24-bit word are parameters.
-/

namespace TiMcu.Tbfp

open NorFlash LittleEndian

variable {W : Type} {polls : Bool} (env : Env W polls) (proc : Proc W)

/-! ### The length -/

/-- `exp_len.field.len` -/
def fieldLen (len16 : UInt16) : UInt16 := len16 &&& 0x3FF

/-- `exp_len.len8[1]` is written. -/
def setLen8High (len16 : UInt16) (rxByte : UInt8) : UInt16 := join (lo len16) rxByte

/-- `exp_len.len8[0]` is written. -/
def setLen8Low (len16 : UInt16) (rxByte : UInt8) : UInt16 := join rxByte (hi len16)

/-! ### Loading a frame -/

def rtcm3ResetRx (p : Rtcm3Protocol) : Rtcm3Protocol :=
  { p with loadLen := 0, expLen := 0, rxState := .waitPreamble }

/-- The byte goes behind the loaded ones. -/
def Rtcm3Protocol.load (p : Rtcm3Protocol) (rxByte : UInt8) (rxState : RxState) : Rtcm3Protocol :=
  { p with
    rxFrame := Buffer.store p.rxFrame p.loadLen rxByte
    loadLen := p.loadLen + 1
    rxState := rxState
    stored := p.loadLen :: p.stored }

def rtcm3ProcWaitPreamble (p : Rtcm3Protocol) (rxByte : UInt8) : Bool × Rtcm3Protocol :=
  if rtcm3Preamble = rxByte ∧ p.loadLen = 0 then (true, p.load rxByte .waitLen)
  else (false, rtcm3ResetRx p)

/-- The length is complete. -/
def rtcm3CheckLen (p : Rtcm3Protocol) : Bool × Rtcm3Protocol :=
  if rtcm3RxMaxFrameSize < (fieldLen p.expLen).toNat + rtcm3Overhead then
    (false, rtcm3ResetRx { p with errCnt := p.errCnt + 1 })
  else (true, p)

def rtcm3ProcWaitLen (p : Rtcm3Protocol) (rxByte : UInt8) : Bool × Rtcm3Protocol :=
  if p.loadLen = 1 then (true, { p.load rxByte .waitLen with expLen := setLen8High p.expLen rxByte })
  else if p.loadLen = 2 then rtcm3CheckLen { p.load rxByte .waitPayload with expLen := setLen8Low p.expLen rxByte }
  else (false, rtcm3ResetRx p)

def rtcm3ProcWaitPayload (p : Rtcm3Protocol) (rxByte : UInt8) : Bool × Rtcm3Protocol :=
  if p.loadLen < rtcm3HeaderSize + (fieldLen p.expLen).toNat - 1 then (true, p.load rxByte .waitPayload)
  else if p.loadLen = rtcm3HeaderSize + (fieldLen p.expLen).toNat - 1 then (true, p.load rxByte .waitCrc)
  else (false, rtcm3ResetRx p)

def Rtcm3Protocol.crc24Index (p : Rtcm3Protocol) : UInt16 := 3 + fieldLen p.expLen

/-- The length of the whole frame. -/
def Rtcm3Protocol.packetLength (p : Rtcm3Protocol) : UInt16 := p.crc24Index + 3

/-- The checksum is complete: its three bytes replace those of `read_crc`, which are then reversed. -/
def Rtcm3Protocol.takeCrc (p : Rtcm3Protocol) : Rtcm3Protocol :=
  let i := p.crc24Index.toNat
  let readCrc := (p.readCrc &&& 0xFF000000) ||| join24 (p.rxFrame i) (p.rxFrame (i + 1)) (p.rxFrame (i + 2))
  { p with readCrc := env.reverseByteOrderUint24 readCrc }

/-- The frame with the right checksum goes to `fix_frame`. -/
def Rtcm3Protocol.takeFrame (p : Rtcm3Protocol) : Rtcm3Protocol :=
  { p with
    rxState := .rxDone
    rxPktCnt := p.rxPktCnt + 1
    fixFrame := Buffer.copy p.fixFrame p.rxFrame rtcm3RxMaxFrameSize
    rxByte := p.rxByte + p.packetLength.toUInt32
    jumboFrameCnt := if maxLoraPayloadSize < p.packetLength.toNat then p.jumboFrameCnt + 1 else p.jumboFrameCnt }

/-- The frame in `fix_frame`. -/
def Rtcm3Protocol.fixedFrame (p : Rtcm3Protocol) : Payload := .at p.fixFrame 0 p.packetLength

/-! ### The relay -/

/-- A frame was not sent on the interface. -/
def Device.countLost (d : Device W) (slot interface : Interfaces) : Device W :=
  let p := d.rtcm3 slot
  (d.setRtcm3 slot { p with lostPktCnt := Function.update p.lostPktCnt interface (p.lostPktCnt interface + 1) }).setTx
    { d.tx with errTxCnt := Function.update d.tx.errTxCnt interface (d.tx.errTxCnt interface + 1) }

/-- The frame is wrapped to TBFP. -/
def Device.passFrame (d : Device W) (slot interface : Interfaces) : Bool × Device W :=
  let frame := (d.rtcm3 slot).fixedFrame
  let r := (d.note (.passed interface frame.bytes)).tbfpSend env proc frame interface 0 .noNeed
  if r.1 then (true, r.2) else (false, r.2.countLost slot interface)

/-- One turn of the forwarding loop. -/
def Device.forward (slot : Interfaces) (r : Bool × Device W) (interface : Interfaces) : Bool × Device W :=
  if (r.2.rtcm3 slot).forwarding interface then (r.2.note (.flag interface)).passFrame env proc slot interface
  else (r.1, r.2.note (.flag interface))

/-- The values of the loop variable, from `IF_LORA` up to `IF_CNT`. -/
def forwardInterfaces : List Interfaces := [.lora, .sx1262, .uart1, .loopback, .cnt]

/-- The frame goes to the UART of the GNSS receiver. -/
def Device.uartFrame (d : Device W) (slot : Interfaces) : Bool × Device W :=
  let p := d.rtcm3 slot
  let r := uartSend env d.tx uartNumZedF9p p.fixedFrame.bytes
  if r.1 then (true, d.setTx r.2)
  else (false, (d.setTx r.2).setRtcm3 slot { p with uartLostPktCnt := p.uartLostPktCnt + 1 })

/-- Where a frame goes depends on the interface of the parser. -/
def Device.relay (d : Device W) (slot : Interfaces) : Bool × Device W :=
  match (d.rtcm3 slot).interface with
  | .uart1 => forwardInterfaces.foldl (Device.forward env proc slot) (true, d)
  | .lora | .rs232 | .can => d.uartFrame env slot
  | _ => (true, d)

/-- A frame was passed on. -/
def Device.rtcm3Done (d : Device W) (slot : Interfaces) : Device W :=
  let k := (d.rtcm3 slot).interface
  (d.setTbfp k (tbfpParserResetRx (d.tbfp k))).setRtcm3 slot (rtcm3ResetRx (d.rtcm3 slot))

/-! ### The parser -/

/-- The checksum of the loaded frame is the one that was read. -/
def Rtcm3Protocol.crcOk (p : Rtcm3Protocol) : Prop :=
  env.calcCrc24Q (bytesAt p.rxFrame 0 p.crc24Index.toNat) = p.readCrc

instance (p : Rtcm3Protocol) : Decidable (p.crcOk env) := by
  unfold Rtcm3Protocol.crcOk
  infer_instance

def Device.rtcm3CheckCrc24 (d : Device W) (slot : Interfaces) (p : Rtcm3Protocol) : Bool × Device W :=
  if p.crcOk env then
    let frame := bytesAt p.rxFrame 0 p.packetLength.toNat
    let r := ((d.setRtcm3 slot p.takeFrame).note (.rtcm3 slot frame)).relay env proc slot
    (r.1, r.2.rtcm3Done slot)
  else (false, d.setRtcm3 slot (rtcm3ResetRx { p with crcErrCnt := p.crcErrCnt + 1 }))

def Device.rtcm3ProcWaitCrc24 (d : Device W) (slot : Interfaces) (rxByte : UInt8) : Bool × Device W :=
  let p := d.rtcm3 slot
  if p.loadLen = p.crc24Index.toNat then (true, d.setRtcm3 slot (p.load rxByte .waitCrc))
  else if p.loadLen = p.crc24Index.toNat + 1 then (true, d.setRtcm3 slot (p.load rxByte .waitCrc))
  else if p.loadLen = p.crc24Index.toNat + 2 then
    d.rtcm3CheckCrc24 env proc slot ((p.load rxByte .waitCrc).takeCrc env)
  else (false, d.setRtcm3 slot (rtcm3ResetRx p))

/-- A step of the parser that only loads. -/
def Device.stepRtcm3 (d : Device W) (slot : Interfaces) (r : Bool × Rtcm3Protocol) : Bool × Device W :=
  (r.1, d.setRtcm3 slot r.2)

def Device.rtcm3ProcByte (d : Device W) (slot : Interfaces) (rxByte : UInt8) : Bool × Device W :=
  match (d.rtcm3 slot).rxState with
  | .waitPreamble => d.stepRtcm3 slot (rtcm3ProcWaitPreamble (d.rtcm3 slot) rxByte)
  | .waitLen => d.stepRtcm3 slot (rtcm3ProcWaitLen (d.rtcm3 slot) rxByte)
  | .waitPayload => d.stepRtcm3 slot (rtcm3ProcWaitPayload (d.rtcm3 slot) rxByte)
  | .waitCrc => d.rtcm3ProcWaitCrc24 env proc slot rxByte
  | _ => d.stepRtcm3 slot (false, rtcm3ResetRx (d.rtcm3 slot))

/-- The loop of `rtcm3_proc_array` after `n` bytes. -/
def Device.rtcm3Fed (d : Device W) (src : Source) (interface : Interfaces) : Nat → Bool × Device W
  | 0 => (false, d)
  | n + 1 =>
    let d := (Device.rtcm3Fed d src interface n).2
    d.rtcm3ProcByte env proc interface (d.byteAt src n)

def Device.rtcm3ProcArray (d : Device W) (src : Source) (size : Nat) (interface : Interfaces) : Bool × Device W :=
  if 0 < size then
    let r := (d.setRtcm3 interface (rtcm3ResetRx (d.rtcm3 interface))).rtcm3Fed env proc src interface size
    if (d.rtcm3 interface).rxPktCnt < (r.2.rtcm3 interface).rxPktCnt then (true, r.2) else r
  else (false, d)

/-! ### The check of a whole frame and the generator -/

def isRtcm3Frame (arr : Mem) (len : UInt16) : Prop :=
  len ≠ 0 ∧ arr 0 = rtcm3Preamble ∧
    let exLen := join (arr 2) (arr 1)
    fieldLen exLen ≠ 0 ∧
      let crc24Index := rtcm3HeaderSize + (fieldLen exLen).toNat
      env.calcCrc24Q (bytesAt arr 0 crc24Index) =
        env.reverseByteOrderUint24 (join24 (arr crc24Index) (arr (crc24Index + 1)) (arr (crc24Index + 2)))

/-- The frame that `rtcm3_generate_frame` writes over an array.  `res` are the reserved bits of the length, which the
function leaves as they are on its stack. -/
def rtcm3GenerateFrame (res : UInt16) (arr : Mem) (size : Nat) : Mem :=
  let exLen := (res &&& 0xFC00) ||| fieldLen (UInt16.ofNat (size - rtcm3Crc24Size - rtcm3HeaderSize))
  let arr := Buffer.store (Buffer.store (Buffer.store arr 0 rtcm3Preamble) 1 (hi exLen)) 2 (lo exLen)
  let crc := env.calcCrc24Q (bytesAt arr 0 ((size - rtcm3Crc24Size) % 2 ^ 16))
  let arr := Buffer.store arr (size - rtcm3Crc24Size) (crc >>> 16).toUInt8
  let arr := Buffer.store arr (size - rtcm3Crc24Size + 1) (crc >>> 8).toUInt8
  Buffer.store arr (size - rtcm3Crc24Size + 2) crc.toUInt8

end TiMcu.Tbfp
