import TiMcu.Rtcm3.Parser

/-!
# Receiving frames

`tbfp_proc` feeds an array to the parser of an interface.  A frame with the right checksum goes to `tbfp_proc_full` and
from there to the handler of its payload.  The payload of a TUNNEL frame is an array of bytes for the parser of
`IF_LORA`, so `tbfp_proc` is called again from within, with a pointer into the `fix_frame` of the parser that delivers
the frame.

The functions take `tbfp_proc` as a parameter; `tbfpProc` closes the circle and counts the depth of the calls.
-/

namespace TiMcu.Tbfp

open NorFlash LittleEndian

variable {W : Type} {polls : Bool} (env : Env W polls) (proc : Proc W)

/-! ### The handlers of a payload -/

/-- The payload of the frame in `fix_frame`, and what stands behind it. -/
def Device.payload (d : Device W) (slot : Interfaces) : Mem :=
  fun k => (d.tbfp slot).parser.fixFrame (tbfpIndexPayload + k)

def Device.procAck (d : Device W) (slot : Interfaces) (len : UInt16) (interface : Interfaces) : Bool × Device W :=
  let serNum := join (d.payload slot 1) (d.payload slot 2)
  let r := tbfpRetxAck (d.tx.node interface) serNum
  (r.1, (d.note (.read 3 len.toNat)).setTx (d.tx.setNode interface r.2))

def Device.tbfpProcChat (d : Device W) (slot : Interfaces) (len : UInt16) : Bool × Device W :=
  if 0 < len.toNat then
    let r := env.printMem (bytesAt (d.payload slot) 1 (len.toNat - 1)) d.tx.world
    (r.1, (d.note (.read len.toNat len.toNat)).setTx { d.tx with world := r.2 })
  else (false, d)

/-- The answer to a ping. -/
def Device.answerPing (d : Device W) (id : UInt8) (interface : Interfaces) : Device W :=
  if id = frameIdPing then (d.tbfpSendPing env proc frameIdPong interface).2 else d

def Device.tbfpProcPing (d : Device W) (slot : Interfaces) (len : UInt16) (interface : Interfaces) :
    Bool × Device W :=
  let pingFrame := bytesAt (d.payload slot) 0 env.sizeofPingFrame
  let d := (d.note (.read env.sizeofPingFrame len.toNat)).answerPing env proc (d.payload slot 0) interface
  let r := env.updateLink pingFrame d.tx.world
  (r.1, d.setTx { d.tx with world := r.2 })

/-- The byte behind the payload is set to zero, the end of the string. -/
def Device.endString (d : Device W) (slot : Interfaces) (len : UInt16) : Device W :=
  let i := tbfpIndexPayload + len.toNat
  let r := d.tbfp slot
  (d.setTbfp slot { r with parser.fixFrame := Buffer.store r.parser.fixFrame i 0 }).note
    (.fixed ⟨slot, i, i + 1⟩ d.unfed)

/-- The string behind the id. -/
def Device.commandString (d : Device W) (slot : Interfaces) (len : UInt16) : List UInt8 :=
  (bytesAt (d.payload slot) 1 len.toNat).takeWhile (· ≠ 0)

/-- `lora_proc_payload`, with `tbfp_proc` as a parameter. -/
def Device.procRxPayload (d : Device W) (rxPayload : List UInt8) : Bool × Device W :=
  let r := proc d (.bytes rxPayload) (UInt16.ofNat rxPayload.length) .sx1262 true
  if r.1 then r else (false, r.2.setTx { r.2.tx with loRa.errCnt := r.2.tx.loRa.errCnt + 1 })

/-- The radio hands up a frame while a command runs. -/
def Device.handUp (d : Device W) (rxPayload : List UInt8) : Device W :=
  ((d.note (.polled rxPayload)).procRxPayload proc rxPayload).2

def Device.tbfpProcCmd (d : Device W) (slot : Interfaces) (len : UInt16) : Bool × Device W :=
  if 0 < len.toNat ∧ d.payload slot 0 = frameIdCmd then
    let d := (d.note (.read len.toNat len.toNat)).endString slot len
    let line := d.commandString slot len
    let r := env.processShellCmd line d.tx.world
    (r.1, (env.radioPolled line d.tx.world).foldl (Device.handUp proc) (d.setTx { d.tx with world := r.2 }))
  else (false, d)

/-- The payload behind the id is fed to the parser of `IF_LORA`. -/
def Device.procTunnel (d : Device W) (slot : Interfaces) (len : UInt16) : Bool × Device W :=
  proc (d.note (.read (1 + (len - 1).toNat) len.toNat)) (.fixFrame slot (tbfpIndexPayload + 1)) (len - 1) .lora false

def Device.tbfpProcPayload (d : Device W) (slot : Interfaces) (len : UInt16) (interface : Interfaces) :
    Bool × Device W :=
  let id := d.payload slot 0
  let d := d.note (.read 1 len.toNat)
  if id = frameIdAck then d.procAck slot len interface
  else if id = frameIdTunnel then d.procTunnel proc slot len
  else if id = frameIdRtcm3 then
    (d.note (.read len.toNat len.toNat)).rtcm3ProcArray env proc (.fixFrame slot tbfpIndexPayload) len.toNat interface
  else if id = frameIdChat then d.tbfpProcChat env slot len
  else if id = frameIdPong ∨ id = frameIdPing then d.tbfpProcPing env proc slot len interface
  else if id = frameIdCmd then d.tbfpProcCmd env proc slot len
  else (false, d)

/-! ### A whole frame -/

/-- A well-formed frame is counted and its serial number given to the flow control. -/
def Device.countFrame (d : Device W) (interface : Interfaces) (len snum : UInt16) : Device W :=
  let r := d.tbfp interface
  let f := tbfpCheckFlowControl r.flow snum
  (d.setTbfp interface { r with
    rxByte := r.rxByte + len.toUInt32
    flow := f.2
    errCnt := if f.1 then r.errCnt else r.errCnt + 1 }).note (.received interface snum)

/-- A frame with a lifetime is sent again. -/
def Device.meshFrame (r : Bool × Device W) (slot interface : Interfaces) (header : TbfHeader) : Bool × Device W :=
  if 0 < header.lifetime ∧ header.lifetime < 4 then
    r.2.tbfpSend env proc (.at (r.2.tbfp slot).parser.fixFrame tbfpIndexPayload header.len) interface
      (header.lifetime - 1) header.ackNeed
  else r

/-- A frame that asks for an acknowledgement gets one. -/
def Device.ackFrame (r : Bool × Device W) (interface : Interfaces) (header : TbfHeader) : Bool × Device W :=
  if header.ackNeed = .need then r.2.tbfpSendAck env proc header.snum interface else r

/-- A frame that passed the flow control is handed on. -/
def Device.handFrame (flowOk : Bool) (r : Bool × Device W) (slot interface : Interfaces) (header : TbfHeader) :
    Bool × Device W :=
  if flowOk then (r.2.note (.handed interface header.snum)).tbfpProcPayload env proc slot header.len interface else r

/-- `tbfp_proc_full` of the frame in the `fix_frame` of a parser. -/
def Device.tbfpProcFull (d : Device W) (slot : Interfaces) (len : UInt16) (interface : Interfaces) :
    Bool × Device W :=
  if isTbfpProtocol env (d.tbfp slot).parser.fixFrame len (d.preambleVal interface) then
    let header := TbfHeader.read (d.tbfp slot).parser.fixFrame
    let flowOk := (tbfpCheckFlowControl (d.tbfp interface).flow header.snum).1
    let r := Device.meshFrame env proc (true, d.countFrame interface len header.snum) slot interface header
    Device.handFrame env proc flowOk (Device.ackFrame env proc r interface header) slot interface header
  else (false, d)

/-! ### The parser -/

/-- The checksum of the loaded frame is the one that was read. -/
def TbfpParser.crcOk (p : TbfpParser) : Prop :=
  env.crc8SaeJ1850Calc (bytesAt p.rxFrame 0 p.crc8Index.toNat) = p.readCrc8

instance (p : TbfpParser) : Decidable (p.crcOk env) := by
  unfold TbfpParser.crcOk
  infer_instance

/-- A frame with the right checksum goes to `fix_frame`. -/
def Device.acceptFrame (d : Device W) (slot : Interfaces) (r : TbfpReceiver) : Device W :=
  let len := r.parser.crc8Index.toNat + tbfpSizeCrc
  ((d.setTbfp slot r.takeFrame).note (.fixed ⟨slot, 0, len⟩ d.unfed)).note
    (.accepted slot (bytesAt r.parser.rxFrame 0 len))

def Device.resetRx (d : Device W) (slot : Interfaces) : Device W := d.setTbfp slot (tbfpParserResetRx (d.tbfp slot))

def Device.tbfpCheckCrc8 (d : Device W) (slot : Interfaces) (r : TbfpReceiver) : Device W :=
  if r.parser.crcOk env then
    let d := d.acceptFrame slot r
    (d.tbfpProcFull env proc slot (r.parser.crc8Index + 1) (d.interface slot)).2.resetRx slot
  else d.setTbfp slot (tbfpParserResetRx { r with crcErrCnt := r.crcErrCnt + 1 })

def Device.tbfpParserProcWaitCrc8 (d : Device W) (slot : Interfaces) (rxByte : UInt8) : Bool × Device W :=
  if (d.tbfp slot).parser.loadLen = (d.tbfp slot).parser.crc8Index.toNat then
    (true, d.tbfpCheckCrc8 env proc slot ((d.tbfp slot).loadCrc8 rxByte))
  else (true, d.resetRx slot)

/-- A step of the parser that only loads. -/
def Device.stepTbfp (d : Device W) (slot : Interfaces) (r : Bool × TbfpReceiver) : Bool × Device W :=
  (r.1, d.setTbfp slot r.2)

def Device.tbfpProcByte (d : Device W) (slot : Interfaces) (rxByte : UInt8) : Bool × Device W :=
  match (d.tbfp slot).parser.rxState with
  | .waitPreamble => d.stepTbfp slot (tbfpParserProcWaitPreamble (d.preambleVal slot) (d.tbfp slot) rxByte)
  | .waitRetxCnt => d.stepTbfp slot (tbfpParserProcRetransmitCnt (d.tbfp slot) rxByte)
  | .waitSerialNum => d.stepTbfp slot (tbfpParserProcWaitSerialNum (d.tbfp slot) rxByte)
  | .waitLen => d.stepTbfp slot (tbfpParserProcWaitLen (d.tbfp slot) rxByte)
  | .waitPayload => d.stepTbfp slot (tbfpParserProcWaitPayload (d.tbfp slot) rxByte)
  | .waitCrc => d.tbfpParserProcWaitCrc8 env proc slot rxByte
  | _ => (true, d.resetRx slot)

/-! ### An array of bytes -/

/-- One turn of the loop of `tbfp_proc`, with what is still to be fed behind the byte with index `i`. -/
def Device.feedByte (d : Device W) (src : Source) (len : UInt16) (interface : Interfaces) (i : Nat) :
    Bool × Device W :=
  let r := { d with unfed := src.rest (i + 1) len.toNat ++ d.unfed }.tbfpProcByte env proc interface (d.byteAt src i)
  (r.1, { r.2 with unfed := d.unfed })

/-- The loop of `tbfp_proc` after `n` bytes, with the number of bytes that were taken. -/
def Device.fed (d : Device W) (src : Source) (len : UInt16) (interface : Interfaces) : Nat → Nat × Device W
  | 0 => (0, d)
  | n + 1 =>
    let s := Device.fed d src len interface n
    let r := s.2.feedByte env proc src len interface n
    (if r.1 then s.1 + 1 else s.1, r.2)

/-- An array without a frame is counted when the parser was reset for it. -/
def Device.countLack (d : Device W) (interface : Interfaces) (initRxPkt : UInt32) (isResetParser : Bool) : Device W :=
  let r := d.tbfp interface
  if 0 < r.rxPktCnt - initRxPkt then d
  else if isResetParser then d.setTbfp interface { r with lackFrameInData := r.lackFrameInData + 1 }
  else d

/-- `tbfp_proc`, with the calls from within as a parameter. -/
def tbfpProcBody : Proc W := fun d src len interface isResetParser =>
  let initRxPkt := (d.tbfp interface).rxPktCnt
  let s := (if isResetParser then d.resetRx interface else d).fed env proc src len interface len.toNat
  (decide (s.1 = len.toNat), s.2.countLack interface initRxPkt isResetParser)

/-- `tbfp_proc` with calls from within up to that depth. -/
def tbfpProc : Nat → Proc W
  | 0 => fun d _ _ _ _ => (false, d.note .tooDeep)
  | depth + 1 => tbfpProcBody env (tbfpProc depth)

/-- `lora_proc_payload`: a frame that the radio received. -/
def loraProcPayload (depth : Nat) (d : Device W) (rxPayload : List UInt8) : Bool × Device W :=
  d.procRxPayload (tbfpProc env depth) rxPayload

/-! ### Commands that do not poll the radio -/

theorem Device.tbfpProcCmd_env (env : Env W) (proc : Proc W) (d : Device W) (slot : Interfaces) (len : UInt16) :
    d.tbfpProcCmd env proc slot len =
      if 0 < len.toNat ∧ d.payload slot 0 = frameIdCmd then
        let d := (d.note (.read len.toNat len.toNat)).endString slot len
        let r := env.processShellCmd (d.commandString slot len) d.tx.world
        (r.1, d.setTx { d.tx with world := r.2 })
      else (false, d) := by
  simp only [Device.tbfpProcCmd, env.radioPolled_nil rfl, List.foldl_nil]

end TiMcu.Tbfp
