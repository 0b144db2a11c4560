import TiMcu.Tbfp.System

/-!
# The indices into the tables of the protocols

The tables `TbfpProtocol` and `Rtcm3Protocol` and the arrays `forwarding` and `lost_pkt_cnt` have `IF_CNT` entries.  For
each function that receives or sends, a function with the ending `Uses` lists the interfaces by which it indexes them,
those of the functions it calls included; the states in between are those of the function itself.

The paths of the firmware to these functions are the steps of `PathStep`.  `Build` has the options by which `sw_init`
and the paths differ in the interfaces that they use.
-/

namespace TiMcu.Tbfp

open NorFlash

variable {W : Type}

/-- The value of an interface is smaller than `IF_CNT`. -/
def InTable : Interfaces → Prop
  | .lora | .sx1262 | .uart1 | .loopback => True
  | _ => False

instance (i : Interfaces) : Decidable (InTable i) := by
  unfold InTable
  cases i <;> infer_instance

/-- What `tbfp_proc` uses. -/
abbrev ProcUses (W : Type) := Device W → Source → UInt16 → Interfaces → Bool → List Interfaces

variable (env : Env W) (proc : Proc W) (procUses : ProcUses W)

/-! ### Sending -/

def Device.sysSendIfUses (d : Device W) (array : Frame) (interface : Interfaces) (retx : Retx) : List Interfaces :=
  match interface with
  | .loopback => procUses d (.txFrame .loopback) (UInt16.ofNat array.bytes.length) .loopback true
  | .sx1262 => if retx = .need then [.sx1262] else []
  | _ => []

def Device.tbfpSendUses (d : Device W) (payload : Payload) (interface : Interfaces) (lifetime : UInt8)
    (ack : TbfpAck) : List Interfaces :=
  if PassesSizeTest payload.bytes.length then
    let r := (d.tx.node interface).buildFrame env.crc8SaeJ1850Calc payload lifetime ack
    interface ::
      if r.1 then (d.setTx (d.tx.setNode interface r.2)).sysSendIfUses procUses (r.2.builtFrame payload.bytes.length)
        interface ack.retx
      else []
  else []

def Device.tbfpSendAckUses (d : Device W) (snum : UInt16) (interface : Interfaces) : List Interfaces :=
  d.tbfpSendUses env procUses (ackPayload snum) interface 0 .noNeed ++
    if (d.tbfpSend env proc (ackPayload snum) interface 0 .noNeed).1 then [interface] else []

def Device.tbfpSendPingUses (d : Device W) (frameId : UInt8) (interface : Interfaces) : List Interfaces :=
  d.tbfpSendUses env procUses (env.pingPayload frameId d.tx.world) interface 0 .noNeed

/-! ### The RTCM3 parser -/

/-- A frame that is not sent is counted in `lost_pkt_cnt` and in `TbfpProtocol`. -/
def Device.passFrameUses (d : Device W) (slot interface : Interfaces) : List Interfaces :=
  let frame := (d.rtcm3 slot).fixedFrame
  let d := d.note (.passed interface frame.bytes)
  d.tbfpSendUses env procUses frame interface 0 .noNeed ++
    if (d.tbfpSend env proc frame interface 0 .noNeed).1 then [] else [interface, interface]

def Device.forwardUses (d : Device W) (slot interface : Interfaces) : List Interfaces :=
  interface ::
    if (d.rtcm3 slot).forwarding interface then (d.note (.flag interface)).passFrameUses env proc procUses slot interface
    else []

/-- The forwarding loop. -/
def Device.forwardsUses (slot : Interfaces) : List Interfaces → Bool × Device W → List Interfaces
  | [], _ => []
  | interface :: interfaces, r =>
    r.2.forwardUses env proc procUses slot interface ++
      Device.forwardsUses slot interfaces (Device.forward env proc slot r interface)

def Device.relayUses (d : Device W) (slot : Interfaces) : List Interfaces :=
  match (d.rtcm3 slot).interface with
  | .uart1 => Device.forwardsUses env proc procUses slot forwardInterfaces (true, d)
  | _ => []

/-- The last byte of a frame: the relay, and the reset of the parser of the instance's interface. -/
def Device.rtcm3CheckCrc24Uses (d : Device W) (slot : Interfaces) (p : Rtcm3Protocol) : List Interfaces :=
  if p.crcOk env then
    let d := (d.setRtcm3 slot p.takeFrame).note (.rtcm3 slot (bytesAt p.rxFrame 0 p.packetLength.toNat))
    d.relayUses env proc procUses slot ++ [((d.relay env proc slot).2.rtcm3 slot).interface]
  else []

/-- The byte is the last one of a frame. -/
def Rtcm3Protocol.AtLastByte (p : Rtcm3Protocol) : Prop :=
  p.rxState = .waitCrc ∧ p.loadLen = p.crc24Index.toNat + 2

instance (p : Rtcm3Protocol) : Decidable p.AtLastByte := by
  unfold Rtcm3Protocol.AtLastByte
  infer_instance

def Device.rtcm3ProcByteUses (d : Device W) (slot : Interfaces) (rxByte : UInt8) : List Interfaces :=
  let p := d.rtcm3 slot
  if p.AtLastByte then d.rtcm3CheckCrc24Uses env proc procUses slot ((p.load rxByte .waitCrc).takeCrc env) else []

/-- The loop of `rtcm3_proc_array` after `n` bytes. -/
def Device.rtcm3FedUses (d : Device W) (src : Source) (interface : Interfaces) : Nat → List Interfaces
  | 0 => []
  | n + 1 =>
    let d' := (Device.rtcm3Fed env proc d src interface n).2
    Device.rtcm3FedUses d src interface n ++
      interface :: d'.rtcm3ProcByteUses env proc procUses interface (d'.byteAt src n)

def Device.rtcm3ProcArrayUses (d : Device W) (src : Source) (size : Nat) (interface : Interfaces) : List Interfaces :=
  if 0 < size then
    interface :: (d.setRtcm3 interface (rtcm3ResetRx (d.rtcm3 interface))).rtcm3FedUses env proc procUses src interface
      size
  else []

/-! ### Receiving -/

def Device.tbfpProcPingUses (d : Device W) (slot : Interfaces) (len : UInt16) (interface : Interfaces) :
    List Interfaces :=
  if d.payload slot 0 = frameIdPing then
    (d.note (.read env.sizeofPingFrame len.toNat)).tbfpSendPingUses env procUses frameIdPong interface
  else []

def Device.tbfpProcPayloadUses (d : Device W) (slot : Interfaces) (len : UInt16) (interface : Interfaces) :
    List Interfaces :=
  let id := d.payload slot 0
  let d := d.note (.read 1 len.toNat)
  if id = frameIdAck then [interface]
  else if id = frameIdTunnel then
    procUses (d.note (.read (1 + (len - 1).toNat) len.toNat)) (.fixFrame slot (tbfpIndexPayload + 1)) (len - 1) .lora
      false
  else if id = frameIdRtcm3 then
    (d.note (.read len.toNat len.toNat)).rtcm3ProcArrayUses env proc procUses (.fixFrame slot tbfpIndexPayload)
      len.toNat interface
  else if id = frameIdChat then []
  else if id = frameIdPong ∨ id = frameIdPing then d.tbfpProcPingUses env procUses slot len interface
  else []

def Device.meshFrameUses (d : Device W) (slot interface : Interfaces) (header : TbfHeader) : List Interfaces :=
  if 0 < header.lifetime ∧ header.lifetime < 4 then
    d.tbfpSendUses env procUses (.at (d.tbfp slot).parser.fixFrame tbfpIndexPayload header.len) interface
      (header.lifetime - 1) header.ackNeed
  else []

def Device.ackFrameUses (d : Device W) (interface : Interfaces) (header : TbfHeader) : List Interfaces :=
  if header.ackNeed = .need then d.tbfpSendAckUses env proc procUses header.snum interface else []

def Device.handFrameUses (flowOk : Bool) (d : Device W) (slot interface : Interfaces) (header : TbfHeader) :
    List Interfaces :=
  if flowOk then
    (d.note (.handed interface header.snum)).tbfpProcPayloadUses env proc procUses slot header.len interface
  else []

/-- `is_tbfp_protocol` and the flow control index with the interface, before the frame is handled. -/
def Device.tbfpProcFullUses (d : Device W) (slot : Interfaces) (len : UInt16) (interface : Interfaces) :
    List Interfaces :=
  interface ::
    if isTbfpProtocol env (d.tbfp slot).parser.fixFrame len (d.preambleVal interface) then
      let header := TbfHeader.read (d.tbfp slot).parser.fixFrame
      let flowOk := (tbfpCheckFlowControl (d.tbfp interface).flow header.snum).1
      let d := d.countFrame interface len header.snum
      let r := Device.meshFrame env proc (true, d) slot interface header
      interface :: (d.meshFrameUses env procUses slot interface header ++
        r.2.ackFrameUses env proc procUses interface header ++
        Device.handFrameUses env proc procUses flowOk (Device.ackFrame env proc r interface header).2 slot interface
          header)
    else []

def Device.tbfpCheckCrc8Uses (d : Device W) (slot : Interfaces) (r : TbfpReceiver) : List Interfaces :=
  if r.parser.crcOk env then
    let d := d.acceptFrame slot r
    d.tbfpProcFullUses env proc procUses slot (r.parser.crc8Index + 1) (d.interface slot)
  else []

def Device.tbfpProcByteUses (d : Device W) (slot : Interfaces) (rxByte : UInt8) : List Interfaces :=
  let p := (d.tbfp slot).parser
  if p.rxState = .waitCrc ∧ p.loadLen = p.crc8Index.toNat then
    d.tbfpCheckCrc8Uses env proc procUses slot ((d.tbfp slot).loadCrc8 rxByte)
  else []

def Device.feedByteUses (d : Device W) (src : Source) (len : UInt16) (interface : Interfaces) (i : Nat) :
    List Interfaces :=
  { d with unfed := src.rest (i + 1) len.toNat ++ d.unfed }.tbfpProcByteUses env proc procUses interface (d.byteAt src i)

/-- The loop of `tbfp_proc` after `n` bytes. -/
def Device.fedUses (d : Device W) (src : Source) (len : UInt16) (interface : Interfaces) : Nat → List Interfaces
  | 0 => []
  | n + 1 =>
    Device.fedUses d src len interface n ++
      interface :: (d.fed env proc src len interface n).2.feedByteUses env proc procUses src len interface n

def tbfpProcBodyUses : ProcUses W := fun d src len interface isResetParser =>
  interface :: (if isResetParser then d.resetRx interface else d).fedUses env proc procUses src len interface len.toNat

/-- `tbfp_proc` with calls from within up to that depth. -/
def tbfpProcUses : Nat → ProcUses W
  | 0 => fun _ _ _ interface _ => [interface]
  | depth + 1 => tbfpProcBodyUses env (tbfpProc env depth) (tbfpProcUses depth)

/-! ### The queue -/

/-- `lora_transmit_from_queue`. -/
def Device.loraTransmitUses (d : Device W) (curTimeStampMs txDoneTimeStampMs pauseMs minTxUnit : UInt32) :
    List Interfaces :=
  .sx1262 ::
    if d.tx.CanTransmit curTimeStampMs txDoneTimeStampMs pauseMs minTxUnit then
      let r := env.fifoPullArray d.tx.loRa.fifo maxLoraPayloadSize
      let t := { d.tx with loRa.flush := false, loRa.fifo := r.2.2 }
      if r.1 ∧ 0 < r.2.1.length ∧ r.2.1.length ≤ maxLoraPayloadSize then
        (if h : TextFits r.2.1.length then
            (d.setTx t).tbfpSendUses env procUses (textPayload frameIdTunnel r.2.1 h.lt) .sx1262 0 .need
          else []) ++
          if (t.tbfpSendTunnel env r.2.1 .sx1262 .need).1 then [] else [.sx1262]
      else []
    else []

/-! ### The start -/

/-- The options for the interfaces behind `IF_CNT`. -/
structure Build where
  hasTbfpRs232 : Bool
  hasTbfpCan : Bool
  hasRtcmOverRs232 : Bool
  hasRtcmOverCan : Bool
  deriving DecidableEq, Repr

/-- An interface with its parameter if the option is set. -/
def optional {A : Type} (option : Bool) (init : Interfaces × A) : List (Interfaces × A) := if option then [init] else []

/-- The calls of `tbfp_protocol_init`, with the preambles. -/
def Build.tbfpInits (b : Build) : List (Interfaces × UInt8) :=
  [(.lora, 0xA5)] ++ optional b.hasTbfpRs232 (.rs232, 0xA5) ++ optional b.hasTbfpCan (.can, 0xA5) ++ [(.sx1262, 0x1E)]

/-- The calls of `rtcm3_protocol_init`. -/
def Build.rtcm3Inits (b : Build) : List (Interfaces × Bool) :=
  [(.uart1, true), (.lora, false)] ++ optional b.hasRtcmOverRs232 (.rs232, false) ++
    optional b.hasRtcmOverCan (.can, false)

def Device.initTbfp (d : Device W) (init : Interfaces × UInt8) : Device W :=
  (d.setTx { d.tx with
    tbfp := Function.update d.tx.tbfp init.1 (tbfpProtocolInit init.1 init.2)
    errTxCnt := Function.update d.tx.errTxCnt init.1 0 }).setTbfp init.1 {}

def Device.initRtcm3 (d : Device W) (init : Interfaces × Bool) : Device W :=
  d.setRtcm3 init.1 (rtcm3ProtocolInit init.1 init.2)

/-- The part of `sw_init` that sets up the two tables. -/
def Device.initTables (b : Build) (d : Device W) : Device W :=
  b.rtcm3Inits.foldl Device.initRtcm3 (b.tbfpInits.foldl Device.initTbfp d)

/-- Each RTCM3 instance also has its entry of `forwarding` for `IF_LORA` set. -/
def Build.initUses (b : Build) : List Interfaces :=
  b.tbfpInits.map (·.1) ++ b.rtcm3Inits.flatMap fun init => [init.1, .lora]

/-- The interfaces to which the base station can be told to pass its frames. -/
def zedF9pChannels : List Interfaces := [.lora, .rs232, .can]

/-- The receiver of the base station sets the flags of its channel. -/
def Device.zedF9pForwarding (d : Device W) (channel : Interfaces) : Device W :=
  if channel ∈ zedF9pChannels then
    let p := d.rtcm3 .uart1
    d.setRtcm3 .uart1 { p with
      forwarding := zedF9pChannels.foldl (fun f i => Function.update f i (decide (i = channel))) p.forwarding }
  else d

def zedF9pUses (channel : Interfaces) : List Interfaces :=
  if channel ∈ zedF9pChannels then zedF9pChannels.flatMap fun i => [.uart1, i] else []

/-- All tables are zero. -/
def Device.zero (radio : Sx1262) (now : Nat) (world : W) : Device W where
  tx :=
    { tbfp := fun _ => tbfpProtocolZero
      errTxCnt := fun _ => 0
      trace := fun _ => []
      radio := radio
      now := now
      loRa := {}
      sendErrCnt := 0
      world := world
      uart := [] }
  tbfp := fun _ => {}
  rtcm3 := fun _ => {}
  unfed := []
  log := []

/-! ### The paths -/

/-- The paths to the functions above. -/
inductive PathStep
  /-- `sw_init` -/
  | swInit
  /-- `zed_f9p_proc_base` or `zed_f9p_deploy_base` -/
  | zedF9p (channel : Interfaces)
  /-- a byte for `proc_uart0` -/
  | uart0 (rxByte : UInt8)
  /-- a byte for `proc_uart1` -/
  | uart1 (rxByte : UInt8)
  | canProcPayload (rxPayload : List UInt8)
  | canProc
  | procRs232 (ping : Bool)
  | loraProcPayload (rxPayload : List UInt8)
  | loraProcess
  | loraTransmitFromQueue (curTimeStampMs txDoneTimeStampMs pauseMs minTxUnit : UInt32)
  | tbfpSend (payload : Payload) (interface : Interfaces) (lifetime : UInt8) (ack : TbfpAck)
  | tbfpRetxProc
  | tbfpRetxTxDone (interface : Interfaces)

/-- The device after a path. -/
def Device.path (b : Build) (depth : Nat) (d : Device W) : PathStep → Device W
  | .swInit => d.initTables b
  | .zedF9p channel => d.zedF9pForwarding channel
  | .uart0 rxByte => if b.hasTbfpRs232 then (d.tbfpProcByte env (tbfpProc env depth) .rs232 rxByte).2 else d
  | .uart1 rxByte => (d.rtcm3ProcByte env (tbfpProc env depth) .uart1 rxByte).2
  | .canProcPayload rxPayload => (tbfpProc env depth d (.bytes rxPayload) (UInt16.ofNat rxPayload.length) .can false).2
  | .canProc => (d.tbfpSendPing env (tbfpProc env depth) frameIdPong .can).2
  | .procRs232 ping => if ping then (d.tbfpSendPing env (tbfpProc env depth) frameIdPong .rs232).2 else d
  | .loraProcPayload rxPayload => (loraProcPayload env depth d rxPayload).2
  | .loraProcess =>
    let d := (d.tbfpSendPing env (tbfpProc env depth) frameIdPong .lora).2
    d.setTx { d.tx with loRa.flush := true }
  | .loraTransmitFromQueue cur txDone pause unit => d.setTx (loraTransmitFromQueue env d.tx cur txDone pause unit).2
  | .tbfpSend payload interface lifetime ack =>
    (d.tbfpSend env (tbfpProc env depth) payload interface lifetime ack).2
  | .tbfpRetxProc => d.setTx (d.tx.tbfpRetxProc env)
  | .tbfpRetxTxDone interface => d.setTx (d.tx.tbfpRetxTxDone interface)

/-- The indices that a path uses. -/
def Device.pathUses (b : Build) (depth : Nat) (d : Device W) : PathStep → List Interfaces
  | .swInit => b.initUses
  | .zedF9p channel => zedF9pUses channel
  | .uart0 rxByte =>
    if b.hasTbfpRs232 then
      .rs232 :: d.tbfpProcByteUses env (tbfpProc env depth) (tbfpProcUses env depth) .rs232 rxByte
    else []
  | .uart1 rxByte => .uart1 :: d.rtcm3ProcByteUses env (tbfpProc env depth) (tbfpProcUses env depth) .uart1 rxByte
  | .canProcPayload rxPayload =>
    tbfpProcUses env depth d (.bytes rxPayload) (UInt16.ofNat rxPayload.length) .can false
  | .canProc => d.tbfpSendPingUses env (tbfpProcUses env depth) frameIdPong .can
  | .procRs232 ping => if ping then d.tbfpSendPingUses env (tbfpProcUses env depth) frameIdPong .rs232 else []
  | .loraProcPayload rxPayload =>
    tbfpProcUses env depth d (.bytes rxPayload) (UInt16.ofNat rxPayload.length) .sx1262 true
  | .loraProcess => d.tbfpSendPingUses env (tbfpProcUses env depth) frameIdPong .lora
  | .loraTransmitFromQueue cur txDone pause unit =>
    d.loraTransmitUses env (tbfpProcUses env depth) cur txDone pause unit
  | .tbfpSend payload interface lifetime ack =>
    d.tbfpSendUses env (tbfpProcUses env depth) payload interface lifetime ack
  | .tbfpRetxProc => tableInterfaces
  | .tbfpRetxTxDone _ => tableInterfaces

end TiMcu.Tbfp
