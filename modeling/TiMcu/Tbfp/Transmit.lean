import TiMcu.Tbfp.Device

/-!
# Sending on any interface

`tbfp_send` with `sys_send_if`: a frame goes to the radio, to the queue of the LoRa interface or to a UART.  On
`IF_LOOPBACK` the frame is fed to a parser of the device itself, so sending takes `tbfp_proc` as a parameter there;
on the other interfaces it changes the transmitting parts only (`Device.tbfpSend_of_ne`).

`lora_transmit_from_queue` sends the bytes of the queue through a tunnel on the radio, and `tbfp_retx_proc` polls the
retransmission machine of each entry of the table.
-/

namespace TiMcu.Tbfp

open NorFlash LittleEndian

variable {W : Type} {polls : Bool} (env : Env W polls)

/-! ### Building a frame -/

/-- `tbfp_send` up to its call of `sys_send_if`. -/
def Node.buildFrame (crc8SaeJ1850Calc : List UInt8 → UInt8) (n : Node) (payload : Payload) (lifetime : UInt8)
    (ack : TbfpAck) : Bool × Node :=
  if PassesSizeTest payload.bytes.length then
    let r := tbfpMakeHeader { n with tbfp.txFrame := TxFrame.zero } payload.bytes.length lifetime ack
    if r.1 then (true, r.2.fillFrame crc8SaeJ1850Calc payload) else (false, r.2)
  else (false, n)

/-- The frame with a payload of that length, in the frame buffer. -/
def Node.builtFrame (n : Node) (payloadLen : Nat) : Frame := n.tbfp.txFrame.frame (payloadLen + tbfpSizeOverhead)

def TbfpAck.retx (ack : TbfpAck) : Retx := if ack = .need then .need else .noNeed

/-! ### Sending -/

def loraSendQueue (t : Transmitter W) (txPayload : List UInt8) : Bool × Transmitter W :=
  if 0 < txPayload.length then
    let r := env.fifoPushArray t.loRa.fifo txPayload
    if r.1 then (true, { t with loRa.fifo := r.2 })
    else (false, { t with loRa.fifo := r.2, loRa.ovflErrCnt := t.loRa.ovflErrCnt + 1 })
  else (false, { t with loRa.errCnt := t.loRa.errCnt + 1 })

def uartSend (t : Transmitter W) (uartNum : Nat) (array : List UInt8) : Bool × Transmitter W :=
  let r := env.uartSend uartNum array t.world
  (r.1, { t with world := r.2, uart := (uartNum, array) :: t.uart })

/-- `sys_sent_sx1262`; `spi` says whether the commands to the chip succeed. -/
def Transmitter.sysSentSx1262 (t : Transmitter W) (array : Frame) (retx : Retx) : Bool × Transmitter W :=
  let spi := env.spi t.world
  let r := Tbfp.sysSentSx1262 spi.1 (t.node .sx1262) array retx
  (r.1, { t.setNode .sx1262 r.2 with world := spi.2 })

/-- The interfaces that `sys_send_if` knows, other than `IF_LOOPBACK`. -/
def Transmitter.sendIf (t : Transmitter W) (array : Frame) (interface : Interfaces) (retx : Retx) :
    Bool × Transmitter W :=
  match interface with
  | .sx1262 => t.sysSentSx1262 env array retx
  | .lora => loraSendQueue env t array.bytes
  | .uart1 => uartSend env t 1 array.bytes
  | _ => (false, t)

/-- A send that failed is counted. -/
def Transmitter.countSendErr (r : Bool × Transmitter W) : Bool × Transmitter W :=
  if r.1 then r else (false, { r.2 with sendErrCnt := r.2.sendErrCnt + 1 })

/-- `sys_send_if` for the interfaces other than `IF_LOOPBACK`. -/
def Transmitter.sysSendIf (t : Transmitter W) (array : Frame) (interface : Interfaces) (retx : Retx) :
    Bool × Transmitter W :=
  Transmitter.countSendErr (t.sendIf env array interface retx)

/-- `tbfp_send` for the interfaces other than `IF_LOOPBACK`. -/
def Transmitter.tbfpSend (t : Transmitter W) (payload : Payload) (interface : Interfaces) (lifetime : UInt8)
    (ack : TbfpAck) : Bool × Transmitter W :=
  let r := (t.node interface).buildFrame env.crc8SaeJ1850Calc payload lifetime ack
  if r.1 then
    (t.setNode interface r.2).sysSendIf env (r.2.builtFrame payload.bytes.length) interface ack.retx
  else (false, t.setNode interface r.2)

/-- What `tbfp_proc` is given: an array with its length, an entry of the table and whether to reset its parser. -/
abbrev Proc (W : Type) := Device W → Source → UInt16 → Interfaces → Bool → Bool × Device W

variable (proc : Proc W)

/-- The frame in the frame buffer of `IF_LOOPBACK` is fed to the parser of `IF_LOOPBACK`. -/
def Device.sendLoopback (d : Device W) (len : UInt16) : Bool × Device W :=
  let r := proc d (.txFrame .loopback) len .loopback true
  if r.1 then r else (false, r.2.setTx { r.2.tx with sendErrCnt := r.2.tx.sendErrCnt + 1 })

/-- `array` is the frame in the frame buffer of the interface. -/
def Device.sysSendIf (d : Device W) (array : Frame) (interface : Interfaces) (retx : Retx) : Bool × Device W :=
  if interface = .loopback then d.sendLoopback proc (UInt16.ofNat array.bytes.length)
  else
    let r := d.tx.sysSendIf env array interface retx
    (r.1, d.setTx r.2)

def Device.tbfpSend (d : Device W) (payload : Payload) (interface : Interfaces) (lifetime : UInt8) (ack : TbfpAck) :
    Bool × Device W :=
  let r := (d.tx.node interface).buildFrame env.crc8SaeJ1850Calc payload lifetime ack
  if r.1 then
    (d.setTx (d.tx.setNode interface r.2)).sysSendIf env proc (r.2.builtFrame payload.bytes.length) interface ack.retx
  else (false, d.setTx (d.tx.setNode interface r.2))

def TbfpProtocol.countAck (p : TbfpProtocol) : TbfpProtocol :=
  { p with reTxFsm.ackTxCnt := p.reTxFsm.ackTxCnt + 1 }

/-- The acknowledgement was sent. -/
def Transmitter.countAck (t : Transmitter W) (interface : Interfaces) : Transmitter W :=
  { t with tbfp := Function.update t.tbfp interface (t.tbfp interface).countAck }

def Device.tbfpSendAck (d : Device W) (snum : UInt16) (interface : Interfaces) : Bool × Device W :=
  let r := d.tbfpSend env proc (ackPayload snum) interface 0 .noNeed
  if r.1 then (true, r.2.setTx (r.2.tx.countAck interface)) else (false, r.2)

/-- The ping frame that the device sends. -/
def Env.pingPayload (frameId : UInt8) (w : W) : Payload where
  bytes := frameId :: env.pingRest w
  length_lt := by
    have hlen := env.pingRest_length w
    have hlt := env.sizeofPingFrame_lt
    rw [List.length_cons, hlen]
    omega

def Device.tbfpSendPing (d : Device W) (frameId : UInt8) (interface : Interfaces) : Bool × Device W :=
  d.tbfpSend env proc (env.pingPayload frameId d.tx.world) interface 0 .noNeed

/-! ### The tunnel -/

/-- The text of a frame with its id in front. -/
def textPayload (payloadId : UInt8) (txArray : List UInt8) (h : txArray.length < 2 ^ 16) : Payload where
  bytes := payloadId :: txArray
  length_lt := by
    rw [List.length_cons]
    omega

/-- The test of `tbfp_send_text`, which copies the text into an array of 256 bytes. -/
def TextFits (len : Nat) : Prop := 0 < len ∧ len + tbfpSizeOverhead + tbfpSizeId < 256

instance (len : Nat) : Decidable (TextFits len) := by
  unfold TextFits
  infer_instance

theorem TextFits.lt {len : Nat} (h : TextFits len) : len < 2 ^ 16 := by
  unfold TextFits at h
  omega

/-- `tbfp_send_text` for the interfaces other than `IF_LOOPBACK`. -/
def Transmitter.tbfpSendText (t : Transmitter W) (payloadId : UInt8) (txArray : List UInt8) (interface : Interfaces)
    (lifetime : UInt8) (ack : TbfpAck) : Bool × Transmitter W :=
  if h : TextFits txArray.length then t.tbfpSend env (textPayload payloadId txArray h.lt) interface lifetime ack
  else (false, t)

def Transmitter.tbfpSendTunnel (t : Transmitter W) (txArray : List UInt8) (interface : Interfaces) (ack : TbfpAck) :
    Bool × Transmitter W :=
  t.tbfpSendText env frameIdTunnel txArray interface 0 ack

/-- The outcome of a tunnel frame is counted. -/
def Transmitter.countTunnel (r : Bool × Transmitter W) : Bool × Transmitter W :=
  if r.1 then (true, { r.2 with loRa.txOkCnt := r.2.loRa.txOkCnt + 1 })
  else (false, { r.2 with
    errTxCnt := Function.update r.2.errTxCnt .sx1262 (r.2.errTxCnt .sx1262 + 1)
    loRa.txErrCnt := r.2.loRa.txErrCnt + 1 })

/-- The bytes that were taken out of the queue are sent. -/
def Transmitter.sendChunk (t : Transmitter W) (chunk : List UInt8) : Bool × Transmitter W :=
  if 0 < chunk.length ∧ chunk.length ≤ maxLoraPayloadSize then
    Transmitter.countTunnel (t.tbfpSendTunnel env chunk .sx1262 .need)
  else (true, t)

/-- The time has come and the machine is free for the next bytes of the queue. -/
def Transmitter.CanTransmit (t : Transmitter W) (curTimeStampMs txDoneTimeStampMs pauseMs minTxUnit : UInt32) : Prop :=
  pauseMs < curTimeStampMs - txDoneTimeStampMs ∧ isTbfpRetxIdle (t.node .sx1262) = true ∧
    (t.loRa.flush = true ∨ minTxUnit ≤ UInt32.ofNat t.loRa.fifo.length)

instance (t : Transmitter W) (curTimeStampMs txDoneTimeStampMs pauseMs minTxUnit : UInt32) :
    Decidable (t.CanTransmit curTimeStampMs txDoneTimeStampMs pauseMs minTxUnit) := by
  unfold Transmitter.CanTransmit
  infer_instance

def loraTransmitFromQueue (t : Transmitter W) (curTimeStampMs txDoneTimeStampMs pauseMs minTxUnit : UInt32) :
    Bool × Transmitter W :=
  if t.CanTransmit curTimeStampMs txDoneTimeStampMs pauseMs minTxUnit then
    let r := env.fifoPullArray t.loRa.fifo maxLoraPayloadSize
    let t := { t with loRa.flush := false, loRa.fifo := r.2.2 }
    if r.1 then t.sendChunk env r.2.1 else (false, t)
  else (false, t)

/-! ### The retransmission machine -/

/-- The entries of the table. -/
def tableInterfaces : List Interfaces := [.lora, .sx1262, .uart1, .loopback]

/-- The poll of one entry of the table. -/
def Transmitter.procRetxOne (t : Transmitter W) (slot : Interfaces) : Transmitter W :=
  let spi := env.spi t.world
  { t.setNode slot (tbfpProcRetxOne spi.1 (t.node slot)).2 with world := spi.2 }

/-- `tbfp_retx_proc` -/
def Transmitter.tbfpRetxProc (t : Transmitter W) : Transmitter W := tableInterfaces.foldl (Transmitter.procRetxOne env) t

/-- `tbfp_retx_tx_done` -/
def Transmitter.tbfpRetxTxDone (t : Transmitter W) (interface : Interfaces) : Transmitter W :=
  tableInterfaces.foldl (fun t slot => t.setNode slot (Tbfp.tbfpRetxTxDone (t.node slot) interface).2) t

variable {env proc}

/-! ### What a send changes -/

theorem Device.tbfpSend_of_ne (d : Device W) (payload : Payload) {interface : Interfaces} (h : interface ≠ .loopback)
    (lifetime : UInt8) (ack : TbfpAck) : d.tbfpSend env proc payload interface lifetime ack =
      ((d.tx.tbfpSend env payload interface lifetime ack).1,
        d.setTx (d.tx.tbfpSend env payload interface lifetime ack).2) := by
  simp only [Device.tbfpSend, Transmitter.tbfpSend]
  split
  · simp [Device.sysSendIf, h, Device.setTx]
  · rfl

/-- On `IF_SX1262` the node of the radio does what `tbfp_send` does there. -/
theorem Node.buildFrame_send (crc8SaeJ1850Calc : List UInt8 → UInt8) (spi : Bool) (n : Node) (payload : Payload)
    (lifetime : UInt8) (ack : TbfpAck) :
    Tbfp.tbfpSend crc8SaeJ1850Calc spi n payload lifetime ack =
      if (n.buildFrame crc8SaeJ1850Calc payload lifetime ack).1 then
        Tbfp.sysSentSx1262 spi (n.buildFrame crc8SaeJ1850Calc payload lifetime ack).2
          ((n.buildFrame crc8SaeJ1850Calc payload lifetime ack).2.builtFrame payload.bytes.length) ack.retx
      else (false, (n.buildFrame crc8SaeJ1850Calc payload lifetime ack).2) := by
  unfold Tbfp.tbfpSend Node.buildFrame
  by_cases hsize : PassesSizeTest payload.bytes.length
  · simp only [hsize, if_true]
    split
    · have hlen : tbfpSizeHeader + payload.bytes.length + tbfpSizeCrc = payload.bytes.length + tbfpSizeOverhead := by
        unfold tbfpSizeOverhead
        omega
      simp [Node.builtFrame, hlen, TbfpAck.retx]
    · rfl
  · simp [hsize]

end TiMcu.Tbfp
