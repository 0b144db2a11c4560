import TiMcu.Tbfp.ReTxFsm
import TiMcu.Lib.Crc8
import TiMcu.Lib.Runs

/-!
# Sending frames, and the events of one interface

`tbfp_send` builds its frame in the frame buffer of the interface, the one the retransmission machine reads, and hands
it to the machine or, when no acknowledgement is asked for, to the radio.  Here the interface is `IF_SX1262`, the only
one the machine works for.

`step` takes a node from one event to the next: the calls of the machine, frames sent, acknowledgements received, the
end of a transmission, the passage of time, and the other parts of the firmware that change the radio.

The checksum `crc8_sae_j1850_calc` is a parameter.
-/

namespace TiMcu.Tbfp

open LittleEndian Runs

/-- The checksum of the SAE J1850 profile, for runs on fixed inputs; everything else holds for any checksum. -/
def crc8SaeJ1850 (bytes : List UInt8) : UInt8 := Crc8.crc8 0x1D 0xFF 0xFF bytes

example : crc8SaeJ1850 [0x31, 0x32, 0x33, 0x34, 0x35, 0x36, 0x37, 0x38, 0x39] = 0x4B := by decide +kernel

variable (crc8SaeJ1850Calc : List UInt8 → UInt8)
variable {n : Node} {spi : Bool}

/-! ### Building and sending a frame -/

def tbfpFlags (lifetime : UInt8) (ack : TbfpAck) : UInt8 :=
  (if lifetime < 3 then lifetime else 0) ||| (if ack = .need then 0x80 else 0)

/-- The packed `TbfHeader_t`. -/
def tbfHeader (preamble flags : UInt8) (snum len : UInt16) : List UInt8 :=
  [preamble, flags, lo snum, hi snum, lo len, hi len]

/-- The header goes to the front of the frame buffer.  Every header takes a serial number, and the machine then
expects that number in the acknowledgement. -/
def tbfpMakeHeader (n : Node) (payloadLen : Nat) (lifetime : UInt8) (ack : TbfpAck) : Bool × Node :=
  if payloadLen < tbfpMaxPayload then
    let header := tbfHeader n.tbfp.preambleVal (tbfpFlags lifetime ack) n.tbfp.sNum (UInt16.ofNat payloadLen)
    (true, { n with
      tbfp.reTxFsm.expectedSerNum := n.tbfp.sNum
      tbfp.sNum := n.tbfp.sNum + 1
      tbfp.txPktCnt := n.tbfp.txPktCnt + 1
      tbfp.txFrame := n.tbfp.txFrame.copy 0 header })
  else (false, n)

def sysSentSx1262 (spi : Bool) (n : Node) (array : Frame) (retx : Retx) : Bool × Node :=
  match retx with
  | .need => tbfpRetxStart spi n array
  | .noNeed =>
    let (res, radio) := sx1262StartTx spi n.radio array.bytes (UInt16.ofNat array.bytes.length)
    (res, { n with radio := radio })

/-- The first bytes of the frame buffer. -/
def TxFrame.frame (t : TxFrame) (len : Nat) : Frame where
  bytes := t.bytes.take len
  length_le := by
    have h := t.length_eq
    rw [List.length_take]
    omega

/-- The test of `tbfp_send`; `tx_frame_len` is a `uint16_t`. -/
def PassesSizeTest (payloadLen : Nat) : Prop :=
  0 < payloadLen ∧ (payloadLen + tbfpSizeOverhead) % 2 ^ 16 < tbfpMaxFrame

instance (payloadLen : Nat) : Decidable (PassesSizeTest payloadLen) := by
  unfold PassesSizeTest
  infer_instance

/-- The payload and the checksum go behind the header. -/
def Node.fillFrame (n : Node) (payload : Payload) : Node :=
  let frameLen := tbfpSizeHeader + payload.bytes.length
  let n := { n with tbfp.txFrame := n.tbfp.txFrame.copy tbfpIndexPayload payload.bytes }
  let crc := crc8SaeJ1850Calc (n.tbfp.txFrame.bytes.take frameLen)
  let txFrame := n.tbfp.txFrame.copy frameLen [crc]
  { n with
    tbfp.txFrame := txFrame
    tbfp.txByte := n.tbfp.txByte + UInt32.ofNat (frameLen + tbfpSizeCrc)
    tbfp.built := txFrame.bytes.take (frameLen + tbfpSizeCrc) :: n.tbfp.built }

def tbfpSend (spi : Bool) (n : Node) (payload : Payload) (lifetime : UInt8) (ack : TbfpAck) : Bool × Node :=
  let retx := if ack = .need then Retx.need else Retx.noNeed
  let payloadLen := payload.bytes.length
  if PassesSizeTest payloadLen then
    let (res, n) := tbfpMakeHeader { n with tbfp.txFrame := TxFrame.zero } payloadLen lifetime ack
    if res then
      let n := n.fillFrame crc8SaeJ1850Calc payload
      sysSentSx1262 spi n (n.tbfp.txFrame.frame (tbfpSizeHeader + payloadLen + tbfpSizeCrc)) retx
    else (false, n)
  else (false, n)

/-- The payload of an acknowledgement. -/
def ackPayload (snum : UInt16) : Payload := ⟨[frameIdAck, lo snum, hi snum], by simp⟩

def tbfpSendAck (spi : Bool) (n : Node) (snum : UInt16) : Bool × Node :=
  let (res, n) := tbfpSend crc8SaeJ1850Calc spi n (ackPayload snum) 0 .noNeed
  if res then (res, { n with tbfp.reTxFsm.ackTxCnt := n.tbfp.reTxFsm.ackTxCnt + 1 }) else (res, n)

/-! ### Events -/

inductive Event
  /-- `tbfp_retx_start` -/
  | start (frame : Frame) (spi : Bool)
  /-- `tbfp_retx_proc` -/
  | proc (spi : Bool)
  /-- the radio reports the end of a transmission -/
  | txDone
  /-- a frame with an acknowledgement was received -/
  | ack (serNum : UInt16)
  /-- `tbfp_send` -/
  | send (payload : Payload) (lifetime : UInt8) (ack : TbfpAck) (spi : Bool)
  /-- a frame that asks for an acknowledgement was received -/
  | sendAck (snum : UInt16) (spi : Bool)
  /-- time passes -/
  | tick (ms : Nat)
  /-- other parts of the firmware change the radio -/
  | radio (radio : Sx1262)

/-- Time passes and nothing else happens. -/
def Node.after (n : Node) (ms : Nat) : Node := { n with now := n.now + ms }

def step (n : Node) : Event → Node
  | .start frame spi => (tbfpRetxStart spi n frame).2
  | .proc spi => (tbfpProcRetxOne spi n).2
  | .txDone => (tbfpRetxTxDone { n with radio.txDone := true } .sx1262).2
  | .ack serNum => (tbfpRetxAck n serNum).2
  | .send payload lifetime ack spi => (tbfpSend crc8SaeJ1850Calc spi n payload lifetime ack).2
  | .sendAck snum spi => (tbfpSendAck crc8SaeJ1850Calc spi n snum).2
  | .tick ms => n.after ms
  | .radio radio => { n with radio := radio }

/-- After `tbfp_protocol_init`, with the radio ready. -/
def Node.init (preambleVal : UInt8) (frameTimeMs : UInt32) (now : Nat) : Node where
  tbfp := {
    txByte := 0, txPktCnt := 0, sNum := 1, reTxFsm := {}, interface := .sx1262
    preambleVal := preambleVal, txFrame := TxFrame.zero, txFrameLen := 0 }
  radio := { txMute := false, txDone := true, frameTimeMs := frameTimeMs, fifo := [] }
  now := now
  trace := []

/-- A chat message of no letter. -/
def chatPayload : Payload := ⟨[frameIdChat], by decide⟩

variable {crc8SaeJ1850Calc}

/-! ### What a send does -/

/-- The node in which `tbfp_send` hands over its frame differs in the buffer and in counters. -/
structure Built (n m : Node) (frame : Frame) (payload : Payload) : Prop where
  fsm : m.tbfp.reTxFsm = { n.tbfp.reTxFsm with expectedSerNum := n.tbfp.sNum }
  interface : m.tbfp.interface = n.tbfp.interface
  radio : m.radio = n.radio
  now : m.now = n.now
  trace : m.trace = n.trace
  length : frame.bytes.length = payload.bytes.length + tbfpSizeOverhead

theorem tbfpSend_of_fails {payload : Payload} (h : ¬ PassesSizeTest payload.bytes.length) (lifetime : UInt8)
    (ack : TbfpAck) : tbfpSend crc8SaeJ1850Calc spi n payload lifetime ack = (false, n) := by
  rw [tbfpSend, if_neg h]

/-- The length of the payload wraps in the test, and the header is refused. -/
theorem tbfpSend_of_wraps {payload : Payload} (h : PassesSizeTest payload.bytes.length)
    (hmax : tbfpMaxPayload ≤ payload.bytes.length) (lifetime : UInt8) (ack : TbfpAck) :
    tbfpSend crc8SaeJ1850Calc spi n payload lifetime ack = (false, { n with tbfp.txFrame := TxFrame.zero }) := by
  have hrefused : ¬ payload.bytes.length < tbfpMaxPayload := by omega
  simp [tbfpSend, h, tbfpMakeHeader, hrefused]

private theorem tbfpMakeHeader_of_lt {payloadLen : Nat} (hmax : payloadLen < tbfpMaxPayload) (lifetime : UInt8)
    (ack : TbfpAck) :
    ∃ m, tbfpMakeHeader n payloadLen lifetime ack = (true, m) ∧
      m.tbfp.reTxFsm = { n.tbfp.reTxFsm with expectedSerNum := n.tbfp.sNum } ∧
      m.tbfp.interface = n.tbfp.interface ∧ m.radio = n.radio ∧ m.now = n.now ∧ m.trace = n.trace := by
  refine ⟨_, by rw [tbfpMakeHeader, if_pos hmax], ?_⟩
  exact ⟨rfl, rfl, rfl, rfl, rfl⟩

theorem tbfpSend_of_built {payload : Payload} (h : PassesSizeTest payload.bytes.length)
    (hmax : payload.bytes.length < tbfpMaxPayload) (lifetime : UInt8) (ack : TbfpAck) :
    ∃ m frame, Built n m frame payload ∧
      tbfpSend crc8SaeJ1850Calc spi n payload lifetime ack =
        sysSentSx1262 spi m frame (if ack = .need then .need else .noNeed) := by
  obtain ⟨m, hm, hfsm, hinterface, hradio, hnow, htrace⟩ :=
    @tbfpMakeHeader_of_lt { n with tbfp.txFrame := TxFrame.zero } payload.bytes.length hmax lifetime ack
  have hlen : ((m.fillFrame crc8SaeJ1850Calc payload).tbfp.txFrame.frame
      (tbfpSizeHeader + payload.bytes.length + tbfpSizeCrc)).bytes.length =
      payload.bytes.length + tbfpSizeOverhead := by
    have hpos := tbfpMaxFrame_eq
    simp only [TxFrame.frame, List.length_take, TxFrame.length_eq]
    unfold tbfpMaxPayload at hmax
    unfold tbfpSizeOverhead tbfpSizeHeader tbfpSizeCrc at *
    omega
  refine ⟨m.fillFrame crc8SaeJ1850Calc payload, _, ⟨hfsm, hinterface, hradio, hnow, htrace, hlen⟩, ?_⟩
  simp only [tbfpSend, h, hm, if_true]

end TiMcu.Tbfp
