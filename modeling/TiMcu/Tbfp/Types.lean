import Mathlib.Data.UInt
import TiMcu.Lib.LittleEndian

/-!
# The data of the TBFP retransmission machine

One interface of the Trivial Binary Frame Protocol: its instance `TbfpProtocol` with the retransmission machine
`TbfpReTxFsm` inside, the fields of the radio driver that decide whether a transmission starts, and the clock.

`Node.trace` is the record of what the functions did, and `TbfpProtocol.built` that of the frames built, the newest
entry first.  No function reads them.
-/

namespace TiMcu.Tbfp

/-! ### Constants -/

def tbfpRetxTryMax : UInt8 := 3
def txDoneExtraTimeMs : UInt32 := 10
def tbfpSizeHeader : Nat := 6
def tbfpSizeCrc : Nat := 1
def tbfpSizeOverhead : Nat := tbfpSizeHeader + tbfpSizeCrc
def tbfpMaxPayload : Nat := 1024 + 3 + 2 + 10
def tbfpMaxFrame : Nat := tbfpMaxPayload + tbfpSizeOverhead
def tbfpIndexSerNum : Nat := 2
def tbfpIndexPayload : Nat := 6
def sx1262MaxFrameSize : Nat := 252
def frameIdAck : UInt8 := 0x41
def frameIdChat : UInt8 := 0x43

theorem tbfpMaxFrame_eq : tbfpMaxFrame = 1046 := rfl

/-! ### Enumerations -/

/-- `cnt` is `IF_CNT`; the tables have an entry for each of the four interfaces before it. -/
inductive Interfaces
  | lora | sx1262 | uart1 | loopback | cnt | can | rs232 | uart0 | ble | spi0 | none
  deriving DecidableEq, Repr

inductive TbfpAck
  | noNeed | need
  deriving DecidableEq, Repr

inductive Retx
  | noNeed | need
  deriving DecidableEq, Repr

inductive TbfpReTxInput
  | none | rxAck | rxAckTimeOut | txDoneTimeOut | txFrame | txDone
  deriving DecidableEq, Repr

inductive TbfpReTxState
  | idle | waitTxDone | waitAck
  deriving DecidableEq, Repr

/-! ### Arrays -/

/-- An array whose length a `uint32_t` holds. -/
structure Payload where
  bytes : List UInt8
  length_lt : bytes.length < 2 ^ 32

/-- A frame handed to `tbfp_retx_start`, which copies it into the frame buffer without a test. -/
structure Frame where
  bytes : List UInt8
  length_le : bytes.length ≤ tbfpMaxFrame

/-- The frame buffer of an interface. -/
structure TxFrame where
  bytes : List UInt8
  length_eq : bytes.length = tbfpMaxFrame

/-- `memset` of the whole buffer. -/
def TxFrame.zero : TxFrame := ⟨List.replicate tbfpMaxFrame 0, List.length_replicate⟩

/-- `memcpy` into the buffer.  Bytes behind the end of the buffer are dropped; there are none in any call. -/
def TxFrame.copy (t : TxFrame) (index : Nat) (src : List UInt8) : TxFrame where
  bytes := (t.bytes.take index ++ src ++ t.bytes.drop (index + src.length)).take tbfpMaxFrame
  length_eq := by
    have h := t.length_eq
    simp only [List.length_take, List.length_append, List.length_drop]
    omega

/-! ### The machine, the interface and the radio -/

structure TbfpReTxFsm where
  txDoneTimeOutMs : UInt32 := 0
  timeStampStartMs : UInt32 := 0
  errCnt : UInt32 := 0
  errTxDone : UInt32 := 0
  ackRxCnt : UInt32 := 0
  ackTxCnt : UInt32 := 0
  silenceCnt : UInt32 := 0
  ackTimeOutCnt : UInt32 := 0
  noReplyCnt : UInt32 := 0
  spinCnt : UInt32 := 0
  retxCnt : UInt8 := 0
  expectedSerNum : UInt16 := 0
  input : TbfpReTxInput := .none
  state : TbfpReTxState := .idle
  deriving DecidableEq, Repr

structure TbfpProtocol where
  txByte : UInt32
  txPktCnt : UInt32
  sNum : UInt16
  reTxFsm : TbfpReTxFsm
  interface : Interfaces
  preambleVal : UInt8
  txFrame : TxFrame
  txFrameLen : UInt32
  built : List (List UInt8) := []

/-- What the radio driver knows.  `frameTimeMs` is the longest time on air in milliseconds, which the driver computes
from the modulation; `fifo` is what the chip was last given to send. -/
structure Sx1262 where
  txMute : Bool
  txDone : Bool
  frameTimeMs : UInt32
  fifo : List UInt8

/-- An entry of the trace. -/
inductive Obs
  | given (frame : List UInt8)
  | sent (frame : List UInt8)
  | gotAck (serNum : UInt16)
  | raised (input : TbfpReTxInput)
  | moved (input : TbfpReTxInput)
  deriving DecidableEq, Repr

structure Node where
  tbfp : TbfpProtocol
  radio : Sx1262
  now : Nat
  trace : List Obs

/-- `get_time_ms32`, the milliseconds since the start. -/
def Node.getTimeMs32 (n : Node) : UInt32 := UInt32.ofNat n.now

/-- The serial number in a frame. -/
def frameSerNum (frame : List UInt8) : UInt16 :=
  LittleEndian.join (frame.getD tbfpIndexSerNum 0) (frame.getD (tbfpIndexSerNum + 1) 0)

/-! ### The frame buffer -/

/-- The buffer up to the end of what was copied. -/
theorem TxFrame.take_copy (t : TxFrame) {index : Nat} {src : List UInt8} (h : index + src.length ≤ tbfpMaxFrame) :
    (t.copy index src).bytes.take (index + src.length) = t.bytes.take index ++ src := by
  have hlen : (t.bytes.take index ++ src).length = index + src.length := by
    have := t.length_eq
    rw [List.length_append, List.length_take]
    omega
  unfold TxFrame.copy
  rw [List.take_take, Nat.min_eq_left h, List.take_left' hlen]

theorem TxFrame.copy_zero_bytes (t : TxFrame) (frame : Frame) :
    ((t.copy 0 frame.bytes).bytes).take frame.bytes.length = frame.bytes := by
  have h := frame.length_le
  have hcopy := t.take_copy (by rwa [Nat.zero_add] : 0 + frame.bytes.length ≤ tbfpMaxFrame)
  simpa using hcopy

end TiMcu.Tbfp
