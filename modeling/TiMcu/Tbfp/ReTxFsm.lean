import TiMcu.Tbfp.Types

/-!
# The retransmission machine

The functions of `tbfp_re_tx_ack_fsm.c` with the start of a transmission by the radio driver.  The machine is polled:
producers write its `input`, and `tbfp_proc_retx_one` reads it in the two waiting states.

Commands to the radio chip can fail; `spi` says whether those of the call succeed.
-/

namespace TiMcu.Tbfp

variable {n : Node} {spi : Bool}

/-! ### The functions -/

def sx1262StartTx (spi : Bool) (radio : Sx1262) (txBuf : List UInt8) (txLen : UInt16) : Bool × Sx1262 :=
  if radio.txMute = false then
    if radio.txDone then
      let radio := { radio with txDone := false }
      if 0 < txLen.toNat ∧ txLen.toNat ≤ sx1262MaxFrameSize then
        (spi, { radio with fifo := txBuf.take txLen.toNat })
      else (false, radio)
    else (false, radio)
  else (false, radio)

/-- A producer writes the input of the machine. -/
def Node.raise (n : Node) (input : TbfpReTxInput) : Node :=
  { n with tbfp.reTxFsm.input := input, trace := .raised input :: n.trace }

/-- The input takes the machine out of a waiting state. -/
def Node.move (n : Node) (fsm : TbfpReTxFsm) : Node :=
  { n with tbfp.reTxFsm := fsm, trace := .moved n.tbfp.reTxFsm.input :: n.trace }

def isTbfpRetxIdle (n : Node) : Bool := n.tbfp.reTxFsm.state = .idle && n.tbfp.reTxFsm.retxCnt = 0

/-- The transmission that `tbfp_retx_start` and `tbfp_proc_retx_idle` both attempt. -/
def sendTry (spi : Bool) (n : Node) : Bool × Node :=
  let (res, radio) := sx1262StartTx spi n.radio n.tbfp.txFrame.bytes n.tbfp.txFrameLen.toUInt16
  if res then
    (res, { n with
      radio := radio
      tbfp.reTxFsm.timeStampStartMs := n.getTimeMs32
      tbfp.reTxFsm.state := .waitTxDone
      tbfp.reTxFsm.retxCnt := n.tbfp.reTxFsm.retxCnt - 1
      trace := .sent radio.fifo :: n.trace })
  else (res, { n with radio := radio, tbfp.reTxFsm.state := .idle })

/-- The frame is copied into the frame buffer of the interface. -/
def Node.loadFrame (n : Node) (array : Frame) : Node :=
  { n with
    tbfp.txFrame := n.tbfp.txFrame.copy 0 array.bytes
    tbfp.txFrameLen := UInt32.ofNat array.bytes.length
    trace := .given array.bytes :: n.trace }

def tbfpRetxStart (spi : Bool) (n : Node) (array : Frame) : Bool × Node :=
  if 0 < array.bytes.length then
    let n := n.loadFrame array
    if n.tbfp.interface = .sx1262 then
      sendTry spi { n with
        tbfp.reTxFsm.txDoneTimeOutMs := n.radio.frameTimeMs + txDoneExtraTimeMs
        tbfp.reTxFsm.retxCnt := tbfpRetxTryMax }
    else (false, n)
  else (false, n)

def tbfpProcRetxWaitTxDone (n : Node) (timeStampCur : UInt32) : Bool × Node :=
  let fsm := n.tbfp.reTxFsm
  let timeStampDiff := timeStampCur - fsm.timeStampStartMs
  let (res, n, timeStampDiff) :=
    match fsm.input with
    | .txDone =>
      (true, n.move { fsm with state := .waitAck, timeStampStartMs := timeStampCur }, 0)
    | .txDoneTimeOut =>
      (false, n.move { fsm with
        state := .idle
        errCnt := fsm.errCnt + 1
        errTxDone := fsm.errTxDone + 1
        timeStampStartMs := timeStampCur }, 0)
    | _ => (false, n, timeStampDiff)
  if n.tbfp.reTxFsm.txDoneTimeOutMs < timeStampDiff then (true, n.raise .txDoneTimeOut) else (res, n)

def tbfpProcRetxWaitAck (n : Node) (timeStampCur : UInt32) : Bool × Node :=
  let fsm := n.tbfp.reTxFsm
  let timeStampDiff := timeStampCur - fsm.timeStampStartMs
  let (n, timeStampDiff) :=
    match fsm.input with
    | .rxAck =>
      (n.move { fsm with
        state := .idle
        timeStampStartMs := n.getTimeMs32
        spinCnt := fsm.spinCnt + 1
        ackRxCnt := fsm.ackRxCnt + 1
        retxCnt := 0 }, 0)
    | .rxAckTimeOut =>
      (n.move { fsm with
        state := .idle
        ackTimeOutCnt := fsm.ackTimeOutCnt + 1
        timeStampStartMs := n.getTimeMs32
        silenceCnt := if fsm.retxCnt = 0 then fsm.silenceCnt + 1 else fsm.silenceCnt
        noReplyCnt := if fsm.retxCnt = 0 then fsm.noReplyCnt + 1 else fsm.noReplyCnt }, 0)
    | _ => (n, timeStampDiff)
  if n.tbfp.reTxFsm.txDoneTimeOutMs + txDoneExtraTimeMs < timeStampDiff then (true, n.raise .rxAckTimeOut)
  else (true, n)

def tbfpProcRetxIdle (spi : Bool) (n : Node) : Bool × Node :=
  if 0 < n.tbfp.reTxFsm.retxCnt then
    if n.tbfp.interface = .sx1262 then sendTry spi n else (false, n)
  else (false, n)

/-- The poll of `tbfp_retx_proc`, for one interface. -/
def tbfpProcRetxOne (spi : Bool) (n : Node) : Bool × Node :=
  let timeStamp := n.getTimeMs32
  match n.tbfp.reTxFsm.state with
  | .idle => tbfpProcRetxIdle spi n
  | .waitTxDone => tbfpProcRetxWaitTxDone n timeStamp
  | .waitAck => tbfpProcRetxWaitAck n timeStamp

/-- An acknowledgement was received.  A serial number that is not the expected one is only logged. -/
def tbfpRetxAck (n : Node) (serNum : UInt16) : Bool × Node :=
  (true, { n with trace := .gotAck serNum :: n.trace }.raise .rxAck)

def tbfpRetxTxDone (n : Node) (interface : Interfaces) : Bool × Node :=
  if n.tbfp.interface = interface then (true, n.raise .txDone) else (false, n)

/-! ### What the radio accepts -/

/-- The radio starts a transmission of that length. -/
def Sx1262.Takes (radio : Sx1262) (spi : Bool) (len : Nat) : Prop :=
  radio.txMute = false ∧ radio.txDone = true ∧ 0 < len ∧ len ≤ sx1262MaxFrameSize ∧ spi = true

instance (radio : Sx1262) (spi : Bool) (len : Nat) : Decidable (radio.Takes spi len) := by
  unfold Sx1262.Takes
  infer_instance

private theorem sx1262StartTx_fst (radio : Sx1262) (buf : List UInt8) (len : UInt16) :
    (sx1262StartTx spi radio buf len).1 = true ↔ radio.Takes spi len.toNat := by
  unfold sx1262StartTx Sx1262.Takes
  by_cases hmute : radio.txMute = false
  · by_cases hdone : radio.txDone = true
    · by_cases hlen : 0 < len.toNat ∧ len.toNat ≤ sx1262MaxFrameSize
      · simp [hmute, hdone, hlen]
      · simp only [hmute, hdone, hlen, if_true, if_false]
        simp
        omega
    · simp [hmute, hdone]
  · simp [hmute]

private theorem sx1262StartTx_fifo {radio : Sx1262} {buf : List UInt8} {len : UInt16} (h : radio.Takes spi len.toNat) :
    (sx1262StartTx spi radio buf len).2.fifo = buf.take len.toNat := by
  obtain ⟨hmute, hdone, hpos, hmax, -⟩ := h
  simp [sx1262StartTx, hmute, hdone, hpos, hmax]

/-! ### What one attempt does -/

theorem sendTry_of_takes (h : n.radio.Takes spi n.tbfp.txFrameLen.toUInt16.toNat) :
    ∃ radio, sendTry spi n = (true, { n with
      radio := radio
      tbfp.reTxFsm.timeStampStartMs := n.getTimeMs32
      tbfp.reTxFsm.state := .waitTxDone
      tbfp.reTxFsm.retxCnt := n.tbfp.reTxFsm.retxCnt - 1
      trace := .sent (n.tbfp.txFrame.bytes.take n.tbfp.txFrameLen.toUInt16.toNat) :: n.trace }) := by
  have hres := (sx1262StartTx_fst n.radio n.tbfp.txFrame.bytes n.tbfp.txFrameLen.toUInt16).2 h
  have hfifo := @sx1262StartTx_fifo spi n.radio n.tbfp.txFrame.bytes _ h
  refine ⟨(sx1262StartTx spi n.radio n.tbfp.txFrame.bytes n.tbfp.txFrameLen.toUInt16).2, ?_⟩
  rw [sendTry]
  simp [hres, hfifo]

theorem sendTry_of_not_takes (h : ¬ n.radio.Takes spi n.tbfp.txFrameLen.toUInt16.toNat) :
    ∃ radio, sendTry spi n = (false, { n with radio := radio, tbfp.reTxFsm.state := .idle }) := by
  have hres : (sx1262StartTx spi n.radio n.tbfp.txFrame.bytes n.tbfp.txFrameLen.toUInt16).1 = false := by
    rw [Bool.eq_false_iff]
    exact fun htrue => h ((sx1262StartTx_fst _ _ _).1 htrue)
  refine ⟨(sx1262StartTx spi n.radio n.tbfp.txFrame.bytes n.tbfp.txFrameLen.toUInt16).2, ?_⟩
  rw [sendTry]
  simp [hres]

/-- The radio starts a transmission of the frame in the buffer. -/
def Node.Takes (n : Node) (spi : Bool) : Prop := n.radio.Takes spi n.tbfp.txFrameLen.toUInt16.toNat

/-- What the retry path hands to the radio. -/
def Node.frame (n : Node) : List UInt8 := n.tbfp.txFrame.bytes.take n.tbfp.txFrameLen.toUInt16.toNat

/-- The node after one attempt to send the frame in the buffer. -/
structure Attempt (spi : Bool) (n m : Node) : Prop where
  interface : m.tbfp.interface = n.tbfp.interface
  preambleVal : m.tbfp.preambleVal = n.tbfp.preambleVal
  sNum : m.tbfp.sNum = n.tbfp.sNum
  txFrame : m.tbfp.txFrame = n.tbfp.txFrame
  txFrameLen : m.tbfp.txFrameLen = n.tbfp.txFrameLen
  input : m.tbfp.reTxFsm.input = n.tbfp.reTxFsm.input
  ackRxCnt : m.tbfp.reTxFsm.ackRxCnt = n.tbfp.reTxFsm.ackRxCnt
  outcome :
    (n.Takes spi ∧ m.tbfp.reTxFsm.state = .waitTxDone ∧ m.tbfp.reTxFsm.retxCnt = n.tbfp.reTxFsm.retxCnt - 1 ∧
      m.trace = .sent n.frame :: n.trace) ∨
    (¬ n.Takes spi ∧ m.tbfp.reTxFsm.state = .idle ∧ m.tbfp.reTxFsm.retxCnt = n.tbfp.reTxFsm.retxCnt ∧
      m.trace = n.trace)

theorem Attempt.frame {m : Node} (h : Attempt spi n m) : m.frame = n.frame := by
  rw [Node.frame, h.txFrame, h.txFrameLen, Node.frame]

/-- An attempt ends outside of `TBFP_WAIT_ACK`. -/
theorem Attempt.state_ne_waitAck {m : Node} (h : Attempt spi n m) : m.tbfp.reTxFsm.state ≠ .waitAck := by
  rcases h.outcome with ⟨-, hstate, -⟩ | ⟨-, hstate, -⟩
  · simp [hstate]
  · simp [hstate]

theorem sendTry_attempt (spi : Bool) (n : Node) : Attempt spi n (sendTry spi n).2 := by
  by_cases h : n.Takes spi
  · obtain ⟨radio, heq⟩ := sendTry_of_takes h
    rw [heq]
    exact ⟨rfl, rfl, rfl, rfl, rfl, rfl, rfl, .inl ⟨h, rfl, rfl, rfl⟩⟩
  · obtain ⟨radio, heq⟩ := sendTry_of_not_takes h
    rw [heq]
    exact ⟨rfl, rfl, rfl, rfl, rfl, rfl, rfl, .inr ⟨h, rfl, rfl, rfl⟩⟩

/-- What `tbfp_retx_start` attempts to send. -/
def Node.accept (n : Node) (array : Frame) : Node :=
  { n.loadFrame array with
    tbfp.reTxFsm.txDoneTimeOutMs := n.radio.frameTimeMs + txDoneExtraTimeMs
    tbfp.reTxFsm.retxCnt := tbfpRetxTryMax }

theorem tbfpRetxStart_nil {array : Frame} (h : array.bytes.length = 0) : tbfpRetxStart spi n array = (false, n) := by
  simp [tbfpRetxStart, h]

theorem tbfpRetxStart_eq {array : Frame} (h : 0 < array.bytes.length) (hi : n.tbfp.interface = .sx1262) :
    tbfpRetxStart spi n array = sendTry spi (n.accept array) := by
  simp [tbfpRetxStart, h, hi, Node.loadFrame, Node.accept]

private theorem Node.accept_length (n : Node) (array : Frame) :
    (n.accept array).tbfp.txFrameLen.toUInt16.toNat = array.bytes.length := by
  have hle := array.length_le
  have hmax := tbfpMaxFrame_eq
  simp [Node.accept, Node.loadFrame]
  omega

theorem Node.accept_frame (n : Node) (array : Frame) : (n.accept array).frame = array.bytes := by
  rw [Node.frame, Node.accept_length]
  exact TxFrame.copy_zero_bytes _ array

theorem Node.accept_takes (n : Node) (array : Frame) :
    (n.accept array).Takes spi ↔ n.radio.Takes spi array.bytes.length := by
  rw [Node.Takes, Node.accept_length]
  rfl

@[simp] theorem accept_trace (n : Node) (array : Frame) : (n.accept array).trace = .given array.bytes :: n.trace := rfl
@[simp] theorem accept_input (n : Node) (array : Frame) :
    (n.accept array).tbfp.reTxFsm.input = n.tbfp.reTxFsm.input := rfl

/-! ### What one poll does -/

theorem waitTxDone_txDone (h : n.tbfp.reTxFsm.input = .txDone) (t : UInt32) :
    tbfpProcRetxWaitTxDone n t =
      (true, n.move { n.tbfp.reTxFsm with state := .waitAck, timeStampStartMs := t }) := by
  simp [tbfpProcRetxWaitTxDone, h]

theorem waitTxDone_timeOut (h : n.tbfp.reTxFsm.input = .txDoneTimeOut) (t : UInt32) :
    tbfpProcRetxWaitTxDone n t =
      (false, n.move { n.tbfp.reTxFsm with
        state := .idle
        errCnt := n.tbfp.reTxFsm.errCnt + 1
        errTxDone := n.tbfp.reTxFsm.errTxDone + 1
        timeStampStartMs := t }) := by
  simp [tbfpProcRetxWaitTxDone, h]

theorem waitTxDone_other (h : n.tbfp.reTxFsm.input ≠ .txDone) (h' : n.tbfp.reTxFsm.input ≠ .txDoneTimeOut)
    (t : UInt32) :
    (tbfpProcRetxWaitTxDone n t).2 =
      if n.tbfp.reTxFsm.txDoneTimeOutMs < t - n.tbfp.reTxFsm.timeStampStartMs then n.raise .txDoneTimeOut else n := by
  cases hi : n.tbfp.reTxFsm.input with
  | txDone => exact absurd hi h
  | txDoneTimeOut => exact absurd hi h'
  | none | rxAck | rxAckTimeOut | txFrame =>
    simp only [tbfpProcRetxWaitTxDone, hi]
    split <;> rfl

theorem waitAck_rxAck (h : n.tbfp.reTxFsm.input = .rxAck) (t : UInt32) :
    tbfpProcRetxWaitAck n t =
      (true, n.move { n.tbfp.reTxFsm with
        state := .idle
        timeStampStartMs := n.getTimeMs32
        spinCnt := n.tbfp.reTxFsm.spinCnt + 1
        ackRxCnt := n.tbfp.reTxFsm.ackRxCnt + 1
        retxCnt := 0 }) := by
  simp [tbfpProcRetxWaitAck, h]

theorem waitAck_timeOut (h : n.tbfp.reTxFsm.input = .rxAckTimeOut) (t : UInt32) :
    ∃ fsm : TbfpReTxFsm, (tbfpProcRetxWaitAck n t).2 = n.move fsm ∧ fsm.state = .idle ∧
      fsm.ackRxCnt = n.tbfp.reTxFsm.ackRxCnt ∧ fsm.retxCnt = n.tbfp.reTxFsm.retxCnt ∧
      fsm.input = n.tbfp.reTxFsm.input := by
  refine ⟨(tbfpProcRetxWaitAck n t).2.tbfp.reTxFsm, ?_⟩
  simp [tbfpProcRetxWaitAck, h, Node.move]

theorem waitAck_other (h : n.tbfp.reTxFsm.input ≠ .rxAck) (h' : n.tbfp.reTxFsm.input ≠ .rxAckTimeOut)
    (t : UInt32) :
    (tbfpProcRetxWaitAck n t).2 =
      if n.tbfp.reTxFsm.txDoneTimeOutMs + txDoneExtraTimeMs < t - n.tbfp.reTxFsm.timeStampStartMs then
        n.raise .rxAckTimeOut
      else n := by
  cases hi : n.tbfp.reTxFsm.input with
  | rxAck => exact absurd hi h
  | rxAckTimeOut => exact absurd hi h'
  | none | txDone | txDoneTimeOut | txFrame =>
    simp only [tbfpProcRetxWaitAck, hi]
    split <;> rfl

end TiMcu.Tbfp
