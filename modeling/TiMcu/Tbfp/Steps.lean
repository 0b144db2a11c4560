import TiMcu.Tbfp.Send
import TiMcu.Lib.Past

/-!
# What one event can do

`Polled` lists what one poll of the machine does, with the state and the input it does it in, and `Stepped` what any
event does.  Every invariant of the machine is proved from these two lists.
-/

namespace TiMcu.Tbfp

open Past

variable {crc8SaeJ1850Calc : List UInt8 → UInt8} {n m : Node} {spi : Bool}

/-! ### A poll -/

/-- The machine leaves a waiting state, with its input and the number of tries as they are. -/
structure Left (n : Node) (fsm : TbfpReTxFsm) (state : TbfpReTxState) : Prop where
  state : fsm.state = state
  input : fsm.input = n.tbfp.reTxFsm.input
  retxCnt : fsm.retxCnt = n.tbfp.reTxFsm.retxCnt
  ackRxCnt : fsm.ackRxCnt = n.tbfp.reTxFsm.ackRxCnt

inductive Polled (spi : Bool) (n : Node) : Node → Prop
  | rest : Polled spi n n
  | tried {m : Node} (hstate : n.tbfp.reTxFsm.state = .idle) (hcnt : 0 < n.tbfp.reTxFsm.retxCnt)
      (h : Attempt spi n m) : Polled spi n m
  | onAir {fsm : TbfpReTxFsm} (hstate : n.tbfp.reTxFsm.state = .waitTxDone)
      (hinput : n.tbfp.reTxFsm.input = .txDone) (h : Left n fsm .waitAck) : Polled spi n (n.move fsm)
  | lackTxDone {fsm : TbfpReTxFsm} (hstate : n.tbfp.reTxFsm.state = .waitTxDone)
      (hinput : n.tbfp.reTxFsm.input = .txDoneTimeOut) (h : Left n fsm .idle) : Polled spi n (n.move fsm)
  | txDoneTimeOut (hstate : n.tbfp.reTxFsm.state = .waitTxDone) : Polled spi n (n.raise .txDoneTimeOut)
  | ackOk {fsm : TbfpReTxFsm} (hstate : n.tbfp.reTxFsm.state = .waitAck) (hinput : n.tbfp.reTxFsm.input = .rxAck)
      (hidle : fsm.state = .idle) (hcnt : fsm.retxCnt = 0) (hack : fsm.ackRxCnt = n.tbfp.reTxFsm.ackRxCnt + 1) :
      Polled spi n (n.move fsm)
  | lackAck {fsm : TbfpReTxFsm} (hstate : n.tbfp.reTxFsm.state = .waitAck)
      (hinput : n.tbfp.reTxFsm.input = .rxAckTimeOut) (h : Left n fsm .idle) : Polled spi n (n.move fsm)
  | ackTimeOut (hstate : n.tbfp.reTxFsm.state = .waitAck) : Polled spi n (n.raise .rxAckTimeOut)

private theorem waitTxDone_polled (hstate : n.tbfp.reTxFsm.state = .waitTxDone) (t : UInt32) :
    Polled spi n (tbfpProcRetxWaitTxDone n t).2 := by
  by_cases hdone : n.tbfp.reTxFsm.input = .txDone
  · rw [waitTxDone_txDone hdone]
    exact .onAir hstate hdone ⟨rfl, rfl, rfl, rfl⟩
  · by_cases htime : n.tbfp.reTxFsm.input = .txDoneTimeOut
    · rw [waitTxDone_timeOut htime]
      exact .lackTxDone hstate htime ⟨rfl, rfl, rfl, rfl⟩
    · rw [waitTxDone_other hdone htime]
      split
      · exact .txDoneTimeOut hstate
      · exact .rest

private theorem waitAck_polled (hstate : n.tbfp.reTxFsm.state = .waitAck) (t : UInt32) :
    Polled spi n (tbfpProcRetxWaitAck n t).2 := by
  by_cases hack : n.tbfp.reTxFsm.input = .rxAck
  · rw [waitAck_rxAck hack]
    exact .ackOk hstate hack rfl rfl rfl
  · by_cases htime : n.tbfp.reTxFsm.input = .rxAckTimeOut
    · obtain ⟨fsm, heq, hidle, hcnt, hretx, hinput⟩ := waitAck_timeOut htime t
      rw [heq]
      exact .lackAck hstate htime ⟨hidle, hinput, hretx, hcnt⟩
    · rw [waitAck_other hack htime]
      split
      · exact .ackTimeOut hstate
      · exact .rest

private theorem tbfpProcRetxIdle_polled (hstate : n.tbfp.reTxFsm.state = .idle) :
    Polled spi n (tbfpProcRetxIdle spi n).2 := by
  rw [tbfpProcRetxIdle]
  by_cases hcnt : 0 < n.tbfp.reTxFsm.retxCnt
  · rw [if_pos hcnt]
    split
    · exact .tried hstate hcnt (sendTry_attempt spi n)
    · exact .rest
  · rw [if_neg hcnt]
    exact .rest

theorem tbfpProcRetxOne_polled (spi : Bool) (n : Node) : Polled spi n (tbfpProcRetxOne spi n).2 := by
  unfold tbfpProcRetxOne
  cases hstate : n.tbfp.reTxFsm.state with
  | idle => exact tbfpProcRetxIdle_polled hstate
  | waitTxDone => exact waitTxDone_polled hstate _
  | waitAck => exact waitAck_polled hstate _

/-! ### Any event -/

/-- The machine is as before; the frame buffer may have changed. -/
structure Quiet (n m : Node) : Prop where
  interface : m.tbfp.interface = n.tbfp.interface
  input : m.tbfp.reTxFsm.input = n.tbfp.reTxFsm.input
  state : m.tbfp.reTxFsm.state = n.tbfp.reTxFsm.state
  retxCnt : m.tbfp.reTxFsm.retxCnt = n.tbfp.reTxFsm.retxCnt
  ackRxCnt : m.tbfp.reTxFsm.ackRxCnt = n.tbfp.reTxFsm.ackRxCnt
  trace : m.trace = n.trace

theorem Quiet.refl (n : Node) : Quiet n n := ⟨rfl, rfl, rfl, rfl, rfl, rfl⟩

/-- The frame buffer is rebuilt and no new frame is given to the machine. -/
def Rebuilds : Event → Prop
  | .send payload _ ack _ =>
    PassesSizeTest payload.bytes.length ∧ (ack = .noNeed ∨ tbfpMaxPayload ≤ payload.bytes.length)
  | .sendAck _ _ => True
  | _ => False

/-- The event gives the machine a frame of that length. -/
inductive Gives (spi : Bool) : Event → Nat → Prop
  | start {array : Frame} (h : 0 < array.bytes.length) : Gives spi (.start array spi) array.bytes.length
  | send {payload : Payload} {lifetime : UInt8} (h : PassesSizeTest payload.bytes.length)
      (hmax : payload.bytes.length < tbfpMaxPayload) :
      Gives spi (.send payload lifetime .need spi) (payload.bytes.length + tbfpSizeOverhead)

inductive Stepped (n : Node) : Event → Node → Prop
  | polled {spi : Bool} {m : Node} (h : Polled spi n m) : Stepped n (.proc spi) m
  | txDone (radio : Sx1262) : Stepped n .txDone ({ n with radio := radio }.raise .txDone)
  | ack (serNum : UInt16) : Stepped n (.ack serNum) ({ n with trace := .gotAck serNum :: n.trace }.raise .rxAck)
  | given {e : Event} {spi : Bool} {b m : Node} {array : Frame} (he : Gives spi e array.bytes.length)
      (hb : Quiet n b) (hradio : b.radio = n.radio) (h : Attempt spi (b.accept array) m) : Stepped n e m
  | rebuilt {e : Event} {m : Node} (he : Rebuilds e) (h : Quiet n m) : Stepped n e m
  | quiet {e : Event} {m : Node} (h : Quiet n m) (hframe : m.frame = n.frame) : Stepped n e m

theorem Built.quiet {frame : Frame} {payload : Payload} (h : Built n m frame payload) : Quiet n m := by
  obtain ⟨hfsm, hinterface, -, -, htrace, -⟩ := h
  exact ⟨hinterface, by rw [hfsm], by rw [hfsm], by rw [hfsm], by rw [hfsm], htrace⟩

private theorem tbfpRetxStart_stepped {b : Node} {array : Frame} {e : Event} (hi : n.tbfp.interface = .sx1262)
    (he : Gives spi e array.bytes.length) (hb : Quiet n b) (hradio : b.radio = n.radio)
    (hpos : 0 < array.bytes.length) : Stepped n e (tbfpRetxStart spi b array).2 := by
  have hbi : b.tbfp.interface = .sx1262 := hb.interface.trans hi
  rw [tbfpRetxStart_eq hpos hbi]
  exact .given he hb hradio (sendTry_attempt spi _)

private theorem tbfpSend_stepped (hi : n.tbfp.interface = .sx1262) (spi : Bool) (payload : Payload) (lifetime : UInt8)
    (ack : TbfpAck) :
    Stepped n (.send payload lifetime ack spi) (tbfpSend crc8SaeJ1850Calc spi n payload lifetime ack).2 := by
  by_cases hpass : PassesSizeTest payload.bytes.length
  · by_cases hmax : payload.bytes.length < tbfpMaxPayload
    · obtain ⟨b, frame, hbuilt, heq⟩ := @tbfpSend_of_built crc8SaeJ1850Calc n spi payload hpass hmax lifetime ack
      rw [heq]
      cases ack with
      | need =>
        have hgives : Gives spi (.send payload lifetime .need spi) frame.bytes.length := by
          rw [hbuilt.length]
          exact .send hpass hmax
        have hpos : 0 < frame.bytes.length := by
          rw [hbuilt.length]
          exact Nat.lt_of_lt_of_le hpass.1 (Nat.le_add_right _ _)
        exact tbfpRetxStart_stepped hi hgives hbuilt.quiet hbuilt.radio hpos
      | noNeed =>
        have hq := hbuilt.quiet
        exact .rebuilt ⟨hpass, .inl rfl⟩ ⟨hq.interface, hq.input, hq.state, hq.retxCnt, hq.ackRxCnt, hq.trace⟩
    · rw [tbfpSend_of_wraps hpass (by omega)]
      exact .rebuilt ⟨hpass, .inr (by omega)⟩ ⟨rfl, rfl, rfl, rfl, rfl, rfl⟩
  · rw [tbfpSend_of_fails hpass]
    exact .quiet (.refl n) rfl

private theorem tbfpSendAck_quiet (snum : UInt16) : Quiet n (tbfpSendAck crc8SaeJ1850Calc spi n snum).2 := by
  have hpass : PassesSizeTest (ackPayload snum).bytes.length := by
    show PassesSizeTest 3
    decide
  have hmax : (ackPayload snum).bytes.length < tbfpMaxPayload := by
    show 3 < tbfpMaxPayload
    decide
  obtain ⟨b, frame, hbuilt, heq⟩ := @tbfpSend_of_built crc8SaeJ1850Calc n spi (ackPayload snum) hpass hmax 0 .noNeed
  have hq := hbuilt.quiet
  have hquiet : Quiet n (tbfpSend crc8SaeJ1850Calc spi n (ackPayload snum) 0 .noNeed).2 := by
    rw [heq]
    exact ⟨hq.interface, hq.input, hq.state, hq.retxCnt, hq.ackRxCnt, hq.trace⟩
  simp only [tbfpSendAck]
  split
  · exact ⟨hquiet.interface, hquiet.input, hquiet.state, hquiet.retxCnt, hquiet.ackRxCnt, hquiet.trace⟩
  · exact hquiet

theorem step_stepped (hi : n.tbfp.interface = .sx1262) (e : Event) : Stepped n e (step crc8SaeJ1850Calc n e) := by
  cases e with
  | start array spi =>
    by_cases hpos : 0 < array.bytes.length
    · exact tbfpRetxStart_stepped hi (.start hpos) (.refl n) rfl hpos
    · have hnil : array.bytes.length = 0 := by omega
      have heq : step crc8SaeJ1850Calc n (.start array spi) = n := by rw [step, tbfpRetxStart_nil hnil]
      rw [heq]
      exact .quiet (.refl n) rfl
  | proc spi => exact .polled (tbfpProcRetxOne_polled spi n)
  | txDone =>
    have heq : step crc8SaeJ1850Calc n .txDone = { n with radio.txDone := true }.raise .txDone := by
      simp [step, tbfpRetxTxDone, hi]
    rw [heq]
    exact .txDone _
  | ack serNum => exact .ack serNum
  | send payload lifetime ack spi => exact tbfpSend_stepped hi spi payload lifetime ack
  | sendAck snum spi => exact .rebuilt trivial (tbfpSendAck_quiet snum)
  | tick ms => exact .quiet ⟨rfl, rfl, rfl, rfl, rfl, rfl⟩ rfl
  | radio radio => exact .quiet ⟨rfl, rfl, rfl, rfl, rfl, rfl⟩ rfl

/-- No event changes the interface of the instance. -/
theorem Stepped.interface {e : Event} (h : Stepped n e m) : m.tbfp.interface = n.tbfp.interface := by
  cases h with
  | polled h =>
    cases h with
    | tried _ _ h => exact h.interface
    | rest | onAir | lackTxDone | txDoneTimeOut | ackOk | lackAck | ackTimeOut => rfl
  | txDone | ack => rfl
  | given _ hb _ h => exact h.interface.trans hb.interface
  | rebuilt _ h | quiet h _ => exact h.interface

/-- The input is one that the machine reacts to while it waits for the end of a transmission. -/
def Stale (n : Node) : Prop := n.tbfp.reTxFsm.input = .txDone ∨ n.tbfp.reTxFsm.input = .txDoneTimeOut

instance (n : Node) : Decidable (Stale n) := by
  unfold Stale
  infer_instance

/-! ### The frame the machine works for -/

/-- The entry gives the machine no frame. -/
def NotGiven (o : Obs) : Prop := ∀ frame, o ≠ .given frame

/-- The frame is the one last given to `tbfp_retx_start`. -/
def LastGiven (frame : List UInt8) (trace : List Obs) : Prop := Since NotGiven (· = .given frame) trace

theorem LastGiven.cons {frame : List UInt8} {trace : List Obs} {o : Obs} (ho : NotGiven o)
    (h : LastGiven frame trace) : LastGiven frame (o :: trace) := Since.cons ho h

theorem lastGiven_given (frame : List UInt8) (trace : List Obs) : LastGiven frame (.given frame :: trace) :=
  Since.here rfl

end TiMcu.Tbfp
