import TiMcu.Tbfp.Steps

/-!
# Acknowledgements that match

A frame counts as acknowledged when the machine leaves `TBFP_WAIT_ACK` with `ack_rx_cnt` increased.  The machine does
that for every acknowledgement: `tbfp_retx_ack` compares the serial number with the expected one and logs the
difference, but writes its input either way.  So the acknowledged frame is the right one in the runs in which every
acknowledgement that arrives in `TBFP_WAIT_ACK` carries the serial number of the frame, or comes after one that did.

The invariant: an acknowledgement that waits as the input in `TBFP_WAIT_ACK` arrived in that state, because the machine
enters it with the input `TBFP_IN_TX_DONE`.
-/

namespace TiMcu.Tbfp

open Past Runs

variable {crc8SaeJ1850Calc : List UInt8 → UInt8} {n m : Node}

/-! ### The law and its condition -/

/-- An acknowledgement with that serial number was received since the last frame was given to `tbfp_retx_start`. -/
def AckSince (serNum : UInt16) (trace : List Obs) : Prop := Since NotGiven (· = .gotAck serNum) trace

/-- An acknowledgement with the serial number of the last given frame was received since. -/
def MatchingAck (trace : List Obs) : Prop := ∃ frame, LastGiven frame trace ∧ AckSince (frameSerNum frame) trace

/-- A poll in this state counts the frame as acknowledged only after an acknowledgement that matches. -/
def AcksMatch (n : Node) : Prop :=
  ∀ spi, n.tbfp.reTxFsm.state = .waitAck →
    (tbfpProcRetxOne spi n).2.tbfp.reTxFsm.state = .idle →
    (tbfpProcRetxOne spi n).2.tbfp.reTxFsm.ackRxCnt = n.tbfp.reTxFsm.ackRxCnt + 1 →
    (tbfpProcRetxOne spi n).2.tbfp.reTxFsm.retxCnt = 0 → MatchingAck n.trace

/-- An acknowledgement that arrives in `TBFP_WAIT_ACK` carries the serial number of the last given frame, or one that
does has arrived since that frame was given. -/
def AckOk (n : Node) : Event → Prop
  | .ack serNum =>
    n.tbfp.reTxFsm.state = .waitAck →
      ∃ frame, LastGiven frame n.trace ∧ (serNum = frameSerNum frame ∨ AckSince (frameSerNum frame) n.trace)
  | _ => True

/-! ### The invariant -/

structure AckInv (n : Node) : Prop where
  interface : n.tbfp.interface = .sx1262
  matching : n.tbfp.reTxFsm.state = .waitAck → n.tbfp.reTxFsm.input = .rxAck → MatchingAck n.trace

theorem Quiet.ackInv (h : Quiet n m) (hn : AckInv n) : AckInv m where
  interface := h.interface.trans hn.interface
  matching hstate hinput := by
    rw [h.trace]
    exact hn.matching (h.state ▸ hstate) (h.input ▸ hinput)

theorem Polled.ackInv {spi : Bool} (h : Polled spi n m) (hn : AckInv n) : AckInv m := by
  have hi := hn.interface
  cases h with
  | rest => exact hn
  | tried hstate hcnt h => exact ⟨h.interface.trans hi, fun hwait => absurd hwait h.state_ne_waitAck⟩
  | onAir hstate hinput h =>
    refine ⟨hi, fun _ hack => ?_⟩
    have hdone := h.input.trans hinput
    simp only [Node.move] at hack
    rw [hdone] at hack
    cases hack
  | lackTxDone hstate hinput h => exact ⟨hi, fun hwait => by simp [Node.move, h.state] at hwait⟩
  | txDoneTimeOut hstate => exact ⟨hi, fun _ hack => by simp [Node.raise] at hack⟩
  | ackOk hstate hinput hidle hcnt hack => exact ⟨hi, fun hwait => by simp [Node.move, hidle] at hwait⟩
  | lackAck hstate hinput h => exact ⟨hi, fun hwait => by simp [Node.move, h.state] at hwait⟩
  | ackTimeOut hstate => exact ⟨hi, fun _ hack => by simp [Node.raise] at hack⟩

theorem Stepped.ackInv {e : Event} (h : Stepped n e m) (hn : AckInv n) (hok : AckOk n e) : AckInv m := by
  have hi := hn.interface
  cases h with
  | polled h => exact h.ackInv hn
  | txDone radio => exact ⟨hi, fun _ hack => by simp [Node.raise] at hack⟩
  | ack serNum =>
    refine ⟨hi, fun hwait _ => ?_⟩
    obtain ⟨frame, hgiven, hser⟩ := hok hwait
    have hother : NotGiven (.raised .rxAck) := fun f => by simp
    have hgot : NotGiven (.gotAck serNum) := fun f => by simp
    refine ⟨frame, (hgiven.cons hgot).cons hother, Since.cons hother ?_⟩
    rcases hser with rfl | hser
    · exact Since.here rfl
    · exact Since.cons hgot hser
  | given he hb hradio h =>
    exact ⟨h.interface.trans (hb.interface.trans hi), fun hwait => absurd hwait h.state_ne_waitAck⟩
  | rebuilt he h => exact h.ackInv hn
  | quiet h hframe => exact h.ackInv hn

/-- In `TBFP_WAIT_ACK` only the input `TBFP_IN_RX_ACK` counts the frame as acknowledged. -/
theorem Polled.rxAck {spi : Bool} (h : Polled spi n m) (hwait : n.tbfp.reTxFsm.state = .waitAck)
    (hidle : m.tbfp.reTxFsm.state = .idle) (hcnt : m.tbfp.reTxFsm.ackRxCnt = n.tbfp.reTxFsm.ackRxCnt + 1) :
    n.tbfp.reTxFsm.input = .rxAck := by
  cases h with
  | rest => simp [hwait] at hidle
  | tried hstate | onAir hstate | lackTxDone hstate | txDoneTimeOut hstate => simp [hwait] at hstate
  | ackOk hstate hinput => exact hinput
  | lackAck hstate hinput h =>
    have hsame : n.tbfp.reTxFsm.ackRxCnt = n.tbfp.reTxFsm.ackRxCnt + 1 := h.ackRxCnt.symm.trans hcnt
    simp at hsame
  | ackTimeOut hstate => simp [Node.raise, hwait] at hidle

private theorem AckInv.acksMatch (h : AckInv n) : AcksMatch n := by
  intro spi hwait hidle hcnt _
  exact h.matching hwait ((tbfpProcRetxOne_polled spi n).rxAck hwait hidle hcnt)

/-! ### Every run -/

private theorem init_ackInv (preambleVal : UInt8) (frameTimeMs : UInt32) (now : Nat) :
    AckInv (Node.init preambleVal frameTimeMs now) :=
  ⟨rfl, fun hwait => by simp [Node.init] at hwait⟩

/-- In every run whose acknowledgements meet the condition, a frame counts as acknowledged only after an
acknowledgement with its serial number. -/
theorem acknowledged_only_by_matching_ack (preambleVal : UInt8) (frameTimeMs : UInt32) (now : Nat) (es : List Event)
    (h : Guarded (step crc8SaeJ1850Calc) AckOk (Node.init preambleVal frameTimeMs now) es) :
    AcksMatch (run (step crc8SaeJ1850Calc) (Node.init preambleVal frameTimeMs now) es) :=
  (h.invariant (init_ackInv preambleVal frameTimeMs now)
    fun _ e hn hok => (step_stepped hn.interface e).ackInv hn hok).acksMatch

/-- A chat frame with serial number 1 is sent, and an acknowledgement arrives. -/
def chatRun (serNum : UInt16) : Node :=
  run (step crc8SaeJ1850) (Node.init 0x1E 100 0) [.send chatPayload 0 .need true, .txDone, .proc true, .ack serNum]

private theorem chat_trace :
    (run (step crc8SaeJ1850) (Node.init 0x1E 100 0) [.send chatPayload 0 .need true, .txDone, .proc true]).trace =
      [.moved .txDone, .raised .txDone, .sent [30, 128, 1, 0, 1, 0, 67, 195],
        .given [30, 128, 1, 0, 1, 0, 67, 195]] := by
  decide +kernel

private theorem chat_lastGiven :
    LastGiven [30, 128, 1, 0, 1, 0, 67, 195]
      (run (step crc8SaeJ1850) (Node.init 0x1E 100 0) [.send chatPayload 0 .need true, .txDone, .proc true]).trace := by
  rw [chat_trace]
  simp [LastGiven, Since, NotGiven]

theorem acknowledged_only_by_matching_ack_chat : AcksMatch (chatRun 1) :=
  acknowledged_only_by_matching_ack 0x1E 100 0 _
    ⟨trivial, trivial, trivial, fun _ => ⟨_, chat_lastGiven, .inl rfl⟩, trivial⟩

/-- The acknowledgement of another frame ends the wait as well. -/
theorem not_acknowledged_only_by_matching_ack :
    ¬ ∀ es, AcksMatch (run (step crc8SaeJ1850) (Node.init 0x1E 100 0) es) := by
  intro h
  have hmatch : MatchingAck (chatRun 0x1234).trace :=
    h [.send chatPayload 0 .need true, .txDone, .proc true, .ack 0x1234] true (by decide +kernel) (by decide +kernel)
      (by decide +kernel) (by decide +kernel)
  have htrace : (chatRun 0x1234).trace =
      [.raised .rxAck, .gotAck 0x1234, .moved .txDone, .raised .txDone, .sent [30, 128, 1, 0, 1, 0, 67, 195],
        .given [30, 128, 1, 0, 1, 0, 67, 195]] := by
    decide +kernel
  rw [htrace] at hmatch
  obtain ⟨frame, hgiven, hack⟩ := hmatch
  have hframe : frame = [30, 128, 1, 0, 1, 0, 67, 195] := by
    simpa [LastGiven, Since, NotGiven, eq_comm] using hgiven
  subst hframe
  have hser : frameSerNum [30, 128, 1, 0, 1, 0, 67, 195] = 1 := by decide
  rw [hser] at hack
  simp [AckSince, Since, NotGiven] at hack

end TiMcu.Tbfp
