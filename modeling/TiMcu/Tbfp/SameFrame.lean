import TiMcu.Tbfp.Steps

/-!
# Retransmissions repeat the frame

The machine sends what stands in the frame buffer of the interface, and `tbfp_send` builds every other frame of the
interface in the same buffer.  So a retry sends the frame that was given to `tbfp_retx_start` in the runs in which the
buffer is rebuilt only while no try is left.

The invariant: while a try is left, the buffer holds the last given frame.
-/

namespace TiMcu.Tbfp

open Past Runs

variable {crc8SaeJ1850Calc : List UInt8 → UInt8} {n m : Node}

/-! ### The law and its condition -/

/-- Every frame the machine sent is the one last given to `tbfp_retx_start` before. -/
def SendsGiven (trace : List Obs) : Prop :=
  Always (fun o before => ∀ frame, o = .sent frame → LastGiven frame before) trace

/-- The buffer is rebuilt only while no try is left. -/
def BufferOk (n : Node) (e : Event) : Prop := Rebuilds e → n.tbfp.reTxFsm.retxCnt = 0

/-! ### The invariant -/

structure FrameInv (n : Node) : Prop where
  interface : n.tbfp.interface = .sx1262
  buffer : n.tbfp.reTxFsm.retxCnt ≠ 0 → LastGiven n.frame n.trace
  sends : SendsGiven n.trace

theorem SendsGiven.cons {trace : List Obs} {o : Obs} (ho : ∀ frame, o ≠ .sent frame) (h : SendsGiven trace) :
    SendsGiven (o :: trace) := Always.cons (fun frame heq => absurd heq (ho frame)) h

theorem FrameInv.raise (hn : FrameInv n) (input : TbfpReTxInput) : FrameInv (n.raise input) where
  interface := hn.interface
  buffer hcnt := (hn.buffer hcnt).cons fun f => by simp
  sends := hn.sends.cons fun f => by simp

theorem FrameInv.move {fsm : TbfpReTxFsm} (hn : FrameInv n)
    (hcnt : fsm.retxCnt ≠ 0 → n.tbfp.reTxFsm.retxCnt ≠ 0) : FrameInv (n.move fsm) where
  interface := hn.interface
  buffer h := (hn.buffer (hcnt h)).cons fun f => by simp
  sends := hn.sends.cons fun f => by simp

/-- An attempt sends what the buffer holds. -/
theorem Attempt.frameInv {spi : Bool} (h : Attempt spi n m) (hi : n.tbfp.interface = .sx1262)
    (hgiven : LastGiven n.frame n.trace) (hsends : SendsGiven n.trace) : FrameInv m := by
  rcases h.outcome with ⟨-, -, -, htrace⟩ | ⟨-, -, -, htrace⟩
  · refine ⟨h.interface.trans hi, fun _ => ?_, ?_⟩
    · rw [h.frame, htrace]
      exact hgiven.cons fun f => by simp
    · rw [htrace]
      refine Always.cons (fun frame heq => ?_) hsends
      obtain rfl := Obs.sent.inj heq
      exact hgiven
  · refine ⟨h.interface.trans hi, fun _ => ?_, ?_⟩
    · rw [h.frame, htrace]
      exact hgiven
    · rw [htrace]
      exact hsends

theorem Polled.frameInv {spi : Bool} (h : Polled spi n m) (hn : FrameInv n) : FrameInv m := by
  cases h with
  | rest => exact hn
  | tried hstate hcnt h =>
    have hleft : n.tbfp.reTxFsm.retxCnt ≠ 0 := by
      intro hzero
      rw [hzero] at hcnt
      exact absurd hcnt (by decide)
    exact h.frameInv hn.interface (hn.buffer hleft) hn.sends
  | onAir hstate hinput h | lackTxDone hstate hinput h | lackAck hstate hinput h =>
    exact hn.move fun hcnt => h.retxCnt ▸ hcnt
  | txDoneTimeOut | ackTimeOut => exact hn.raise _
  | ackOk hstate hinput hidle hcnt hack => exact hn.move fun hleft => absurd hcnt hleft

theorem Stepped.frameInv {e : Event} (h : Stepped n e m) (hn : FrameInv n) (hok : BufferOk n e) : FrameInv m := by
  have hi := hn.interface
  cases h with
  | polled h => exact h.frameInv hn
  | txDone radio =>
    have hsame : FrameInv { n with radio := radio } := ⟨hi, hn.buffer, hn.sends⟩
    exact hsame.raise .txDone
  | ack serNum =>
    have hgot : FrameInv { n with trace := .gotAck serNum :: n.trace } :=
      ⟨hi, fun hcnt => (hn.buffer hcnt).cons fun f => by simp, hn.sends.cons fun f => by simp⟩
    exact hgot.raise .rxAck
  | @given e spi b m array he hb hradio h =>
    refine h.frameInv (hb.interface.trans hi) ?_ ?_
    · rw [Node.accept_frame, accept_trace]
      exact lastGiven_given array.bytes b.trace
    · rw [accept_trace, hb.trace]
      exact hn.sends.cons fun f => by simp
  | rebuilt he h =>
    have hzero := h.retxCnt.trans (hok he)
    exact ⟨h.interface.trans hi, fun hcnt => absurd hzero hcnt, h.trace ▸ hn.sends⟩
  | quiet h hframe =>
    refine ⟨h.interface.trans hi, fun hcnt => ?_, h.trace ▸ hn.sends⟩
    rw [hframe, h.trace]
    exact hn.buffer (h.retxCnt ▸ hcnt)

/-! ### Every run -/

private theorem init_frameInv (preambleVal : UInt8) (frameTimeMs : UInt32) (now : Nat) :
    FrameInv (Node.init preambleVal frameTimeMs now) :=
  ⟨rfl, fun hcnt => absurd rfl hcnt, always_nil⟩

/-- In every run that rebuilds the buffer only while no try is left, the first transmission of a frame and all its
retries hand the radio the bytes that were given to `tbfp_retx_start`. -/
theorem retransmissions_repeat_frame (preambleVal : UInt8) (frameTimeMs : UInt32) (now : Nat) (es : List Event)
    (h : Guarded (step crc8SaeJ1850Calc) BufferOk (Node.init preambleVal frameTimeMs now) es) :
    SendsGiven (run (step crc8SaeJ1850Calc) (Node.init preambleVal frameTimeMs now) es).trace :=
  (h.invariant (init_frameInv preambleVal frameTimeMs now)
    fun _ e hn hok => (step_stepped hn.interface e).frameInv hn hok).sends

/-- A chat frame is sent, acknowledgements may be sent in reply to other frames, and the wait for the acknowledgement of
the chat frame times out. -/
def retryRun (replies : List Event) : List Event :=
  [.send chatPayload 0 .need true, .txDone, .proc true] ++ replies ++ [.tick 200, .proc true, .proc true, .proc true]

/-- A reply that goes out between two frames, when the first one is acknowledged. -/
theorem retransmissions_repeat_frame_chat :
    SendsGiven (run (step crc8SaeJ1850) (Node.init 0x1E 100 0)
      ([.send chatPayload 0 .need true, .txDone, .proc true, .ack 1, .proc true, .sendAck 7 true, .txDone] ++
        retryRun [])).trace := by
  have hneeds : ¬ Rebuilds (.send chatPayload 0 .need true) := by
    simp [Rebuilds, chatPayload, tbfpMaxPayload]
  exact retransmissions_repeat_frame 0x1E 100 0 _
    ⟨fun h => absurd h hneeds, False.elim, False.elim, False.elim, False.elim, fun _ => by decide +kernel, False.elim,
      fun h => absurd h hneeds, False.elim, False.elim, False.elim, False.elim, False.elim, False.elim, trivial⟩

/-- The retry after a reply sends the first bytes of the reply. -/
theorem not_retransmissions_repeat_frame :
    ¬ ∀ es, SendsGiven (run (step crc8SaeJ1850) (Node.init 0x1E 100 0) es).trace := by
  intro h
  have hsends := h (retryRun [.sendAck 7 true, .txDone])
  have htrace : (run (step crc8SaeJ1850) (Node.init 0x1E 100 0) (retryRun [.sendAck 7 true, .txDone])).trace =
      [.sent [30, 0, 2, 0, 3, 0, 65, 7], .moved .rxAckTimeOut, .raised .rxAckTimeOut, .raised .txDone,
        .moved .txDone, .raised .txDone, .sent [30, 128, 1, 0, 1, 0, 67, 195],
        .given [30, 128, 1, 0, 1, 0, 67, 195]] := by
    decide +kernel
  rw [htrace] at hsends
  have hgiven := hsends.1 _ rfl
  simp [LastGiven, Since] at hgiven

end TiMcu.Tbfp
