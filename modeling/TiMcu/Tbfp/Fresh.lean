import TiMcu.Tbfp.Steps

/-!
# Events are used once and in their attempt

The producers and the machine share one variable, `input`, and nothing clears it: a value that took the machine out of
a state is still there in the next one.  Two of the values do harm.  When a transmission starts while the input is
`TBFP_IN_TX_DONE` or `TBFP_IN_TX_DONE_TIME_OUT`, the next poll takes the old event for one of the new transmission.
Every other value is overwritten before the machine reacts to its kind again.  So the law holds in the runs in which no
transmission starts with one of these two inputs.

The invariant: an input that the present waiting state reacts to was raised after the last transition and the last
start.
-/

namespace TiMcu.Tbfp

open Past Runs

variable {crc8SaeJ1850Calc : List UInt8 → UInt8} {n m : Node}

/-! ### The law and its condition -/

/-- The entry is neither a transition nor the start of a transmission. -/
def Unmoved (o : Obs) : Prop := (∀ input, o ≠ .moved input) ∧ ∀ frame, o ≠ .sent frame

/-- The event was raised after the last transition and the last start of a transmission. -/
def Pending (input : TbfpReTxInput) (trace : List Obs) : Prop := Since Unmoved (· = .raised input) trace

/-- Every transition is caused by an event that was raised after the transition before and after the start of the
present transmission. -/
def EventsFresh (trace : List Obs) : Prop :=
  Always (fun o before => ∀ input, o = .moved input → Pending input before) trace

/-- A transition or a start and a later transition have an event between them that caused the later one. -/
theorem EventsFresh.raised_between {newer between older : List Obs} {input : TbfpReTxInput} {o : Obs}
    (h : EventsFresh (newer ++ .moved input :: (between ++ o :: older)))
    (ho : (∃ i, o = .moved i) ∨ ∃ frame, o = .sent frame) : .raised input ∈ between := by
  have hpending : Pending input (between ++ o :: older) := always_iff.1 h newer _ _ rfl input rfl
  have hstops : ¬ Unmoved o := by
    rintro ⟨hmoved, hsent⟩
    rcases ho with ⟨i, rfl⟩ | ⟨frame, rfl⟩
    · exact hmoved i rfl
    · exact hsent frame rfl
  have hother : o ≠ .raised input := by
    rcases ho with ⟨i, rfl⟩ | ⟨frame, rfl⟩
    · simp
    · simp
  obtain ⟨e, hmem, rfl⟩ := hpending.mem_newer hstops hother
  exact hmem

/-- The event starts no transmission with a stale input. -/
def InputOk (n : Node) (e : Event) : Prop :=
  (∀ spi len, Gives spi e len → n.radio.Takes spi len → ¬ Stale n) ∧
  ∀ spi, e = .proc spi → n.tbfp.reTxFsm.state = .idle → 0 < n.tbfp.reTxFsm.retxCnt → n.Takes spi → ¬ Stale n

/-! ### The invariant -/

/-- The input takes the machine out of the waiting state. -/
def Reacts (state : TbfpReTxState) (input : TbfpReTxInput) : Prop :=
  state = .waitTxDone ∧ (input = .txDone ∨ input = .txDoneTimeOut) ∨
  state = .waitAck ∧ (input = .rxAck ∨ input = .rxAckTimeOut)

structure FreshInv (n : Node) : Prop where
  interface : n.tbfp.interface = .sx1262
  pending : Reacts n.tbfp.reTxFsm.state n.tbfp.reTxFsm.input → Pending n.tbfp.reTxFsm.input n.trace
  fresh : EventsFresh n.trace

theorem EventsFresh.cons {trace : List Obs} {o : Obs} (ho : ∀ input, o ≠ .moved input) (h : EventsFresh trace) :
    EventsFresh (o :: trace) := Always.cons (fun input heq => absurd heq (ho input)) h

private theorem pending_raised (input : TbfpReTxInput) (trace : List Obs) : Pending input (.raised input :: trace) :=
  Since.here rfl

theorem FreshInv.raise (hn : FreshInv n) (input : TbfpReTxInput) : FreshInv (n.raise input) where
  interface := hn.interface
  pending _ := pending_raised input n.trace
  fresh := hn.fresh.cons fun i => by simp

/-- A transition uses up the input: in the new state the machine does not react to it. -/
theorem FreshInv.move {fsm : TbfpReTxFsm} (hn : FreshInv n)
    (hreacts : Reacts n.tbfp.reTxFsm.state n.tbfp.reTxFsm.input) (hused : ¬ Reacts fsm.state fsm.input) :
    FreshInv (n.move fsm) where
  interface := hn.interface
  pending h := absurd h hused
  fresh := by
    refine Always.cons (fun input heq => ?_) hn.fresh
    obtain rfl := Obs.moved.inj heq
    exact hn.pending hreacts

theorem Quiet.freshInv (h : Quiet n m) (hn : FreshInv n) : FreshInv m := by
  refine ⟨h.interface.trans hn.interface, ?_, h.trace ▸ hn.fresh⟩
  rw [h.state, h.input, h.trace]
  exact hn.pending

private theorem not_reacts_idle (input : TbfpReTxInput) : ¬ Reacts .idle input := by
  simp [Reacts]

/-- An attempt leaves the machine idle, or waiting with the input it had before. -/
theorem Attempt.freshInv {spi : Bool} (h : Attempt spi n m) (hi : n.tbfp.interface = .sx1262)
    (hfresh : EventsFresh n.trace) (hstale : n.Takes spi → ¬ Stale n) : FreshInv m := by
  rcases h.outcome with ⟨htakes, hstate, -, htrace⟩ | ⟨-, hstate, -, htrace⟩
  · refine ⟨h.interface.trans hi, fun hreacts => ?_, ?_⟩
    · rw [hstate, h.input] at hreacts
      rcases hreacts with ⟨-, hinput⟩ | ⟨hwait, -⟩
      · exact absurd hinput (hstale htakes)
      · cases hwait
    · rw [htrace]
      exact hfresh.cons fun i => by simp
  · refine ⟨h.interface.trans hi, fun hreacts => ?_, ?_⟩
    · rw [hstate] at hreacts
      exact absurd hreacts (not_reacts_idle _)
    · rw [htrace]
      exact hfresh

theorem Polled.freshInv {spi : Bool} (h : Polled spi n m) (hn : FreshInv n)
    (hok : n.tbfp.reTxFsm.state = .idle → 0 < n.tbfp.reTxFsm.retxCnt → n.Takes spi → ¬ Stale n) : FreshInv m := by
  cases h with
  | rest => exact hn
  | tried hstate hcnt h => exact h.freshInv hn.interface hn.fresh (hok hstate hcnt)
  | onAir hstate hinput h =>
    refine hn.move (.inl ⟨hstate, .inl hinput⟩) ?_
    rw [h.state, h.input, hinput]
    simp [Reacts]
  | lackTxDone hstate hinput h =>
    refine hn.move (.inl ⟨hstate, .inr hinput⟩) ?_
    rw [h.state]
    exact not_reacts_idle _
  | txDoneTimeOut | ackTimeOut => exact hn.raise _
  | ackOk hstate hinput hidle hcnt hack =>
    refine hn.move (.inr ⟨hstate, .inl hinput⟩) ?_
    rw [hidle]
    exact not_reacts_idle _
  | lackAck hstate hinput h =>
    refine hn.move (.inr ⟨hstate, .inr hinput⟩) ?_
    rw [h.state]
    exact not_reacts_idle _

theorem Stepped.freshInv {e : Event} (h : Stepped n e m) (hn : FreshInv n) (hok : InputOk n e) : FreshInv m := by
  have hi := hn.interface
  cases h with
  | @polled spi m h => exact h.freshInv hn (hok.2 spi rfl)
  | txDone radio =>
    have hsame : FreshInv { n with radio := radio } := ⟨hi, hn.pending, hn.fresh⟩
    exact hsame.raise .txDone
  | ack serNum =>
    -- the entry between the raises does not matter: the acknowledgement overwrites the input
    exact ⟨hi, fun _ => pending_raised .rxAck _, (hn.fresh.cons fun i => by simp).cons fun i => by simp⟩
  | @given e spi b m array he hb hradio h =>
    refine h.freshInv (hb.interface.trans hi) ?_ fun htakes => ?_
    · rw [accept_trace, hb.trace]
      exact hn.fresh.cons fun i => by simp
    · rw [Node.accept_takes, hradio] at htakes
      have hfresh := hok.1 spi _ he htakes
      rwa [Stale, accept_input, hb.input]
  | rebuilt he h => exact h.freshInv hn
  | quiet h hframe => exact h.freshInv hn

/-! ### Every run -/

private theorem init_freshInv (preambleVal : UInt8) (frameTimeMs : UInt32) (now : Nat) :
    FreshInv (Node.init preambleVal frameTimeMs now) :=
  ⟨rfl, fun hreacts => absurd hreacts (not_reacts_idle _), always_nil⟩

/-- In every run that starts no transmission with a stale input, each event causes at most one transition, and none
out of the wait for a later transmission. -/
theorem events_used_in_their_attempt (preambleVal : UInt8) (frameTimeMs : UInt32) (now : Nat) (es : List Event)
    (h : Guarded (step crc8SaeJ1850Calc) InputOk (Node.init preambleVal frameTimeMs now) es) :
    EventsFresh (run (step crc8SaeJ1850Calc) (Node.init preambleVal frameTimeMs now) es).trace :=
  (h.invariant (init_freshInv preambleVal frameTimeMs now)
    fun _ e hn hok => (step_stepped hn.interface e).freshInv hn hok).fresh

private theorem InputOk.of_fresh (h : ¬ Stale n) (e : Event) : InputOk n e :=
  ⟨fun _ _ _ _ => h, fun _ _ _ _ _ => h⟩

private theorem InputOk.of_waiting {e : Event} (hstate : n.tbfp.reTxFsm.state ≠ .idle)
    (he : ∀ spi len, ¬ Gives spi e len) : InputOk n e :=
  ⟨fun spi len hgives _ => absurd hgives (he spi len), fun _ _ hidle _ _ => absurd hidle hstate⟩

theorem events_used_in_their_attempt_chat :
    EventsFresh (run (step crc8SaeJ1850) (Node.init 0x1E 100 0)
      [.send chatPayload 0 .need true, .txDone, .proc true, .ack 1, .proc true]).trace :=
  events_used_in_their_attempt 0x1E 100 0 _
    ⟨.of_fresh (by decide) _, .of_fresh (by decide +kernel) _,
      .of_waiting (by decide +kernel) (fun _ _ h => nomatch h),
      .of_waiting (by decide +kernel) (fun _ _ h => nomatch h),
      .of_fresh (by decide +kernel) _, trivial⟩

/-- The end of a transmission that no acknowledgement was asked for ends the wait of the next one at once. -/
theorem not_events_used_in_their_attempt :
    ¬ ∀ es, EventsFresh (run (step crc8SaeJ1850) (Node.init 0x1E 100 0) es).trace := by
  intro h
  have hfresh := h [.send chatPayload 0 .noNeed true, .txDone, .send chatPayload 0 .need true, .proc true]
  have htrace : (run (step crc8SaeJ1850) (Node.init 0x1E 100 0)
      [.send chatPayload 0 .noNeed true, .txDone, .send chatPayload 0 .need true, .proc true]).trace =
      [.moved .txDone, .sent [30, 128, 2, 0, 1, 0, 67, 125], .given [30, 128, 2, 0, 1, 0, 67, 125],
        .raised .txDone] := by
    decide +kernel
  rw [htrace] at hfresh
  have hpending := hfresh.1 _ rfl
  simp [Pending, Since, Unmoved] at hpending

end TiMcu.Tbfp
