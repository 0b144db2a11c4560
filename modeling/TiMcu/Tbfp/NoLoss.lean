import TiMcu.Tbfp.Steps

/-!
# No event is lost

A frame is in flight, its transmission ends in time and its acknowledgement arrives in time, with polls and time in
between.  The machine serves the frame exactly when it is polled between the two arrivals: the acknowledgement is
written over `TBFP_IN_TX_DONE`, and in `TBFP_WAIT_TX_DONE` the machine does not react to it.

While no deadline has passed, polls change nothing (`run_rest`), so a run of polls and time is one interval of time.
-/

namespace TiMcu.Tbfp

open Runs

variable {crc8SaeJ1850Calc : List UInt8 → UInt8} {n m : Node} {es : List Event}

/-! ### Polls and time -/

/-- The event is a poll. -/
def Event.isProc : Event → Bool
  | .proc _ => true
  | _ => false

/-- The event is a poll or the passage of time. -/
def Event.isWait : Event → Bool
  | .proc _ | .tick _ => true
  | _ => false

/-- The time that passes in a list of events. -/
def elapsed : List Event → Nat
  | [] => 0
  | .tick ms :: es => ms + elapsed es
  | _ :: es => elapsed es

@[simp] theorem Node.after_tbfp (n : Node) (ms : Nat) : (n.after ms).tbfp = n.tbfp := rfl
@[simp] theorem Node.after_trace (n : Node) (ms : Nat) : (n.after ms).trace = n.trace := rfl
@[simp] theorem Node.after_now (n : Node) (ms : Nat) : (n.after ms).now = n.now + ms := rfl
@[simp] theorem Node.after_zero (n : Node) : n.after 0 = n := rfl

private theorem Node.after_after (n : Node) (a b : Nat) : (n.after a).after b = n.after (a + b) := by
  simp [Node.after, Nat.add_assoc]

/-- As long as the polls at any time of the interval change nothing, only time passes. -/
theorem run_rest (hwait : ∀ e ∈ es, e.isWait = true)
    (hrest : ∀ spi, .proc spi ∈ es → ∀ ms ≤ elapsed es, (tbfpProcRetxOne spi (n.after ms)).2 = n.after ms) :
    run (step crc8SaeJ1850Calc) n es = n.after (elapsed es) := by
  induction es generalizing n with
  | nil => rfl
  | cons e es ih =>
    have hes : ∀ e ∈ es, e.isWait = true := fun e he => hwait e (List.mem_cons_of_mem _ he)
    have he : e.isWait = true := hwait e List.mem_cons_self
    cases e with
    | proc spi =>
      have hpoll := hrest spi List.mem_cons_self 0 (Nat.zero_le _)
      rw [Node.after_zero] at hpoll
      rw [run_cons, step, hpoll]
      exact ih hes fun spi hmem => hrest spi (List.mem_cons_of_mem _ hmem)
    | tick ms =>
      rw [run_cons, step, ih hes, Node.after_after, elapsed]
      intro spi hmem d hd
      rw [Node.after_after]
      exact hrest spi (List.mem_cons_of_mem _ hmem) (ms + d) (by simpa [elapsed] using hd)
    | start | txDone | ack | send | sendAck | radio => cases he

/-- A list with a poll, split at the first one. -/
private theorem split_at_proc (h : ∃ e ∈ es, e.isProc = true) :
    ∃ ticks spi rest, es = ticks ++ .proc spi :: rest ∧ ∀ e ∈ ticks, e.isProc = false := by
  induction es with
  | nil => simp at h
  | cons e es ih =>
    by_cases he : e.isProc = true
    · cases e with
      | proc spi => exact ⟨[], spi, es, rfl, by simp⟩
      | start | txDone | ack | send | sendAck | tick | radio => cases he
    · obtain ⟨e', hmem, he'⟩ := h
      have htail : ∃ e ∈ es, e.isProc = true := by
        rcases List.mem_cons.1 hmem with rfl | hmem
        · exact absurd he' he
        · exact ⟨e', hmem, he'⟩
      obtain ⟨ticks, spi, rest, rfl, hticks⟩ := ih htail
      refine ⟨e :: ticks, spi, rest, rfl, fun e' hmem => ?_⟩
      rcases List.mem_cons.1 hmem with rfl | hmem
      · simpa using he
      · exact hticks e' hmem

/-- Without polls only time passes. -/
private theorem run_ticks (hwait : ∀ e ∈ es, e.isWait = true) (hnone : ∀ e ∈ es, e.isProc = false) :
    run (step crc8SaeJ1850Calc) n es = n.after (elapsed es) :=
  run_rest hwait fun spi hmem => absurd (hnone _ hmem) (by simp [Event.isProc])

/-! ### The deadlines -/

/-- The time since the last time stamp of the machine. -/
def Node.waited (n : Node) : UInt32 := n.getTimeMs32 - n.tbfp.reTxFsm.timeStampStartMs

private theorem Node.waited_after {ms : Nat} (h : n.waited.toNat + ms < 2 ^ 32) :
    (n.after ms).waited.toNat = n.waited.toNat + ms := by
  simp only [Node.waited, Node.getTimeMs32, UInt32.toNat_sub, UInt32.toNat_ofNat', Node.after_tbfp,
    Node.after_now] at h ⊢
  omega

private theorem poll_waitTxDone_rest {spi : Bool} (hstate : n.tbfp.reTxFsm.state = .waitTxDone) (hfresh : ¬ Stale n)
    (htime : n.waited.toNat ≤ n.tbfp.reTxFsm.txDoneTimeOutMs.toNat) : (tbfpProcRetxOne spi n).2 = n := by
  have hdone : n.tbfp.reTxFsm.input ≠ .txDone := fun h => hfresh (.inl h)
  have hout : n.tbfp.reTxFsm.input ≠ .txDoneTimeOut := fun h => hfresh (.inr h)
  have hlate : ¬ n.tbfp.reTxFsm.txDoneTimeOutMs < n.getTimeMs32 - n.tbfp.reTxFsm.timeStampStartMs := by
    rw [UInt32.lt_iff_toNat_lt]
    exact Nat.not_lt.2 htime
  simp only [tbfpProcRetxOne, hstate]
  rw [waitTxDone_other hdone hout, if_neg hlate]

private theorem poll_waitAck_rest {spi : Bool} (hstate : n.tbfp.reTxFsm.state = .waitAck)
    (hinput : n.tbfp.reTxFsm.input = .txDone)
    (htime : n.waited.toNat ≤ (n.tbfp.reTxFsm.txDoneTimeOutMs + txDoneExtraTimeMs).toNat) :
    (tbfpProcRetxOne spi n).2 = n := by
  have hlate : ¬ n.tbfp.reTxFsm.txDoneTimeOutMs + txDoneExtraTimeMs <
      n.getTimeMs32 - n.tbfp.reTxFsm.timeStampStartMs := by
    rw [UInt32.lt_iff_toNat_lt]
    exact Nat.not_lt.2 htime
  simp only [tbfpProcRetxOne, hstate]
  rw [waitAck_other (by simp [hinput]) (by simp [hinput]), if_neg hlate]

private theorem poll_idle_rest {spi : Bool} (hstate : n.tbfp.reTxFsm.state = .idle)
    (hcnt : n.tbfp.reTxFsm.retxCnt = 0) :
    (tbfpProcRetxOne spi n).2 = n := by
  have hnone : ¬ 0 < n.tbfp.reTxFsm.retxCnt := by rw [hcnt]; decide
  simp only [tbfpProcRetxOne, hstate]
  rw [tbfpProcRetxIdle, if_neg hnone]

private theorem poll_txDone {spi : Bool} (hstate : n.tbfp.reTxFsm.state = .waitTxDone)
    (hinput : n.tbfp.reTxFsm.input = .txDone) :
    ∃ fsm : TbfpReTxFsm, (tbfpProcRetxOne spi n).2 = n.move fsm ∧ fsm.state = .waitAck ∧ fsm.input = .txDone ∧
      fsm.ackRxCnt = n.tbfp.reTxFsm.ackRxCnt ∧ fsm.txDoneTimeOutMs = n.tbfp.reTxFsm.txDoneTimeOutMs ∧
      fsm.timeStampStartMs = n.getTimeMs32 := by
  simp only [tbfpProcRetxOne, hstate]
  rw [waitTxDone_txDone hinput]
  exact ⟨_, rfl, rfl, hinput, rfl, rfl, rfl⟩

private theorem poll_rxAck {spi : Bool} (hstate : n.tbfp.reTxFsm.state = .waitAck)
    (hinput : n.tbfp.reTxFsm.input = .rxAck) :
    ∃ fsm : TbfpReTxFsm, (tbfpProcRetxOne spi n).2 = n.move fsm ∧ fsm.state = .idle ∧ fsm.retxCnt = 0 ∧
      fsm.ackRxCnt = n.tbfp.reTxFsm.ackRxCnt + 1 := by
  simp only [tbfpProcRetxOne, hstate]
  rw [waitAck_rxAck hinput]
  exact ⟨_, rfl, rfl, rfl, rfl⟩

/-! ### The law -/

def Obs.isSent : Obs → Bool
  | .sent _ => true
  | _ => false

/-- The transmissions of the machine. -/
def sends (trace : List Obs) : List Obs := trace.filter Obs.isSent

/-- The frame in flight in `n` is acknowledged in `m`, and nothing was sent since. -/
def Served (n m : Node) : Prop :=
  m.tbfp.reTxFsm.state = .idle ∧ m.tbfp.reTxFsm.ackRxCnt = n.tbfp.reTxFsm.ackRxCnt + 1 ∧
  sends m.trace = sends n.trace

/-- After enough polls the frame is served, whatever time passes between them. -/
def NotLost (crc8SaeJ1850Calc : List UInt8 → UInt8) (n : Node) (before between : List Event) (serNum : UInt16) :
    Prop :=
  ∃ polls, ∀ es, (∀ e ∈ es, e.isWait = true) → polls ≤ es.countP Event.isProc →
    Served n (run (step crc8SaeJ1850Calc) n (before ++ .txDone :: (between ++ .ack serNum :: es)))

/-- The frame is in flight and no old input waits. -/
structure InFlight (n : Node) : Prop where
  interface : n.tbfp.interface = .sx1262
  state : n.tbfp.reTxFsm.state = .waitTxDone
  fresh : ¬ Stale n

/-- The end of the transmission and the acknowledgement arrive before their deadlines.  The time for the
acknowledgement counts from the first poll after the end of the transmission. -/
structure InTime (n : Node) (before between : List Event) : Prop where
  txDone : n.waited.toNat + elapsed before ≤ n.tbfp.reTxFsm.txDoneTimeOutMs.toNat
  ack : elapsed (between.dropWhile fun e => !e.isProc) ≤ (n.tbfp.reTxFsm.txDoneTimeOutMs + txDoneExtraTimeMs).toNat

/-! ### The two arrivals -/

/-- The node when the transmission has ended. -/
def Node.ended (n : Node) (ms : Nat) : Node := { n.after ms with radio.txDone := true }.raise .txDone

/-- The node when the acknowledgement has arrived. -/
def Node.answered (n : Node) (serNum : UInt16) : Node := { n with trace := .gotAck serNum :: n.trace }.raise .rxAck

private theorem run_before {before : List Event} (hn : InFlight n) (hwait : ∀ e ∈ before, e.isWait = true)
    (htime : n.waited.toNat + elapsed before ≤ n.tbfp.reTxFsm.txDoneTimeOutMs.toNat) :
    run (step crc8SaeJ1850Calc) n (before ++ .txDone :: es) =
      run (step crc8SaeJ1850Calc) (n.ended (elapsed before)) es := by
  have hbound := n.tbfp.reTxFsm.txDoneTimeOutMs.toNat_lt
  have hrest : run (step crc8SaeJ1850Calc) n before = n.after (elapsed before) := by
    refine run_rest hwait fun spi _ ms hms => ?_
    have hwaited : (n.after ms).waited.toNat = n.waited.toNat + ms := Node.waited_after (by omega)
    refine poll_waitTxDone_rest hn.state hn.fresh ?_
    rw [hwaited]
    exact Nat.le_trans (Nat.add_le_add_left hms _) htime
  rw [run_append, hrest, run_cons]
  simp [step, tbfpRetxTxDone, hn.interface, Node.ended]

private theorem run_answered (n : Node) (serNum : UInt16) (es : List Event) :
    run (step crc8SaeJ1850Calc) n (.ack serNum :: es) = run (step crc8SaeJ1850Calc) (n.answered serNum) es := rfl

/-! ### A poll between the arrivals -/

/-- The first poll after the end of the transmission moves on to the wait for the acknowledgement, and the deadline
is counted from it. -/
private theorem run_between {between : List Event} (hstate : n.tbfp.reTxFsm.state = .waitTxDone)
    (hinput : n.tbfp.reTxFsm.input = .txDone) (hwait : ∀ e ∈ between, e.isWait = true)
    (hpoll : ∃ e ∈ between, e.isProc = true)
    (htime : elapsed (between.dropWhile fun e => !e.isProc) ≤
      (n.tbfp.reTxFsm.txDoneTimeOutMs + txDoneExtraTimeMs).toNat) :
    ∃ m, run (step crc8SaeJ1850Calc) n between = m ∧ m.tbfp.reTxFsm.state = .waitAck ∧
      m.tbfp.reTxFsm.ackRxCnt = n.tbfp.reTxFsm.ackRxCnt ∧ sends m.trace = sends n.trace := by
  obtain ⟨ticks, spi, rest, rfl, hticks⟩ := split_at_proc hpoll
  have hdrop : (ticks ++ .proc spi :: rest).dropWhile (fun e => !e.isProc) = .proc spi :: rest := by
    rw [List.dropWhile_append_of_pos fun e he => by simp [hticks e he]]
    rfl
  rw [hdrop] at htime
  have hbound := (n.tbfp.reTxFsm.txDoneTimeOutMs + txDoneExtraTimeMs).toNat_lt
  obtain ⟨fsm, hfirst, hack, hdone, hcnt, htimeOut, hstamp⟩ :=
    @poll_txDone (n.after (elapsed ticks)) spi hstate hinput
  have hzero : ((n.after (elapsed ticks)).move fsm).waited.toNat = 0 := by
    show ((n.after (elapsed ticks)).getTimeMs32 - fsm.timeStampStartMs).toNat = 0
    rw [hstamp]
    simp
  refine ⟨_, rfl, ?_⟩
  rw [run_append, run_ticks (fun e he => hwait e (List.mem_append_left _ he)) hticks, run_cons, step, hfirst]
  rw [run_rest fun e he => hwait e (List.mem_append_right _ (List.mem_cons_of_mem _ he))]
  · exact ⟨hack, hcnt, by simp [Node.move, sends, Obs.isSent]⟩
  · intro spi' _ ms hms
    have hrest : elapsed rest ≤ (n.tbfp.reTxFsm.txDoneTimeOutMs + txDoneExtraTimeMs).toNat := htime
    refine poll_waitAck_rest hack hdone ?_
    rw [Node.waited_after (by omega), hzero]
    show 0 + ms ≤ (fsm.txDoneTimeOutMs + txDoneExtraTimeMs).toNat
    rw [htimeOut, Node.after_tbfp]
    omega

/-- The first poll after the acknowledgement counts it, and the later ones have nothing to do. -/
private theorem run_served (hstate : n.tbfp.reTxFsm.state = .waitAck) (hinput : n.tbfp.reTxFsm.input = .rxAck)
    (hwait : ∀ e ∈ es, e.isWait = true) (hpoll : ∃ e ∈ es, e.isProc = true) :
    Served n (run (step crc8SaeJ1850Calc) n es) := by
  obtain ⟨ticks, spi, rest, rfl, hticks⟩ := split_at_proc hpoll
  obtain ⟨fsm, hfirst, hidle, hcnt, hack⟩ := @poll_rxAck (n.after (elapsed ticks)) spi hstate hinput
  rw [run_append, run_ticks (fun e he => hwait e (List.mem_append_left _ he)) hticks, run_cons, step, hfirst]
  rw [run_rest fun e he => hwait e (List.mem_append_right _ (List.mem_cons_of_mem _ he))]
  · exact ⟨hidle, hack, by simp [Node.move, sends, Obs.isSent]⟩
  · intro spi' _ ms _
    exact poll_idle_rest hidle hcnt

/-! ### No poll between the arrivals -/

/-- The end of the transmission is forgotten: polls and time count no acknowledgement any more. -/
structure Forgotten (cnt : UInt32) (n : Node) : Prop where
  state : n.tbfp.reTxFsm.state ≠ .waitAck
  input : n.tbfp.reTxFsm.input ≠ .txDone
  ackRxCnt : n.tbfp.reTxFsm.ackRxCnt = cnt

private theorem Polled.forgotten {spi : Bool} {cnt : UInt32} (h : Polled spi n m) (hn : Forgotten cnt n) :
    Forgotten cnt m := by
  cases h with
  | rest => exact hn
  | tried hstate hcnt h => exact ⟨h.state_ne_waitAck, h.input ▸ hn.input, h.ackRxCnt.trans hn.ackRxCnt⟩
  | onAir hstate hinput h => exact absurd hinput hn.input
  | lackTxDone hstate hinput h =>
    have hidle : TbfpReTxState.idle ≠ .waitAck := by decide
    exact ⟨h.state ▸ hidle, fun hdone => hn.input (h.input.symm.trans hdone), h.ackRxCnt.trans hn.ackRxCnt⟩
  | txDoneTimeOut hstate => exact ⟨hn.state, by simp [Node.raise], hn.ackRxCnt⟩
  | ackOk hstate | lackAck hstate | ackTimeOut hstate => exact absurd hstate hn.state

private theorem run_forgotten {cnt : UInt32} (hwait : ∀ e ∈ es, e.isWait = true) (hn : Forgotten cnt n) :
    Forgotten cnt (run (step crc8SaeJ1850Calc) n es) := by
  induction es generalizing n with
  | nil => exact hn
  | cons e es ih =>
    have hes : ∀ e ∈ es, e.isWait = true := fun e he => hwait e (List.mem_cons_of_mem _ he)
    have he : e.isWait = true := hwait e List.mem_cons_self
    cases e with
    | proc spi => exact ih hes ((tbfpProcRetxOne_polled spi n).forgotten hn)
    | tick ms => exact ih hes ⟨hn.state, hn.input, hn.ackRxCnt⟩
    | start | txDone | ack | send | sendAck | radio => cases he

/-! ### When the frame is served -/

private theorem Served.of_same {b : Node} (h : Served b m) (hcnt : b.tbfp.reTxFsm.ackRxCnt = n.tbfp.reTxFsm.ackRxCnt)
    (hsends : sends b.trace = sends n.trace) : Served n m :=
  ⟨h.1, hcnt ▸ h.2.1, h.2.2.trans hsends⟩

private theorem NotLost.polled_between {before between : List Event} {serNum : UInt16} (hn : InFlight n)
    (hbefore : ∀ e ∈ before, e.isWait = true) (hbetween : ∀ e ∈ between, e.isWait = true)
    (htime : InTime n before between) (h : NotLost crc8SaeJ1850Calc n before between serNum) :
    ∃ e ∈ between, e.isProc = true := by
  by_contra hnone
  have hticks : ∀ e ∈ between, e.isProc = false := by
    intro e he
    rw [Bool.eq_false_iff]
    exact fun hproc => hnone ⟨e, he, hproc⟩
  obtain ⟨polls, hserved⟩ := h
  have hwait : ∀ e ∈ List.replicate polls (Event.proc true), e.isWait = true := by
    intro e he
    rw [List.eq_of_mem_replicate he]
    rfl
  have hs := hserved (List.replicate polls (.proc true)) hwait (by rw [List.countP_replicate]; simp [Event.isProc])
  rw [run_before hn hbefore htime.txDone, run_append, run_ticks hbetween hticks, run_answered] at hs
  have hforgotten : Forgotten n.tbfp.reTxFsm.ackRxCnt
      (((n.ended (elapsed before)).after (elapsed between)).answered serNum) := by
    refine ⟨?_, by simp [Node.answered, Node.raise], rfl⟩
    show n.tbfp.reTxFsm.state ≠ .waitAck
    simp [hn.state]
  have hcnt := (@run_forgotten crc8SaeJ1850Calc _ _ _ hwait hforgotten).ackRxCnt
  have hsame : n.tbfp.reTxFsm.ackRxCnt = n.tbfp.reTxFsm.ackRxCnt + 1 := hcnt.symm.trans hs.2.1
  simp at hsame

private theorem notLost_of_polled_between {before between : List Event} (hn : InFlight n)
    (hbefore : ∀ e ∈ before, e.isWait = true) (hbetween : ∀ e ∈ between, e.isWait = true)
    (htime : InTime n before between) (serNum : UInt16) (hpoll : ∃ e ∈ between, e.isProc = true) :
    NotLost crc8SaeJ1850Calc n before between serNum := by
  refine ⟨1, fun es hwait hpolls => ?_⟩
  have hes : ∃ e ∈ es, e.isProc = true := List.countP_pos_iff.1 hpolls
  rw [run_before hn hbefore htime.txDone, run_append]
  obtain ⟨m, hm, hack, hcnt, hsends⟩ :=
    @run_between crc8SaeJ1850Calc (n.ended (elapsed before)) between hn.state rfl hbetween hpoll htime.ack
  rw [hm, run_answered]
  have hserved : Served (m.answered serNum) (run (step crc8SaeJ1850Calc) (m.answered serNum) es) :=
    run_served hack rfl hwait hes
  have hsent : sends m.trace = sends n.trace := by
    rw [hsends]
    simp [Node.ended, Node.raise, sends, Obs.isSent]
  exact hserved.of_same hcnt (by simpa [Node.answered, Node.raise, sends, Obs.isSent] using hsent)

/-- A frame whose transmission ends in time and whose acknowledgement arrives in time is served, with no further
transmission, if and only if the machine is polled between the two arrivals. -/
theorem notLost_iff_polled_between (n : Node) (before between : List Event) (hn : InFlight n)
    (hbefore : ∀ e ∈ before, e.isWait = true) (hbetween : ∀ e ∈ between, e.isWait = true)
    (htime : InTime n before between) (serNum : UInt16) :
    NotLost crc8SaeJ1850Calc n before between serNum ↔ ∃ e ∈ between, e.isProc = true :=
  ⟨fun h => h.polled_between hn hbefore hbetween htime,
    notLost_of_polled_between hn hbefore hbetween htime serNum⟩

/-- A chat frame in flight. -/
def chatInFlight : Node := step crc8SaeJ1850 (Node.init 0x1E 100 0) (.send chatPayload 0 .need true)

private theorem chatInFlight_inFlight :
    InFlight chatInFlight := ⟨by decide +kernel, by decide +kernel, by decide +kernel⟩

/-- With a poll between the arrivals the chat frame is served. -/
theorem notLost_iff_polled_between_chat : NotLost crc8SaeJ1850 chatInFlight [.tick 60] [.proc true, .tick 30] 1 :=
  (notLost_iff_polled_between chatInFlight [.tick 60] [.proc true, .tick 30] chatInFlight_inFlight
    (by decide) (by decide) ⟨by decide +kernel, by decide +kernel⟩ 1).2 ⟨.proc true, by simp, rfl⟩

/-- Without a poll between the arrivals it is not. -/
theorem not_notLost_chat :
    ¬ ∀ (n : Node) (before between : List Event) (serNum : UInt16), InFlight n →
      (∀ e ∈ before, e.isWait = true) → (∀ e ∈ between, e.isWait = true) → InTime n before between →
      serNum = frameSerNum n.frame → NotLost crc8SaeJ1850 n before between serNum := by
  intro h
  have hwait : ∀ ms, ∀ e ∈ [Event.tick ms], e.isWait = true := by simp [Event.isWait]
  have htime : InTime chatInFlight [.tick 60] [.tick 30] := ⟨by decide +kernel, by decide +kernel⟩
  have hlost := h chatInFlight [.tick 60] [.tick 30] 1 chatInFlight_inFlight (hwait 60) (hwait 30) htime
    (by decide +kernel)
  obtain ⟨e, hmem, hproc⟩ := hlost.polled_between chatInFlight_inFlight (hwait 60) (hwait 30) htime
  rw [List.mem_singleton.1 hmem] at hproc
  cases hproc

end TiMcu.Tbfp
