import TiMcu.Tbfp.Steps

/-!
# One outcome for every accepted frame

A frame that `tbfp_retx_start` accepted ends as acknowledged (`ack_rx_cnt`) or as given up (`no_reply_cnt` and
`silence_cnt`).  Three things break the account.  A time-out of the end of transmission on the last try makes the
machine idle and counts in `err_tx_done` only.  `tbfp_retx_start` does not ask whether the machine is idle, so a frame
can be replaced before its outcome.  And a frame that the radio refuses at once stays in the machine, although
`tbfp_retx_start` returns false: it is sent by a later poll and its outcome is counted.

So the account is right in the runs in which a frame is given only to an idle machine and a radio that takes it, and
no last try lacks the end of its transmission.  The step lemma is `outcome_step`: a busy machine stays busy with the
same counters, or becomes idle with one outcome more.
-/

namespace TiMcu.Tbfp

open Runs

variable {crc8SaeJ1850Calc : List UInt8 → UInt8} {n m : Node} {spi : Bool}

/-! ### The law and its condition -/

/-- The event is a call of `tbfp_retx_start`, by itself or by `tbfp_send`, that returns true. -/
def accepts (crc8SaeJ1850Calc : List UInt8 → UInt8) (n : Node) : Event → Bool
  | .start array spi => (tbfpRetxStart spi n array).1
  | .send payload lifetime ack spi => ack = .need && (tbfpSend crc8SaeJ1850Calc spi n payload lifetime ack).1
  | _ => false

/-- The number of accepted frames in a run. -/
def acceptedCount (crc8SaeJ1850Calc : List UInt8 → UInt8) : Node → List Event → Nat
  | _, [] => 0
  | n, e :: es =>
    (if accepts crc8SaeJ1850Calc n e then 1 else 0) + acceptedCount crc8SaeJ1850Calc (step crc8SaeJ1850Calc n e) es

/-- No counter of an outcome has changed. -/
structure SameCounts (n m : Node) : Prop where
  ackRxCnt : m.tbfp.reTxFsm.ackRxCnt = n.tbfp.reTxFsm.ackRxCnt
  noReplyCnt : m.tbfp.reTxFsm.noReplyCnt = n.tbfp.reTxFsm.noReplyCnt
  silenceCnt : m.tbfp.reTxFsm.silenceCnt = n.tbfp.reTxFsm.silenceCnt

/-- One frame more is acknowledged. -/
structure Acknowledged (n m : Node) : Prop where
  ackRxCnt : m.tbfp.reTxFsm.ackRxCnt = n.tbfp.reTxFsm.ackRxCnt + 1
  noReplyCnt : m.tbfp.reTxFsm.noReplyCnt = n.tbfp.reTxFsm.noReplyCnt
  silenceCnt : m.tbfp.reTxFsm.silenceCnt = n.tbfp.reTxFsm.silenceCnt

/-- One frame more is given up. -/
structure GivenUp (n m : Node) : Prop where
  ackRxCnt : m.tbfp.reTxFsm.ackRxCnt = n.tbfp.reTxFsm.ackRxCnt
  noReplyCnt : m.tbfp.reTxFsm.noReplyCnt = n.tbfp.reTxFsm.noReplyCnt + 1
  silenceCnt : m.tbfp.reTxFsm.silenceCnt = n.tbfp.reTxFsm.silenceCnt + 1

/-- Exactly one of the two outcomes is recorded. -/
def OneOutcome (n m : Node) : Prop := Acknowledged n m ∧ ¬ GivenUp n m ∨ GivenUp n m ∧ ¬ Acknowledged n m

/-- The run up to the state where the account of a frame is due: the machine is idle again, or the next event is another
accepted frame. -/
def Due (crc8SaeJ1850Calc : List UInt8 → UInt8) (m : Node) (rest : List Event) : Prop :=
  isTbfpRetxIdle m = true ∨ ∃ e es, rest = e :: es ∧ accepts crc8SaeJ1850Calc m e = true

/-- Every accepted frame has exactly one outcome when its account is due, and an idle machine has recorded as many
outcomes as frames were accepted. -/
structure Accounted (crc8SaeJ1850Calc : List UInt8 → UInt8) (n : Node) (es : List Event) : Prop where
  each : ∀ before e during rest, es = before ++ e :: (during ++ rest) →
    accepts crc8SaeJ1850Calc (run (step crc8SaeJ1850Calc) n before) e = true →
    acceptedCount crc8SaeJ1850Calc (run (step crc8SaeJ1850Calc) n (before ++ [e])) during = 0 →
    Due crc8SaeJ1850Calc (run (step crc8SaeJ1850Calc) n (before ++ e :: during)) rest →
    OneOutcome (run (step crc8SaeJ1850Calc) n (before ++ [e])) (run (step crc8SaeJ1850Calc) n (before ++ e :: during))
  sum : isTbfpRetxIdle (run (step crc8SaeJ1850Calc) n es) = true →
    (run (step crc8SaeJ1850Calc) n es).tbfp.reTxFsm.ackRxCnt +
      (run (step crc8SaeJ1850Calc) n es).tbfp.reTxFsm.noReplyCnt =
        UInt32.ofNat (acceptedCount crc8SaeJ1850Calc n es)

/-- A frame is given only to an idle machine and a radio that takes it, and no poll finds the last try without the end
of its transmission. -/
def OutcomeOk (n : Node) (e : Event) : Prop :=
  (∀ spi len, Gives spi e len → isTbfpRetxIdle n = true ∧ n.radio.Takes spi len) ∧
  ∀ spi, e = .proc spi → ¬ (n.tbfp.reTxFsm.state = .waitTxDone ∧ n.tbfp.reTxFsm.input = .txDoneTimeOut ∧
    n.tbfp.reTxFsm.retxCnt = 0)

/-! ### Counters -/

private theorem isTbfpRetxIdle_iff :
    isTbfpRetxIdle n = true ↔ n.tbfp.reTxFsm.state = .idle ∧ n.tbfp.reTxFsm.retxCnt = 0 := by
  simp [isTbfpRetxIdle]

theorem SameCounts.refl (n : Node) : SameCounts n n := ⟨rfl, rfl, rfl⟩

theorem SameCounts.trans {k : Node} (h : SameCounts n m) (h' : SameCounts m k) : SameCounts n k :=
  ⟨h'.ackRxCnt.trans h.ackRxCnt, h'.noReplyCnt.trans h.noReplyCnt, h'.silenceCnt.trans h.silenceCnt⟩

theorem Acknowledged.oneOutcome (h : Acknowledged n m) : OneOutcome n m := by
  refine .inl ⟨h, fun hup => ?_⟩
  have hsame := h.ackRxCnt.symm.trans hup.ackRxCnt
  simp at hsame

theorem GivenUp.oneOutcome (h : GivenUp n m) : OneOutcome n m := by
  refine .inr ⟨h, fun hack => ?_⟩
  have hsame := hack.ackRxCnt.symm.trans h.ackRxCnt
  simp at hsame

theorem SameCounts.oneOutcome {k : Node} (h : SameCounts n m) (h' : Acknowledged m k ∨ GivenUp m k) :
    Acknowledged n k ∨ GivenUp n k := by
  rcases h' with hack | hup
  · exact .inl ⟨by rw [hack.ackRxCnt, h.ackRxCnt], hack.noReplyCnt.trans h.noReplyCnt,
      hack.silenceCnt.trans h.silenceCnt⟩
  · exact .inr ⟨hup.ackRxCnt.trans h.ackRxCnt, by rw [hup.noReplyCnt, h.noReplyCnt],
      by rw [hup.silenceCnt, h.silenceCnt]⟩

private theorem oneOutcome_same {k : Node} (h' : Acknowledged n m ∨ GivenUp n m) (h : SameCounts m k) :
    Acknowledged n k ∨ GivenUp n k := by
  rcases h' with hack | hup
  · exact .inl ⟨h.ackRxCnt.trans hack.ackRxCnt, h.noReplyCnt.trans hack.noReplyCnt,
      h.silenceCnt.trans hack.silenceCnt⟩
  · exact .inr ⟨h.ackRxCnt.trans hup.ackRxCnt, h.noReplyCnt.trans hup.noReplyCnt, h.silenceCnt.trans hup.silenceCnt⟩

/-! ### One poll -/

private theorem sendTry_counts (spi : Bool) (n : Node) : SameCounts n (sendTry spi n).2 := by
  by_cases h : n.Takes spi
  · obtain ⟨radio, heq⟩ := sendTry_of_takes h
    rw [heq]
    exact ⟨rfl, rfl, rfl⟩
  · obtain ⟨radio, heq⟩ := sendTry_of_not_takes h
    rw [heq]
    exact ⟨rfl, rfl, rfl⟩

/-- What a step does to the account of a busy machine. -/
def Settles (n m : Node) : Prop :=
  isTbfpRetxIdle m = false ∧ SameCounts n m ∨ isTbfpRetxIdle m = true ∧ (Acknowledged n m ∨ GivenUp n m)

private theorem settles_of_waiting (h : m.tbfp.reTxFsm.state ≠ .idle) (hsame : SameCounts n m) : Settles n m := by
  refine .inl ⟨?_, hsame⟩
  simp [isTbfpRetxIdle, h]

private theorem waitTxDone_settles (hwait : n.tbfp.reTxFsm.state = .waitTxDone)
    (hok : ¬ (n.tbfp.reTxFsm.input = .txDoneTimeOut ∧ n.tbfp.reTxFsm.retxCnt = 0)) (t : UInt32) :
    Settles n (tbfpProcRetxWaitTxDone n t).2 := by
  by_cases hdone : n.tbfp.reTxFsm.input = .txDone
  · rw [waitTxDone_txDone hdone]
    exact settles_of_waiting (by simp [Node.move]) ⟨rfl, rfl, rfl⟩
  · by_cases htime : n.tbfp.reTxFsm.input = .txDoneTimeOut
    · -- another try is left
      have hcnt : n.tbfp.reTxFsm.retxCnt ≠ 0 := fun hzero => hok ⟨htime, hzero⟩
      rw [waitTxDone_timeOut htime]
      refine .inl ⟨?_, rfl, rfl, rfl⟩
      simp [isTbfpRetxIdle, Node.move, hcnt]
    · rw [waitTxDone_other hdone htime]
      split
      · exact settles_of_waiting (by simp [Node.raise, hwait]) ⟨rfl, rfl, rfl⟩
      · exact settles_of_waiting (by simp [hwait]) (.refl n)

private theorem waitAck_settles (hwait : n.tbfp.reTxFsm.state = .waitAck) (t : UInt32) :
    Settles n (tbfpProcRetxWaitAck n t).2 := by
  by_cases hack : n.tbfp.reTxFsm.input = .rxAck
  · rw [waitAck_rxAck hack]
    exact .inr ⟨rfl, .inl ⟨rfl, rfl, rfl⟩⟩
  · by_cases htime : n.tbfp.reTxFsm.input = .rxAckTimeOut
    · -- the frame is given up when no try is left
      by_cases hcnt : n.tbfp.reTxFsm.retxCnt = 0
      · refine .inr ⟨?_, .inr ⟨?_, ?_, ?_⟩⟩
        all_goals simp [tbfpProcRetxWaitAck, htime, hcnt, Node.move, isTbfpRetxIdle]
      · refine .inl ⟨?_, ?_, ?_, ?_⟩
        all_goals simp [tbfpProcRetxWaitAck, htime, hcnt, Node.move, isTbfpRetxIdle]
    · rw [waitAck_other hack htime]
      split
      · exact settles_of_waiting (by simp [Node.raise, hwait]) ⟨rfl, rfl, rfl⟩
      · exact settles_of_waiting (by simp [hwait]) (.refl n)

theorem Attempt.busy (h : Attempt spi n m) (hcnt : n.tbfp.reTxFsm.retxCnt ≠ 0) : isTbfpRetxIdle m = false := by
  rcases h.outcome with ⟨-, hstate, -⟩ | ⟨-, -, hleft, -⟩
  · simp [isTbfpRetxIdle, hstate]
  · simp [isTbfpRetxIdle, hleft, hcnt]

private theorem poll_settles (hi : n.tbfp.interface = .sx1262) (hbusy : isTbfpRetxIdle n = false)
    (hok : ¬ (n.tbfp.reTxFsm.state = .waitTxDone ∧ n.tbfp.reTxFsm.input = .txDoneTimeOut ∧
      n.tbfp.reTxFsm.retxCnt = 0)) (spi : Bool) : Settles n (tbfpProcRetxOne spi n).2 := by
  unfold tbfpProcRetxOne
  cases hstate : n.tbfp.reTxFsm.state with
  | idle =>
    have hcnt : n.tbfp.reTxFsm.retxCnt ≠ 0 := by
      intro hzero
      simp [isTbfpRetxIdle, hstate, hzero] at hbusy
    have hpos : 0 < n.tbfp.reTxFsm.retxCnt := UInt8.pos_iff_ne_zero.2 hcnt
    simp only [tbfpProcRetxIdle, hpos, hi, if_true]
    exact .inl ⟨(sendTry_attempt spi n).busy hcnt, sendTry_counts spi n⟩
  | waitTxDone => exact waitTxDone_settles hstate (fun h => hok ⟨hstate, h⟩) _
  | waitAck => exact waitAck_settles hstate _

/-- A poll of an idle machine does nothing. -/
private theorem poll_idle (hidle : isTbfpRetxIdle n = true) (spi : Bool) : (tbfpProcRetxOne spi n).2 = n := by
  obtain ⟨hstate, hcnt⟩ := isTbfpRetxIdle_iff.1 hidle
  simp [tbfpProcRetxOne, hstate, tbfpProcRetxIdle, hcnt]

/-! ### One event -/

private theorem accepts_start (hi : n.tbfp.interface = .sx1262) {array : Frame} (hpos : 0 < array.bytes.length) :
    (tbfpRetxStart spi n array).1 = true ↔ n.radio.Takes spi array.bytes.length := by
  rw [tbfpRetxStart_eq hpos hi, ← Node.accept_takes]
  constructor
  · intro h
    by_contra htakes
    obtain ⟨radio, heq⟩ := sendTry_of_not_takes htakes
    simp [heq] at h
  · intro htakes
    obtain ⟨radio, heq⟩ := sendTry_of_takes htakes
    rw [heq]

private theorem Built.sameCounts {frame : Frame} {payload : Payload} (h : Built n m frame payload) :
    SameCounts n m := by
  have hfsm := h.fsm
  exact ⟨by rw [hfsm], by rw [hfsm], by rw [hfsm]⟩

/-- An event that gives a frame is a call of `tbfp_retx_start` on a node with the same machine and radio. -/
private theorem Gives.start_eq {e : Event} {len : Nat} (h : Gives spi e len) :
    ∃ b array, Quiet n b ∧ b.radio = n.radio ∧ SameCounts n b ∧ array.bytes.length = len ∧ 0 < len ∧
      accepts crc8SaeJ1850Calc n e = (tbfpRetxStart spi b array).1 ∧
      step crc8SaeJ1850Calc n e = (tbfpRetxStart spi b array).2 := by
  cases h with
  | @start array hpos => exact ⟨n, array, .refl n, rfl, .refl n, rfl, hpos, rfl, rfl⟩
  | @send payload lifetime hpass hmax =>
    obtain ⟨b, frame, hbuilt, heq⟩ := @tbfpSend_of_built crc8SaeJ1850Calc n spi payload hpass hmax lifetime .need
    have hpos : 0 < payload.bytes.length + tbfpSizeOverhead := Nat.lt_of_lt_of_le hpass.1 (Nat.le_add_right _ _)
    exact ⟨b, frame, hbuilt.quiet, hbuilt.radio, hbuilt.sameCounts, hbuilt.length, hpos, by simp [accepts, heq,
      sysSentSx1262], by simp [step, heq, sysSentSx1262]⟩

theorem Gives.accepts_iff (hi : n.tbfp.interface = .sx1262) {e : Event} {len : Nat} (h : Gives spi e len) :
    accepts crc8SaeJ1850Calc n e = true ↔ n.radio.Takes spi len := by
  obtain ⟨b, array, hquiet, hradio, -, rfl, hpos, hacc, -⟩ := @Gives.start_eq crc8SaeJ1850Calc n spi e len h
  rw [hacc, accepts_start (hquiet.interface.trans hi) hpos, hradio]

/-- Only an event that gives a frame is accepted. -/
private theorem gives_of_accepts {e : Event} (h : accepts crc8SaeJ1850Calc n e = true) :
    ∃ spi len, Gives spi e len := by
  cases e with
  | start array spi =>
    by_cases hpos : 0 < array.bytes.length
    · exact ⟨spi, _, .start hpos⟩
    · simp [accepts, tbfpRetxStart, hpos] at h
  | send payload lifetime ack spi =>
    obtain ⟨rfl, hsend⟩ : ack = .need ∧ (tbfpSend crc8SaeJ1850Calc spi n payload lifetime ack).1 = true := by
      simpa [accepts] using h
    by_cases hpass : PassesSizeTest payload.bytes.length
    · by_cases hmax : payload.bytes.length < tbfpMaxPayload
      · exact ⟨spi, _, .send hpass hmax⟩
      · rw [tbfpSend_of_wraps hpass (by omega)] at hsend
        cases hsend
    · rw [tbfpSend_of_fails hpass] at hsend
      cases hsend
  | proc | txDone | ack | sendAck | tick | radio => simp [accepts] at h

private theorem tbfpRetxStart_counts (spi : Bool) (n : Node) (array : Frame) :
    SameCounts n (tbfpRetxStart spi n array).2 := by
  by_cases hpos : 0 < array.bytes.length
  · by_cases hi : n.tbfp.interface = .sx1262
    · rw [tbfpRetxStart_eq hpos hi]
      have h := sendTry_counts spi (n.accept array)
      exact ⟨h.ackRxCnt, h.noReplyCnt, h.silenceCnt⟩
    · simp only [tbfpRetxStart, hpos, Node.loadFrame, hi, if_true, if_false]
      exact ⟨rfl, rfl, rfl⟩
  · rw [tbfpRetxStart_nil (by omega)]
    exact .refl n

private theorem tbfpSend_counts (spi : Bool) (n : Node) (payload : Payload) (lifetime : UInt8) (ack : TbfpAck) :
    SameCounts n (tbfpSend crc8SaeJ1850Calc spi n payload lifetime ack).2 := by
  by_cases hpass : PassesSizeTest payload.bytes.length
  · by_cases hmax : payload.bytes.length < tbfpMaxPayload
    · obtain ⟨b, frame, hbuilt, heq⟩ := @tbfpSend_of_built crc8SaeJ1850Calc n spi payload hpass hmax lifetime ack
      rw [heq]
      cases ack with
      | need => exact hbuilt.sameCounts.trans (tbfpRetxStart_counts spi b frame)
      | noNeed => exact hbuilt.sameCounts.trans ⟨rfl, rfl, rfl⟩
    · rw [tbfpSend_of_wraps hpass (by omega)]
      exact ⟨rfl, rfl, rfl⟩
  · rw [tbfpSend_of_fails hpass]
    exact .refl n

private theorem tbfpSendAck_counts (spi : Bool) (n : Node) (snum : UInt16) :
    SameCounts n (tbfpSendAck crc8SaeJ1850Calc spi n snum).2 := by
  have h := @tbfpSend_counts crc8SaeJ1850Calc spi n (ackPayload snum) 0 .noNeed
  simp only [tbfpSendAck]
  split
  · exact ⟨h.ackRxCnt, h.noReplyCnt, h.silenceCnt⟩
  · exact h

/-- Only a poll changes the counters. -/
private theorem step_counts (hi : n.tbfp.interface = .sx1262) {e : Event} (hproc : ∀ spi, e ≠ .proc spi) :
    SameCounts n (step crc8SaeJ1850Calc n e) := by
  cases e with
  | start array spi => exact tbfpRetxStart_counts spi n array
  | proc spi => exact absurd rfl (hproc spi)
  | txDone =>
    simp only [step, tbfpRetxTxDone, hi, if_true]
    exact ⟨rfl, rfl, rfl⟩
  | send payload lifetime ack spi => exact tbfpSend_counts spi n payload lifetime ack
  | sendAck snum spi => exact tbfpSendAck_counts spi n snum
  | ack | tick | radio => exact ⟨rfl, rfl, rfl⟩

/-- An event that gives no frame and is no poll leaves the machine as idle as it was. -/
private theorem step_idle_eq (hi : n.tbfp.interface = .sx1262) {e : Event} (hproc : ∀ spi, e ≠ .proc spi)
    (hgives : ∀ spi len, ¬ Gives spi e len) : isTbfpRetxIdle (step crc8SaeJ1850Calc n e) = isTbfpRetxIdle n := by
  have h : Stepped n e (step crc8SaeJ1850Calc n e) := step_stepped hi e
  generalize step crc8SaeJ1850Calc n e = m at h
  cases h with
  | polled h => exact absurd rfl (hproc _)
  | txDone | ack => rfl
  | given he => exact absurd he (hgives _ _)
  | rebuilt _ h | quiet h _ => simp [isTbfpRetxIdle, h.state, h.retxCnt]

private theorem step_interface (hi : n.tbfp.interface = .sx1262) (e : Event) :
    (step crc8SaeJ1850Calc n e).tbfp.interface = .sx1262 := (step_stepped hi e).interface.trans hi

/-- The step lemma.  An accepted frame makes an idle machine busy; any other event leaves an idle machine idle and a
busy one busy, with the same counters, or settles the account of the frame. -/
theorem outcome_step (hi : n.tbfp.interface = .sx1262) {e : Event} (hok : OutcomeOk n e) :
    (accepts crc8SaeJ1850Calc n e = true ∧ isTbfpRetxIdle n = true ∧
      isTbfpRetxIdle (step crc8SaeJ1850Calc n e) = false ∧ SameCounts n (step crc8SaeJ1850Calc n e)) ∨
    (accepts crc8SaeJ1850Calc n e = false ∧ isTbfpRetxIdle n = true ∧
      isTbfpRetxIdle (step crc8SaeJ1850Calc n e) = true ∧ SameCounts n (step crc8SaeJ1850Calc n e)) ∨
    (accepts crc8SaeJ1850Calc n e = false ∧ isTbfpRetxIdle n = false ∧ Settles n (step crc8SaeJ1850Calc n e)) := by
  by_cases hproc : ∃ spi, e = .proc spi
  · obtain ⟨spi, rfl⟩ := hproc
    cases hidle : isTbfpRetxIdle n with
    | true =>
      have heq : step crc8SaeJ1850Calc n (.proc spi) = n := poll_idle hidle spi
      rw [heq]
      exact .inr (.inl ⟨rfl, rfl, hidle, .refl n⟩)
    | false => exact .inr (.inr ⟨rfl, rfl, poll_settles hi hidle (hok.2 spi rfl) spi⟩)
  · have hne : ∀ spi, e ≠ .proc spi := fun spi heq => hproc ⟨spi, heq⟩
    have hcounts : SameCounts n (step crc8SaeJ1850Calc n e) := step_counts hi hne
    by_cases hgives : ∃ spi len, Gives spi e len
    · obtain ⟨spi, len, hgives⟩ := hgives
      obtain ⟨hidle, htakes⟩ := hok.1 spi len hgives
      refine .inl ⟨(hgives.accepts_iff hi).2 htakes, hidle, ?_, hcounts⟩
      obtain ⟨b, array, hquiet, -, -, rfl, hpos, -, hstep⟩ := @Gives.start_eq crc8SaeJ1850Calc n spi e len hgives
      rw [hstep, tbfpRetxStart_eq hpos (hquiet.interface.trans hi)]
      exact (sendTry_attempt spi (b.accept array)).busy (by simp [Node.accept, tbfpRetxTryMax])
    · have hnot : accepts crc8SaeJ1850Calc n e = false := by
        rw [Bool.eq_false_iff]
        exact fun h => hgives (gives_of_accepts h)
      have hidle : isTbfpRetxIdle (step crc8SaeJ1850Calc n e) = isTbfpRetxIdle n :=
        step_idle_eq hi hne fun spi len h => hgives ⟨spi, len, h⟩
      cases h : isTbfpRetxIdle n with
      | true => exact .inr (.inl ⟨hnot, rfl, hidle.trans h, hcounts⟩)
      | false => exact .inr (.inr ⟨hnot, rfl, .inl ⟨hidle.trans h, hcounts⟩⟩)

/-! ### Every run -/

/-- While no further frame is accepted, the account of a frame is open or settled once. -/
private theorem run_settles (hi : m.tbfp.interface = .sx1262) (h : Settles n m) {es : List Event}
    (hguard : Guarded (step crc8SaeJ1850Calc) OutcomeOk m es) (hnone : acceptedCount crc8SaeJ1850Calc m es = 0) :
    Settles n (run (step crc8SaeJ1850Calc) m es) := by
  induction es generalizing m with
  | nil => exact h
  | cons e es ih =>
    rw [acceptedCount] at hnone
    refine ih (step_interface hi e) ?_ hguard.2 (by omega)
    rcases @outcome_step crc8SaeJ1850Calc _ hi e hguard.1 with
      ⟨hacc, -⟩ | ⟨-, hidle, hidle', hsame⟩ | ⟨-, hbusy, hsettles⟩
    · simp [hacc] at hnone
    · rcases h with ⟨hbusy, -⟩ | ⟨-, hone⟩
      · simp [hbusy] at hidle
      · exact .inr ⟨hidle', oneOutcome_same hone hsame⟩
    · rcases h with ⟨-, hsame⟩ | ⟨hidle, -⟩
      · rcases hsettles with ⟨hbusy', hsame'⟩ | ⟨hidle', hone⟩
        · exact .inl ⟨hbusy', hsame.trans hsame'⟩
        · exact .inr ⟨hidle', hsame.oneOutcome hone⟩
      · simp [hidle] at hbusy

/-- Right behind an accepted frame the machine is busy and nothing is recorded. -/
private theorem settles_of_accepts (hi : n.tbfp.interface = .sx1262) {e : Event} (hok : OutcomeOk n e)
    (hacc : accepts crc8SaeJ1850Calc n e = true) :
    Settles (step crc8SaeJ1850Calc n e) (step crc8SaeJ1850Calc n e) := by
  rcases @outcome_step crc8SaeJ1850Calc n hi e hok with ⟨-, -, hbusy, -⟩ | ⟨hnot, -⟩ | ⟨hnot, -⟩
  · exact .inl ⟨hbusy, .refl _⟩
  · simp [hacc] at hnot
  · simp [hacc] at hnot

private theorem run_interface (hi : n.tbfp.interface = .sx1262) (es : List Event) :
    (run (step crc8SaeJ1850Calc) n es).tbfp.interface = .sx1262 := by
  induction es generalizing n with
  | nil => exact hi
  | cons e es ih => exact ih (step_interface hi e)

/-- The outcomes recorded so far. -/
def Node.outcomes (n : Node) : UInt32 := n.tbfp.reTxFsm.ackRxCnt + n.tbfp.reTxFsm.noReplyCnt

/-- A busy machine owes one outcome. -/
def Balanced (n : Node) (accepted : Nat) : Prop :=
  n.outcomes + (if isTbfpRetxIdle n then 0 else 1) = UInt32.ofNat accepted

private theorem SameCounts.outcomes_eq (h : SameCounts n m) : m.outcomes = n.outcomes := by
  rw [Node.outcomes, h.ackRxCnt, h.noReplyCnt, Node.outcomes]

private theorem outcomes_succ (h : Acknowledged n m ∨ GivenUp n m) : m.outcomes = n.outcomes + 1 := by
  rcases h with h | h
  · rw [Node.outcomes, h.ackRxCnt, h.noReplyCnt, Node.outcomes, add_right_comm]
  · rw [Node.outcomes, h.ackRxCnt, h.noReplyCnt, Node.outcomes, UInt32.add_assoc]

private theorem run_balanced (hi : n.tbfp.interface = .sx1262) {k : Nat} (h : Balanced n k) {es : List Event}
    (hguard : Guarded (step crc8SaeJ1850Calc) OutcomeOk n es) :
    Balanced (run (step crc8SaeJ1850Calc) n es) (k + acceptedCount crc8SaeJ1850Calc n es) := by
  induction es generalizing n k with
  | nil => exact h
  | cons e es ih =>
    rw [acceptedCount, ← Nat.add_assoc]
    refine ih (step_interface hi e) ?_ hguard.2
    rcases @outcome_step crc8SaeJ1850Calc _ hi e hguard.1 with
      ⟨hacc, hidle, hbusy, hsame⟩ | ⟨hacc, hidle, hidle', hsame⟩ | ⟨hacc, hbusy, ⟨hbusy', hsame⟩ | ⟨hidle', hone⟩⟩
    · simpa [Balanced, hacc, hidle, hbusy, hsame.outcomes_eq] using h
    · simpa [Balanced, hacc, hidle, hidle', hsame.outcomes_eq] using h
    · simpa [Balanced, hacc, hbusy, hbusy', hsame.outcomes_eq] using h
    · simpa [Balanced, hacc, hbusy, hidle', outcomes_succ hone] using h

/-- In every run that gives frames only to an idle machine and a radio that takes them, and in which no last try lacks
the end of its transmission, every accepted frame has exactly one outcome. -/
theorem accepted_frames_accounted (preambleVal : UInt8) (frameTimeMs : UInt32) (now : Nat) (es : List Event)
    (h : Guarded (step crc8SaeJ1850Calc) OutcomeOk (Node.init preambleVal frameTimeMs now) es) :
    Accounted crc8SaeJ1850Calc (Node.init preambleVal frameTimeMs now) es where
  each := by
    rintro before e during rest rfl hacc hnone hdue
    obtain ⟨-, hguard⟩ := Guarded.append.1 h
    obtain ⟨hok, hguard⟩ := hguard
    obtain ⟨hduring, hrest⟩ := Guarded.append.1 hguard
    have hi := @run_interface crc8SaeJ1850Calc (Node.init preambleVal frameTimeMs now) rfl before
    rw [run_append, run_cons, run_nil] at hnone ⊢
    rw [run_append, run_cons] at hdue ⊢
    -- the start makes the machine busy, and what follows settles the account
    have hsettles := run_settles (step_interface hi e) (settles_of_accepts hi hok hacc) hduring hnone
    rcases hsettles with ⟨hbusy, -⟩ | ⟨-, hone⟩
    · rcases hdue with hidle | ⟨e', es, rfl, hacc'⟩
      · simp [hbusy] at hidle
      · obtain ⟨hidle, -⟩ := hrest.1.1 _ _ (gives_of_accepts hacc').choose_spec.choose_spec
        simp [hbusy] at hidle
    · exact hone.elim Acknowledged.oneOutcome GivenUp.oneOutcome
  sum := by
    intro hidle
    have hstart : Balanced (Node.init preambleVal frameTimeMs now) 0 := by rfl
    have hbalanced := run_balanced rfl hstart h
    simpa [Balanced, hidle, Node.outcomes] using hbalanced

theorem OutcomeOk.proc (h : ¬ (n.tbfp.reTxFsm.state = .waitTxDone ∧ n.tbfp.reTxFsm.input = .txDoneTimeOut ∧
    n.tbfp.reTxFsm.retxCnt = 0)) : OutcomeOk n (.proc spi) :=
  ⟨nofun, fun _ _ => h⟩

/-- A chat frame is sent and acknowledged. -/
def acknowledgedRun : List Event := [.send chatPayload 0 .need true, .txDone, .proc true, .ack 1, .proc true]

private theorem chat_taken {len : Nat} (h : Gives spi (.send chatPayload 0 .need true) len) :
    isTbfpRetxIdle (Node.init 0x1E 100 0) = true ∧ (Node.init 0x1E 100 0).radio.Takes spi len := by
  cases h
  decide

theorem accepted_frames_accounted_chat : Accounted crc8SaeJ1850 (Node.init 0x1E 100 0) acknowledgedRun :=
  accepted_frames_accounted 0x1E 100 0 _
    ⟨⟨fun _ _ hgives => chat_taken hgives, nofun⟩, ⟨nofun, nofun⟩, .proc (by decide +kernel), ⟨nofun, nofun⟩,
      .proc (by decide +kernel), trivial⟩

/-- A second frame is sent while the first one waits for its acknowledgement. -/
def replacedRun : List Event := .send chatPayload 0 .need true :: .txDone :: acknowledgedRun

/-- The machine takes the second frame in place of the first, which has no outcome. -/
theorem not_accepted_frames_accounted : ¬ ∀ es, Accounted crc8SaeJ1850 (Node.init 0x1E 100 0) es := by
  intro h
  have hsum := (h replacedRun).sum (by decide +kernel)
  revert hsum
  decide +kernel

end TiMcu.Tbfp
