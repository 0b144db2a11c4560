import TiMcu.Tbfp.Steps

/-!
# The number of transmissions of a frame

`tbfp_retx_start` sets `retx_cnt` to `TBFP_RETX_TRY_MAX`, and every transmission that the radio starts takes one off.
The invariant: until an acknowledgement clears it, the counter and the transmissions since the last given frame add up
to that number.
-/

namespace TiMcu.Tbfp

open Past Runs

variable {crc8SaeJ1850Calc : List UInt8 → UInt8} {n m : Node}

/-! ### What the trace says of the last given frame -/

/-- The transmissions of the machine since the last frame was given to `tbfp_retx_start`. -/
def sentSinceGiven : List Obs → Nat
  | [] => 0
  | .given _ :: _ => 0
  | .sent _ :: before => sentSinceGiven before + 1
  | _ :: before => sentSinceGiven before

/-- A frame was given to `tbfp_retx_start`. -/
def Started (trace : List Obs) : Prop := ∃ frame, .given frame ∈ trace

/-- An acknowledgement ended the wait since the last frame was given, which clears `retx_cnt`. -/
def Cleared (trace : List Obs) : Prop := Since NotGiven (· = .moved .rxAck) trace

/-- An entry that is neither a given frame, a transmission nor the end of a wait by an acknowledgement. -/
def Idles (o : Obs) : Prop := NotGiven o ∧ (∀ frame, o ≠ .sent frame) ∧ o ≠ .moved .rxAck

@[simp] theorem sentSinceGiven_given (frame : List UInt8) (trace : List Obs) :
    sentSinceGiven (.given frame :: trace) = 0 := rfl

@[simp] theorem sentSinceGiven_sent (frame : List UInt8) (trace : List Obs) :
    sentSinceGiven (.sent frame :: trace) = sentSinceGiven trace + 1 := rfl

private theorem sentSinceGiven_other {o : Obs} (hgiven : NotGiven o) (hsent : ∀ frame, o ≠ .sent frame)
    (trace : List Obs) :
    sentSinceGiven (o :: trace) = sentSinceGiven trace := by
  cases o with
  | given frame => exact absurd rfl (hgiven frame)
  | sent frame => exact absurd rfl (hsent frame)
  | gotAck | raised | moved => rfl

private theorem started_cons {o : Obs} (ho : NotGiven o) {trace : List Obs} : Started (o :: trace) ↔ Started trace := by
  constructor
  · rintro ⟨frame, hmem⟩
    rcases List.mem_cons.1 hmem with rfl | hmem
    · exact absurd rfl (ho frame)
    · exact ⟨frame, hmem⟩
  · rintro ⟨frame, hmem⟩
    exact ⟨frame, List.mem_cons_of_mem o hmem⟩

private theorem cleared_cons {o : Obs} (hgiven : NotGiven o) (ho : o ≠ .moved .rxAck) {trace : List Obs} :
    Cleared (o :: trace) ↔ Cleared trace := by
  constructor
  · rintro (heq | ⟨-, h⟩)
    · exact absurd heq ho
    · exact h
  · exact Since.cons hgiven

private theorem not_cleared_given (frame : List UInt8) (trace : List Obs) : ¬Cleared (.given frame :: trace) := by
  rintro (heq | ⟨hne, -⟩)
  · simp at heq
  · exact hne frame rfl

/-! ### The law -/

/-- The counter, the transmissions of the frame and the acknowledgement fit together. -/
structure TryCount (retxCnt : UInt8) (trace : List Obs) : Prop where
  balance : Started trace → ¬Cleared trace → retxCnt.toNat + sentSinceGiven trace = tbfpRetxTryMax.toNat
  cleared : Started trace → Cleared trace → retxCnt = 0
  unstarted : ¬Started trace → retxCnt = 0 ∧ sentSinceGiven trace = 0
  atMost : sentSinceGiven trace ≤ tbfpRetxTryMax.toNat
  noneAfter : Always (fun o before => ∀ frame, o = .sent frame → ¬Cleared before) trace

private theorem TryCount.retxCnt_le {retxCnt : UInt8} {trace : List Obs} (h : TryCount retxCnt trace) :
    retxCnt ≤ tbfpRetxTryMax := by
  rw [UInt8.le_iff_toNat_le]
  by_cases hstarted : Started trace
  · by_cases hcleared : Cleared trace
    · rw [h.cleared hstarted hcleared]
      exact Nat.zero_le _
    · have hbalance := h.balance hstarted hcleared
      omega
  · rw [(h.unstarted hstarted).1]
    exact Nat.zero_le _

/-! ### What keeps it -/

private theorem TryCount.idles {retxCnt : UInt8} {trace : List Obs} {o : Obs} (h : TryCount retxCnt trace)
    (ho : Idles o) :
    TryCount retxCnt (o :: trace) := by
  obtain ⟨hgiven, hsent, hmoved⟩ := ho
  have hcount := sentSinceGiven_other hgiven hsent trace
  refine ⟨?_, ?_, ?_, ?_, Always.cons (fun frame heq => absurd heq (hsent frame)) h.noneAfter⟩
  · rw [started_cons hgiven, cleared_cons hgiven hmoved, hcount]
    exact h.balance
  · rw [started_cons hgiven, cleared_cons hgiven hmoved]
    exact h.cleared
  · rw [started_cons hgiven, hcount]
    exact h.unstarted
  · rw [hcount]
    exact h.atMost

/-- A frame is given: all tries are left. -/
theorem TryCount.given {retxCnt : UInt8} {trace : List Obs} (h : TryCount retxCnt trace) (frame : List UInt8) :
    TryCount tbfpRetxTryMax (.given frame :: trace) where
  balance _ _ := rfl
  cleared _ hcleared := absurd hcleared (not_cleared_given frame trace)
  unstarted hstarted := absurd ⟨frame, List.mem_cons_self⟩ hstarted
  atMost := Nat.zero_le _
  noneAfter := Always.cons (fun frame heq => by simp at heq) h.noneAfter

/-- A transmission starts: one try is taken. -/
theorem TryCount.sent {retxCnt : UInt8} {trace : List Obs} (h : TryCount retxCnt trace) (hcnt : 0 < retxCnt)
    (frame : List UInt8) : TryCount (retxCnt - 1) (.sent frame :: trace) := by
  have hgiven : NotGiven (.sent frame) := fun f => by simp
  have hpos : 0 < retxCnt.toNat := UInt8.lt_iff_toNat_lt.1 hcnt
  have hne : retxCnt ≠ 0 := by
    rintro rfl
    exact absurd hpos (by decide)
  -- tries are left, so a frame was given and is not acknowledged
  have hstarted : Started trace := by
    by_contra hstarted
    exact hne (h.unstarted hstarted).1
  have hcleared : ¬Cleared trace := fun hcleared => hne (h.cleared hstarted hcleared)
  have hbalance := h.balance hstarted hcleared
  have hone : (1 : UInt8) ≤ retxCnt := UInt8.le_iff_toNat_le.2 hpos
  have hminus : (retxCnt - 1).toNat = retxCnt.toNat - 1 := UInt8.toNat_sub_of_le _ _ hone
  refine ⟨fun _ _ => ?_, fun _ hc => ?_, fun hs => ?_, ?_, Always.cons (fun _ _ => hcleared) h.noneAfter⟩
  · rw [hminus, sentSinceGiven_sent]
    omega
  · exact absurd ((cleared_cons hgiven (by simp)).1 hc) hcleared
  · exact absurd ((started_cons hgiven).2 hstarted) hs
  · rw [sentSinceGiven_sent]
    omega

/-- The acknowledgement ends the wait and clears the counter. -/
theorem TryCount.ackOk {retxCnt : UInt8} {trace : List Obs} (h : TryCount retxCnt trace) :
    TryCount 0 (.moved .rxAck :: trace) := by
  have hgiven : NotGiven (.moved .rxAck) := fun f => by simp
  have hcount := sentSinceGiven_other hgiven (fun frame => by simp) trace
  have hcleared : Cleared (.moved .rxAck :: trace) := Since.here rfl
  refine ⟨fun _ hc => absurd hcleared hc, fun _ _ => rfl, ?_, ?_, Always.cons (by simp) h.noneAfter⟩
  · rw [started_cons hgiven, hcount]
    exact fun hs => ⟨rfl, (h.unstarted hs).2⟩
  · rw [hcount]
    exact h.atMost

private theorem idles_raised (input : TbfpReTxInput) :
    Idles (.raised input) := ⟨fun f => by simp, fun f => by simp, by simp⟩

private theorem idles_gotAck (serNum : UInt16) : Idles (.gotAck serNum) := ⟨fun f => by simp, fun f => by simp, by simp⟩

private theorem idles_moved {input : TbfpReTxInput} (h : input ≠ .rxAck) : Idles (.moved input) :=
  ⟨fun f => by simp, fun f => by simp, by simpa using h⟩

/-! ### Every event -/

/-- `TryCount` of a node. -/
def Node.TryCount (n : Node) : Prop := Tbfp.TryCount n.tbfp.reTxFsm.retxCnt n.trace

theorem Attempt.tryCount {spi : Bool} (h : Attempt spi n m) (hn : n.TryCount)
    (hcnt : 0 < n.tbfp.reTxFsm.retxCnt) : m.TryCount := by
  rcases h.outcome with ⟨-, -, hretx, htrace⟩ | ⟨-, -, hretx, htrace⟩
  · rw [Node.TryCount, hretx, htrace]
    exact hn.sent hcnt _
  · rw [Node.TryCount, hretx, htrace]
    exact hn

theorem Polled.tryCount {spi : Bool} (h : Polled spi n m) (hn : n.TryCount) : m.TryCount := by
  cases h with
  | rest => exact hn
  | tried hstate hcnt h => exact h.tryCount hn hcnt
  | onAir hstate hinput h | lackTxDone hstate hinput h | lackAck hstate hinput h =>
    rw [Node.TryCount, Node.move, h.retxCnt, hinput]
    exact hn.idles (idles_moved (by simp))
  | txDoneTimeOut | ackTimeOut => exact hn.idles (idles_raised _)
  | ackOk hstate hinput hidle hcnt hack =>
    rw [Node.TryCount, Node.move, hcnt, hinput]
    exact hn.ackOk

theorem Quiet.tryCount (h : Quiet n m) (hn : n.TryCount) : m.TryCount := by
  rw [Node.TryCount, h.retxCnt, h.trace]
  exact hn

theorem Stepped.tryCount {e : Event} (h : Stepped n e m) (hn : n.TryCount) : m.TryCount := by
  cases h with
  | polled h => exact h.tryCount hn
  | txDone radio => exact hn.idles (idles_raised _)
  | ack serNum => exact (hn.idles (idles_gotAck serNum)).idles (idles_raised _)
  | @given e spi b m array he hb hradio h =>
    -- its first transmission is tried at once
    have hb : b.TryCount := hb.tryCount hn
    exact h.tryCount (hb.given array.bytes) (show (0 : UInt8) < tbfpRetxTryMax by decide)
  | rebuilt he h | quiet h hframe => exact h.tryCount hn

/-! ### Every run -/

/-- The invariant of the runs. -/
structure CountInv (n : Node) : Prop where
  interface : n.tbfp.interface = .sx1262
  tryCount : n.TryCount

private theorem init_countInv (preambleVal : UInt8) (frameTimeMs : UInt32) (now : Nat) :
    CountInv (Node.init preambleVal frameTimeMs now) where
  interface := rfl
  tryCount :=
    { balance := fun hstarted => by simp [Node.init, Started] at hstarted
      cleared := fun hstarted => by simp [Node.init, Started] at hstarted
      unstarted := fun _ => ⟨rfl, rfl⟩
      atMost := Nat.zero_le _
      noneAfter := trivial }

private theorem step_countInv (hn : CountInv n) (e : Event) : CountInv (step crc8SaeJ1850Calc n e) := by
  have hstepped : Stepped n e (step crc8SaeJ1850Calc n e) := step_stepped hn.interface e
  exact ⟨hstepped.interface.trans hn.interface, hstepped.tryCount hn.tryCount⟩

/-- In every state of every run, the counter and the transmissions since the last given frame add up to
`TBFP_RETX_TRY_MAX` until an acknowledgement clears the counter; no frame is sent more often, none after its
acknowledgement, and the counter stays at most `TBFP_RETX_TRY_MAX`. -/
theorem transmissions_bounded (preambleVal : UInt8) (frameTimeMs : UInt32) (now : Nat) (es : List Event) :
    (run (step crc8SaeJ1850Calc) (Node.init preambleVal frameTimeMs now) es).TryCount ∧
      (run (step crc8SaeJ1850Calc) (Node.init preambleVal frameTimeMs now) es).tbfp.reTxFsm.retxCnt ≤ tbfpRetxTryMax := by
  have hinv : CountInv (run (step crc8SaeJ1850Calc) (Node.init preambleVal frameTimeMs now) es) :=
    run_invariant es (init_countInv preambleVal frameTimeMs now) fun n e hn => step_countInv hn e
  exact ⟨hinv.tryCount, hinv.tryCount.retxCnt_le⟩

end TiMcu.Tbfp
