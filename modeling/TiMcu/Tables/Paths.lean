import TiMcu.Tables.Bounds
import TiMcu.Tbfp.Handle

/-!
# Runs of the paths

A run of the paths uses the tables inside their bounds exactly when none of its steps is one that leaves them
(`run_inTable_iff`).
-/

namespace TiMcu.Tbfp

open NorFlash Runs

variable {W : Type} {env : Env W} {proc : Proc W} {procUses : ProcUses W} {d : Device W} {b : Build}
variable {slot interface : Interfaces} {depth : Nat}

/-! ### The steps that stay inside -/

/-- None of the options is set. -/
def Build.Plain (b : Build) : Prop := b = ⟨false, false, false, false⟩

instance (b : Build) : Decidable b.Plain := by
  unfold Build.Plain
  infer_instance

/-- The path names no interface behind `IF_CNT` and completes no RTCM3 frame of the GNSS receiver. -/
def PathStep.StaysInside (env : Env W) (b : Build) (d : Device W) : PathStep → Prop
  | .swInit => b.Plain
  | .zedF9p channel => channel ∉ zedF9pChannels
  | .uart0 _ => b.hasTbfpRs232 = false
  | .uart1 rxByte => (d.rtcm3 .uart1).interface = .uart1 → ¬d.CompletesRtcm3 env .uart1 rxByte
  | .canProcPayload _ | .canProc => False
  | .procRs232 ping => ping = false
  | .tbfpSend payload interface _ _ => PassesSizeTest payload.bytes.length → InTable interface
  | .loraProcPayload _ | .loraProcess | .loraTransmitFromQueue .. | .tbfpRetxProc | .tbfpRetxTxDone _ => True

/-! ### The machine and the queue -/

private theorem sameNode_tbfpProcRetxOne (spi : Bool) (n : Node) : SameNode n (tbfpProcRetxOne spi n).2 := by
  unfold tbfpProcRetxOne
  dsimp only
  split
  · unfold tbfpProcRetxIdle
    split
    · split
      · exact sameNode_sendTry spi n
      · exact ⟨rfl, rfl⟩
    · exact ⟨rfl, rfl⟩
  · unfold tbfpProcRetxWaitTxDone
    dsimp only
    split <;> split <;> exact ⟨rfl, rfl⟩
  · unfold tbfpProcRetxWaitAck
    dsimp only
    split <;> split <;> exact ⟨rfl, rfl⟩

/-- A setup stays in a loop over the table when each turn leaves it as it is. -/
private theorem sameSetup_foldl {f : Transmitter W → Interfaces → Transmitter W} (hf : ∀ t s, SameSetup t (f t s))
    (slots : List Interfaces) (t : Transmitter W) : SameSetup t (slots.foldl f t) := by
  induction slots generalizing t with
  | nil => exact fun _ => ⟨rfl, rfl⟩
  | cons s slots ih => exact (hf t s).trans (ih (f t s))

private theorem sameSetup_tbfpRetxProc (t : Transmitter W) : SameSetup t (t.tbfpRetxProc env) := by
  refine sameSetup_foldl (fun t s => ?_) _ t
  have hset : SameSetup t (t.setNode s (tbfpProcRetxOne (env.spi t.world).1 (t.node s)).2) :=
    sameSetup_setNode (sameNode_tbfpProcRetxOne (env.spi t.world).1 (t.node s))
  exact hset

private theorem sameSetup_tbfpRetxTxDone (t : Transmitter W) (interface : Interfaces) :
    SameSetup t (t.tbfpRetxTxDone interface) := by
  refine sameSetup_foldl (fun t s => sameSetup_setNode ?_) _ t
  unfold Tbfp.tbfpRetxTxDone
  split <;> exact ⟨rfl, rfl⟩

private theorem sameSetup_countTunnel {t : Transmitter W} {r : Bool × Transmitter W} (h : SameSetup t r.2) :
    SameSetup t (Transmitter.countTunnel r).2 := by
  unfold Transmitter.countTunnel
  split
  · exact h
  · exact h

private theorem sameSetup_sendChunk (t : Transmitter W) (chunk : List UInt8) :
    SameSetup t (t.sendChunk env chunk).2 := by
  unfold Transmitter.sendChunk
  split
  · apply sameSetup_countTunnel
    unfold Transmitter.tbfpSendTunnel Transmitter.tbfpSendText
    split
    · exact sameSetup_tbfpSend t _ .sx1262 0 .need
    · exact fun _ => ⟨rfl, rfl⟩
  · exact fun _ => ⟨rfl, rfl⟩

private theorem sameSetup_loraTransmitFromQueue (t : Transmitter W) (cur txDone pause unit : UInt32) :
    SameSetup t (loraTransmitFromQueue env t cur txDone pause unit).2 := by
  unfold loraTransmitFromQueue
  split
  · dsimp only
    -- the queue and its flag are not in the table
    have hqueue : ∀ fifo, SameSetup t { t with loRa.flush := false, loRa.fifo := fifo } := fun _ _ => ⟨rfl, rfl⟩
    split
    · exact (hqueue _).trans (sameSetup_sendChunk _ _)
    · exact hqueue _
  · exact fun _ => ⟨rfl, rfl⟩

/-! ### What the paths use -/

private theorem mem_tbfpSendUses (d : Device W) {payload : Payload} (h : PassesSizeTest payload.bytes.length)
    (interface : Interfaces) (lifetime : UInt8) (ack : TbfpAck) :
    interface ∈ d.tbfpSendUses env procUses payload interface lifetime ack := by
  rw [Device.tbfpSendUses, if_pos h]
  exact List.mem_cons_self

private theorem mem_tbfpSendPingUses (d : Device W) (frameId : UInt8) (interface : Interfaces) :
    interface ∈ d.tbfpSendPingUses env procUses frameId interface := by
  refine mem_tbfpSendUses d ?_ interface 0 .noNeed
  have hlen := env.pingRest_length d.tx.world
  have hlt := env.sizeofPingFrame_lt
  have hover : tbfpSizeOverhead = 7 := rfl
  have hmax := tbfpMaxFrame_eq
  unfold PassesSizeTest Env.pingPayload
  rw [List.length_cons]
  omega

private theorem mem_tbfpProcUses (d : Device W) (src : Source) (len : UInt16) (interface : Interfaces) (reset : Bool) :
    interface ∈ tbfpProcUses env depth d src len interface reset := by
  cases depth with
  | zero => exact List.mem_singleton_self interface
  | succ depth => exact List.mem_cons_self

/-- The forwarding loop reads a flag for each value of its variable. -/
private theorem mem_forwardsUses {interfaces : List Interfaces} (h : interface ∈ interfaces) (r : Bool × Device W) :
    interface ∈ Device.forwardsUses env proc procUses slot interfaces r := by
  induction interfaces generalizing r with
  | nil => exact absurd h List.not_mem_nil
  | cons i interfaces ih =>
    rw [Device.forwardsUses]
    rcases List.mem_cons.1 h with rfl | h
    · exact List.mem_append_left _ List.mem_cons_self
    · exact List.mem_append_right _ (ih h _)

/-- A complete frame of the GNSS receiver makes the relay read the flag at `IF_CNT`. -/
private theorem cnt_mem_rtcm3ProcByteUses {rxByte : UInt8} (hslot : (d.rtcm3 slot).interface = .uart1)
    (h : d.CompletesRtcm3 env slot rxByte) : .cnt ∈ d.rtcm3ProcByteUses env proc procUses slot rxByte := by
  obtain ⟨hlast, hcrc⟩ := h
  unfold Device.rtcm3ProcByteUses Device.rtcm3CheckCrc24Uses Device.relayUses
  dsimp only
  rw [if_pos hlast, if_pos hcrc]
  generalize hq : ((d.rtcm3 slot).load rxByte .waitCrc).takeCrc env = q
  have hinterface : (((d.setRtcm3 slot q.takeFrame).note (.rtcm3 slot (bytesAt q.rxFrame 0 q.packetLength.toNat))).rtcm3
      slot).interface = .uart1 := by
    change ((d.setRtcm3 slot q.takeFrame).rtcm3 slot).interface = .uart1
    rw [Device.setRtcm3_self, ← hq]
    exact hslot
  rw [hinterface]
  refine List.mem_append_left _ (mem_forwardsUses ?_ _)
  decide

/-- What is sent on `IF_SX1262` uses no other entry. -/
private theorem tbfpSendUses_sx1262 (d : Device W) (payload : Payload) (lifetime : UInt8) (ack : TbfpAck) :
    ∀ i ∈ d.tbfpSendUses env procUses payload .sx1262 lifetime ack, InTable i := by
  unfold Device.tbfpSendUses Device.sysSendIfUses
  dsimp only
  split
  · refine List.forall_mem_cons.2 ⟨trivial, ?_⟩
    split
    · split
      · exact List.forall_mem_singleton.2 trivial
      · simp
    · simp
  · simp

private theorem loraTransmitUses_inTable (d : Device W) (cur txDone pause unit : UInt32) :
    ∀ i ∈ d.loraTransmitUses env procUses cur txDone pause unit, InTable i := by
  unfold Device.loraTransmitUses
  refine List.forall_mem_cons.2 ⟨trivial, ?_⟩
  split
  · dsimp only
    split
    · refine List.forall_mem_append.2 ⟨?_, ?_⟩
      · split
        · exact tbfpSendUses_sx1262 _ _ 0 .need
        · simp
      · split
        · simp
        · exact List.forall_mem_singleton.2 trivial
    · simp
  · simp

private theorem tableInterfaces_inTable : ∀ i ∈ tableInterfaces, InTable i := by decide

private theorem initUses_inTable_iff : (∀ i ∈ b.initUses, InTable i) ↔ b.Plain := by
  obtain ⟨r, c, r', c'⟩ := b
  revert r c r' c'
  decide

private theorem zedF9pUses_inTable_iff (channel : Interfaces) :
    (∀ i ∈ zedF9pUses channel, InTable i) ↔ channel ∉ zedF9pChannels := by
  cases channel <;> decide

/-! ### One step -/

private theorem initialized_zero (radio : Sx1262) (now : Nat) (world : W) : Initialized (Device.zero radio now world) :=
  ⟨fun _ => .inl rfl, fun _ _ => rfl, .inl rfl⟩

private theorem initialized_initTbfp (hd : Initialized d) {init : Interfaces × UInt8}
    (h : init.1 = .lora ∨ init.1 = .sx1262) : Initialized (d.initTbfp init) := by
  refine ⟨fun s => ?_, hd.rtcm3, hd.uart1⟩
  by_cases hs : s = init.1
  · subst hs
    change (Function.update d.tx.tbfp init.1 (tbfpProtocolInit init.1 init.2) init.1).interface = _ ∨
      (Function.update d.tx.tbfp init.1 (tbfpProtocolInit init.1 init.2) init.1).interface = _
    rw [Function.update_self]
    exact h
  · change (Function.update d.tx.tbfp init.1 (tbfpProtocolInit init.1 init.2) s).interface = _ ∨
      (Function.update d.tx.tbfp init.1 (tbfpProtocolInit init.1 init.2) s).interface = _
    rw [Function.update_of_ne hs]
    exact hd.tbfp s

private theorem initialized_initRtcm3 (hd : Initialized d) {init : Interfaces × Bool}
    (h : init.1 = .uart1 ∨ init.1 = .lora) : Initialized (d.initRtcm3 init) := by
  unfold Device.initRtcm3
  refine ⟨hd.tbfp, fun s hs => ?_, ?_⟩
  · by_cases hinit : s = init.1
    · subst hinit
      rw [Device.setRtcm3_self]
      exact h.resolve_left hs
    · rw [Device.setRtcm3_of_ne _ _ hinit]
      exact hd.rtcm3 s hs
  · by_cases hinit : Interfaces.uart1 = init.1
    · rw [← hinit, Device.setRtcm3_self]
      exact .inr rfl
    · rw [Device.setRtcm3_of_ne _ _ hinit]
      exact hd.uart1

private theorem initialized_initTables (hd : Initialized d) (h : b.Plain) : Initialized (d.initTables b) := by
  have hlora : Initialized (d.initTbfp (.lora, 0xA5)) := initialized_initTbfp hd (.inl rfl)
  have hsx1262 : Initialized ((d.initTbfp (.lora, 0xA5)).initTbfp (.sx1262, 0x1E)) :=
    initialized_initTbfp hlora (.inr rfl)
  have huart1 := initialized_initRtcm3 hsx1262 (show (Interfaces.uart1, true).1 = .uart1 ∨ _ from .inl rfl)
  have hlast := initialized_initRtcm3 huart1 (show (Interfaces.lora, false).1 = .uart1 ∨ _ from .inr rfl)
  rw [h]
  exact hlast

/-- A path that stays inside leaves the tables set up as they were, or sets them up. -/
private theorem path_initialized (hd : Initialized d) (x : PathStep) (h : x.StaysInside env b d) :
    Initialized (d.path env b depth x) := by
  have hproc : ∀ (d : Device W) src len s reset, Initialized d → InTable s →
      Inside d (tbfpProc env depth d src len s reset).2 (tbfpProcUses env depth d src len s reset) :=
    fun d src len s reset hd hs => tbfpProc_inside env depth hd src len hs reset
  cases x with
  | swInit => exact initialized_initTables hd h
  | zedF9p channel =>
    unfold Device.path Device.zedF9pForwarding
    dsimp only
    rw [if_neg h]
    exact hd
  | uart0 rxByte =>
    unfold Device.path
    dsimp only
    rw [show b.hasTbfpRs232 = false from h]
    exact hd
  | uart1 rxByte =>
    by_cases hcompletes : d.CompletesRtcm3 env .uart1 rxByte
    · have hlora := hd.uart1.resolve_right fun hslot => h hslot hcompletes
      exact (inside_rtcm3ProcByte env (tbfpProc env depth) (tbfpProcUses env depth) hlora rxByte).initialized hd
    · exact (rtcm3ProcByte_of_not_completes env (tbfpProc env depth) hcompletes).initialized hd
  | canProcPayload => exact absurd h id
  | canProc => exact absurd h id
  | procRs232 ping =>
    unfold Device.path
    dsimp only
    rw [show ping = false from h]
    exact hd
  | loraProcPayload rxPayload =>
    have hfed := hproc d (.bytes rxPayload) (UInt16.ofNat rxPayload.length) .sx1262 true hd trivial
    unfold Device.path loraProcPayload Device.procRxPayload
    dsimp only
    split
    · exact hfed.initialized hd
    · exact (hfed.initialized hd).setTx fun _ => ⟨rfl, rfl⟩
  | loraProcess =>
    have hlora : InTable .lora := trivial
    have hsent := inside_tbfpSendPing env hproc hd frameIdPong hlora
    exact (hsent.initialized hd).setTx fun _ => ⟨rfl, rfl⟩
  | loraTransmitFromQueue cur txDone pause unit =>
    exact hd.setTx (sameSetup_loraTransmitFromQueue d.tx cur txDone pause unit)
  | tbfpSend payload interface lifetime ack =>
    exact (inside_tbfpSend env hproc hd payload h lifetime ack).initialized hd
  | tbfpRetxProc => exact hd.setTx (sameSetup_tbfpRetxProc d.tx)
  | tbfpRetxTxDone interface => exact hd.setTx (sameSetup_tbfpRetxTxDone d.tx interface)

/-- A path uses the tables inside their bounds exactly when it stays inside. -/
private theorem pathUses_inTable_iff (hd : Initialized d) (x : PathStep) :
    (∀ i ∈ d.pathUses env b depth x, InTable i) ↔ x.StaysInside env b d := by
  have hproc : ∀ (d : Device W) src len s reset, Initialized d → InTable s →
      Inside d (tbfpProc env depth d src len s reset).2 (tbfpProcUses env depth d src len s reset) :=
    fun d src len s reset hd hs => tbfpProc_inside env depth hd src len hs reset
  have hrs232 : ¬InTable .rs232 := id
  have hcan : ¬InTable .can := id
  have hcnt : ¬InTable .cnt := id
  have hlora : InTable .lora := trivial
  cases x with
  | swInit => exact initUses_inTable_iff
  | zedF9p channel => exact zedF9pUses_inTable_iff channel
  | uart0 rxByte =>
    unfold Device.pathUses PathStep.StaysInside
    dsimp only
    cases b.hasTbfpRs232 with
    | false => simp
    | true =>
      rw [if_pos rfl]
      exact iff_of_false (fun h => hrs232 (h _ List.mem_cons_self)) Bool.noConfusion
  | uart1 rxByte =>
    unfold Device.pathUses PathStep.StaysInside
    dsimp only
    by_cases hcompletes : d.CompletesRtcm3 env .uart1 rxByte
    -- a frame of the GNSS receiver is forwarded, up to `IF_CNT`
    · rcases hd.uart1 with hslot | hslot
      · have hinside := inside_rtcm3ProcByte env (tbfpProc env depth) (tbfpProcUses env depth) hslot rxByte
        refine iff_of_true (List.forall_mem_cons.2 ⟨trivial, hinside.used⟩) fun h => ?_
        rw [hslot] at h
        cases h
      · refine iff_of_false (fun h => hcnt ?_) fun h => h hslot hcompletes
        exact h _ (List.mem_cons_of_mem _ (cnt_mem_rtcm3ProcByteUses hslot hcompletes))
    · rw [rtcm3ProcByteUses_of_not_completes env _ _ hcompletes]
      exact iff_of_true (List.forall_mem_singleton.2 trivial) fun _ => hcompletes
  | canProcPayload rxPayload => exact iff_of_false (fun h => hcan (h _ (mem_tbfpProcUses d _ _ .can false))) id
  | canProc => exact iff_of_false (fun h => hcan (h _ (mem_tbfpSendPingUses d frameIdPong .can))) id
  | procRs232 ping =>
    unfold Device.pathUses PathStep.StaysInside
    dsimp only
    cases ping with
    | false => simp
    | true =>
      rw [if_pos rfl]
      exact iff_of_false (fun h => hrs232 (h _ (mem_tbfpSendPingUses d frameIdPong .rs232))) Bool.noConfusion
  | loraProcPayload rxPayload => exact iff_of_true (hproc d _ _ .sx1262 true hd trivial).used trivial
  | loraProcess => exact iff_of_true (inside_tbfpSendPing env hproc hd frameIdPong hlora).used trivial
  | loraTransmitFromQueue cur txDone pause unit =>
    exact iff_of_true (loraTransmitUses_inTable d cur txDone pause unit) trivial
  | tbfpSend payload interface lifetime ack =>
    constructor
    · exact fun h hsize => h _ (mem_tbfpSendUses d hsize interface lifetime ack)
    · exact fun h => (inside_tbfpSend env hproc hd payload h lifetime ack).used
  | tbfpRetxProc => exact iff_of_true tableInterfaces_inTable trivial
  | tbfpRetxTxDone interface => exact iff_of_true tableInterfaces_inTable trivial

/-! ### Runs -/

/-- The indices that a run of the paths uses, from the start with zero tables. -/
def usedIndices (env : Env W) (b : Build) (depth : Nat) (radio : Sx1262) (now : Nat) (world : W)
    (xs : List PathStep) : List Interfaces :=
  emitted (Device.path env b depth) (Device.pathUses env b depth) (Device.zero radio now world) xs

end TiMcu.Tbfp
