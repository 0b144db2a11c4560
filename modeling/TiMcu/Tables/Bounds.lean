import TiMcu.Tables.Indices

/-!
# The indices stay inside the tables

`Initialized` is what the options for `IF_LORA`, `IF_SX1262` and `IF_UART1` can make of the tables: no TBFP instance works
for another interface than the first two, and only the RTCM3 instance of `IF_UART1` for `IF_UART1`.  From there on
`Inside` says of each function that it uses the tables inside their bounds and leaves their interfaces as they are.

The paths that leave the tables are those that name an interface behind `IF_CNT`, and the last byte of each good RTCM3
frame from the GNSS receiver: the forwarding loop runs up to `IF_CNT` inclusive.
-/

namespace TiMcu.Tbfp

open NorFlash Runs

variable {W : Type} {env : Env W} {proc : Proc W} {procUses : ProcUses W} {d d' d'' : Device W}
variable {slot interface : Interfaces} {u u' : List Interfaces}

/-! ### The tables -/

structure Initialized (d : Device W) : Prop where
  tbfp : ∀ s, d.interface s = .lora ∨ d.interface s = .sx1262
  rtcm3 : ∀ s, s ≠ .uart1 → (d.rtcm3 s).interface = .lora
  uart1 : (d.rtcm3 .uart1).interface = .lora ∨ (d.rtcm3 .uart1).interface = .uart1

private theorem Initialized.inTable (h : Initialized d) (s : Interfaces) : InTable (d.interface s) := by
  rcases h.tbfp s with hs | hs
  · rw [hs]
    trivial
  · rw [hs]
    trivial

theorem Initialized.ne_uart1 (h : Initialized d) (s : Interfaces) : d.interface s ≠ .uart1 := by
  rcases h.tbfp s with hs | hs
  · rw [hs]
    decide
  · rw [hs]
    decide

/-- What happened from `d` to `d'` used the tables with these indices. -/
structure Inside (d d' : Device W) (u : List Interfaces) : Prop where
  tbfp : ∀ s, d'.interface s = d.interface s
  rtcm3 : ∀ s, (d'.rtcm3 s).interface = (d.rtcm3 s).interface
  used : ∀ i ∈ u, InTable i

theorem Inside.refl (d : Device W) : Inside d d [] := ⟨fun _ => rfl, fun _ => rfl, by simp⟩

theorem Inside.trans (h : Inside d d' u) (h' : Inside d' d'' u') : Inside d d'' (u ++ u') where
  tbfp s := (h'.tbfp s).trans (h.tbfp s)
  rtcm3 s := (h'.rtcm3 s).trans (h.rtcm3 s)
  used := List.forall_mem_append.2 ⟨h.used, h'.used⟩

theorem Inside.initialized (h : Inside d d' u) (hd : Initialized d) : Initialized d' where
  tbfp s := h.tbfp s ▸ hd.tbfp s
  rtcm3 s hs := (h.rtcm3 s).trans (hd.rtcm3 s hs)
  uart1 := (h.rtcm3 .uart1).symm ▸ hd.uart1

/-- One index more. -/
theorem Inside.cons (h : Inside d d' u) (hi : InTable interface) : Inside d d' (interface :: u) :=
  ⟨h.tbfp, h.rtcm3, List.forall_mem_cons.2 ⟨hi, h.used⟩⟩

/-- A change that leaves the interfaces alone comes in front. -/
theorem Inside.after (h : Inside d' d'' u) (h' : Inside d d' []) : Inside d d'' u := by
  simpa using h'.trans h

/-- A change that leaves the interfaces alone follows. -/
theorem Inside.before (h : Inside d d' u) (h' : Inside d' d'' []) : Inside d d'' u := by
  simpa using h.trans h'

private theorem inside_note (x : Seen) : Inside d (d.note x) [] := ⟨fun _ => rfl, fun _ => rfl, by simp⟩

private theorem inside_setTbfp (r : TbfpReceiver) :
    Inside d (d.setTbfp slot r) [] := ⟨fun _ => rfl, fun _ => rfl, by simp⟩

private theorem inside_setTx {t : Transmitter W} (h : SameSetup d.tx t) : Inside d (d.setTx t) [] :=
  ⟨fun s => (h s).1, fun _ => rfl, by simp⟩

theorem Inside.setTx {t : Transmitter W} (h : Inside d d' u) (ht : SameSetup d'.tx t) : Inside d (d'.setTx t) u :=
  h.before (inside_setTx ht)

theorem Initialized.setTx {t : Transmitter W} (hd : Initialized d) (ht : SameSetup d.tx t) : Initialized (d.setTx t) :=
  (inside_setTx ht).initialized hd

private theorem inside_setRtcm3 {p : Rtcm3Protocol} (hp : p.interface = (d.rtcm3 slot).interface) :
    Inside d (d.setRtcm3 slot p) [] := by
  refine ⟨fun _ => rfl, fun s => ?_, by simp⟩
  by_cases hs : s = slot
  · subst hs
    rw [Device.setRtcm3_self, hp]
  · rw [Device.setRtcm3_of_ne d p hs]

/-! ### Sending -/

section

variable (env)
variable (hproc : ∀ (d : Device W) src len s reset, Initialized d → InTable s →
  Inside d (proc d src len s reset).2 (procUses d src len s reset))

include hproc

private theorem inside_sysSendIf (hd : Initialized d) (array : Frame) (interface : Interfaces) (retx : Retx) :
    Inside d (d.sysSendIf env proc array interface retx).2 (d.sysSendIfUses procUses array interface retx) := by
  unfold Device.sysSendIf
  by_cases hloopback : interface = .loopback
  · subst hloopback
    have hfed := hproc d (.txFrame .loopback) (UInt16.ofNat array.bytes.length) .loopback true hd trivial
    rw [if_pos rfl]
    unfold Device.sendLoopback
    dsimp only
    split
    · exact hfed
    · exact hfed.setTx fun _ => ⟨rfl, rfl⟩
  · have hsent : Inside d (d.setTx (d.tx.sysSendIf env array interface retx).2) [] :=
      inside_setTx (sameSetup_sysSendIf d.tx array interface retx)
    rw [if_neg hloopback]
    refine ⟨hsent.tbfp, hsent.rtcm3, ?_⟩
    cases interface with
    | loopback => exact absurd rfl hloopback
    | sx1262 =>
      unfold Device.sysSendIfUses
      dsimp only
      split
      · exact List.forall_mem_singleton.2 trivial
      · exact hsent.used
    | _ => exact hsent.used

theorem inside_tbfpSend (hd : Initialized d) (payload : Payload)
    (hi : PassesSizeTest payload.bytes.length → InTable interface) (lifetime : UInt8) (ack : TbfpAck) :
    Inside d (d.tbfpSend env proc payload interface lifetime ack).2
      (d.tbfpSendUses env procUses payload interface lifetime ack) := by
  have hbuilt : Inside d (d.setTx (d.tx.setNode interface
      ((d.tx.node interface).buildFrame env.crc8SaeJ1850Calc payload lifetime ack).2)) [] :=
    inside_setTx (sameSetup_setNode (sameNode_buildFrame _ _ payload lifetime ack))
  unfold Device.tbfpSend Device.tbfpSendUses
  dsimp only
  by_cases hsize : PassesSizeTest payload.bytes.length
  · rw [if_pos hsize]
    split
    · exact ((inside_sysSendIf env hproc (hbuilt.initialized hd) _ interface _).after hbuilt).cons (hi hsize)
    · exact hbuilt.cons (hi hsize)
  · rw [if_neg hsize]
    have hfails : ((d.tx.node interface).buildFrame env.crc8SaeJ1850Calc payload lifetime ack).1 = false := by
      rw [Node.buildFrame, if_neg hsize]
    rw [if_neg (by rw [hfails]; exact Bool.false_ne_true)]
    exact hbuilt

private theorem inside_tbfpSendAck (hd : Initialized d) (snum : UInt16) (hi : InTable interface) :
    Inside d (d.tbfpSendAck env proc snum interface).2 (d.tbfpSendAckUses env proc procUses snum interface) := by
  have hsent := inside_tbfpSend env hproc hd (ackPayload snum) (fun _ => hi) 0 .noNeed
  unfold Device.tbfpSendAck Device.tbfpSendAckUses
  dsimp only
  split
  · have hcount : Inside (d.tbfpSend env proc (ackPayload snum) interface 0 .noNeed).2 _ [interface] :=
      (inside_setTx (sameSetup_countAck _ interface)).cons hi
    exact hsent.trans hcount
  · simpa using hsent

theorem inside_tbfpSendPing (hd : Initialized d) (frameId : UInt8) (hi : InTable interface) :
    Inside d (d.tbfpSendPing env proc frameId interface).2 (d.tbfpSendPingUses env procUses frameId interface) :=
  inside_tbfpSend env hproc hd _ (fun _ => hi) 0 .noNeed

/-! ### The RTCM3 parser -/

omit hproc in
/-- An instance that does not work for `IF_UART1` passes a frame to the GNSS receiver, or to nobody. -/
private theorem inside_relay (proc : Proc W) (procUses : ProcUses W) (hslot : (d.rtcm3 slot).interface = .lora) :
    Inside d (d.relay env proc slot).2 (d.relayUses env proc procUses slot) := by
  have huart : Inside d (d.setTx (Tbfp.uartSend env d.tx uartNumZedF9p (d.rtcm3 slot).fixedFrame.bytes).2) [] :=
    inside_setTx fun _ => ⟨rfl, rfl⟩
  unfold Device.relay Device.relayUses
  rw [hslot]
  dsimp only
  unfold Device.uartFrame
  dsimp only
  split
  · exact huart
  · exact huart.before (inside_setRtcm3 rfl)

omit hproc in
private theorem inside_rtcm3Done : Inside d (d.rtcm3Done slot) [] := (inside_setTbfp _).before (inside_setRtcm3 rfl)

/-- The byte completes a frame with the right checksum. -/
def Device.CompletesRtcm3 (env : Env W) (d : Device W) (slot : Interfaces) (rxByte : UInt8) : Prop :=
  (d.rtcm3 slot).AtLastByte ∧ (((d.rtcm3 slot).load rxByte .waitCrc).takeCrc env).crcOk env

omit hproc in
/-- A byte that completes no frame changes nothing but the parser. -/
theorem rtcm3ProcByte_of_not_completes (proc : Proc W) {rxByte : UInt8} (h : ¬d.CompletesRtcm3 env slot rxByte) :
    Inside d (d.rtcm3ProcByte env proc slot rxByte).2 [] := by
  have hstep : ∀ r : Bool × Rtcm3Protocol, r.2.interface = (d.rtcm3 slot).interface →
      Inside d (d.stepRtcm3 slot r).2 [] := fun r hr => inside_setRtcm3 hr
  unfold Device.rtcm3ProcByte
  split
  · unfold rtcm3ProcWaitPreamble
    split <;> exact hstep _ rfl
  · unfold rtcm3ProcWaitLen rtcm3CheckLen
    split
    · exact hstep _ rfl
    · split
      · split <;> exact hstep _ rfl
      · exact hstep _ rfl
  · unfold rtcm3ProcWaitPayload
    split
    · exact hstep _ rfl
    · split <;> exact hstep _ rfl
  · next hstate =>
    unfold Device.rtcm3ProcWaitCrc24 Device.rtcm3CheckCrc24
    dsimp only
    split
    · exact hstep (true, _) rfl
    · split
      · exact hstep (true, _) rfl
      · split
        -- the last byte of the checksum: the checksum is wrong
        · next hlast =>
          rw [if_neg fun hcrc => h ⟨⟨hstate, hlast⟩, hcrc⟩]
          exact hstep (false, _) rfl
        · exact hstep (false, _) rfl
  · exact hstep _ rfl

omit hproc in
theorem rtcm3ProcByteUses_of_not_completes (proc : Proc W) (procUses : ProcUses W) {rxByte : UInt8}
    (h : ¬d.CompletesRtcm3 env slot rxByte) : d.rtcm3ProcByteUses env proc procUses slot rxByte = [] := by
  unfold Device.rtcm3ProcByteUses Device.rtcm3CheckCrc24Uses
  dsimp only
  split
  · next hlast => rw [if_neg fun hcrc => h ⟨hlast, hcrc⟩]
  · rfl

omit hproc in
theorem inside_rtcm3ProcByte (proc : Proc W) (procUses : ProcUses W) (hslot : (d.rtcm3 slot).interface = .lora)
    (rxByte : UInt8) :
    Inside d (d.rtcm3ProcByte env proc slot rxByte).2 (d.rtcm3ProcByteUses env proc procUses slot rxByte) := by
  by_cases h : d.CompletesRtcm3 env slot rxByte
  · obtain ⟨hlast, hcrc⟩ := h
    have hfirst : ¬(d.rtcm3 slot).loadLen = (d.rtcm3 slot).crc24Index.toNat := by
      rw [hlast.2]
      omega
    have hsecond : ¬(d.rtcm3 slot).loadLen = (d.rtcm3 slot).crc24Index.toNat + 1 := by
      rw [hlast.2]
      omega
    unfold Device.rtcm3ProcByte Device.rtcm3ProcWaitCrc24 Device.rtcm3CheckCrc24 Device.rtcm3ProcByteUses
      Device.rtcm3CheckCrc24Uses
    rw [hlast.1]
    dsimp only
    rw [if_neg hfirst, if_neg hsecond, if_pos hlast.2, if_pos hcrc, if_pos hlast, if_pos hcrc]
    generalize hq : ((d.rtcm3 slot).load rxByte .waitCrc).takeCrc env = q
    have hinterface : q.takeFrame.interface = .lora := hq ▸ hslot
    generalize hm : (d.setRtcm3 slot q.takeFrame).note (.rtcm3 slot (bytesAt q.rxFrame 0 q.packetLength.toNat)) = m
    have htake : Inside d m [] := hm ▸ (inside_setRtcm3 (hinterface.trans hslot.symm)).before (inside_note _)
    -- the frame goes to the GNSS receiver, not to the forwarding loop
    have hrelay : Inside m (m.relay env proc slot).2 (m.relayUses env proc procUses slot) :=
      inside_relay env proc procUses ((htake.rtcm3 slot).trans hslot)
    -- the instance still works for `IF_LORA`, whose parser is reset
    have hlora : ((m.relay env proc slot).2.rtcm3 slot).interface = .lora :=
      (hrelay.rtcm3 slot).trans ((htake.rtcm3 slot).trans hslot)
    have hdone : Inside (m.relay env proc slot).2 ((m.relay env proc slot).2.rtcm3Done slot)
        [((m.relay env proc slot).2.rtcm3 slot).interface] :=
      inside_rtcm3Done.cons (by rw [hlora]; trivial)
    exact (hrelay.trans hdone).after htake
  · rw [rtcm3ProcByteUses_of_not_completes env proc procUses h]
    exact rtcm3ProcByte_of_not_completes env proc h

omit hproc in
private theorem inside_rtcm3Fed (proc : Proc W) (procUses : ProcUses W) (hslot : (d.rtcm3 slot).interface = .lora)
    (hs : InTable slot) (src : Source) (n : Nat) :
    Inside d (d.rtcm3Fed env proc src slot n).2 (d.rtcm3FedUses env proc procUses src slot n) := by
  induction n with
  | zero => exact .refl d
  | succ n ih => exact ih.trans ((inside_rtcm3ProcByte env proc procUses ((ih.rtcm3 slot).trans hslot) _).cons hs)

omit hproc in
private theorem inside_rtcm3ProcArray (proc : Proc W) (procUses : ProcUses W) (hslot : (d.rtcm3 slot).interface = .lora)
    (hs : InTable slot) (src : Source) (size : Nat) :
    Inside d (d.rtcm3ProcArray env proc src size slot).2 (d.rtcm3ProcArrayUses env proc procUses src size slot) := by
  have hreset : Inside d (d.setRtcm3 slot (rtcm3ResetRx (d.rtcm3 slot))) [] := inside_setRtcm3 rfl
  have hfed := (inside_rtcm3Fed env proc procUses ((hreset.rtcm3 slot).trans hslot) hs src size).after hreset
  unfold Device.rtcm3ProcArray Device.rtcm3ProcArrayUses
  split
  · dsimp only
    split
    · exact hfed.cons hs
    · exact hfed.cons hs
  · exact .refl d

/-! ### Receiving -/

private theorem inside_tbfpProcPing (hd : Initialized d) (len : UInt16) (hi : InTable interface) :
    Inside d (d.tbfpProcPing env proc slot len interface).2 (d.tbfpProcPingUses env procUses slot len interface) := by
  have hnote : Inside d (d.note (.read env.sizeofPingFrame len.toNat)) [] := inside_note _
  have hanswer : Inside d ((d.note (.read env.sizeofPingFrame len.toNat)).answerPing env proc (d.payload slot 0)
      interface) (d.tbfpProcPingUses env procUses slot len interface) := by
    unfold Device.answerPing Device.tbfpProcPingUses
    split
    · exact (inside_tbfpSendPing env hproc (hnote.initialized hd) frameIdPong hi).after hnote
    · exact hnote
  exact hanswer.setTx fun _ => ⟨rfl, rfl⟩

omit hproc in
private theorem inside_procAck (len : UInt16) (hi : InTable interface) :
    Inside d (d.procAck slot len interface).2 [interface] := by
  have hnote : Inside d (d.note (.read 3 len.toNat)) [] := inside_note _
  have hset : Inside (d.note (.read 3 len.toNat)) (d.procAck slot len interface).2 [] :=
    inside_setTx (sameSetup_setNode ⟨rfl, rfl⟩)
  exact (hnote.before hset).cons hi

omit hproc in
private theorem inside_tbfpProcChat (len : UInt16) : Inside d (d.tbfpProcChat env slot len).2 [] := by
  have hnote : Inside d (d.note (.read len.toNat len.toNat)) [] := inside_note _
  unfold Device.tbfpProcChat
  split
  · exact hnote.setTx fun _ => ⟨rfl, rfl⟩
  · exact .refl d

omit hproc in
private theorem inside_tbfpProcCmd (len : UInt16) : Inside d (d.tbfpProcCmd env proc slot len).2 [] := by
  have hend : Inside d ((d.note (.read len.toNat len.toNat)).endString slot len) [] :=
    ((inside_note _).before (inside_setTbfp _)).before (inside_note _)
  rw [Device.tbfpProcCmd_env]
  split
  · exact hend.setTx fun _ => ⟨rfl, rfl⟩
  · exact .refl d

private theorem inside_procTunnel (hd : Initialized d) (len : UInt16) : Inside d (d.procTunnel proc slot len).2
    (procUses (d.note (.read (1 + (len - 1).toNat) len.toNat)) (.fixFrame slot (tbfpIndexPayload + 1)) (len - 1) .lora
      false) := by
  have hnote : Inside d (d.note (.read (1 + (len - 1).toNat) len.toNat)) [] := inside_note _
  have hlora : InTable .lora := trivial
  exact (hproc _ _ _ _ _ (hnote.initialized hd) hlora).after hnote

private theorem inside_tbfpProcPayload (hd : Initialized d) (len : UInt16) (hi : InTable interface)
    (hne : interface ≠ .uart1) : Inside d (d.tbfpProcPayload env proc slot len interface).2
      (d.tbfpProcPayloadUses env proc procUses slot len interface) := by
  have hnote : Inside d (d.note (.read 1 len.toNat)) [] := inside_note _
  have hd' := hnote.initialized hd
  unfold Device.tbfpProcPayload Device.tbfpProcPayloadUses
  dsimp only
  split
  · exact (inside_procAck len hi).after hnote
  · split
    · exact (inside_procTunnel hproc hd' len).after hnote
    · split
      · have hread : Inside (d.note (.read 1 len.toNat))
            ((d.note (.read 1 len.toNat)).note (.read len.toNat len.toNat)) [] := inside_note _
        have hlora := (hread.initialized hd').rtcm3 interface hne
        exact ((inside_rtcm3ProcArray env proc procUses hlora hi _ _).after hread).after hnote
      · split
        · exact (inside_tbfpProcChat env len).after hnote
        · split
          · exact (inside_tbfpProcPing env hproc hd' len hi).after hnote
          · split
            · exact (inside_tbfpProcCmd env len).after hnote
            · exact hnote

/-! ### A whole frame -/

private theorem inside_meshFrame (r : Bool × Device W) (hd : Initialized r.2) (slot : Interfaces)
    (hi : InTable interface)
    (header : TbfHeader) : Inside r.2 (Device.meshFrame env proc r slot interface header).2
      (r.2.meshFrameUses env procUses slot interface header) := by
  unfold Device.meshFrame Device.meshFrameUses
  split
  · exact inside_tbfpSend env hproc hd _ (fun _ => hi) _ _
  · exact .refl _

private theorem inside_ackFrame (r : Bool × Device W) (hd : Initialized r.2) (hi : InTable interface)
    (header : TbfHeader) :
    Inside r.2 (Device.ackFrame env proc r interface header).2
      (r.2.ackFrameUses env proc procUses interface header) := by
  unfold Device.ackFrame Device.ackFrameUses
  split
  · exact inside_tbfpSendAck env hproc hd _ hi
  · exact .refl _

private theorem inside_handFrame (flowOk : Bool) (r : Bool × Device W) (hd : Initialized r.2) (slot : Interfaces)
    (hi : InTable interface) (hne : interface ≠ .uart1) (header : TbfHeader) :
    Inside r.2 (Device.handFrame env proc flowOk r slot interface header).2
      (Device.handFrameUses env proc procUses flowOk r.2 slot interface header) := by
  have hnote : Inside r.2 (r.2.note (.handed interface header.snum)) [] := inside_note _
  unfold Device.handFrame Device.handFrameUses
  split
  · exact (inside_tbfpProcPayload env hproc (hnote.initialized hd) header.len hi hne).after hnote
  · exact .refl _

private theorem inside_tbfpProcFull (hd : Initialized d) (len : UInt16) (hi : InTable interface)
    (hne : interface ≠ .uart1) :
    Inside d (d.tbfpProcFull env proc slot len interface).2
      (d.tbfpProcFullUses env proc procUses slot len interface) := by
  unfold Device.tbfpProcFull Device.tbfpProcFullUses
  split
  · generalize TbfHeader.read (d.tbfp slot).parser.fixFrame = header
    have hcount : Inside d (d.countFrame interface len header.snum) [] := (inside_setTbfp _).before (inside_note _)
    have hd' := hcount.initialized hd
    have hmesh := inside_meshFrame env hproc (true, d.countFrame interface len header.snum) hd' slot hi header
    have hack := hmesh.trans (inside_ackFrame env hproc _ (hmesh.initialized hd') hi header)
    have hhand := hack.trans
      (inside_handFrame env hproc (tbfpCheckFlowControl (d.tbfp interface).flow header.snum).1 _ (hack.initialized hd')
        slot hi hne header)
    exact ((hhand.after hcount).cons hi).cons hi
  · exact (Inside.refl d).cons hi

/-! ### The parser -/

private theorem inside_tbfpCheckCrc8 (hd : Initialized d) (r : TbfpReceiver) :
    Inside d (d.tbfpCheckCrc8 env proc slot r) (d.tbfpCheckCrc8Uses env proc procUses slot r) := by
  unfold Device.tbfpCheckCrc8 Device.tbfpCheckCrc8Uses
  split
  · have haccept : Inside d (d.acceptFrame slot r) [] :=
      ((inside_setTbfp _).before (inside_note _)).before (inside_note _)
    have hd' := haccept.initialized hd
    exact ((inside_tbfpProcFull env hproc hd' _ (hd'.inTable slot) (hd'.ne_uart1 slot)).before
      (inside_setTbfp _)).after haccept
  · exact inside_setTbfp _

private theorem inside_tbfpProcByte (hd : Initialized d) (rxByte : UInt8) :
    Inside d (d.tbfpProcByte env proc slot rxByte).2
    (d.tbfpProcByteUses env proc procUses slot rxByte) := by
  unfold Device.tbfpProcByteUses
  dsimp only
  by_cases hlast : (d.tbfp slot).parser.rxState = .waitCrc ∧
      (d.tbfp slot).parser.loadLen = (d.tbfp slot).parser.crc8Index.toNat
  · rw [if_pos hlast]
    unfold Device.tbfpProcByte
    rw [hlast.1]
    dsimp only
    rw [Device.tbfpParserProcWaitCrc8, if_pos hlast.2]
    exact inside_tbfpCheckCrc8 env hproc hd _
  · rw [if_neg hlast]
    unfold Device.tbfpProcByte
    split
    · exact inside_setTbfp _
    · exact inside_setTbfp _
    · exact inside_setTbfp _
    · exact inside_setTbfp _
    · exact inside_setTbfp _
    · next hstate =>
      rw [Device.tbfpParserProcWaitCrc8, if_neg fun hlen => hlast ⟨hstate, hlen⟩]
      exact inside_setTbfp _
    · exact inside_setTbfp _

/-! ### An array of bytes -/

omit hproc in
private theorem inside_unfed (unfed : List Region) : Inside d { d with unfed := unfed } [] :=
  ⟨fun _ => rfl, fun _ => rfl, by simp⟩

private theorem inside_feedByte (hd : Initialized d) (src : Source) (len : UInt16) (i : Nat) :
    Inside d (d.feedByte env proc src len slot i).2 (d.feedByteUses env proc procUses src len slot i) := by
  have hunfed : Inside d { d with unfed := src.rest (i + 1) len.toNat ++ d.unfed } [] := inside_unfed _
  exact ((inside_tbfpProcByte env hproc (hunfed.initialized hd) _).after hunfed).before (inside_unfed d.unfed)

private theorem inside_fed (hd : Initialized d) (hs : InTable slot) (src : Source) (len : UInt16) (n : Nat) :
    Inside d (d.fed env proc src len slot n).2 (d.fedUses env proc procUses src len slot n) := by
  induction n with
  | zero => exact .refl d
  | succ n ih => exact ih.trans ((inside_feedByte env hproc (ih.initialized hd) src len n).cons hs)

private theorem inside_tbfpProcBody (hd : Initialized d) (hs : InTable slot) (src : Source) (len : UInt16)
    (isResetParser : Bool) : Inside d (tbfpProcBody env proc d src len slot isResetParser).2
      (tbfpProcBodyUses env proc procUses d src len slot isResetParser) := by
  have hreset : Inside d (if isResetParser then d.resetRx slot else d) [] := by
    split
    · exact inside_setTbfp _
    · exact .refl d
  have hfed := (inside_fed env hproc (hreset.initialized hd) hs src len len.toNat).after hreset
  have hlack : ∀ (d : Device W) initRxPkt, Inside d (d.countLack slot initRxPkt isResetParser) [] := by
    intro d initRxPkt
    unfold Device.countLack
    dsimp only
    split
    · exact .refl d
    · split
      · exact inside_setTbfp _
      · exact .refl d
  exact (hfed.before (hlack _ _)).cons hs

end

/-- Whatever is fed to a parser of the tables, at any depth of nested calls. -/
theorem tbfpProc_inside (env : Env W) (depth : Nat) (hd : Initialized d) (src : Source) (len : UInt16)
    (hs : InTable slot) (isResetParser : Bool) : Inside d (tbfpProc env depth d src len slot isResetParser).2
      (tbfpProcUses env depth d src len slot isResetParser) := by
  induction depth generalizing d src len slot isResetParser with
  | zero => exact (inside_note _).cons hs
  | succ depth ih =>
    exact inside_tbfpProcBody env (fun _ _ _ _ _ hd hs => ih hd _ _ hs _) hd hs src len isResetParser

end TiMcu.Tbfp
