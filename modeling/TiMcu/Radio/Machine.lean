import TiMcu.Lora.Queue

/-!
# The machine inside the device

What a call of the device does to the retransmission machine of `IF_SX1262` is a list of events of that machine.
`Makes` says of which kind they are.  Whatever is fed to the other parsers makes no event (`tbfpProc_other`), and a frame
that the parser of `IF_SX1262` completes makes those of `Caused` (`tbfpProc_radio`).
-/

namespace TiMcu.Tbfp

open NorFlash LittleEndian Framing Runs

variable {W : Type} {env : Env W} {proc : Proc W} {d d' d'' : Device W} {slot interface : Interfaces}
variable {P P' : Event → Prop} {t : Transmitter W} {n : Node} {f : List UInt8}

/-- The machine of `IF_SX1262` with the radio. -/
def Device.machine (d : Device W) : Node := d.tx.node .sx1262

/-- From one device to the other the machine takes steps for events of that kind, and the parser of `IF_SX1262`
completes no frame. -/
structure Makes (env : Env W) (P : Event → Prop) (d d' : Device W) : Prop where
  machine : ∃ es, (∀ e ∈ es, P e) ∧ d'.machine = run (step env.crc8SaeJ1850Calc) d.machine es
  accepted : acceptedFrames .sx1262 d'.log = acceptedFrames .sx1262 d.log

theorem Makes.refl (d : Device W) : Makes env P d d := ⟨⟨[], by simp, rfl⟩, rfl⟩

theorem Makes.trans (h : Makes env P d d') (h' : Makes env P d' d'') : Makes env P d d'' := by
  obtain ⟨⟨es, hes, hrun⟩, haccepted⟩ := h
  obtain ⟨⟨es', hes', hrun'⟩, haccepted'⟩ := h'
  refine ⟨⟨es ++ es', List.forall_mem_append.2 ⟨hes, hes'⟩, ?_⟩, haccepted'.trans haccepted⟩
  rw [hrun', hrun, run_append]

theorem Makes.mono (h : Makes env P d d') (hP : ∀ e, P e → P' e) : Makes env P' d d' := by
  obtain ⟨es, hes, hrun⟩ := h.machine
  exact ⟨⟨es, fun e he => hP e (hes e he), hrun⟩, h.accepted⟩

/-- The machine stays. -/
private theorem makes_still (hmachine : d'.machine = d.machine)
    (haccepted : acceptedFrames .sx1262 d'.log = acceptedFrames .sx1262 d.log) : Makes env P d d' :=
  ⟨⟨[], by simp, hmachine⟩, haccepted⟩

/-- The machine takes one step. -/
theorem makes_one {e : Event} (he : P e) (ht : t.node .sx1262 = step env.crc8SaeJ1850Calc d.machine e) :
    Makes env P d (d.setTx t) := ⟨⟨[e], by simpa using he, ht⟩, rfl⟩

theorem makes_setTx (ht : t.node .sx1262 = d.machine) : Makes env P d (d.setTx t) := makes_still ht rfl

theorem makes_note {x : Seen} (hx : x.acceptedFrame .sx1262 = none) : Makes env P d (d.note x) := by
  refine makes_still rfl ?_
  simp [acceptedFrames, Device.note, hx]

theorem makes_setTbfp (r : TbfpReceiver) : Makes env P d (d.setTbfp slot r) := makes_still rfl rfl

theorem makes_setRtcm3 (p : Rtcm3Protocol) : Makes env P d (d.setRtcm3 slot p) := makes_still rfl rfl

theorem Makes.note {x : Seen} (h : Makes env P d d') (hx : x.acceptedFrame .sx1262 = none) :
    Makes env P d (d'.note x) := h.trans (makes_note hx)

theorem Makes.setTx (h : Makes env P d d') (ht : t.node .sx1262 = d'.machine) : Makes env P d (d'.setTx t) :=
  h.trans (makes_setTx ht)

/-! ### The entries of the table -/

theorem buildFrame_radio (env : Env W) (n : Node) (payload : Payload) (lifetime : UInt8) (ack : TbfpAck) :
    (n.buildFrame env.crc8SaeJ1850Calc payload lifetime ack).2.radio = n.radio := by
  unfold Node.buildFrame tbfpMakeHeader
  split
  · split <;> rfl
  · rfl

/-- Another entry changes, and the radio does not. -/
theorem node_setNode_of_ne (hs : slot ≠ .sx1262) (hn : n.radio = t.radio) :
    (t.setNode slot n).node .sx1262 = t.node .sx1262 := by
  have hne : Interfaces.sx1262 ≠ slot := fun h => hs h.symm
  unfold Transmitter.node
  rw [t.setNode_tbfp_of_ne n hne, t.setNode_trace_of_ne n hne]
  change Node.mk _ n.radio _ _ = _
  rw [hn]
  rfl

private theorem sysSentSx1262_now (spi : Bool) (n : Node) (array : Frame) (retx : Retx) :
    (Tbfp.sysSentSx1262 spi n array retx).2.now = n.now := by
  cases retx with
  | noNeed => rfl
  | need =>
    unfold Tbfp.sysSentSx1262 tbfpRetxStart
    dsimp only
    split
    · split
      · unfold sendTry
        dsimp only
        split <;> rfl
      · rfl
    · rfl

private theorem node_countSendErr (r : Bool × Transmitter W) (s : Interfaces) :
    (Transmitter.countSendErr r).2.node s = r.2.node s := by
  unfold Transmitter.countSendErr
  split <;> rfl

private theorem countSendErr_fst (r : Bool × Transmitter W) : (Transmitter.countSendErr r).1 = r.1 := by
  unfold Transmitter.countSendErr
  split
  · rfl
  · next h => exact (Bool.eq_false_iff.2 h).symm

/-! ### Sending -/

section

variable (env)

private theorem node_sysSendIf_of_ne (hi : interface ≠ .sx1262) (t : Transmitter W) (array : Frame) (retx : Retx) :
    (t.sysSendIf env array interface retx).2.node .sx1262 = t.node .sx1262 := by
  unfold Transmitter.sysSendIf
  rw [node_countSendErr]
  unfold Transmitter.sendIf
  split
  · exact absurd rfl hi
  · unfold loraSendQueue
    split
    · dsimp only
      split <;> rfl
    · rfl
  · rfl
  · rfl

private theorem node_tbfpSend_of_ne (hi : interface ≠ .sx1262) (t : Transmitter W) (payload : Payload)
    (lifetime : UInt8)
    (ack : TbfpAck) : (t.tbfpSend env payload interface lifetime ack).2.node .sx1262 = t.node .sx1262 := by
  have hbuilt := node_setNode_of_ne hi (buildFrame_radio env (t.node interface) payload lifetime ack)
  unfold Transmitter.tbfpSend
  dsimp only
  split
  · rw [node_sysSendIf_of_ne env hi]
    exact hbuilt
  · exact hbuilt

/-- On `IF_SX1262` the machine takes a step. -/
private theorem tbfpSend_radio (t : Transmitter W) (payload : Payload) (lifetime : UInt8) (ack : TbfpAck) :
    let r := Tbfp.tbfpSend env.crc8SaeJ1850Calc (env.spi t.world).1 (t.node .sx1262) payload lifetime ack
    (t.tbfpSend env payload .sx1262 lifetime ack).1 = r.1 ∧
      (t.tbfpSend env payload .sx1262 lifetime ack).2.node .sx1262 = r.2 := by
  have hnow := @buildFrame_now env.crc8SaeJ1850Calc (t.node .sx1262) payload lifetime ack
  intro r
  have hr : r = _ := Node.buildFrame_send env.crc8SaeJ1850Calc (env.spi t.world).1 (t.node .sx1262) payload lifetime ack
  rw [hr]
  unfold Transmitter.tbfpSend
  generalize (t.node .sx1262).buildFrame env.crc8SaeJ1850Calc payload lifetime ack = b at hnow ⊢
  have hnode : (t.setNode .sx1262 b.2).node .sx1262 = b.2 := Transmitter.node_setNode hnow
  dsimp only
  split
  · unfold Transmitter.sysSendIf
    rw [countSendErr_fst, node_countSendErr]
    unfold Transmitter.sendIf Transmitter.sysSentSx1262
    dsimp only
    rw [hnode]
    refine ⟨rfl, ?_⟩
    have hsent := sysSentSx1262_now (env.spi t.world).1 b.2 (b.2.builtFrame payload.bytes.length) ack.retx
    exact Transmitter.node_setNode (t := t.setNode .sx1262 b.2) (s := .sx1262) (hsent.trans hnow)
  · exact ⟨rfl, hnode⟩

private theorem tbfpSendAck_radio (t : Transmitter W) (snum : UInt16) :
    (t.tbfpSendAck env snum .sx1262).2.node .sx1262 =
      (Tbfp.tbfpSendAck env.crc8SaeJ1850Calc (env.spi t.world).1 (t.node .sx1262) snum).2 := by
  obtain ⟨hres, hnode⟩ := tbfpSend_radio env t (ackPayload snum) 0 .noNeed
  unfold Transmitter.tbfpSendAck Tbfp.tbfpSendAck
  dsimp only
  rw [hres]
  split
  · rw [← hnode]
    simp [Transmitter.node, Transmitter.countAck, TbfpProtocol.countAck]
  · exact hnode

private theorem node_tbfpSendAck_of_ne (hi : interface ≠ .sx1262) (t : Transmitter W) (snum : UInt16) :
    (t.tbfpSendAck env snum interface).2.node .sx1262 = t.node .sx1262 := by
  have hsend := node_tbfpSend_of_ne env hi t (ackPayload snum) 0 .noNeed
  have hne : Interfaces.sx1262 ≠ interface := fun h => hi h.symm
  unfold Transmitter.tbfpSendAck
  dsimp only
  split
  · rw [← hsend]
    simp [Transmitter.node, Transmitter.countAck, hne]
  · exact hsend

end

/-! ### What a frame makes the machine do -/

/-- The bytes of a frame between its header and its checksum. -/
def framePayload (f : List UInt8) : List UInt8 := (f.drop tbfpIndexPayload).take (payloadLen f)

/-- An event that the handling of a frame makes. -/
inductive Caused (f : List UInt8) : Event → Prop
  | ack {serNum : UInt16} (hid : frameId f = frameIdAck)
      (hnum : 2 < payloadLen f → serNum = join (f.getD (tbfpIndexPayload + 1) 0) (f.getD (tbfpIndexPayload + 2) 0)) :
      Caused f (.ack serNum)
  | sendAck (hneed : (frameHeader f).ackNeed = .need) (spi : Bool) : Caused f (.sendAck (frameHeader f).snum spi)
  | mesh {payload : Payload} (hlife : 0 < (frameHeader f).lifetime) (hpayload : payload.bytes = framePayload f)
      (ack : TbfpAck) (spi : Bool) : Caused f (.send payload ((frameHeader f).lifetime - 1) ack spi)
  | pong {payload : Payload} (hid : payload.bytes.head? = some frameIdPong) (spi : Bool) :
      Caused f (.send payload 0 .noNeed spi)

/-- The `fix_frame` of that entry of the table holds the frame, and what the frame makes is of that kind. -/
structure Handles (env : Env W) (P : Event → Prop) (d : Device W) (slot : Interfaces) (f : List UInt8) : Prop where
  holds : HoldsFrame env d slot f
  kind : ∀ e, Caused f e → P e

theorem makes_tbfpSend (env : Env W) (d : Device W) {payload : Payload} {lifetime : UInt8} {ack : TbfpAck}
    (he : interface = .sx1262 → ∀ spi, P (.send payload lifetime ack spi)) :
    Makes env P d (d.setTx (d.tx.tbfpSend env payload interface lifetime ack).2) := by
  by_cases hi : interface = .sx1262
  · subst hi
    exact makes_one (he rfl _) (tbfpSend_radio env d.tx payload lifetime ack).2
  · exact makes_setTx (node_tbfpSend_of_ne env hi d.tx payload lifetime ack)

private theorem makes_tbfpSendAck (env : Env W) (d : Device W) {snum : UInt16}
    (he : interface = .sx1262 → ∀ spi, P (.sendAck snum spi)) :
    Makes env P d (d.setTx (d.tx.tbfpSendAck env snum interface).2) := by
  by_cases hi : interface = .sx1262
  · subst hi
    exact makes_one (he rfl _) (tbfpSendAck_radio env d.tx snum)
  · exact makes_setTx (node_tbfpSendAck_of_ne env hi d.tx snum)

private theorem framePayload_at (h : HoldsFrame env d slot f) :
    (Payload.at (d.tbfp slot).parser.fixFrame tbfpIndexPayload (frameHeader f).len).bytes = framePayload f := by
  have hindex : tbfpIndexPayload = 6 := rfl
  have hover : tbfpSizeOverhead = 7 := rfl
  have hlen := h.length
  have hfront : bytesAt (d.tbfp slot).parser.fixFrame 0 (tbfpIndexPayload + payloadLen f) =
      f.take (tbfpIndexPayload + payloadLen f) := by
    rw [← take_bytesAt (show tbfpIndexPayload + payloadLen f ≤ f.length by omega), h.bytes]
  change bytesAt (d.tbfp slot).parser.fixFrame tbfpIndexPayload (frameHeader f).len.toNat = _
  rw [frameHeader_len, ← Buffer.drop_bytesAt, hfront, framePayload, List.drop_take, Nat.add_sub_cancel_left]

/-- A well-formed frame is answered. -/
private theorem makes_answered (hP : interface = .sx1262 → Handles env P d slot f) (len : UInt16) :
    Makes env P d (d.answered env slot len interface) := by
  generalize hh : TbfHeader.read (d.tbfp slot).parser.fixFrame = header
  generalize hp : Payload.at (d.tbfp slot).parser.fixFrame tbfpIndexPayload header.len = payload
  have hheader : interface = .sx1262 → header = frameHeader f := by
    intro hi
    rw [← hh, (hP hi).holds.header]
  have hpayload : interface = .sx1262 → payload.bytes = framePayload f := by
    intro hi
    rw [← hp, hheader hi]
    exact framePayload_at (hP hi).holds
  have hcount : Makes env P d (d.countFrame interface len header.snum) := (makes_setTbfp _).note rfl
  have hmesh : Makes env P (d.countFrame interface len header.snum)
      ((d.countFrame interface len header.snum).setTx (d.tx.meshFrame env payload interface header).2) := by
    unfold Transmitter.meshFrame
    split
    · next hlife =>
      refine makes_tbfpSend env (d.countFrame interface len header.snum) fun hi spi => (hP hi).kind _ ?_
      rw [hheader hi] at hlife ⊢
      exact .mesh hlife.1 (hpayload hi) _ spi
    · exact .refl _
  have hanswer : Makes env P (d.countFrame interface len header.snum)
      ((d.countFrame interface len header.snum).setTx (d.tx.answer env payload interface header).2) := by
    unfold Transmitter.answer
    dsimp only
    split
    · next hneed =>
      refine hmesh.trans (makes_tbfpSendAck env _ fun hi spi => (hP hi).kind _ ?_)
      rw [hheader hi] at hneed ⊢
      exact .sendAck hneed spi
    · exact hmesh
  unfold Device.answered
  dsimp only
  rw [hh, hp]
  exact hcount.trans hanswer

private theorem configured_answered (hd : Configured d) (len : UInt16) (interface : Interfaces) :
    Configured (d.answered env slot len interface) := by
  have hsetup : SameSetup d.tx (d.answered env slot len interface).tx := sameSetup_answer d.tx _ interface _
  exact ⟨fun s => (hsetup s).1.trans (hd.tbfp s), hd.rtcm3⟩

theorem Handles.answered (h : Handles env P d slot f) (len : UInt16) (interface : Interfaces) :
    Handles env P (d.answered env slot len interface) slot f := by
  have hsetup : SameSetup d.tx (d.answered env slot len interface).tx := sameSetup_answer d.tx _ interface _
  have hpreamble : (d.answered env slot len interface).preambleVal slot = d.preambleVal slot := (hsetup slot).2
  refine ⟨⟨?_, ?_⟩, h.kind⟩
  · rw [hpreamble]
    exact h.holds.verdict
  · rw [parser_answered]
    exact h.holds.bytes

theorem Handles.note (h : Handles env P d slot f) (x : Seen) : Handles env P (d.note x) slot f :=
  ⟨⟨h.holds.verdict, h.holds.bytes⟩, h.kind⟩

/-! ### The handlers -/

private theorem makes_uartFrame (env : Env W) (d : Device W) : Makes env P d (d.uartFrame env slot).2 := by
  have huart : Makes env P d (d.setTx (uartSend env d.tx uartNumZedF9p (d.rtcm3 slot).fixedFrame.bytes).2) :=
    makes_setTx rfl
  unfold Device.uartFrame
  dsimp only
  split
  · exact huart
  · exact huart.trans (makes_setRtcm3 _)

private theorem makes_relay (env : Env W) (proc : Proc W) (hlora : (d.rtcm3 slot).interface = .lora) :
    Makes env P d (d.relay env proc slot).2 := by
  unfold Device.relay
  rw [hlora]
  exact makes_uartFrame env d

/-- A frame that the radio brought goes to the UART of the GNSS receiver. -/
private theorem makes_rtcm3ProcByte (env : Env W) (proc : Proc W) (hlora : (d.rtcm3 slot).interface = .lora)
    (rxByte : UInt8) :
    Makes env P d (d.rtcm3ProcByte env proc slot rxByte).2 ∧
      ((d.rtcm3ProcByte env proc slot rxByte).2.rtcm3 slot).interface = .lora := by
  have hhandled : Handled slot 0 d (d.rtcm3ProcByte env proc slot rxByte).2 := by
    refine handled_rtcm3ProcByte (fun hfeeds => ?_) rxByte
    rw [hfeeds.1] at hlora
    cases hlora
  refine ⟨?_, (hhandled.rtcm3 slot).1.trans hlora⟩
  have hstep := rtcm3ProcByte_cases env proc d slot rxByte
  generalize d.rtcm3ProcByte env proc slot rxByte = r at hstep ⊢
  cases hstep with
  | loads res p hi hf hok => exact makes_setRtcm3 p
  | accepts p frame hi hf hok =>
    have htake : Makes env P d ((d.setRtcm3 slot p.takeFrame).note (.rtcm3 slot frame)) :=
      (makes_setRtcm3 _).note rfl
    have hinterface : (((d.setRtcm3 slot p.takeFrame).note (.rtcm3 slot frame)).rtcm3 slot).interface = .lora := by
      change ((d.setRtcm3 slot p.takeFrame).rtcm3 slot).interface = .lora
      rw [d.setRtcm3_self]
      exact hi.trans hlora
    have hrelay := htake.trans (makes_relay env proc hinterface)
    exact hrelay.trans ((makes_setTbfp _).trans (makes_setRtcm3 _))

private theorem makes_rtcm3Fed (env : Env W) (proc : Proc W) (hlora : (d.rtcm3 slot).interface = .lora) (src : Source)
    (m : Nat) :
    Makes env P d (d.rtcm3Fed env proc src slot m).2 ∧
      ((d.rtcm3Fed env proc src slot m).2.rtcm3 slot).interface = .lora := by
  induction m with
  | zero => exact ⟨.refl d, hlora⟩
  | succ m ih =>
    have hbyte := makes_rtcm3ProcByte env proc (P := P) ih.2 ((d.rtcm3Fed env proc src slot m).2.byteAt src m)
    exact ⟨ih.1.trans hbyte.1, hbyte.2⟩

private theorem makes_rtcm3ProcArray (env : Env W) (proc : Proc W) (hlora : (d.rtcm3 slot).interface = .lora)
    (src : Source)
    (size : Nat) : Makes env P d (d.rtcm3ProcArray env proc src size slot).2 := by
  have hreset : ((d.setRtcm3 slot (rtcm3ResetRx (d.rtcm3 slot))).rtcm3 slot).interface = .lora := by
    rw [Device.setRtcm3_self]
    exact hlora
  have hfed : Makes env P d ((d.setRtcm3 slot (rtcm3ResetRx (d.rtcm3 slot))).rtcm3Fed env proc src slot size).2 :=
    (makes_setRtcm3 _).trans (makes_rtcm3Fed env proc hreset src size).1
  unfold Device.rtcm3ProcArray
  split
  · dsimp only
    split <;> exact hfed
  · exact .refl d

private theorem makes_procAck (env : Env W) (d : Device W) (len : UInt16)
    (he : interface = .sx1262 → P (.ack (join (d.payload slot 1) (d.payload slot 2)))) :
    Makes env P d (d.procAck slot len interface).2 := by
  have hread : Makes env P d (d.note (.read 3 len.toNat)) := makes_note rfl
  refine hread.trans ?_
  by_cases hi : interface = .sx1262
  · subst hi
    exact makes_one (he rfl) (Transmitter.node_setNode rfl)
  · exact makes_setTx (node_setNode_of_ne hi rfl)

private theorem makes_tbfpProcChat (env : Env W) (d : Device W) (len : UInt16) :
    Makes env P d (d.tbfpProcChat env slot len).2 := by
  have hread : Makes env P d (d.note (.read len.toNat len.toNat)) := makes_note rfl
  unfold Device.tbfpProcChat
  split
  · exact hread.setTx rfl
  · exact .refl d

private theorem makes_tbfpProcPing (env : Env W) (proc : Proc W) (hl : interface ≠ .loopback) (len : UInt16)
    (he : interface = .sx1262 → ∀ (payload : Payload) spi, payload.bytes.head? = some frameIdPong →
      P (.send payload 0 .noNeed spi)) :
    Makes env P d (d.tbfpProcPing env proc slot len interface).2 := by
  have hread : Makes env P d (d.note (.read env.sizeofPingFrame len.toNat)) := makes_note rfl
  have hanswer : Makes env P d ((d.note (.read env.sizeofPingFrame len.toNat)).answerPing env proc
      (d.payload slot 0) interface) := by
    unfold Device.answerPing Device.tbfpSendPing
    split
    · rw [Device.tbfpSend_of_ne _ _ hl]
      exact hread.trans (makes_tbfpSend env _ fun hi spi => he hi _ spi rfl)
    · exact hread
  exact hanswer.setTx rfl

private theorem makes_tbfpProcCmd (env : Env W) (d : Device W) (len : UInt16) :
    Makes env P d (d.tbfpProcCmd env proc slot len).2 := by
  rw [Device.tbfpProcCmd_env]
  split
  · have hread : Makes env P d (d.note (.read len.toNat len.toNat)) := makes_note rfl
    have hend : Makes env P d ((d.note (.read len.toNat len.toNat)).endString slot len) :=
      (hread.trans (makes_setTbfp _)).note rfl
    exact hend.setTx rfl
  · exact .refl d

section

variable (hproc : ∀ (d : Device W) src len, Configured d → Makes env P d (proc d src len .lora false).2)

include hproc

private theorem makes_tbfpProcPayload (hP : interface = .sx1262 → Handles env P d slot f) (hd : Configured d)
    (hl : interface ≠ .loopback) (hu : interface ≠ .uart1) (len : UInt16) :
    Makes env P d (d.tbfpProcPayload env proc slot len interface).2 := by
  have hindex : tbfpIndexPayload = 6 := rfl
  have hover : tbfpSizeOverhead = 7 := rfl
  have hread : Makes env P d (d.note (.read 1 len.toNat)) := makes_note rfl
  unfold Device.tbfpProcPayload
  dsimp only
  split
  · next hack =>
    refine hread.trans (makes_procAck env _ len fun hi => (hP hi).kind _ ?_)
    have h := (hP hi).holds
    refine .ack (h.payload_id.symm.trans hack) fun hlen => ?_
    have hbyte : ∀ k ≤ 2, d.payload slot k = f.getD (tbfpIndexPayload + k) 0 := by
      intro k hk
      refine (Buffer.getD_of_bytesAt h.bytes ?_).symm
      rw [h.length]
      omega
    change join (d.payload slot 1) (d.payload slot 2) = _
    rw [hbyte 1 (by decide), hbyte 2 (by decide)]
  · split
    · refine (hread.note ?_).trans (hproc _ _ _ ((hd.note _).note _))
      rfl
    · split
      · refine (hread.note rfl).trans (makes_rtcm3ProcArray env proc ?_ _ _)
        exact hd.rtcm3_lora hu
      · split
        · exact hread.trans (makes_tbfpProcChat env _ len)
        · split
          · refine hread.trans (makes_tbfpProcPing env proc hl len fun hi payload spi hid => (hP hi).kind _ ?_)
            exact .pong hid spi
          · split
            · exact hread.trans (makes_tbfpProcCmd env _ len)
            · exact hread

/-- `tbfp_proc_full` -/
private theorem makes_tbfpProcFull (hP : interface = .sx1262 → Handles env P d slot f) (hd : Configured d)
    (hl : interface ≠ .loopback) (hu : interface ≠ .uart1) (len : UInt16) :
    Makes env P d (d.tbfpProcFull env proc slot len interface).2 := by
  rw [tbfpProcFull_eq fun hi => absurd hi hl]
  split
  · dsimp only
    have hanswered := makes_answered hP len
    split
    · refine (hanswered.note ?_).trans (makes_tbfpProcPayload hproc (f := f) (fun hi => ?_) ?_ hl hu _)
      · rfl
      · exact ((hP hi).answered len interface).note _
      · exact (configured_answered hd len interface).note _
    · exact hanswered
  · exact .refl d

/-! ### The other parsers -/

omit hproc in
private theorem makes_resetRx (d : Device W) (slot : Interfaces) : Makes env P d (d.resetRx slot) := makes_setTbfp _

omit hproc in
private theorem makes_unfed (d : Device W) (unfed : List Region) :
    Makes env P d { d with unfed := unfed } := makes_still rfl rfl

omit hproc in
private theorem makes_countLack (d : Device W) (s : Interfaces) (initRxPkt : UInt32) (isResetParser : Bool) :
    Makes env P d (d.countLack s initRxPkt isResetParser) := by
  unfold Device.countLack
  dsimp only
  split
  · exact .refl d
  · split
    · exact makes_setTbfp _
    · exact .refl d

private theorem makes_tbfpCheckCrc8 (hs : slot ≠ .sx1262) (hd : Configured d) (r : TbfpReceiver) :
    Makes env P d (d.tbfpCheckCrc8 env proc slot r) := by
  have hfixed : Makes env P d (d.acceptFrame slot r) := by
    refine ((makes_setTbfp _).note ?_).note ?_
    · rfl
    · exact if_neg hs
  have hd' : Configured (d.acceptFrame slot r) := ⟨hd.tbfp, hd.rtcm3⟩
  have hlora : d.interface slot ≠ .sx1262 := by
    rw [hd.tbfp, if_neg hs]
    decide
  unfold Device.tbfpCheckCrc8
  split
  · refine (hfixed.trans (makes_tbfpProcFull hproc (f := []) (fun hi => absurd hi hlora) hd' ?_ ?_ _)).trans
      (makes_resetRx _ slot)
    · exact hd.ne_loopback slot
    · exact hd.ne_uart1 slot
  · exact makes_setTbfp _

private theorem makes_tbfpProcByte (hs : slot ≠ .sx1262) (hd : Configured d) (rxByte : UInt8) :
    Makes env P d (d.tbfpProcByte env proc slot rxByte).2 := by
  have hstep : ∀ r : Bool × TbfpReceiver, Makes env P d (d.stepTbfp slot r).2 := fun r => makes_setTbfp _
  unfold Device.tbfpProcByte
  split
  · exact hstep _
  · exact hstep _
  · exact hstep _
  · exact hstep _
  · exact hstep _
  · unfold Device.tbfpParserProcWaitCrc8
    split
    · exact makes_tbfpCheckCrc8 hproc hs hd _
    · exact makes_resetRx d slot
  · exact makes_resetRx d slot

end

/-- The parser of another interface makes no event of the machine, whatever is fed to it. -/
theorem tbfpProc_other (depth : Nat) (hs : slot ≠ .sx1262) (hd : Configured d) (src : Source) (len : UInt16)
    (isResetParser : Bool) : Makes env P d (tbfpProc env depth d src len slot isResetParser).2 := by
  induction depth generalizing d src len slot isResetParser with
  | zero => exact makes_note rfl
  | succ depth ih =>
    have hnested : ∀ (d : Device W) src len, Configured d → Makes env P d (tbfpProc env depth d src len .lora false).2 :=
      fun d src len hd => ih (by decide) hd src len false
    have heffects : ∀ (d : Device W) src len s reset, Configured d →
        Effects False d (tbfpProc env depth d src len s reset).2 :=
      fun _ _ _ _ _ hd => tbfpProc_effects depth hd _ _ _ _
    have hbyte : ∀ (d : Device W) i, Configured d →
        Makes env P d (d.feedByte env (tbfpProc env depth) src len slot i).2 := by
      intro d i hd
      have hunfed : Makes env P d { d with unfed := src.rest (i + 1) len.toNat ++ d.unfed } := makes_unfed d _
      have hconf : Configured { d with unfed := src.rest (i + 1) len.toNat ++ d.unfed } := ⟨hd.tbfp, hd.rtcm3⟩
      exact (hunfed.trans (makes_tbfpProcByte hnested hs hconf _)).trans (makes_unfed _ d.unfed)
    have hfed : ∀ (d : Device W) n, Configured d →
        Makes env P d (d.fed env (tbfpProc env depth) src len slot n).2 := by
      intro d n hd
      induction n with
      | zero => exact .refl d
      | succ n ihn =>
        have hconf := (effects_fed env heffects hd src len slot n).configured hd
        exact ihn.trans (hbyte _ n hconf)
    have hreset : Makes env P d (if isResetParser then d.resetRx slot else d) ∧
        Configured (if isResetParser then d.resetRx slot else d) := by
      split
      · exact ⟨makes_resetRx d slot, hd.tbfp, hd.rtcm3⟩
      · exact ⟨.refl d, hd⟩
    exact (hreset.1.trans (hfed _ len.toNat hreset.2)).trans (makes_countLack _ slot _ isResetParser)

/-! ### The parser of the radio -/

/-- The parser of `IF_SX1262` completed the frames, and the machine took steps that these caused. -/
structure Hears (env : Env W) (fs : List (List UInt8)) (d d' : Device W) : Prop where
  machine : ∃ es, (∀ e ∈ es, ∃ f ∈ fs, Caused f e) ∧ d'.machine = run (step env.crc8SaeJ1850Calc) d.machine es
  accepted : acceptedFrames .sx1262 d'.log = acceptedFrames .sx1262 d.log ++ fs

variable {fs fs' : List (List UInt8)}

theorem Hears.trans (h : Hears env fs d d') (h' : Hears env fs' d' d'') : Hears env (fs ++ fs') d d'' := by
  obtain ⟨⟨es, hes, hrun⟩, haccepted⟩ := h
  obtain ⟨⟨es', hes', hrun'⟩, haccepted'⟩ := h'
  refine ⟨⟨es ++ es', fun e he => ?_, ?_⟩, ?_⟩
  · rcases List.mem_append.1 he with he | he
    · obtain ⟨f, hf, hcaused⟩ := hes e he
      exact ⟨f, List.mem_append_left _ hf, hcaused⟩
    · obtain ⟨f, hf, hcaused⟩ := hes' e he
      exact ⟨f, List.mem_append_right _ hf, hcaused⟩
  · rw [hrun', hrun, run_append]
  · rw [haccepted', haccepted, List.append_assoc]

private theorem Makes.hears (h : Makes env (fun e => ∃ f ∈ fs, Caused f e) d d') : ∀ d₀ : Device W,
    d₀.machine = d.machine → acceptedFrames .sx1262 d.log = acceptedFrames .sx1262 d₀.log ++ fs →
    Hears env fs d₀ d' := by
  intro d₀ hmachine hlog
  obtain ⟨es, hes, hrun⟩ := h.machine
  exact ⟨⟨es, hes, hmachine ▸ hrun⟩, h.accepted.trans hlog⟩

/-- Nothing was completed. -/
private theorem Makes.hears_nil (h : Makes env (fun _ => False) d d') : Hears env [] d d' := by
  refine Makes.hears (h.mono fun _ => False.elim) d rfl ?_
  rw [List.append_nil]

/-- One byte for the parser of `IF_SX1262`. -/
private theorem hears_tbfpProcByte {l : List UInt8} {b : UInt8}
    (hproc : ∀ P (d : Device W) src len, Configured d → Makes env P d (proc d src len .lora false).2)
    (hd : Configured d)
    (h : Loaded (tbfpVerdict env.crc8SaeJ1850Calc (d.preambleVal .sx1262)) (d.tbfp .sx1262).parser l) :
    Hears env (complete (tbfpVerdict env.crc8SaeJ1850Calc (d.preambleVal .sx1262)) (l ++ [b])) d
        (d.tbfpProcByte env proc .sx1262 b).2 ∧
      Loaded (tbfpVerdict env.crc8SaeJ1850Calc (d.preambleVal .sx1262))
        ((d.tbfpProcByte env proc .sx1262 b).2.tbfp .sx1262).parser
        (keep (tbfpVerdict env.crc8SaeJ1850Calc (d.preambleVal .sx1262)) (l ++ [b])) := by
  have hstep := tbfpProcByte_spec h proc b
  generalize d.tbfpProcByte env proc .sx1262 b = res at hstep ⊢
  cases hstep with
  | loads r hv hl hc =>
    rw [complete_of_ne hv]
    refine ⟨(makes_setTbfp r).hears_nil, ?_⟩
    simpa [Device.setTbfp] using hl
  | accepts r hv hl hi hc =>
    rw [complete_frame hv, keep_frame hv]
    have hlen : r.parser.crc8Index.toNat + 1 = (l ++ [b]).length := by
      rw [hi, List.length_append, List.length_singleton]
    have hbytes : bytesAt r.parser.rxFrame 0 (l ++ [b]).length = l ++ [b] := by
      simpa using hl
    have hholds : HoldsFrame env (d.acceptFrame .sx1262 r) .sx1262 (l ++ [b]) := holdsFrame_acceptFrame hv hbytes hlen
    have hfull : Makes env (fun e => ∃ f ∈ [l ++ [b]], Caused f e) (d.acceptFrame .sx1262 r)
        ((d.acceptFrame .sx1262 r).tbfpProcFull env proc .sx1262 (r.parser.crc8Index + 1) (d.interface .sx1262)).2 := by
      refine makes_tbfpProcFull (hproc _) (fun _ => ⟨hholds, fun e he => ?_⟩) ⟨hd.tbfp, hd.rtcm3⟩ ?_ ?_ _
      · exact ⟨_, List.mem_singleton_self _, he⟩
      · exact hd.ne_loopback .sx1262
      · exact hd.ne_uart1 .sx1262
    refine ⟨(hfull.trans (makes_resetRx _ .sx1262)).hears d rfl ?_, Device.resetRx_loaded _ .sx1262⟩
    rw [acceptedFrames_acceptFrame, show r.parser.crc8Index.toNat + tbfpSizeCrc = (l ++ [b]).length from hlen, hbytes]

section

variable {depth : Nat} {p : UInt8} {array : List UInt8}

/-- The loop of `tbfp_proc` after the first bytes of an array. -/
private theorem hears_fed (hd : Configured d) (hp : d.preambleVal .sx1262 = p)
    (h : Loaded (tbfpVerdict env.crc8SaeJ1850Calc p) (d.tbfp .sx1262).parser []) (len : UInt16) {m : Nat}
    (hm : m ≤ array.length) :
    Hears env (frames (tbfpVerdict env.crc8SaeJ1850Calc p) [] (array.take m)) d
        (d.fed env (tbfpProc env depth) (.bytes array) len .sx1262 m).2 ∧
      Loaded (tbfpVerdict env.crc8SaeJ1850Calc p)
        ((d.fed env (tbfpProc env depth) (.bytes array) len .sx1262 m).2.tbfp .sx1262).parser
        (held (tbfpVerdict env.crc8SaeJ1850Calc p) [] (array.take m)) := by
  have hnested : ∀ P (d : Device W) src len, Configured d → Makes env P d (tbfpProc env depth d src len .lora false).2 :=
    fun P d src len hd => tbfpProc_other depth (by decide) hd src len false
  have heffects : ∀ (d : Device W) src len s reset, Configured d →
      Effects False d (tbfpProc env depth d src len s reset).2 :=
    fun _ _ _ _ _ hd => tbfpProc_effects depth hd _ _ _ _
  induction m with
  | zero => exact ⟨(Makes.refl d).hears_nil, h⟩
  | succ m ih =>
    obtain ⟨hhears, hloaded⟩ := ih (Nat.le_of_succ_le hm)
    have hlt : m < array.length := hm
    have hbefore := effects_fed env heffects hd (.bytes array) len .sx1262 m
    have hfed : (d.fed env (tbfpProc env depth) (.bytes array) len .sx1262 (m + 1)).2 =
        ((d.fed env (tbfpProc env depth) (.bytes array) len .sx1262 m).2.feedByte env (tbfpProc env depth)
          (.bytes array) len .sx1262 m).2 := rfl
    rw [hfed, frames_take_succ [] hlt, held_take_succ [] hlt]
    generalize (d.fed env (tbfpProc env depth) (.bytes array) len .sx1262 m).2 = c at hhears hloaded hbefore ⊢
    have hp' : c.preambleVal .sx1262 = p := (hbefore.preambleVal .sx1262).trans hp
    have hb : c.byteAt (.bytes array) m = array[m] := List.getD_eq_getElem _ _ hlt
    generalize hu : ({ c with unfed := Source.rest (.bytes array) (m + 1) len.toNat ++ c.unfed } : Device W) = u
    have hunfed : Hears env [] c u := by
      subst hu
      exact (makes_unfed c _).hears_nil
    have hconf : Configured u := by
      subst hu
      exact ⟨(hbefore.configured hd).tbfp, (hbefore.configured hd).rtcm3⟩
    have hpreamble : u.preambleVal .sx1262 = p := by
      subst hu
      exact hp'
    have hparser : (u.tbfp .sx1262).parser = (c.tbfp .sx1262).parser := by
      subst hu
      rfl
    subst hpreamble
    rw [← hparser] at hloaded
    obtain ⟨hbyte, hheld⟩ := hears_tbfpProcByte (b := array[m]) hnested hconf hloaded
    unfold Device.feedByte
    rw [hu, hb]
    refine ⟨hhears.trans ?_, hheld⟩
    have hback := (hunfed.trans hbyte).trans (makes_unfed _ c.unfed).hears_nil
    rwa [List.nil_append, List.append_nil] at hback

/-- The parser of `IF_SX1262` completes the frames of an array, and the machine does what these make it do. -/
theorem tbfpProc_radio (depth : Nat) (hd : Configured d) (hp : d.preambleVal .sx1262 = p)
    (hlen : array.length < 2 ^ 16) :
    Hears env (frames (tbfpVerdict env.crc8SaeJ1850Calc p) [] array) d
      (tbfpProc env (depth + 1) d (.bytes array) (UInt16.ofNat array.length) .sx1262 true).2 := by
  have hsize : (UInt16.ofNat array.length).toNat = array.length := by
    rw [UInt16.toNat_ofNat']
    omega
  have hreset : Configured (d.resetRx .sx1262) := ⟨hd.tbfp, hd.rtcm3⟩
  have hfed : Hears env (frames (tbfpVerdict env.crc8SaeJ1850Calc p) [] (array.take array.length)) (d.resetRx .sx1262)
      ((d.resetRx .sx1262).fed env (tbfpProc env depth) (.bytes array) (UInt16.ofNat array.length) .sx1262
        array.length).2 :=
    (hears_fed hreset hp (d.resetRx_loaded .sx1262) _ (Nat.le_refl array.length)).1
  rw [List.take_length] at hfed
  have hall := ((makes_resetRx d .sx1262).hears_nil.trans hfed).trans
    (makes_countLack _ .sx1262 (d.tbfp .sx1262).rxPktCnt true).hears_nil
  rw [List.nil_append, List.append_nil] at hall
  unfold tbfpProc tbfpProcBody
  dsimp only
  rw [hsize]
  exact hall

end

end TiMcu.Tbfp
