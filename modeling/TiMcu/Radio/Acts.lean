import TiMcu.Radio.Sender

/-!
# The device and its own machine

`Act` is everything that happens on a device besides the frames that its radio receives: bytes on the other interfaces,
frames of the GNSS receiver, frames that the firmware sends, and the calls that drive the queue, the machine and the
radio.  `works_act` says that none of them gets an acknowledgement, and that each sends messages as `Works` has them.
-/

namespace TiMcu.Tbfp

open NorFlash LittleEndian Framing Runs

variable {W : Type} {env : Env W} {d d' : Device W} {slot interface : Interfaces} {P : Event → Prop}
variable {Q G : UInt16 → Prop} {sent : List Message} {t : Transmitter W}

/-! ### What happens on a device -/

inductive Act
  /-- an array for the parser of another interface -/
  | proc (depth : Nat) (array : List UInt8) (interface : Interfaces) (isResetParser : Bool)
  /-- a byte of the GNSS receiver -/
  | rtcm3 (depth : Nat) (rxByte : UInt8)
  /-- `tbfp_send` -/
  | send (depth : Nat) (payload : Payload) (interface : Interfaces) (lifetime : UInt8) (ack : TbfpAck)
  /-- `lora_process` asks for what is left in the queue -/
  | flush
  /-- `lora_transmit_from_queue` -/
  | transmit (curTimeStampMs txDoneTimeStampMs pauseMs minTxUnit : UInt32)
  /-- `tbfp_retx_proc` -/
  | retxProc
  /-- the radio reports the end of a transmission -/
  | txDone
  /-- time passes -/
  | tick (ms : Nat)
  /-- the driver of the radio changes its own fields -/
  | radio (txMute txDone : Bool) (frameTimeMs : UInt32)

def Device.perform (env : Env W) (d : Device W) : Act → Device W
  | .proc depth array interface isResetParser =>
    (tbfpProc env depth d (.bytes array) (UInt16.ofNat array.length) interface isResetParser).2
  | .rtcm3 depth rxByte => (d.rtcm3ProcByte env (tbfpProc env depth) .uart1 rxByte).2
  | .send depth payload interface lifetime ack =>
    (d.tbfpSend env (tbfpProc env depth) payload interface lifetime ack).2
  | .flush => d.setTx { d.tx with loRa.flush := true }
  | .transmit cur txDone pause minTxUnit => d.setTx (loraTransmitFromQueue env d.tx cur txDone pause minTxUnit).2
  | .retxProc => d.setTx (d.tx.tbfpRetxProc env)
  | .txDone => d.setTx (({ d.tx with radio.txDone := true } : Transmitter W).tbfpRetxTxDone .sx1262)
  | .tick ms => d.setTx { d.tx with now := d.tx.now + ms }
  | .radio txMute txDone frameTimeMs => d.setTx { d.tx with
      radio.txMute := txMute
      radio.txDone := txDone
      radio.frameTimeMs := frameTimeMs }

/-- The array is not for the parser of the radio, and the firmware sends no acknowledgement of its own. -/
def Act.Ok : Act → Prop
  | .proc _ _ interface _ => interface ≠ .sx1262
  | .send _ payload interface _ _ => interface = .sx1262 → payload.bytes.head? ≠ some frameIdAck
  | _ => True

instance (x : Act) : Decidable x.Ok :=
  match x with
  | .proc _ _ interface _ => inferInstanceAs (Decidable (interface ≠ .sx1262))
  | .send _ payload interface _ _ =>
    inferInstanceAs (Decidable (interface = .sx1262 → payload.bytes.head? ≠ some frameIdAck))
  | .rtcm3 .. | .flush | .transmit .. | .retxProc | .txDone | .tick _ | .radio .. => .isTrue trivial

/-- The set-up of `sw_init`: RTCM3 frames are not forwarded to `IF_SX1262`. -/
structure SetUp (d : Device W) : Prop where
  configured : Configured d
  preambleVal : d.preambleVal .sx1262 = tbfpPreambleSx1262
  forwarding : (d.rtcm3 .uart1).forwarding .sx1262 = false

theorem setUp_swInit (radio : Sx1262) (now : Nat) (world : W) : SetUp (swInit radio now world) :=
  ⟨configured_swInit radio now world, rfl, rfl⟩

theorem SetUp.effects {R : Prop} (h : SetUp d) (he : Effects R d d') : SetUp d' := by
  refine ⟨he.configured h.configured, (he.preambleVal .sx1262).trans h.preambleVal, ?_⟩
  rw [(he.rtcm3 .uart1).2]
  exact h.forwarding

/-! ### Frames that the firmware sends -/

/-- `tbfp_send` of a device. -/
private theorem makes_deviceSend (depth : Nat) (hd : Configured d) (payload : Payload) (lifetime : UInt8)
    (ack : TbfpAck)
    (he : interface = .sx1262 → ∀ spi, P (.send payload lifetime ack spi)) :
    Makes env P d (d.tbfpSend env (tbfpProc env depth) payload interface lifetime ack).2 := by
  by_cases hl : interface = .loopback
  · subst hl
    have hbuilt : Makes env P d (d.setTx (d.tx.setNode .loopback
        ((d.tx.node .loopback).buildFrame env.crc8SaeJ1850Calc payload lifetime ack).2)) :=
      makes_setTx (node_setNode_of_ne (by decide) (buildFrame_radio env _ payload lifetime ack))
    have hconf : Configured (d.setTx (d.tx.setNode .loopback
        ((d.tx.node .loopback).buildFrame env.crc8SaeJ1850Calc payload lifetime ack).2)) := by
      have hsetup := sameSetup_setNode (sameNode_buildFrame env.crc8SaeJ1850Calc (d.tx.node .loopback) payload lifetime ack)
      exact ⟨fun s => (hsetup s).1.trans (hd.tbfp s), hd.rtcm3⟩
    unfold Device.tbfpSend
    dsimp only
    generalize d.setTx (d.tx.setNode .loopback
      ((d.tx.node .loopback).buildFrame env.crc8SaeJ1850Calc payload lifetime ack).2) = m at hbuilt hconf ⊢
    split
    · have hfed : ∀ len, Makes env P m (tbfpProc env depth m (.txFrame .loopback) len .loopback true).2 :=
        fun len => tbfpProc_other depth (by decide) hconf _ len true
      refine hbuilt.trans ?_
      unfold Device.sysSendIf Device.sendLoopback
      rw [if_pos rfl]
      dsimp only
      split
      · exact hfed _
      · exact (hfed _).setTx rfl
    · exact hbuilt
  · rw [Device.tbfpSend_of_ne d payload hl]
    exact makes_tbfpSend env d he

/-- One turn of the forwarding loop. -/
private theorem makes_forward (depth : Nat) (hd : Configured d) (hf : (d.rtcm3 slot).forwarding .sx1262 = false)
    (r : Bool)
    (interface : Interfaces) : Makes env P d (Device.forward env (tbfpProc env depth) slot (r, d) interface).2 := by
  have hflag : Makes env P d (d.note (.flag interface)) := makes_note rfl
  unfold Device.forward
  split
  · next hforwards =>
    have hne : interface ≠ .sx1262 := by
      rintro rfl
      exact absurd (hf.symm.trans hforwards) (by decide)
    have hpassed : Makes env P d ((d.note (.flag interface)).note (.passed interface (d.rtcm3 slot).fixedFrame.bytes)) :=
      hflag.note rfl
    have hsend := hpassed.trans (makes_deviceSend depth ((hd.note _).note _) (d.rtcm3 slot).fixedFrame 0 .noNeed
      fun hi => absurd hi hne)
    unfold Device.passFrame
    dsimp only
    split
    · exact hsend
    · exact (hsend.trans (makes_setRtcm3 _)).setTx rfl
  · exact hflag

private theorem makes_forwards (depth : Nat) (hd : Configured d) (hf : (d.rtcm3 slot).forwarding .sx1262 = false)
    (r : Bool)
    (interfaces : List Interfaces) :
    Makes env P d (interfaces.foldl (Device.forward env (tbfpProc env depth) slot) (r, d)).2 := by
  have heffects : ∀ (d : Device W) src len s reset, Configured d →
      Effects False d (tbfpProc env depth d src len s reset).2 :=
    fun _ _ _ _ _ hd => tbfpProc_effects depth hd _ _ _ _
  induction interfaces generalizing d r with
  | nil => exact .refl d
  | cons interface interfaces ih =>
    have hforward : Makes env P d (Device.forward env (tbfpProc env depth) slot (r, d) interface).2 :=
      makes_forward depth hd hf r interface
    have hnext : Effects True d (Device.forward env (tbfpProc env depth) slot (r, d) interface).2 :=
      effects_forward env heffects hd r interface
    rw [List.foldl_cons]
    refine hforward.trans (ih (hnext.configured hd) ?_ _)
    rw [(hnext.rtcm3 slot).2]
    exact hf

/-- A byte of the GNSS receiver. -/
private theorem makes_gnssByte (depth : Nat) (hd : SetUp d) (rxByte : UInt8) :
    Makes env P d (d.rtcm3ProcByte env (tbfpProc env depth) .uart1 rxByte).2 := by
  have hstep := rtcm3ProcByte_cases env (tbfpProc env depth) d .uart1 rxByte
  generalize d.rtcm3ProcByte env (tbfpProc env depth) .uart1 rxByte = r at hstep ⊢
  cases hstep with
  | loads res p hi hf hok => exact makes_setRtcm3 p
  | accepts p frame hi hf hok =>
    have htake : Makes env P d ((d.setRtcm3 .uart1 p.takeFrame).note (.rtcm3 .uart1 frame)) :=
      (makes_setRtcm3 _).note rfl
    have hself : ((d.setRtcm3 .uart1 p.takeFrame).note (.rtcm3 .uart1 frame)).rtcm3 .uart1 = p.takeFrame :=
      d.setRtcm3_self .uart1 _
    have hconf : Configured ((d.setRtcm3 .uart1 p.takeFrame).note (.rtcm3 .uart1 frame)) := by
      refine ⟨hd.configured.tbfp, fun s => ?_⟩
      rw [← hd.configured.rtcm3 s]
      by_cases hs : s = .uart1
      · subst hs
        rw [hself]
        exact hi
      · exact congrArg _ (d.setRtcm3_of_ne p.takeFrame hs)
    have huart : p.takeFrame.interface = .uart1 := hi.trans (hd.configured.rtcm3 .uart1)
    have hforwarding : p.takeFrame.forwarding .sx1262 = false := (congrFun hf .sx1262).trans hd.forwarding
    have hrelay : Makes env P d (d.passRtcm3 env (tbfpProc env depth) .uart1 p frame).2 := by
      refine htake.trans ?_
      unfold Device.passRtcm3 Device.relay
      rw [hself, huart]
      exact makes_forwards depth hconf (by rw [hself]; exact hforwarding) true _
    exact hrelay.trans ((makes_setTbfp _).trans (makes_setRtcm3 _))

/-! ### The queue and the machine -/

/-- The bytes that are taken out of the queue are sent in a tunnel. -/
private theorem makes_transmit (d : Device W) (cur txDone pause minTxUnit : UInt32)
    (he : ∀ (payload : Payload) spi, payload.bytes.head? = some frameIdTunnel → P (.send payload 0 .need spi)) :
    Makes env P d (d.setTx (loraTransmitFromQueue env d.tx cur txDone pause minTxUnit).2) := by
  unfold loraTransmitFromQueue
  split
  · dsimp only
    generalize env.fifoPullArray d.tx.loRa.fifo maxLoraPayloadSize = r
    generalize ht : ({ d.tx with loRa.flush := false, loRa.fifo := r.2.2 } : Transmitter W) = t
    have hpulled : Makes env P d (d.setTx t) := by
      subst ht
      exact makes_setTx rfl
    split
    · unfold Transmitter.sendChunk
      split
      · have hsent : Makes env P d (d.setTx (t.tbfpSendTunnel env r.2.1 .sx1262 .need).2) := by
          unfold Transmitter.tbfpSendTunnel Transmitter.tbfpSendText
          split
          · exact hpulled.trans (makes_tbfpSend env (d.setTx t) fun _ spi => he _ spi rfl)
          · exact hpulled
        unfold Transmitter.countTunnel
        split
        · exact hsent.setTx rfl
        · exact hsent.setTx rfl
      · exact hpulled
    · exact hpulled
  · exact .refl d

/-- The machine of another interface uses no radio. -/
private theorem tbfpProcRetxOne_radio {spi : Bool} {n : Node} (hi : n.tbfp.interface ≠ .sx1262) :
    (tbfpProcRetxOne spi n).2.radio = n.radio := by
  have hstep := tbfpProcRetxOne_pollStep spi n
  generalize (tbfpProcRetxOne spi n).2 = m at hstep ⊢
  cases hstep with
  | tries hradio => exact absurd hradio hi
  | rest | raises | moves => rfl

private theorem tbfpProcRetxOne_now (spi : Bool) (n : Node) : (tbfpProcRetxOne spi n).2.now = n.now := by
  have hstep := tbfpProcRetxOne_pollStep spi n
  generalize (tbfpProcRetxOne spi n).2 = m at hstep ⊢
  cases hstep with
  | tries =>
    unfold sendTry
    dsimp only
    split <;> rfl
  | rest | raises | moves => rfl

/-- The poll of one entry of the table. -/
private theorem makes_procRetxOne (hd : Configured d) (he : ∀ spi, P (.proc spi)) (s : Interfaces) :
    Makes env P d (d.setTx (d.tx.procRetxOne env s)) := by
  by_cases hs : s = .sx1262
  · subst hs
    refine makes_one (he (env.spi d.tx.world).1) ?_
    change (d.tx.setNode .sx1262 (tbfpProcRetxOne _ (d.tx.node .sx1262)).2).node .sx1262 = _
    exact Transmitter.node_setNode (tbfpProcRetxOne_now _ _)
  · have hi : (d.tx.node s).tbfp.interface ≠ .sx1262 := by
      rw [show (d.tx.node s).tbfp.interface = _ from hd.tbfp s, if_neg hs]
      decide
    exact makes_setTx (node_setNode_of_ne hs (tbfpProcRetxOne_radio hi))

private theorem sameSetup_procRetxOne (t : Transmitter W) (s : Interfaces) : SameSetup t (t.procRetxOne env s) := by
  have hmoves := tbfpProcRetxOne_moves (env.spi t.world).1 (t.node s)
  exact sameSetup_setNode ⟨hmoves.interface, hmoves.preambleVal⟩

/-- `tbfp_retx_proc` -/
private theorem makes_retxProc (hd : Configured d) (he : ∀ spi, P (.proc spi)) :
    Makes env P d (d.setTx (d.tx.tbfpRetxProc env)) ∧ SameSetup d.tx (d.tx.tbfpRetxProc env) := by
  have hstep : ∀ t s, Makes env P d (d.setTx t) ∧ SameSetup d.tx t →
      Makes env P d (d.setTx (t.procRetxOne env s)) ∧ SameSetup d.tx (t.procRetxOne env s) := by
    rintro t s ⟨hmakes, hsetup⟩
    have hconf : Configured (d.setTx t) := ⟨fun s => (hsetup s).1.trans (hd.tbfp s), hd.rtcm3⟩
    exact ⟨hmakes.trans (makes_procRetxOne hconf he s), hsetup.trans (sameSetup_procRetxOne t s)⟩
  exact run_invariant tableInterfaces ⟨makes_setTx rfl, fun _ => ⟨rfl, rfl⟩⟩ hstep

/-- The end of a transmission is nothing to the machines of the other interfaces. -/
private theorem node_retxTxDone_of_ne {s : Interfaces} (hs : s ≠ .sx1262) (t : Transmitter W) :
    (t.setNode s (Tbfp.tbfpRetxTxDone (t.node s) .sx1262).2).node .sx1262 = t.node .sx1262 := by
  refine node_setNode_of_ne hs ?_
  unfold Tbfp.tbfpRetxTxDone
  split <;> rfl

private theorem tbfpRetxTxDone_radio (t : Transmitter W) :
    (t.tbfpRetxTxDone .sx1262).node .sx1262 = (Tbfp.tbfpRetxTxDone (t.node .sx1262) .sx1262).2 := by
  have hnow : ∀ n : Node, (Tbfp.tbfpRetxTxDone n .sx1262).2.now = n.now := by
    intro n
    unfold Tbfp.tbfpRetxTxDone
    split <;> rfl
  unfold Transmitter.tbfpRetxTxDone tableInterfaces
  simp only [List.foldl_cons, List.foldl_nil]
  rw [node_retxTxDone_of_ne (by decide), node_retxTxDone_of_ne (by decide), Transmitter.node_setNode (hnow _),
    node_retxTxDone_of_ne (by decide)]

private theorem makes_txDone (he : P .txDone) :
    Makes env P d (d.setTx (({ d.tx with radio.txDone := true } : Transmitter W).tbfpRetxTxDone .sx1262)) := by
  have hnode := tbfpRetxTxDone_radio ({ d.tx with radio.txDone := true } : Transmitter W)
  have hstep : step env.crc8SaeJ1850Calc d.machine .txDone =
      (Tbfp.tbfpRetxTxDone (({ d.tx with radio.txDone := true } : Transmitter W).node .sx1262) .sx1262).2 := rfl
  exact makes_one he (hnode.trans hstep.symm)

private theorem sameSetup_transmit (t : Transmitter W) (cur txDone pause minTxUnit : UInt32) :
    SameSetup t (loraTransmitFromQueue env t cur txDone pause minTxUnit).2 := by
  have hsame : SameSetup t t := fun _ => ⟨rfl, rfl⟩
  unfold loraTransmitFromQueue
  split
  · dsimp only
    generalize env.fifoPullArray t.loRa.fifo maxLoraPayloadSize = r
    generalize hu : ({ t with loRa.flush := false, loRa.fifo := r.2.2 } : Transmitter W) = u
    have hpulled : SameSetup t u := by
      subst hu
      exact hsame
    split
    · unfold Transmitter.sendChunk
      split
      · have hsent : SameSetup t (u.tbfpSendTunnel env r.2.1 .sx1262 .need).2 := by
          unfold Transmitter.tbfpSendTunnel Transmitter.tbfpSendText
          split
          · exact hpulled.trans (sameSetup_tbfpSend _ _ _ _ _)
          · exact hpulled
        unfold Transmitter.countTunnel
        split
        · exact hsent
        · exact hsent
      · exact hpulled
    · exact hpulled
  · exact hsame

private theorem sameSetup_txDone (t : Transmitter W) : SameSetup t (t.tbfpRetxTxDone .sx1262) := by
  change SameSetup t (run (fun t slot => t.setNode slot (Tbfp.tbfpRetxTxDone (t.node slot) .sx1262).2) t tableInterfaces)
  refine run_invariant tableInterfaces (fun _ => ⟨rfl, rfl⟩) fun u s hu => hu.trans (sameSetup_setNode ?_)
  unfold Tbfp.tbfpRetxTxDone
  split <;> exact ⟨rfl, rfl⟩

/-! ### Any act -/

/-- The set-up stays. -/
theorem setUp_act (h : SetUp d) (x : Act) : SetUp (d.perform env x) := by
  have hmoves : ∀ t, SameSetup d.tx t → SetUp (d.setTx t) := by
    intro t ht
    have heffects : Effects False d (d.setTx t) := effects_setTx ht
    exact h.effects heffects
  cases x with
  | proc depth array interface isResetParser =>
    exact h.effects (effects_step h.configured (.proc depth array interface isResetParser))
  | rtcm3 depth rxByte => exact h.effects (effects_step h.configured (.rtcm3 depth rxByte))
  | send depth payload interface lifetime ack =>
    exact h.effects (effects_step h.configured (.send depth payload interface lifetime ack))
  | flush | tick | radio => exact hmoves _ fun _ => ⟨rfl, rfl⟩
  | transmit => exact hmoves _ (sameSetup_transmit _ _ _ _ _)
  | retxProc => exact hmoves _ (makes_retxProc (P := fun _ => True) h.configured fun _ => trivial).2
  | txDone =>
    have hdone : SameSetup d.tx ({ d.tx with radio.txDone := true } : Transmitter W) := fun _ => ⟨rfl, rfl⟩
    exact hmoves _ (hdone.trans (sameSetup_txDone _))

/-- Nothing but the fields of the driver is changed without the machine. -/
private theorem makes_act (h : SetUp d) {x : Act} (hx : x.Ok)
    (hradio : ∀ txMute txDone frameTimeMs, x ≠ .radio txMute txDone frameTimeMs) :
    Makes env (Allowed Q G) d (d.perform env x) := by
  cases x with
  | proc depth array interface isResetParser => exact tbfpProc_other depth hx h.configured _ _ _
  | rtcm3 depth rxByte => exact makes_gnssByte depth h rxByte
  | send depth payload interface lifetime ack =>
    exact makes_deviceSend depth h.configured payload lifetime ack fun hi spi => .send (hx hi) lifetime ack spi
  | flush => exact makes_setTx rfl
  | transmit cur txDone pause minTxUnit =>
    refine makes_transmit d cur txDone pause minTxUnit fun payload spi hid => .send ?_ 0 .need spi
    rw [hid]
    decide
  | retxProc => exact (makes_retxProc h.configured fun spi => .proc spi).1
  | txDone => exact makes_txDone .txDone
  | tick ms => exact makes_one (.tick ms) rfl
  | radio txMute txDone frameTimeMs => exact absurd rfl (hradio txMute txDone frameTimeMs)

/-- Whatever happens on the device, its machine goes on with more messages. -/
theorem works_act (h : SetUp d) {x : Act} (hx : x.Ok) (hworks : Works env.crc8SaeJ1850Calc Q G sent d.machine) :
    ∃ sent', sent <+: sent' ∧ Works env.crc8SaeJ1850Calc Q G sent' (d.perform env x).machine ∧
      acceptedFrames .sx1262 (d.perform env x).log = acceptedFrames .sx1262 d.log := by
  by_cases hradio : ∃ txMute txDone frameTimeMs, x = .radio txMute txDone frameTimeMs
  · obtain ⟨txMute, txDone, frameTimeMs, rfl⟩ := hradio
    exact ⟨sent, List.prefix_refl _, { hworks with }, rfl⟩
  · have hmakes : Makes env (Allowed Q G) d (d.perform env x) :=
      makes_act h hx fun txMute txDone frameTimeMs heq => hradio ⟨txMute, txDone, frameTimeMs, heq⟩
    obtain ⟨es, hes, hrun⟩ := hmakes.machine
    obtain ⟨sent', hsent, hworks'⟩ := hworks.run hes
    exact ⟨sent', hsent, hrun ▸ hworks', hmakes.accepted⟩

end TiMcu.Tbfp
