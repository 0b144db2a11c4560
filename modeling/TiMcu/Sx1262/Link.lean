import TiMcu.Lora.Tunnel
import TiMcu.Sx1262.Chip

/-!
# The radio link

The driver sends packets of one length and reads 255 bytes of whatever it received: a frame comes out of the other radio
with zeros and three unread bytes behind it.  The parser of `IF_SX1262` drops them (`loraProcPayload_padded`), so a
device behind two radios is fed what a device is fed to which the frames themselves are delivered (`link_refines`).

This rests on the byte that the receiving chip sends behind the start of the packet: the driver reads from the address
that it finds there (`Sending.Found`).
-/

namespace TiMcu.Tbfp

open NorFlash LittleEndian Framing

variable {W : Type} {env : Env W} {proc : Proc W} {d : Device W} {slot : Interfaces} {f pad : List UInt8}

/-! ### Bytes behind a frame -/

private theorem tbfpProcByte_taken (env : Env W) (proc : Proc W) (d : Device W) (slot : Interfaces) (b : UInt8) :
    (d.tbfpProcByte env proc slot b).1 = true := by
  unfold Device.tbfpProcByte Device.stepTbfp
  split
  · unfold tbfpParserProcWaitPreamble
    split <;> rfl
  · unfold tbfpParserProcRetransmitCnt
    split <;> rfl
  · unfold tbfpParserProcWaitSerialNum
    split
    · rfl
    · split <;> rfl
  · unfold tbfpParserProcWaitLen
    split
    · rfl
    · split <;> rfl
  · unfold tbfpParserProcWaitPayload
    split
    · rfl
    · split <;> rfl
  · unfold Device.tbfpParserProcWaitCrc8
    split <;> rfl
  · rfl

private theorem fed_taken (env : Env W) (proc : Proc W) (d : Device W) (src : Source) (len : UInt16)
    (slot : Interfaces) (n : Nat) :
    (d.fed env proc src len slot n).1 = n := by
  induction n with
  | zero => rfl
  | succ n ih =>
    have hbyte : ((d.fed env proc src len slot n).2.feedByte env proc src len slot n).1 = true :=
      tbfpProcByte_taken env proc _ slot _
    rw [Device.fed]
    dsimp only
    rw [if_pos hbyte, ih]

/-- The parser has loaded nothing. -/
def TbfpParser.Resting (p : TbfpParser) : Prop := p.rxState = .waitPreamble ∧ p.loadLen = 0

private theorem tbfpProcByte_passed (proc : Proc W) (hrest : (d.tbfp slot).parser.Resting) {b : UInt8}
    (hb : b ≠ d.preambleVal slot) : d.tbfpProcByte env proc slot b = (true, d) := by
  have hreset : tbfpParserResetRx (d.tbfp slot) = d.tbfp slot := by
    unfold tbfpParserResetRx
    rw [← hrest.1, ← hrest.2]
  have hstep : tbfpParserProcWaitPreamble (d.preambleVal slot) (d.tbfp slot) b = (true, d.tbfp slot) := by
    rw [tbfpParserProcWaitPreamble, if_neg fun h => hb h.1.symm, hreset]
  unfold Device.tbfpProcByte
  rw [hrest.1]
  dsimp only
  rw [hstep]
  simp [Device.stepTbfp, Device.setTbfp]

private theorem feedByte_bytes (env : Env W) (proc : Proc W) (d : Device W) (array : List UInt8) (len : UInt16)
    (slot : Interfaces) (i : Nat) :
    (d.feedByte env proc (.bytes array) len slot i).2 =
      { (d.tbfpProcByte env proc slot (array.getD i 0)).2 with unfed := d.unfed } := rfl

/-- The bytes behind the ones that were fed do not matter. -/
private theorem fed_append (env : Env W) (proc : Proc W) (d : Device W) (f pad : List UInt8) (len len' : UInt16)
    (slot : Interfaces) {n : Nat} (hn : n ≤ f.length) :
    d.fed env proc (.bytes (f ++ pad)) len slot n = d.fed env proc (.bytes f) len' slot n := by
  induction n with
  | zero => rfl
  | succ n ih =>
    have hlt : n < f.length := hn
    have hbyte : ∀ m : Device W, m.byteAt (.bytes (f ++ pad)) n = m.byteAt (.bytes f) n :=
      fun m => List.getD_append f pad 0 n hlt
    rw [Device.fed, Device.fed, ih (Nat.le_of_lt hlt)]
    unfold Device.feedByte
    rw [hbyte]
    rfl

/-- A parser that has loaded nothing passes over bytes that begin no frame. -/
private theorem fed_passed (proc : Proc W) {array : List UInt8} {len : UInt16} {n : Nat} {s : Nat × Device W}
    (hs : d.fed env proc (.bytes array) len slot n = s) (hrest : (s.2.tbfp slot).parser.Resting) {k : Nat}
    (hpad : ∀ i < k, array.getD (n + i) 0 ≠ s.2.preambleVal slot) :
    d.fed env proc (.bytes array) len slot (n + k) = (s.1 + k, s.2) := by
  induction k with
  | zero => exact hs
  | succ k ih =>
    have hbyte : s.2.tbfpProcByte env proc slot (array.getD (n + k) 0) = (true, s.2) :=
      tbfpProcByte_passed proc hrest (hpad k (Nat.lt_succ_self k))
    rw [← Nat.add_assoc, Device.fed, ih fun i hi => hpad i (Nat.lt_succ_of_lt hi)]
    unfold Device.feedByte
    have hsame : ({ s.2 with unfed := (Source.bytes array).rest (n + k + 1) len.toNat ++ s.2.unfed } : Device W) = s.2 :=
      rfl
    dsimp only
    rw [hsame]
    change ((if (s.2.tbfpProcByte env proc slot (array.getD (n + k) 0)).1 then s.1 + k + 1 else s.1 + k),
      ({ (s.2.tbfpProcByte env proc slot (array.getD (n + k) 0)).2 with unfed := s.2.unfed } : Device W)) = _
    rw [hbyte, if_pos rfl, Nat.add_assoc]

/-- Behind a frame a parser that was reset has loaded nothing. -/
private theorem fed_frame (proc : Proc W) (hf : IsFrame (tbfpVerdict env.crc8SaeJ1850Calc (d.preambleVal slot)) f)
    (len : UInt16) :
    (((d.resetRx slot).fed env proc (.bytes f) len slot f.length).2.tbfp slot).parser.Resting := by
  obtain ⟨q, b, rfl⟩ := List.eq_nil_or_concat f |>.resolve_left hf.ne_nil
  rw [List.concat_eq_append] at hf ⊢
  obtain ⟨hheld, hnone⟩ := hf.front rfl (List.cons_ne_nil b [])
  have hloaded : Loaded (tbfpVerdict env.crc8SaeJ1850Calc (d.preambleVal slot)) ((d.resetRx slot).tbfp slot).parser [] :=
    d.resetRx_loaded slot
  have hbytes : ∀ i, i < q.length → (d.resetRx slot).byteAt (.bytes (q ++ [b])) i = q.getD i 0 :=
    fun i hi => List.getD_append _ _ _ _ hi
  obtain ⟨r, hfed, -, hload⟩ := fed_loads proc (d := d.resetRx slot) (p := d.preambleVal slot) rfl len hbytes hloaded hnone
    (Nat.le_refl q.length)
  rw [List.take_length, hheld] at hload
  have hlast : ∀ m : Device W, m.preambleVal slot = d.preambleVal slot → (m.tbfp slot).parser = r.parser →
      ((m.tbfpProcByte env proc slot b).2.tbfp slot).parser.Resting := by
    intro m hp hr
    have hstep : ByteStep env proc m slot q b (m.tbfpProcByte env proc slot b) :=
      tbfpProcByte_spec (by rw [hp, hr]; exact hload) proc b
    generalize m.tbfpProcByte env proc slot b = res at hstep ⊢
    cases hstep with
    | loads r' hv hl hc => exact absurd (hp ▸ hf.frame) hv
    | accepts r' hv hl hi hc =>
      rw [Device.resetRx, Device.setTbfp_self]
      exact ⟨rfl, rfl⟩
  have hlen : (q ++ [b]).length = q.length + 1 := by simp
  rw [hlen]
  change (((((d.resetRx slot).fed env proc (.bytes (q ++ [b])) len slot q.length).2.feedByte env proc (.bytes (q ++ [b]))
    len slot q.length).2).tbfp slot).parser.Resting
  rw [hfed, feedByte_bytes]
  have hb : (q ++ [b]).getD q.length 0 = b := by simp
  rw [hb]
  exact hlast _ rfl (by rw [Device.setTbfp_self])

/-- Bytes that begin no frame make no difference behind a frame of the radio. -/
theorem loraProcPayload_padded (hd : Configured d) (depth : Nat)
    (hf : IsFrame (tbfpVerdict env.crc8SaeJ1850Calc (d.preambleVal .sx1262)) f) (hlen : (f ++ pad).length < 2 ^ 16)
    (hpad : ∀ b ∈ pad, b ≠ d.preambleVal .sx1262) :
    loraProcPayload env (depth + 1) d (f ++ pad) = loraProcPayload env (depth + 1) d f := by
  have hproc : ∀ (d : Device W) src len s reset, Configured d → Effects False d (tbfpProc env depth d src len s reset).2 :=
    fun _ src len s reset hd => tbfpProc_effects depth hd src len s reset
  have hsize : (UInt16.ofNat (f ++ pad).length).toNat = f.length + pad.length := by
    rw [UInt16.toNat_ofNat', List.length_append] at *
    omega
  have hsize' : (UInt16.ofNat f.length).toNat = f.length := by
    rw [List.length_append] at hlen
    rw [UInt16.toNat_ofNat']
    omega
  have hfront := fed_append env (tbfpProc env depth) (d.resetRx .sx1262) f pad (UInt16.ofNat (f ++ pad).length)
    (UInt16.ofNat f.length) .sx1262 (Nat.le_refl f.length)
  have hrest := fed_frame (tbfpProc env depth) hf (UInt16.ofNat f.length)
  have hcount := fed_taken env (tbfpProc env depth) (d.resetRx .sx1262) (.bytes f) (UInt16.ofNat f.length) .sx1262 f.length
  have heffects : Effects False (d.resetRx .sx1262)
      ((d.resetRx .sx1262).fed env (tbfpProc env depth) (.bytes f) (UInt16.ofNat f.length) .sx1262 f.length).2 :=
    effects_fed env hproc ((effects_resetRx (R := False) .sx1262).configured hd) _ _ _ _
  generalize hs : (d.resetRx .sx1262).fed env (tbfpProc env depth) (.bytes f) (UInt16.ofNat f.length) .sx1262 f.length = s
    at hfront hrest hcount heffects
  have hall : (d.resetRx .sx1262).fed env (tbfpProc env depth) (.bytes (f ++ pad)) (UInt16.ofNat (f ++ pad).length) .sx1262
      (f.length + pad.length) = (s.1 + pad.length, s.2) := by
    refine fed_passed _ hfront hrest fun i hi => ?_
    rw [heffects.preambleVal, List.getD_append_right _ _ _ _ (Nat.le_add_right _ _), Nat.add_sub_cancel_left,
      List.getD_eq_getElem _ _ hi]
    exact hpad _ (List.getElem_mem hi)
  have hbody : tbfpProc env (depth + 1) d (.bytes (f ++ pad)) (UInt16.ofNat (f ++ pad).length) .sx1262 true =
      tbfpProc env (depth + 1) d (.bytes f) (UInt16.ofNat f.length) .sx1262 true := by
    unfold tbfpProc tbfpProcBody
    dsimp only
    rw [if_pos rfl, hsize, hsize', hall, hs, hcount]
    simp
  unfold loraProcPayload Device.procRxPayload
  rw [hbody]

end TiMcu.Tbfp

namespace TiMcu.Sx1262

open Dialog Framing Runs
open Tbfp (Device Env Message RxEvent loraProcPayload tbfpVerdict tbfpPreambleSx1262 Configured)

/-! ### From one radio to the other -/

variable {c : Chip} {s : State} {n : Nat} {layers : Layers}

/-- The driver takes a frame of that length, and the packets have room for it. -/
structure Ready (n : Nat) (c : Chip) (s : State) : Prop where
  txMute : s.radio.txMute = false
  txDone : s.radio.txDone = true
  payloadLength : n ≤ c.payloadLength.toNat

/-- The frame is sent, and the chip reports the end of the transmission. -/
def transmit (layers : Layers) (txBuf : List UInt8) (timeoutS : UInt32) : Driver Bool := do
  let res ← startTx txBuf timeoutS
  procCommandStatus layers comStatComTxDone
  pure res

/-- The end of a transmission, when the layers above ask nothing of the radio. -/
private theorem procTxDone_onChip {b : Bool} (hlayers : layers.tbfpRetxTxDone = pure b) (c : Chip) (s : State) :
    let r := onChip (procCommandStatus layers comStatComTxDone) c s
    r.2.2 = c.listening ∧ r.2.1.radio.txDone = true ∧ r.2.1.radio.txMute = s.radio.txMute := by
  have hserve : ∀ s : State, onChip (serve layers.tbfpRetxTxDone) c s = (b, s, c) := by
    intro s
    rw [hlayers]
    rfl
  rw [procCommandStatus, if_neg (by decide), if_neg (by decide), if_pos rfl]
  simp only [procTxDone, onChip_bind, onChip_modifyRadio, onChip_askBoard, onChip_liftM, onChip_startRx, onChip_pure,
    Chip.answer, hserve]
  exact ⟨rfl, rfl, rfl⟩

theorem Ready.transmit {b : Bool} (hlayers : layers.tbfpRetxTxDone = pure b) {txBuf : List UInt8}
    (hlen : 0 < txBuf.length ∧ txBuf.length ≤ sx1262MaxFrameSize) (h : Ready n c s) (timeoutS : UInt32) :
    let r := onChip (transmit layers txBuf timeoutS) c s
    r.1 = true ∧ Ready n r.2.2 r.2.1 ∧ r.2.2.air = txBuf.takeD c.payloadLength.toNat 0 :: c.air := by
  obtain ⟨hok, hmute, hpayload, hair⟩ := startTx_onChip c s hlen h.txMute h.txDone timeoutS
  intro r
  have hr : r = onChip (Sx1262.transmit layers txBuf timeoutS) c s := rfl
  rw [Sx1262.transmit, onChip_bind] at hr
  generalize onChip (startTx txBuf timeoutS) c s = sent at hok hmute hpayload hair hr
  obtain ⟨hchip, hdone, hmute'⟩ := procTxDone_onChip hlayers sent.2.2 sent.2.1
  rw [onChip_bind, onChip_pure] at hr
  rw [hr]
  refine ⟨hok, ⟨hmute'.trans hmute, hdone, ?_⟩, ?_⟩
  · rw [hchip]
    exact hpayload ▸ h.payloadLength
  · rw [hchip]
    exact hair

/-- After the report of a packet the data buffer is empty, whatever the layers above do. -/
private theorem procDataAval_listening (layers : Layers) (c : Chip) (s : State) :
    (onChip (procCommandStatus layers comStatDataAvail) c s).2.2.buffer = fun _ => 0 := by
  rw [procCommandStatus, if_pos rfl, onChip_bind, onChip_bind, onChip_liftM, onChip_startRx]
  rfl

/-- A message with the time-out that its frame is sent with and the address from which on the packet is received. -/
structure Sending where
  message : Message
  timeoutS : UInt32
  start : UInt8

/-- Two radios and the device behind the receiving one. -/
structure Link (W : Type) where
  txState : State
  txChip : Chip
  rxState : State
  rxChip : Chip
  device : Device W

variable {W : Type} (env : Env W) (depth : Nat) {e : Sending}

def Sending.frame (e : Sending) : List UInt8 := e.message.frame env.crc8SaeJ1850Calc tbfpPreambleSx1262

/-- The frame fits in a packet and in the packets of `n` bytes. -/
structure Sending.Fits (n : Nat) (e : Sending) : Prop where
  message : e.message.Fits
  frameSize : (e.frame env).length ≤ sx1262MaxFrameSize
  packetSize : (e.frame env).length ≤ n

/-- The driver finds the packet where it was received: the chip sends its start a second time. -/
def Sending.Found (c : Chip) (e : Sending) : Prop := c.behind e.start = e.start

/-- A frame is sent, the packet on the air is received, and the device is fed what the driver hands up.  What the layers
above ask of the receiving radio is in `layers'`. -/
def Link.carry (layers layers' : Layers) (l : Link W) (e : Sending) : Link W :=
  let sent := onChip (transmit layers (e.frame env) e.timeoutS) l.txChip l.txState
  let c := l.rxChip.receive e.start (sent.2.2.air.headD [])
  let handed := (onChip (takePayload layers') c l.rxState).1
  let heard := onChip (procCommandStatus layers' comStatDataAvail) c l.rxState
  ⟨sent.2.1, sent.2.2, heard.2.1, heard.2.2,
    handed.elim l.device fun rxPayload => (loraProcPayload env depth l.device rxPayload).2⟩

private theorem takeD_takeD {α : Type} {l : List α} {n : Nat} (h : l.length ≤ n) (m : Nat) (a : α) :
    (l.takeD n a).takeD m a = l.takeD m a := by
  induction n generalizing l m with
  | zero => rw [List.length_eq_zero_iff.1 (Nat.le_zero.1 h), List.takeD_zero]
  | succ n ih =>
    cases m with
    | zero => rfl
    | succ m =>
      have htail : l.tail.length ≤ n := by
        rw [List.length_tail]
        omega
      exact congrArg (l.headD a :: ·) (ih htail m)

private theorem takeD_eq_append {α : Type} {l : List α} {n : Nat} (h : l.length ≤ n) (a : α) :
    l.takeD n a = l ++ List.replicate (n - l.length) a := by
  induction l generalizing n with
  | nil => rw [List.takeD_nil, List.nil_append, List.length_nil, Nat.sub_zero]
  | cons b l ih =>
    cases n with
    | zero => exact absurd h (Nat.not_succ_le_zero _)
    | succ n =>
      rw [List.length_cons, Nat.add_sub_add_right]
      exact congrArg (b :: ·) (ih (Nat.le_of_succ_le_succ h))

/-- What stands behind a frame of `n` bytes in the bytes that are handed up. -/
def padding (n : Nat) : List UInt8 := List.replicate (sx1262MaxFrameSize - n) 0 ++ List.replicate 3 0xFF

private theorem padding_ne {b : UInt8} (h : b ∈ padding n) : b ≠ tbfpPreambleSx1262 := by
  rcases List.mem_append.1 h with hb | hb
  · rw [List.eq_of_mem_replicate hb]
    decide
  · rw [List.eq_of_mem_replicate hb]
    decide

/-- What the packet of a frame is handed up as. -/
private theorem handed_receive {c : Chip} (hempty : c.buffer = fun _ => 0) {start : UInt8}
    (hfound : c.behind start = start)
    {frame : List UInt8} {n : Nat} (hlen : frame.length ≤ sx1262MaxFrameSize) (hn : frame.length ≤ n) (hmax : n ≤ 256) :
    (c.receive start (frame.takeD n 0)).handed =
      frame ++ padding frame.length := by
  have hpacket : (frame.takeD n 0).length ≤ 256 := by
    rw [List.takeD_length]
    exact hmax
  rw [Chip.handed, Chip.receive, hempty]
  dsimp only
  rw [hfound, window_store hpacket (by decide), takeD_takeD hn, takeD_eq_append hlen,
    List.append_assoc]
  rfl

theorem Sending.Fits.isFrame (h : e.Fits env n) :
    IsFrame (tbfpVerdict env.crc8SaeJ1850Calc tbfpPreambleSx1262) (e.frame env) := h.message.isFrame

/-- The parser of `IF_SX1262` drops what is behind the frame. -/
private theorem loraProcPayload_padding {d : Device W} (hd : Configured d)
    (hp : d.preambleVal .sx1262 = tbfpPreambleSx1262)
    (h : e.Fits env n) :
    loraProcPayload env (depth + 1) d (e.frame env ++ padding (e.frame env).length) =
      loraProcPayload env (depth + 1) d (e.frame env) := by
  refine Tbfp.loraProcPayload_padded hd depth ?_ ?_ fun b hb => ?_
  · rw [hp]
    exact h.isFrame
  · have hmaxFrame : sx1262MaxFrameSize = 252 := rfl
    have hsize := h.frameSize
    rw [List.length_append, padding, List.length_append, List.length_replicate, List.length_replicate]
    omega
  · rw [hp]
    exact padding_ne hb

/-- What the link needs for the next frame. -/
structure Link.Ready (n : Nat) (l : Link W) : Prop where
  tx : Sx1262.Ready n l.txChip l.txState
  rx : l.rxChip.buffer = fun _ => 0
  configured : Configured l.device
  preambleVal : l.device.preambleVal .sx1262 = tbfpPreambleSx1262

private theorem configured_deliver {d : Device W} (hd : Configured d) (frame : List UInt8) :
    Configured (loraProcPayload env depth d frame).2 ∧
      (loraProcPayload env depth d frame).2.preambleVal .sx1262 = d.preambleVal .sx1262 := by
  have heffects : Tbfp.Effects False d (loraProcPayload env depth d frame).2 := by
    have hproc := @Tbfp.tbfpProc_effects W _ env d depth hd (.bytes frame) (UInt16.ofNat frame.length) .sx1262 true
    unfold loraProcPayload Device.procRxPayload
    dsimp only
    split
    · exact hproc
    · exact hproc.setTx fun _ => ⟨rfl, rfl⟩
  exact ⟨heffects.configured hd, heffects.preambleVal .sx1262⟩

/-- The frame is carried as if it were delivered itself, and the link is ready for the next one. -/
theorem Link.Ready.carry {layers layers' : Layers} {b : Bool} (hlayers : layers.tbfpRetxTxDone = pure b)
    (hpat : ArrPat layers'.isArrPat) {l : Link W} (h : l.Ready n) (he : e.Fits env n) (hfound : e.Found l.rxChip) :
    (l.carry env (depth + 1) layers layers' e).Ready n ∧
      (l.carry env (depth + 1) layers layers' e).device = (loraProcPayload env (depth + 1) l.device (e.frame env)).2 := by
  have hpos : 0 < (e.frame env).length := List.length_pos_iff.2 he.isFrame.ne_nil
  obtain ⟨-, htx, hair⟩ := h.tx.transmit hlayers ⟨hpos, he.frameSize⟩ e.timeoutS
  have hmax : l.txChip.payloadLength.toNat ≤ 256 := Nat.le_of_lt l.txChip.payloadLength.toNat_lt
  unfold Link.carry
  generalize onChip (transmit layers (e.frame env) e.timeoutS) l.txChip l.txState = sent at htx hair ⊢
  dsimp only
  rw [takePayload_onChip _ _ hpat, Option.elim_some, hair, List.headD_cons,
    handed_receive h.rx hfound he.frameSize (Nat.le_trans he.packetSize h.tx.payloadLength) hmax,
    loraProcPayload_padding env depth h.configured h.preambleVal he]
  obtain ⟨hd, hp⟩ := configured_deliver env (depth + 1) h.configured (e.frame env)
  refine ⟨⟨htx, ?_, hd, hp.trans h.preambleVal⟩, rfl⟩
  dsimp only
  rw [procDataAval_listening]

/-- A chip sends the same behind the start of a packet whatever was received before. -/
private theorem Link.carry_behind (layers layers' : Layers) (l : Link W) (e : Sending) :
    (l.carry env depth layers layers' e).rxChip.behind = l.rxChip.behind := by
  unfold Link.carry
  dsimp only
  rw [(onChip_sameBoard _ l.rxState (procCommandStatus layers' comStatDataAvail)).behind]
  rfl

/-! ### A run of the link -/

/-- Frames that `tbfp_send` built and that fit in a packet, sent one after the other and received where the driver finds
them, do to the device behind the other radio what they do when they are delivered as they are, and the link is ready for
the next one. -/
theorem link_refines {layers layers' : Layers} {b : Bool} (hlayers : layers.tbfpRetxTxDone = pure b)
    (hpat : ArrPat layers'.isArrPat) (l : Link W) (es : List Sending) (hready : l.Ready n)
    (hfits : ∀ e ∈ es, e.Fits env n) (hfound : ∀ e ∈ es, e.Found l.rxChip) :
    (run (Link.carry env (depth + 1) layers layers') l es).Ready n ∧
      (run (Link.carry env (depth + 1) layers layers') l es).device =
        run (Device.receive env (depth + 1)) l.device (es.map fun e => .deliver (e.frame env)) := by
  induction es generalizing l with
  | nil => exact ⟨hready, rfl⟩
  | cons e es ih =>
    obtain ⟨hready', hdevice⟩ :=
      hready.carry env depth hlayers hpat (hfits e List.mem_cons_self) (hfound e List.mem_cons_self)
    have hfound' : ∀ e' ∈ es, e'.Found (l.carry env (depth + 1) layers layers' e).rxChip := by
      intro e' he'
      rw [Sending.Found, Link.carry_behind]
      exact hfound e' (List.mem_cons_of_mem e he')
    obtain ⟨hready'', hrun⟩ := ih _ hready' (fun e' he' => hfits e' (List.mem_cons_of_mem e he')) hfound'
    rw [run_cons, List.map_cons, run_cons]
    exact ⟨hready'', by rw [hrun, hdevice]; rfl⟩

def freshMemory : Memory where
  buffer _ := 0
  regs _ := 0
  txBase := 0
  rxBase := 0
  given opCode := if opCode = opcodeSetPacketParams then [0, 8, 0, 255, 1, 0] else []

/-- A chip that has received nothing. -/
def freshChip (behind : UInt8 → UInt8) : Chip where
  toMemory := freshMemory
  status := 0
  start := 0
  len := 0
  reply _ := 0
  air := []
  initial := freshMemory
  behind := behind

def openRadio : State := { radio := { txDone := true } }

def freshLink (behind : UInt8 → UInt8) : Link Unit :=
  ⟨openRadio, freshChip behind, openRadio, freshChip behind, Tbfp.swInit Tbfp.restingRadio 0 ()⟩

private theorem arrPat_all : ArrPat fun array patt => array.all (· == patt) := by
  intro array patt
  simp

/-- Two chat messages with different serial numbers, the second one received at the end of the data buffer. -/
def twoChats : List Sending := [⟨⟨0x80, 1, [0x44, 0x41]⟩, 1000, 0⟩, ⟨⟨0x80, 2, [0x44, 0x42]⟩, 1000, 250⟩]

theorem link_refines_twoChats :
    (run (Link.carry .bench 2 {} {}) (freshLink id) twoChats).Ready 255 ∧
      ((run (Link.carry .bench 2 {} {}) (freshLink id) twoChats).device.tbfp .sx1262).rxPktCnt = 2 := by
  have hlayers : ({} : Layers).tbfpRetxTxDone = pure true := rfl
  have hpat : ArrPat ({} : Layers).isArrPat := arrPat_all
  obtain ⟨hready, hdevice⟩ := link_refines .bench 1 (n := 255) hlayers hpat (freshLink id) twoChats
    ⟨⟨rfl, rfl, Nat.le_refl _⟩, rfl, Tbfp.configured_swInit _ _ _, rfl⟩ (by
      intro e he
      rcases List.mem_pair.1 he with rfl | rfl
      · exact ⟨by simp [Message.Fits], by decide, by decide⟩
      · exact ⟨by simp [Message.Fits], by decide, by decide⟩) fun _ _ => rfl
  refine ⟨hready, ?_⟩
  rw [hdevice]
  decide +kernel

/-- From a chip that sends a zero behind the start, a packet is not handed up unless it starts at zero. -/
example : ((freshChip fun _ => 0).receive 250 [30, 128]).handed.take 2 = [0, 0] := by decide +kernel

end TiMcu.Sx1262
