import TiMcu.Lora.Queue
import TiMcu.Tbfp.Needed

/-!
# The tunnel between two devices

The receiving device is fed the frames that the sending one puts on the air, each at least once.  Its parser of
`IF_SX1262` starts anew with each of them, and the flow control drops the repeats.  The parser of `IF_LORA` is fed the
chunks one behind the other, so it completes the frames that were cut into them (`lora_tunnel`).
-/

namespace TiMcu.Tbfp

open NorFlash LittleEndian Framing Runs Stutter

variable {W : Type} {env : Env W} {proc : Proc W} {d d' m : Device W} {slot : Interfaces} {p : UInt8}
variable {l bytes f : List UInt8} {src : Source}

/-! ### Bytes that complete no frame -/

theorem Calm.trans {r r' r'' : TbfpReceiver} (h : Calm r r') (h' : Calm r' r'') : Calm r r'' := by
  refine ⟨h'.flow.trans h.flow, h'.rxPktCnt.trans h.rxPktCnt, h'.fixFrame.trans h.fixFrame, fun i hi => ?_⟩
  rcases h'.stored i hi with hold | hlt
  · exact h.stored i hold
  · exact .inr hlt

private theorem byteAt_setTbfp {r : TbfpReceiver} (hc : Calm (d.tbfp slot) r) (src : Source) (i : Nat) :
    (d.setTbfp slot r).byteAt src i = d.byteAt src i := by
  cases src with
  | bytes array => rfl
  | txFrame s => rfl
  | fixFrame s offset =>
    by_cases hs : s = slot
    · subst hs
      simp only [Device.byteAt, Device.setTbfp_self, hc.fixFrame]
    · simp only [Device.byteAt, d.setTbfp_of_ne r hs]

/-- The loop of `tbfp_proc` loads the parser, and an array in the `fix_frame` of that parser stays. -/
theorem fed_loads (proc : Proc W) (hp : d.preambleVal slot = p) (len : UInt16)
    (hbytes : ∀ i, i < bytes.length → d.byteAt src i = bytes.getD i 0)
    (h : Loaded (tbfpVerdict env.crc8SaeJ1850Calc p) (d.tbfp slot).parser l)
    (hnone : frames (tbfpVerdict env.crc8SaeJ1850Calc p) l bytes = []) {n : Nat} (hn : n ≤ bytes.length) :
    ∃ r, (d.fed env proc src len slot n).2 = d.setTbfp slot r ∧ Calm (d.tbfp slot) r ∧
      Loaded (tbfpVerdict env.crc8SaeJ1850Calc p) r.parser
        (held (tbfpVerdict env.crc8SaeJ1850Calc p) l (bytes.take n)) := by
  induction n with
  | zero => exact ⟨d.tbfp slot, by simp [Device.fed, Device.setTbfp], ⟨rfl, rfl, rfl, fun _ => .inl⟩, h⟩
  | succ n ih =>
    have hlt : n < bytes.length := hn
    obtain ⟨r, hfed, hcalm, hloaded⟩ := ih (Nat.le_of_succ_le hn)
    have hfront : frames (tbfpVerdict env.crc8SaeJ1850Calc p) l (bytes.take (n + 1)) = [] :=
      List.prefix_nil.1 (hnone ▸ frames_isPrefix l (List.take_prefix (n + 1) bytes))
    rw [frames_take_succ l hlt, List.append_eq_nil_iff] at hfront
    rw [held_take_succ l hlt]
    generalize held (tbfpVerdict env.crc8SaeJ1850Calc p) l (bytes.take n) = l' at hloaded hfront ⊢
    have hb : (d.setTbfp slot r).byteAt src n = bytes[n] := by
      rw [byteAt_setTbfp hcalm, hbytes n hlt, List.getD_eq_getElem _ _ hlt]
    have hsucc : (d.fed env proc src len slot (n + 1)).2 =
        ((d.fed env proc src len slot n).2.feedByte env proc src len slot n).2 := rfl
    rw [hsucc, hfed]
    unfold Device.feedByte
    rw [hb]
    generalize hu : ({ d.setTbfp slot r with
      unfed := src.rest (n + 1) len.toNat ++ (d.setTbfp slot r).unfed } : Device W) = u
    have hsetup : u.preambleVal slot = p := by rw [← hu]; exact hp
    have hself : u.tbfp slot = r := by rw [← hu]; exact d.setTbfp_self slot r
    subst hsetup
    have hstep := tbfpProcByte_spec (hself ▸ hloaded) proc bytes[n]
    generalize u.tbfpProcByte env proc slot bytes[n] = res at hstep ⊢
    cases hstep with
    | loads r' hv hl hc =>
      refine ⟨r', ?_, hcalm.trans (hself ▸ hc), hl⟩
      rw [← hu]
      simp [Device.setTbfp]
    | accepts r' hv hl hi hc =>
      rw [complete_frame hv] at hfront
      exact absurd hfront.2 (by simp)

/-- A call of `tbfp_proc` without a reset. -/
private theorem tbfpProcBody_loads (proc : Proc W) (hp : d.preambleVal slot = p) (len : UInt16)
    (hlen : len.toNat = bytes.length)
    (hbytes : ∀ i, i < bytes.length → d.byteAt src i = bytes.getD i 0)
    (h : Loaded (tbfpVerdict env.crc8SaeJ1850Calc p) (d.tbfp slot).parser l)
    (hnone : frames (tbfpVerdict env.crc8SaeJ1850Calc p) l bytes = []) :
    ∃ r, (tbfpProcBody env proc d src len slot false).2 = d.setTbfp slot r ∧ Calm (d.tbfp slot) r := by
  obtain ⟨r, hfed, hcalm, -⟩ := fed_loads proc hp len hbytes h hnone (Nat.le_refl bytes.length)
  refine ⟨r, ?_, hcalm⟩
  unfold tbfpProcBody Device.countLack
  simp only [Bool.false_eq_true, if_false, ite_self]
  rw [hlen, hfed]

/-! ### The queued frames -/

/-- The frame is no tunnel around a complete frame for `IF_LORA`. -/
def PlainFrame (crc8SaeJ1850Calc : List UInt8 → UInt8) (f : List UInt8) : Prop :=
  frameId f = frameIdTunnel → frames (tbfpVerdict crc8SaeJ1850Calc tbfpPreambleLora) [] (tunnelBytes f) = []

instance (crc8SaeJ1850Calc : List UInt8 → UInt8) (f : List UInt8) : Decidable (PlainFrame crc8SaeJ1850Calc f) := by
  unfold PlainFrame
  infer_instance

private theorem tunnelBytes_message {crc8SaeJ1850Calc : List UInt8 → UInt8} {message : Message} (h : message.Fits)
    {b : UInt8}
    (hpayload : message.payload = b :: bytes) : tunnelBytes (message.frame crc8SaeJ1850Calc p) = bytes := by
  have hsize : tbfpSizeId = 1 := rfl
  rw [tunnelBytes, payloadLen_message h, hpayload]
  simp [Message.frame, tbfFrame, tbfHeader, tbfpIndexPayload, hpayload, hsize]

/-- A queued frame that the parser of `IF_LORA` completes is handled without completing another one there. -/
private theorem alone_of_plain (depth : Nat) (hd : Configured d) (hp : d.preambleVal .lora = tbfpPreambleLora)
    (hpos : 1 ≤ payloadLen f) (hplain : PlainFrame env.crc8SaeJ1850Calc f) :
    Alone env (tbfpProc env (depth + 1)) .lora d f := by
  have hlora : d.interface .lora = .lora := hd.tbfp .lora
  by_cases htunnel : frameId f = frameIdTunnel
  · intro fs d' hbefore r hv hl hi hc
    have hlora' : d'.interface .lora = .lora := (hbefore.interface .lora).trans hlora
    have hp' : d'.preambleVal .lora = tbfpPreambleLora := (hbefore.preambleVal .lora).trans hp
    have hholds := holdsFrame_acceptFrame hv hl hi
    have hsilent : d'.interface .lora = .loopback → (frameHeader f).Silent := by
      rw [hlora']
      exact fun hc => absurd hc (by decide)
    have hsame : (d'.acceptFrame .lora r).preambleVal (d'.interface .lora) = (d'.acceptFrame .lora r).preambleVal .lora := by
      rw [hlora']
    by_cases hflow : ((d'.acceptFrame .lora r).tbfp (d'.interface .lora)).flow.prevSNum < (frameHeader f).snum
    · obtain ⟨m, hm, hparser, -, hcall⟩ := tbfpProcFull_tunnel (n := f.length) (tbfpProc env (depth + 1)) hholds hsilent
        htunnel hsame hflow
      have htook : Took .lora [f] d' m := took_of_handled hl hi hc hm
      have hload : Loaded (tbfpVerdict env.crc8SaeJ1850Calc tbfpPreambleLora) (m.tbfp .lora).parser [] := by
        rw [hparser]
        exact d'.acceptFrame_loaded .lora r
      have hlen : ((frameHeader f).len - 1).toNat = (tunnelBytes f).length := by
        rw [frameHeader_len_pred hpos, hholds.tunnelBytes_length]
        rfl
      obtain ⟨r', hloads, hcalm⟩ := tbfpProcBody_loads (tbfpProc env depth) ((htook.preambleVal .lora).trans hp')
        ((frameHeader f).len - 1) hlen (fun i hi => hholds.tunnel_byteAt (hparser .lora) hi) hload (hplain htunnel)
      rw [hcall, tbfpProc, hloads]
      exact htook.trans (took_setTbfp hcalm.rxPktCnt hcalm.flow)
    · rw [tbfpProcFull_refused hholds hsilent hsame hflow]
      exact took_of_handled hl hi hc (handled_answered hholds)
  · refine FeedsNone.alone ⟨?_, htunnel⟩
    exact hd.apart .lora _ _

/-! ### The receiving device -/

variable {cs cs' : List (List UInt8)} {c F : List UInt8} {snum snum' : UInt16}

/-- The chunks came through the tunnel, one behind the other, the last one with that serial number. -/
structure Receiving (env : Env W) (snum : UInt16) (cs : List (List UInt8)) (d : Device W) : Prop where
  configured : Configured d
  preambleLora : d.preambleVal .lora = tbfpPreambleLora
  preambleSx1262 : d.preambleVal .sx1262 = tbfpPreambleSx1262
  prevSNum : (d.tbfp .sx1262).flow.prevSNum = snum
  loaded : Loaded (tbfpVerdict env.crc8SaeJ1850Calc tbfpPreambleLora) (d.tbfp .lora).parser
    (held (tbfpVerdict env.crc8SaeJ1850Calc tbfpPreambleLora) [] cs.flatten)
  accepted : acceptedFrames .lora d.log = frames (tbfpVerdict env.crc8SaeJ1850Calc tbfpPreambleLora) [] cs.flatten

/-- What else changes does not matter. -/
theorem Receiving.congr (h : Receiving env snum cs d) (hconf : Configured d')
    (hsetup : ∀ s, d'.preambleVal s = d.preambleVal s) (hflow : (d'.tbfp .sx1262).flow = (d.tbfp .sx1262).flow)
    (hparser : (d'.tbfp .lora).parser = (d.tbfp .lora).parser)
    (hlog : acceptedFrames .lora d'.log = acceptedFrames .lora d.log) : Receiving env snum cs d' :=
  ⟨hconf, (hsetup .lora).trans h.preambleLora, (hsetup .sx1262).trans h.preambleSx1262, hflow ▸ h.prevSNum,
    hparser ▸ h.loaded, hlog.trans h.accepted⟩

theorem Receiving.setTx (h : Receiving env snum cs d) {t : Transmitter W} (ht : SameSetup d.tx t) :
    Receiving env snum cs (d.setTx t) :=
  h.congr ⟨fun s => (ht s).1.trans (h.configured.tbfp s), h.configured.rtcm3⟩ (fun s => (ht s).2) rfl rfl rfl

/-- The parser of `IF_SX1262` moves. -/
theorem Receiving.setTbfp (h : Receiving env snum cs d) {r : TbfpReceiver} (hr : r.flow = (d.tbfp .sx1262).flow) :
    Receiving env snum cs (d.setTbfp .sx1262 r) := by
  refine h.congr ⟨h.configured.tbfp, h.configured.rtcm3⟩ (fun _ => rfl) ?_ ?_ rfl
  · rw [Device.setTbfp_self, hr]
  · rw [d.setTbfp_of_ne r (by decide)]

theorem Receiving.acceptFrame (h : Receiving env snum cs d) {r : TbfpReceiver} (hc : Calm (d.tbfp .sx1262) r) :
    Receiving env snum cs (d.acceptFrame .sx1262 r) := by
  refine h.congr ⟨h.configured.tbfp, h.configured.rtcm3⟩ (fun _ => rfl) (flow_acceptFrame hc _) ?_ ?_
  · rw [tbfp_acceptFrame r (by decide)]
  · simp [acceptedFrames, Device.acceptFrame, Device.note, Device.setTbfp, Seen.acceptedFrame]

theorem Receiving.countLack (h : Receiving env snum cs d) (initRxPkt : UInt32) (isResetParser : Bool) :
    Receiving env snum cs (d.countLack .sx1262 initRxPkt isResetParser) := by
  unfold Device.countLack
  dsimp only
  split
  · exact h
  · split
    · exact h.setTbfp rfl
    · exact h

/-- What is still to be fed does not matter. -/
theorem Receiving.unfed (h : Receiving env snum cs d) (u : List Region) : Receiving env snum cs { d with unfed := u } :=
  h.congr ⟨h.configured.tbfp, h.configured.rtcm3⟩ (fun _ => rfl) rfl rfl rfl

/-- The handling of the whole frame takes the device from the chunks `cs` to the chunks `cs'`. -/
def Carried (env : Env W) (depth : Nat) (snum : UInt16) (cs : List (List UInt8)) (snum' : UInt16)
    (cs' : List (List UInt8)) (F : List UInt8) : Prop :=
  ∀ m : Device W, Receiving env snum cs m → HoldsFrame env m .sx1262 F → Receiving env snum' cs'
    (m.tbfpProcFull env (tbfpProc env depth) .sx1262 (UInt16.ofNat F.length) (m.interface .sx1262)).2

/-- The last byte of a frame of the radio. -/
private theorem Receiving.lastByte (h : Receiving env snum cs d) {depth : Nat} {q : List UInt8} {b : UInt8}
    (hv : tbfpVerdict env.crc8SaeJ1850Calc tbfpPreambleSx1262 (q ++ [b]) = .frame)
    (hload : Loaded (tbfpVerdict env.crc8SaeJ1850Calc tbfpPreambleSx1262) (d.tbfp .sx1262).parser q)
    (hfull : Carried env depth snum cs snum' cs' (q ++ [b])) :
    Receiving env snum' cs' (d.tbfpProcByte env (tbfpProc env depth) .sx1262 b).2 := by
  rw [← h.preambleSx1262] at hv hload
  have hstep := tbfpProcByte_spec hload (tbfpProc env depth) b
  generalize d.tbfpProcByte env (tbfpProc env depth) .sx1262 b = res at hstep ⊢
  cases hstep with
  | loads r hne hl hc => exact absurd hv hne
  | accepts r _ hl hi hc =>
    have hend : r.parser.crc8Index.toNat + 1 = (q ++ [b]).length := by
      rw [hi, List.length_append, List.length_singleton]
    have hholds : HoldsFrame env (d.acceptFrame .sx1262 r) .sx1262 (q ++ [b]) :=
      holdsFrame_acceptFrame hv (by rw [List.length_append, List.length_singleton, hl]) hend
    rw [crc8Index_succ hend]
    exact (hfull (d.acceptFrame .sx1262 r) (h.acceptFrame hc) hholds).setTbfp rfl

/-- A frame of the radio is handled when the parser of `IF_SX1262` has loaded it. -/
theorem Receiving.deliver (h : Receiving env snum cs d) {depth : Nat}
    (hF : IsFrame (tbfpVerdict env.crc8SaeJ1850Calc tbfpPreambleSx1262) F) (hlen : F.length < 2 ^ 16)
    (hfull : Carried env depth snum cs snum' cs' F) : Receiving env snum' cs' (loraProcPayload env (depth + 1) d F).2 := by
  obtain ⟨q, b, rfl⟩ := List.eq_nil_or_concat F |>.resolve_left hF.ne_nil
  rw [List.concat_eq_append] at hF hlen hfull ⊢
  obtain ⟨hheld, hnone⟩ := hF.front rfl (List.cons_ne_nil b [])
  have hreset : Receiving env snum cs (d.resetRx .sx1262) := h.setTbfp rfl
  have hloaded : Loaded (tbfpVerdict env.crc8SaeJ1850Calc tbfpPreambleSx1262)
      ((d.resetRx .sx1262).tbfp .sx1262).parser [] := d.resetRx_loaded .sx1262
  have hbytes : ∀ i, i < q.length → (d.resetRx .sx1262).byteAt (.bytes (q ++ [b])) i = q.getD i 0 :=
    fun i hi => List.getD_append _ _ _ _ hi
  obtain ⟨r, hfed, hcalm, hload⟩ := fed_loads (tbfpProc env depth) hreset.preambleSx1262
    (UInt16.ofNat (q ++ [b]).length) hbytes hloaded hnone (Nat.le_refl q.length)
  rw [List.take_length, hheld] at hload
  have hfront : Receiving env snum cs ((d.resetRx .sx1262).setTbfp .sx1262 r) := hreset.setTbfp hcalm.flow
  have hself : ((d.resetRx .sx1262).setTbfp .sx1262 r).tbfp .sx1262 = r := Device.setTbfp_self _ _ r
  have hlast : Receiving env snum' cs' ((d.resetRx .sx1262).fed env (tbfpProc env depth) (.bytes (q ++ [b]))
      (UInt16.ofNat (q ++ [b]).length) .sx1262 (q.length + 1)).2 := by
    change Receiving env snum' cs' (((d.resetRx .sx1262).fed env (tbfpProc env depth) (.bytes (q ++ [b]))
      (UInt16.ofNat (q ++ [b]).length) .sx1262 q.length).2.feedByte env (tbfpProc env depth) (.bytes (q ++ [b]))
      (UInt16.ofNat (q ++ [b]).length) .sx1262 q.length).2
    rw [hfed]
    generalize (d.resetRx .sx1262).setTbfp .sx1262 r = m at hfront hself ⊢
    have hb : m.byteAt (.bytes (q ++ [b])) q.length = b := by simp [Device.byteAt]
    unfold Device.feedByte
    rw [hb]
    exact ((hfront.unfed _).lastByte hF.frame (hself.symm ▸ hload) hfull).unfed m.unfed
  have hbody : Receiving env snum' cs'
      (tbfpProc env (depth + 1) d (.bytes (q ++ [b])) (UInt16.ofNat (q ++ [b]).length) .sx1262 true).2 := by
    have htoNat : (UInt16.ofNat (q ++ [b]).length).toNat = q.length + 1 := by
      rw [List.length_append, List.length_singleton] at hlen ⊢
      rw [UInt16.toNat_ofNat']
      omega
    unfold tbfpProc tbfpProcBody
    dsimp only
    rw [if_pos rfl, htoNat]
    exact hlast.countLack _ _
  unfold loraProcPayload Device.procRxPayload
  dsimp only
  split
  · exact hbody
  · exact hbody.setTx fun _ => ⟨rfl, rfl⟩

/-! ### A tunnel arrives -/

/-- The frame was counted, and nothing was fed to a parser. -/
theorem Receiving.counted (h : Receiving env snum cs d) {n : Nat} {len : UInt16}
    (hd' : Handled .sx1262 n (d.countFrame .sx1262 len snum') d')
    (hparser : (d'.tbfp .lora).parser = (d.tbfp .lora).parser)
    (hlog : acceptedFrames .lora d'.log = acceptedFrames .lora d.log) : Receiving env snum' cs d' := by
  refine ⟨hd'.configured (configured_countFrame h.configured _ _ _), ?_, ?_, ?_, hparser ▸ h.loaded,
    hlog.trans h.accepted⟩
  · exact (hd'.setup .lora).2.trans h.preambleLora
  · exact (hd'.setup .sx1262).2.trans h.preambleSx1262
  · rw [hd'.flow]
    simp [Device.countFrame, Device.note, Device.setTbfp]

/-- A frame that does not pass the flow control is dropped. -/
private theorem carried_refused (depth : Nat) {message : Message} (hsnum : ¬snum < message.snum) :
    Carried env depth snum cs message.snum cs (message.frame env.crc8SaeJ1850Calc tbfpPreambleSx1262) := by
  intro m h hholds
  have hi : m.interface .sx1262 = .sx1262 := h.configured.tbfp .sx1262
  have hsilent : Interfaces.sx1262 = .loopback →
      (frameHeader (message.frame env.crc8SaeJ1850Calc tbfpPreambleSx1262)).Silent := fun hc => absurd hc (by decide)
  have hflow : ¬(m.tbfp .sx1262).flow.prevSNum <
      (frameHeader (message.frame env.crc8SaeJ1850Calc tbfpPreambleSx1262)).snum := by
    rw [h.prevSNum, frameHeader_message]
    exact hsnum
  rw [hi, tbfpProcFull_refused hholds hsilent rfl hflow]
  have hanswered : Handled .sx1262 0 (m.countFrame .sx1262 _ _) (m.answered env .sx1262 _ .sx1262) :=
    handled_answered hholds
  rw [frameHeader_message] at hanswered
  refine h.counted hanswered (parser_answered env m .sx1262 .sx1262 .lora _) ?_
  unfold Device.answered
  simp [acceptedFrames, Device.countFrame, Device.note, Device.setTbfp, Device.setTx, Seen.acceptedFrame]

/-- The chunk behind the chunks so far is fed to the parser of `IF_LORA`. -/
theorem Receiving.chunk (h : Receiving env snum cs d) (depth : Nat) (hsrc : src.Outside .lora) (hlt : c.length < 2 ^ 16)
    (hread : ∀ i, i < c.length → d.byteAt src i = c.getD i 0)
    (hplain : ∀ f ∈ frames (tbfpVerdict env.crc8SaeJ1850Calc tbfpPreambleLora) [] (cs ++ [c]).flatten,
      1 ≤ payloadLen f ∧ PlainFrame env.crc8SaeJ1850Calc f) :
    Receiving env snum (cs ++ [c]) (tbfpProcBody env (tbfpProc env (depth + 1)) d src (UInt16.ofNat c.length) .lora
      false).2 := by
  rw [List.flatten_append, List.flatten_singleton, frames_append] at hplain
  have hlora : d.interface .lora = .lora := h.configured.tbfp .lora
  have halone : ∀ f ∈ frames (tbfpVerdict env.crc8SaeJ1850Calc tbfpPreambleLora)
      (held (tbfpVerdict env.crc8SaeJ1850Calc tbfpPreambleLora) [] cs.flatten) c,
      Alone env (tbfpProc env (depth + 1)) .lora d f := by
    intro f hf
    obtain ⟨hpos, hplain'⟩ := hplain f (List.mem_append_right _ hf)
    exact alone_of_plain depth h.configured h.preambleLora hpos hplain'
  obtain ⟨htook, hloaded⟩ := tbfpProcBody_took (tbfpProc env (depth + 1)) h.preambleLora hsrc hlt hread false
    h.loaded halone
  refine ⟨⟨fun s => ?_, fun s => ?_⟩, ?_, ?_, ?_, ?_, ?_⟩
  · exact (htook.interface s).trans (h.configured.tbfp s)
  · exact (htook.rtcm3 s).1.trans (h.configured.rtcm3 s)
  · exact (htook.preambleVal .lora).trans h.preambleLora
  · exact (htook.preambleVal .sx1262).trans h.preambleSx1262
  · rw [htook.flow .sx1262 (by rw [hlora]; decide)]
    exact h.prevSNum
  · rw [List.flatten_append, List.flatten_singleton, held_append]
    exact hloaded
  · rw [htook.accepted, h.accepted, List.flatten_append, List.flatten_singleton, frames_append]

/-- The chunk in a tunnel that passes the flow control is fed to the parser of `IF_LORA`. -/
private theorem carried_passed (depth : Nat) {message : Message} (hfits : message.Fits)
    (hpayload : message.payload = frameIdTunnel :: c) (hsnum : snum < message.snum)
    (hplain : ∀ f ∈ frames (tbfpVerdict env.crc8SaeJ1850Calc tbfpPreambleLora) [] (cs ++ [c]).flatten,
      1 ≤ payloadLen f ∧ PlainFrame env.crc8SaeJ1850Calc f) :
    Carried env (depth + 2) snum cs message.snum (cs ++ [c])
      (message.frame env.crc8SaeJ1850Calc tbfpPreambleSx1262) := by
  intro d h hholds
  have hi : d.interface .sx1262 = .sx1262 := h.configured.tbfp .sx1262
  have hsilent : Interfaces.sx1262 = .loopback →
      (frameHeader (message.frame env.crc8SaeJ1850Calc tbfpPreambleSx1262)).Silent := fun hc => absurd hc (by decide)
  have hflow : (d.tbfp .sx1262).flow.prevSNum <
      (frameHeader (message.frame env.crc8SaeJ1850Calc tbfpPreambleSx1262)).snum := by
    rw [h.prevSNum, frameHeader_message]
    exact hsnum
  have hlength : payloadLen (message.frame env.crc8SaeJ1850Calc tbfpPreambleSx1262) = c.length + 1 := by
    rw [payloadLen_message hfits, hpayload, List.length_cons]
  have hbytes : tunnelBytes (message.frame env.crc8SaeJ1850Calc tbfpPreambleSx1262) = c :=
    tunnelBytes_message hfits hpayload
  obtain ⟨m, hm, hparser, hlog, hcall⟩ := tbfpProcFull_tunnel (n := 0) (tbfpProc env (depth + 2)) hholds hsilent
    (frameId_message hpayload) rfl hflow
  rw [frameHeader_message] at hm
  have hcounted : Receiving env message.snum cs m := by
    refine h.counted hm (congrArg id (hparser .lora)) ?_
    rw [hlog]
    simp [acceptedFrames, Seen.acceptedFrame]
  have hlt : c.length < 2 ^ 16 := by
    have hmax := hfits.2
    rw [hpayload, List.length_cons] at hmax
    omega
  have hsize : (frameHeader (message.frame env.crc8SaeJ1850Calc tbfpPreambleSx1262)).len - 1 = UInt16.ofNat c.length := by
    apply UInt16.toNat_inj.1
    rw [frameHeader_len_pred (by omega), hlength, UInt16.toNat_ofNat']
    omega
  have hread : ∀ i, i < c.length → m.byteAt (.fixFrame .sx1262 (tbfpIndexPayload + 1)) i = c.getD i 0 := by
    intro i hi
    rw [← hbytes] at hi ⊢
    exact hholds.tunnel_byteAt (hparser .sx1262) hi
  rw [hi, hcall, hsize, tbfpProc]
  exact hcounted.chunk depth Interfaces.noConfusion hlt hread hplain

/-! ### The link -/

/-- What happens on the receiving device. -/
inductive RxEvent (W : Type)
  /-- the radio received a frame -/
  | deliver (frame : List UInt8)
  /-- its machine, its queue, its radio and its clock move on -/
  | moves (f : Transmitter W → Transmitter W) (h : ∀ t, SameSetup t (f t))

def Device.receive (env : Env W) (depth : Nat) (d : Device W) : RxEvent W → Device W
  | .deliver frame => (loraProcPayload env depth d frame).2
  | .moves f _ => d.setTx (f d.tx)

def RxEvent.frame : RxEvent W → Option (List UInt8)
  | .deliver frame => some frame
  | .moves .. => none

/-- The frames that the radio received, the oldest first. -/
def deliveredFrames (rs : List (RxEvent W)) : List (List UInt8) := rs.filterMap RxEvent.frame

private theorem tunnelMessage_fits (snum : Nat) (hc : c.length ≤ maxLoraPayloadSize) : (tunnelMessage snum c).Fits := by
  have hlora : maxLoraPayloadSize = 241 := rfl
  have hlen : (tunnelMessage snum c).payload.length = c.length + 1 := rfl
  constructor
  · omega
  · omega

theorem Receiving.tunnel (h : Receiving env snum cs d) {depth k : Nat} (hc : c.length ≤ maxLoraPayloadSize)
    (hcarried : Carried env depth snum cs snum' cs' (tunnelFrame env.crc8SaeJ1850Calc k c)) :
    Receiving env snum' cs' (d.receive env (depth + 1) (.deliver (tunnelFrame env.crc8SaeJ1850Calc k c))) := by
  have hfits := tunnelMessage_fits k hc
  refine h.deliver hfits.isFrame ?_ hcarried
  have hover : tbfpSizeOverhead = 7 := rfl
  have hmax := hfits.2
  rw [tunnelFrame, Message.frame, tbfFrame_length]
  omega

/-- The tunnels of the first chunks begin the tunnels of all of them. -/
private theorem tunnelFrames_isPrefix (crc8SaeJ1850Calc : List UInt8 → UInt8) (h : cs <+: cs') :
    tunnelFrames crc8SaeJ1850Calc cs <+: tunnelFrames crc8SaeJ1850Calc cs' := by
  obtain ⟨rest, rfl⟩ := h
  unfold tunnelFrames
  rw [List.mapIdx_append]
  exact List.prefix_append _ _

/-- The frame behind the tunnels of the first chunks is the tunnel of the next chunk. -/
private theorem next_tunnelFrame {crc8SaeJ1850Calc : List UInt8 → UInt8} (hcs : cs <+: cs')
    (h : tunnelFrames crc8SaeJ1850Calc cs ++ [F] <+: tunnelFrames crc8SaeJ1850Calc cs') :
    ∃ c, cs ++ [c] <+: cs' ∧ F = tunnelFrame crc8SaeJ1850Calc (cs.length + 1) c := by
  obtain ⟨rest, rfl⟩ := hcs
  have hle := h.length_le
  rw [List.length_append, List.length_singleton, tunnelFrames_length, tunnelFrames_length, List.length_append] at hle
  obtain ⟨c, rest, rfl⟩ := List.exists_cons_of_length_pos (show 0 < rest.length by omega)
  have hnext : cs ++ [c] <+: cs ++ c :: rest := ⟨rest, by simp⟩
  have hsame := List.prefix_of_prefix_length_le h (tunnelFrames_isPrefix crc8SaeJ1850Calc hnext) (by simp)
  have heq := hsame.eq_of_length (by simp)
  rw [tunnelFrames_concat, List.append_cancel_left_eq, List.singleton_inj] at heq
  exact ⟨c, hnext, heq⟩

/-- The tunnel of the last chunk comes once more. -/
theorem Receiving.repeated (h : Receiving env (UInt16.ofNat cs.length) cs d) (depth : Nat)
    (hchunks : ∀ c ∈ cs, c.length ≤ maxLoraPayloadSize)
    (hlast : (tunnelFrames env.crc8SaeJ1850Calc cs).getLast? = some F) :
    Receiving env (UInt16.ofNat cs.length) cs (d.receive env (depth + 1) (.deliver F)) := by
  rcases List.eq_nil_or_concat cs with rfl | ⟨cs', c, rfl⟩
  · simp [tunnelFrames] at hlast
  · rw [List.concat_eq_append] at hchunks hlast h ⊢
    rw [tunnelFrames_concat, List.getLast?_concat, Option.some_inj] at hlast
    rw [List.length_append, List.length_singleton] at h ⊢
    rw [← hlast]
    exact h.tunnel (hchunks c (by simp)) (carried_refused _ (UInt16.lt_irrefl _))

/-- The tunnel of the next chunk comes. -/
theorem Receiving.next (h : Receiving env (UInt16.ofNat cs.length) cs d) (depth : Nat) (hlt : cs.length + 1 < 2 ^ 16)
    (hc : c.length ≤ maxLoraPayloadSize)
    (hplain : ∀ f ∈ frames (tbfpVerdict env.crc8SaeJ1850Calc tbfpPreambleLora) [] (cs ++ [c]).flatten,
      1 ≤ payloadLen f ∧ PlainFrame env.crc8SaeJ1850Calc f) :
    Receiving env (UInt16.ofNat (cs.length + 1)) (cs ++ [c])
      (d.receive env (depth + 3) (.deliver (tunnelFrame env.crc8SaeJ1850Calc (cs.length + 1) c))) := by
  refine h.tunnel hc (carried_passed depth (tunnelMessage_fits _ hc) rfl ?_ hplain)
  change UInt16.ofNat cs.length < UInt16.ofNat (cs.length + 1)
  rw [UInt16.lt_iff_toNat_lt, UInt16.toNat_ofNat', UInt16.toNat_ofNat']
  omega

/-- After deliveries in order, with repeats, the device has received the chunks of the tunnels delivered. -/
private theorem run_receiving {d₀ : Device W} (h : Receiving env 0 [] d₀) (depth : Nat) (hlt : cs.length < 2 ^ 16)
    (hchunks : ∀ c ∈ cs, c.length ≤ maxLoraPayloadSize)
    (hplain : ∀ f ∈ frames (tbfpVerdict env.crc8SaeJ1850Calc tbfpPreambleLora) [] cs.flatten,
      1 ≤ payloadLen f ∧ PlainFrame env.crc8SaeJ1850Calc f) (rs : List (RxEvent W))
    (hlink : once (deliveredFrames rs) <+: tunnelFrames env.crc8SaeJ1850Calc cs) :
    ∃ cs', cs' <+: cs ∧ once (deliveredFrames rs) = tunnelFrames env.crc8SaeJ1850Calc cs' ∧
      Receiving env (UInt16.ofNat cs'.length) cs' (run (Device.receive env (depth + 3)) d₀ rs) := by
  induction rs using List.reverseRecOn with
  | nil => exact ⟨[], List.nil_prefix, rfl, h⟩
  | append_singleton rs e ih =>
    rw [run_append, run_cons, run_nil]
    unfold deliveredFrames at hlink ih ⊢
    rw [List.filterMap_append] at hlink ⊢
    cases e with
    | moves f hf =>
      have hnone : [RxEvent.moves f hf].filterMap RxEvent.frame = [] := rfl
      rw [hnone, List.append_nil] at hlink ⊢
      obtain ⟨cs', hcs', honce, hreceiving⟩ := ih hlink
      exact ⟨cs', hcs', honce, hreceiving.setTx (hf _)⟩
    | deliver F =>
      have hone : [RxEvent.deliver (W := W) F].filterMap RxEvent.frame = [F] := rfl
      rw [hone, once_concat] at hlink ⊢
      by_cases hlast : (rs.filterMap RxEvent.frame).getLast? = some F
      · rw [if_pos hlast] at hlink ⊢
        obtain ⟨cs', hcs', honce, hreceiving⟩ := ih hlink
        refine ⟨cs', hcs', honce, hreceiving.repeated _ (fun c hc => hchunks c (hcs'.subset hc)) ?_⟩
        rw [← honce, once_getLast?]
        exact hlast
      · rw [if_neg hlast] at hlink ⊢
        obtain ⟨cs', hcs', honce, hreceiving⟩ := ih ((List.prefix_append _ _).trans hlink)
        rw [honce] at hlink ⊢
        obtain ⟨c, hnext, rfl⟩ := next_tunnelFrame hcs' hlink
        have hle := hnext.length_le
        rw [List.length_append, List.length_singleton] at hle
        refine ⟨cs' ++ [c], hnext, (tunnelFrames_concat ..).symm, ?_⟩
        rw [List.length_append, List.length_singleton]
        refine hreceiving.next depth (by omega) (hchunks c (hnext.subset (by simp))) fun f hf => ?_
        exact hplain f ((frames_isPrefix [] hnext.flatten).subset hf)

/-! ### From one device to the other -/

private theorem receiving_swInit (env : Env W) (radio : Sx1262) (now : Nat) (world : W) :
    Receiving env 0 [] (swInit radio now world) :=
  ⟨configured_swInit radio now world, rfl, rfl, rfl, loaded_nil rfl rfl, rfl⟩

/-- What is on the air are the tunnels given to the machine, each up to repeats, perhaps without the newest. -/
private theorem Carries.air_isPrefix {crc8SaeJ1850Calc : List UInt8 → UInt8} {n : Node}
    (h : Carries crc8SaeJ1850Calc cs n)
    (hlt : cs.length < 2 ^ 16) : once (sentFrames n.trace) <+: tunnelFrames crc8SaeJ1850Calc cs := by
  rcases h.air hlt with hall | ⟨-, -, hpending⟩
  · rw [hall]
  · rw [hpending]
    exact List.dropLast_prefix _

/-- The frames that a device sends on `IF_LORA` come out of the parser of `IF_LORA` of another device, each once and in
order, when the link delivers each frame of the radio at least once and in order and none of the frames is a tunnel
around a complete frame. -/
theorem lora_tunnel (env : Env W) (hqueue : ByteQueue env) (radio radio' : Sx1262) (now now' : Nat) (world world' : W)
    (es : List TxEvent) (depth : Nat) (rs : List (RxEvent W))
    (hcount : (givenFrames ((run (Transmitter.step env) (swInit radio now world).tx es).trace .sx1262)).length < 2 ^ 16)
    (hlink : once (deliveredFrames rs) <+:
      once (sentFrames ((run (Transmitter.step env) (swInit radio now world).tx es).trace .sx1262)))
    (hplain : ∀ f ∈ (swInit radio now world).tx.queuedFrames env es, PlainFrame env.crc8SaeJ1850Calc f) :
    let a := run (Transmitter.step env) (swInit radio now world).tx es
    let b := run (Device.receive env (depth + 3)) (swInit radio' now' world') rs
    let queued := (swInit radio now world).tx.queuedFrames env es
    let given := givenFrames (a.trace .sx1262)
    acceptedFrames .lora b.log <+: queued ∧
      (once (deliveredFrames rs) = given → a.loRa.fifo = [] → acceptedFrames .lora b.log = queued) ∧
      (once (sentFrames (a.trace .sx1262)) = given ∨ (a.tbfp .sx1262).reTxFsm.state = .idle ∧
        (a.tbfp .sx1262).reTxFsm.retxCnt ≠ 0 ∧ once (sentFrames (a.trace .sx1262)) = given.dropLast) := by
  intro a b queued given
  obtain ⟨cs, hsending⟩ := (sending_swInit radio now world).run hqueue es
  rw [List.nil_append] at hsending
  have hgiven : given = tunnelFrames env.crc8SaeJ1850Calc cs := hsending.carries.given
  have hlt : cs.length < 2 ^ 16 := by
    rw [← tunnelFrames_length env.crc8SaeJ1850Calc cs, ← hgiven]
    exact hcount
  have hframes : ∀ f ∈ frames (tbfpVerdict env.crc8SaeJ1850Calc tbfpPreambleLora) [] cs.flatten,
      1 ≤ payloadLen f ∧ PlainFrame env.crc8SaeJ1850Calc f := by
    intro f hf
    have hmem : f ∈ queued := (hsending.frames_chunks List.prefix_rfl).subset hf
    exact ⟨(hsending.queued_isFrame hmem).2, hplain f hmem⟩
  have hair : once (sentFrames (a.trace .sx1262)) <+: tunnelFrames env.crc8SaeJ1850Calc cs :=
    hsending.carries.air_isPrefix hlt
  obtain ⟨cs', hcs', honce, hreceiving⟩ := run_receiving (receiving_swInit env radio' now' world') depth hlt
    (fun c hc => (hsending.chunks c hc).2) hframes rs (hlink.trans hair)
  refine ⟨?_, fun hall hempty => ?_, ?_⟩
  · rw [hreceiving.accepted]
    exact hsending.frames_chunks hcs'
  · have hlen := congrArg List.length (honce.symm.trans (hall.trans hgiven))
    rw [tunnelFrames_length, tunnelFrames_length] at hlen
    rw [hreceiving.accepted, hcs'.eq_of_length hlen]
    exact hsending.frames_all hempty
  · rw [hgiven]
    exact hsending.carries.air hlt

private theorem byteQueue_bench : ByteQueue Env.bench where
  push _ _ := rfl
  pull fifo size := List.take_append_drop size fifo
  size fifo size := List.length_take_le size fifo
  fails _ _ h := Bool.noConfusion (show true = false from h)

/-- The radio when it is free. -/
def readyRadio : Sx1262 := ⟨false, true, 0, []⟩

/-- Two frames of text, cut into one chunk that the radio refuses at first. -/
def twoChats : List TxEvent :=
  [.send ⟨[frameIdChat, 0x41], by decide⟩ 0 .noNeed, .send chatPayload 0 .noNeed, .flush,
    .transmit 2 0 1 0, .radio readyRadio, .retxProc]

/-- The chunk arrives twice. -/
def twiceDelivered : List (RxEvent Unit) :=
  List.replicate 2 (.deliver [30, 128, 1, 0, 18, 0, 84, 165, 0, 1, 0, 2, 0, 67, 65, 21, 165, 0, 2, 0, 1, 0, 67, 159, 221])

theorem twoChats_arrive :
    acceptedFrames .lora (run (Device.receive Env.bench 3) (swInit restingRadio 0 ()) twiceDelivered).log =
      [[165, 0, 1, 0, 2, 0, 67, 65, 21], [165, 0, 2, 0, 1, 0, 67, 159]] := by
  have hqueued : (swInit restingRadio 0 ()).tx.queuedFrames Env.bench twoChats =
      [[165, 0, 1, 0, 2, 0, 67, 65, 21], [165, 0, 2, 0, 1, 0, 67, 159]] := by decide +kernel
  have hplain : ∀ f ∈ (swInit restingRadio 0 ()).tx.queuedFrames Env.bench twoChats, PlainFrame crc8SaeJ1850 f := by
    rw [hqueued]
    decide +kernel
  rw [← hqueued]
  exact (lora_tunnel Env.bench byteQueue_bench restingRadio restingRadio 0 0 () () twoChats 0 twiceDelivered
    (by decide +kernel) (by decide +kernel) hplain).2.1 (by decide +kernel) (by decide +kernel)

/-- A tunnel that is sent on `IF_LORA`, with a frame of text inside. -/
def tunnelEvents : List TxEvent :=
  [.send ⟨frameIdTunnel :: Message.frame crc8SaeJ1850 tbfpPreambleLora ⟨0, 9, [frameIdChat]⟩, by decide⟩ 0 .noNeed, .flush,
    .transmit 2 0 1 0]

/-- The tunnel in the queue and the frame in it are both completed by the parser of `IF_LORA`. -/
theorem nested_tunnel_not_exact :
    let a := run (Transmitter.step Env.bench) (swInit readyRadio 0 ()).tx tunnelEvents
    let rs : List (RxEvent Unit) := (sentFrames (a.trace .sx1262)).map .deliver
    ByteQueue Env.bench ∧ (givenFrames (a.trace .sx1262)).length < 2 ^ 16 ∧
      deliveredFrames rs = givenFrames (a.trace .sx1262) ∧ a.loRa.fifo = [] ∧
      acceptedFrames .lora (run (Device.receive Env.bench 4) (swInit restingRadio 0 ()) rs).log ≠
        (swInit readyRadio 0 ()).tx.queuedFrames Env.bench tunnelEvents := by
  refine ⟨byteQueue_bench, ?_⟩
  decide +kernel

end TiMcu.Tbfp
