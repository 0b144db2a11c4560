import TiMcu.Tbfp.Effects
import TiMcu.Tbfp.Loaded

/-!
# What the handling of a frame does to the parsers

What is sent on `IF_LOOPBACK` goes to a parser of the device, and so does the payload of a tunnel.  `Apart` is a frame
whose handling sends nothing there.  `tbfp_proc_full` feeds no parser then unless the payload is a tunnel, and `Handled`
says what it may change.  The handling of a tunnel is that with a call of `tbfp_proc` behind it (`tbfpProcFull_tunnel`).
-/

namespace TiMcu.Tbfp

open NorFlash LittleEndian Framing

variable {W : Type} {polls : Bool} {env : Env W polls} {proc : Proc W} {d d' d'' : Device W}
  {slot interface : Interfaces} {n : Nat}

/-- A frame with that header is neither sent again nor acknowledged. -/
def TbfHeader.Silent (header : TbfHeader) : Prop :=
  ¬(0 < header.lifetime ∧ header.lifetime < 4) ∧ header.ackNeed = .noNeed

/-- A valid frame is passed to `tbfp_send` for `IF_LOOPBACK`. -/
def Rtcm3Protocol.FeedsLoopback (p : Rtcm3Protocol) : Prop := p.interface = .uart1 ∧ p.forwarding .loopback = true

/-- The handling of a frame of the interface with that header and that id sends nothing to a parser of the device. -/
structure Apart (d : Device W) (interface : Interfaces) (header : TbfHeader) (id : UInt8) : Prop where
  loopback : interface = .loopback → header.Silent ∧ id ≠ frameIdPing
  relay : id = frameIdRtcm3 → ¬(d.rtcm3 interface).FeedsLoopback

theorem Configured.apart (h : Configured d) (s : Interfaces) (header : TbfHeader) (id : UInt8) :
    Apart d (d.interface s) header id := by
  refine ⟨fun hs => absurd hs (h.ne_loopback s), fun _ hfeeds => ?_⟩
  have hlora := h.rtcm3_lora (h.ne_uart1 s)
  rw [hfeeds.1] at hlora
  cases hlora

/-- The parser is as it was, up to a reset. -/
structure SameOrReset (p p' : TbfpParser) : Prop where
  rxFrame : p'.rxFrame = p.rxFrame
  expPayloadLen : p'.expPayloadLen = p.expPayloadLen
  stored : p'.stored = p.stored
  state : (p'.rxState = p.rxState ∧ p'.loadLen = p.loadLen) ∨ (p'.rxState = .waitPreamble ∧ p'.loadLen = 0)

theorem SameOrReset.refl (p : TbfpParser) : SameOrReset p p := ⟨rfl, rfl, rfl, .inl ⟨rfl, rfl⟩⟩

theorem SameOrReset.trans {p p' p'' : TbfpParser} (h : SameOrReset p p') (h' : SameOrReset p' p'') :
    SameOrReset p p'' := by
  refine ⟨h'.rxFrame.trans h.rxFrame, h'.expPayloadLen.trans h.expPayloadLen, h'.stored.trans h.stored, ?_⟩
  rcases h'.state with ⟨hstate', hlen'⟩ | hreset
  · rw [hstate', hlen']
    exact h.state
  · exact .inr hreset

theorem SameOrReset.loaded {verdict : List UInt8 → Verdict} {p p' : TbfpParser} {l : List UInt8}
    (h : SameOrReset p p') (hl : Loaded verdict p l) : Loaded verdict p' l ∨ Loaded verdict p' [] := by
  rcases h.state with ⟨hstate, hlen⟩ | ⟨hstate, hlen⟩
  · refine .inl ⟨hlen.trans hl.loadLen, ?_, hstate.trans hl.rxState, fun hsix => ?_, hl.held⟩
    · rw [h.rxFrame, hl.rxFrame]
    · rw [h.expPayloadLen, hl.expPayloadLen hsix]
  · exact .inr (loaded_nil hlen hstate)

/-- What a handler logs about a frame of `n` bytes in that entry of the table. -/
def Seen.OfHandler (slot : Interfaces) (n : Nat) (unfed : List Region) : Seen → Prop
  | .handed .. | .read .. | .rtcm3 .. | .flag _ | .passed .. => True
  | .fixed region unfed' => region.slot = slot ∧ region.hi ≤ n ∧ unfed' = unfed
  | .accepted .. | .received .. | .polled _ | .tooDeep => False

/-- What the handling of a frame of `n` bytes may change: in the parsers nothing but a reset and, in the `fix_frame`
that holds the frame, bytes of the frame. -/
structure Handled (slot : Interfaces) (n : Nat) (d d' : Device W) : Prop where
  setup : SameSetup d.tx d'.tx
  rtcm3 : ∀ s, (d'.rtcm3 s).interface = (d.rtcm3 s).interface ∧ (d'.rtcm3 s).forwarding = (d.rtcm3 s).forwarding
  flow : ∀ s, (d'.tbfp s).flow = (d.tbfp s).flow
  rxPktCnt : ∀ s, (d'.tbfp s).rxPktCnt = (d.tbfp s).rxPktCnt
  parser : ∀ s, SameOrReset (d.tbfp s).parser (d'.tbfp s).parser
  fixFrame : ∀ s x, (s = slot → n ≤ x) → (d'.tbfp s).parser.fixFrame x = (d.tbfp s).parser.fixFrame x
  unfed : d'.unfed = d.unfed
  log : ∃ newer, d'.log = newer ++ d.log ∧ ∀ x ∈ newer, x.OfHandler slot n d.unfed

theorem Handled.refl (d : Device W) : Handled slot n d d :=
  ⟨fun _ => ⟨rfl, rfl⟩, fun _ => ⟨rfl, rfl⟩, fun _ => rfl, fun _ => rfl, fun _ => .refl _, fun _ _ _ => rfl, rfl, [], rfl,
    by simp⟩

theorem Handled.trans (h : Handled slot n d d') (h' : Handled slot n d' d'') :
    Handled slot n d d'' := by
  obtain ⟨newer, hlog, hnew⟩ := h.log
  obtain ⟨newer', hlog', hnew'⟩ := h'.log
  refine ⟨h.setup.trans h'.setup, fun s => ⟨(h'.rtcm3 s).1.trans (h.rtcm3 s).1, (h'.rtcm3 s).2.trans (h.rtcm3 s).2⟩,
    fun s => (h'.flow s).trans (h.flow s), fun s => (h'.rxPktCnt s).trans (h.rxPktCnt s),
    fun s => (h.parser s).trans (h'.parser s), fun s x hx => (h'.fixFrame s x hx).trans (h.fixFrame s x hx),
    h'.unfed.trans h.unfed, newer' ++ newer, by rw [hlog', hlog, List.append_assoc], fun x hx => ?_⟩
  rcases List.mem_append.1 hx with hx | hx
  · exact h.unfed ▸ hnew' x hx
  · exact hnew x hx

theorem Handled.configured (h : Handled slot n d d') (hd : Configured d) : Configured d' :=
  ⟨fun s => (h.setup s).1.trans (hd.tbfp s), fun s => (h.rtcm3 s).1.trans (hd.rtcm3 s)⟩

theorem Handled.suffix (h : Handled slot n d d') : d.log <:+ d'.log := by
  obtain ⟨newer, hlog, -⟩ := h.log
  exact ⟨newer, hlog.symm⟩

private theorem Handled.feedsLoopback (h : Handled slot n d d') (i : Interfaces) :
    (d'.rtcm3 i).FeedsLoopback ↔ (d.rtcm3 i).FeedsLoopback := by
  unfold Rtcm3Protocol.FeedsLoopback
  rw [(h.rtcm3 i).1, (h.rtcm3 i).2]

theorem Handled.apart (h : Handled slot n d d') {i : Interfaces} {header : TbfHeader} {id : UInt8}
    (hd : Apart d i header id) : Apart d' i header id :=
  ⟨hd.loopback, fun hid => (h.feedsLoopback i).not.2 (hd.relay hid)⟩

theorem Handled.setTx {t : Transmitter W} (h : Handled slot n d d') (ht : SameSetup d'.tx t) :
    Handled slot n d (d'.setTx t) :=
  ⟨h.setup.trans ht, h.rtcm3, h.flow, h.rxPktCnt, h.parser, h.fixFrame, h.unfed, h.log⟩

theorem Handled.note {x : Seen} (h : Handled slot n d d') (hx : x.OfHandler slot n d.unfed) :
    Handled slot n d (d'.note x) := by
  obtain ⟨newer, hlog, hnew⟩ := h.log
  refine ⟨h.setup, h.rtcm3, h.flow, h.rxPktCnt, h.parser, h.fixFrame, h.unfed, x :: newer, ?_, ?_⟩
  · rw [Device.note, hlog, List.cons_append]
  · exact List.forall_mem_cons.2 ⟨hx, hnew⟩

theorem Handled.setRtcm3 {k : Interfaces} {p : Rtcm3Protocol} (h : Handled slot n d d')
    (hi : p.interface = (d'.rtcm3 k).interface) (hf : p.forwarding = (d'.rtcm3 k).forwarding) :
    Handled slot n d (d'.setRtcm3 k p) := by
  refine ⟨h.setup, fun s => ?_, h.flow, h.rxPktCnt, h.parser, h.fixFrame, h.unfed, h.log⟩
  rw [← (h.rtcm3 s).1, ← (h.rtcm3 s).2]
  by_cases hs : s = k
  · subst hs
    simp [Device.setRtcm3, hi, hf]
  · simp [Device.setRtcm3, hs]

theorem Handled.setTbfp {k : Interfaces} {r : TbfpReceiver} (h : Handled slot n d d')
    (hflow : r.flow = (d'.tbfp k).flow) (hcnt : r.rxPktCnt = (d'.tbfp k).rxPktCnt)
    (hparser : SameOrReset (d'.tbfp k).parser r.parser)
    (hfix : ∀ x, (k = slot → n ≤ x) → r.parser.fixFrame x = (d'.tbfp k).parser.fixFrame x) :
    Handled slot n d (d'.setTbfp k r) := by
  refine ⟨h.setup, h.rtcm3, fun s => ?_, fun s => ?_, fun s => ?_, fun s x hx => ?_, h.unfed, h.log⟩
  · rw [← h.flow s]
    by_cases hk : s = k
    · subst hk
      simp [Device.setTbfp, hflow]
    · simp [Device.setTbfp, hk]
  · rw [← h.rxPktCnt]
    by_cases hk : s = k
    · subst hk
      simp [Device.setTbfp, hcnt]
    · simp [Device.setTbfp, hk]
  · refine (h.parser s).trans ?_
    by_cases hk : s = k
    · subst hk
      simpa [Device.setTbfp] using hparser
    · simpa [Device.setTbfp, hk] using SameOrReset.refl _
  · rw [← h.fixFrame s x hx]
    by_cases hk : s = k
    · subst hk
      simp [Device.setTbfp, hfix x hx]
    · simp [Device.setTbfp, hk]

theorem Handled.resetRx (h : Handled slot n d d') (k : Interfaces) :
    Handled slot n d (d'.setTbfp k (tbfpParserResetRx (d'.tbfp k))) :=
  h.setTbfp rfl rfl ⟨rfl, rfl, rfl, .inr ⟨rfl, rfl⟩⟩ fun _ _ => rfl

/-! ### Sending -/

theorem sameSetup_tbfpSend (t : Transmitter W) (payload : Payload) (interface : Interfaces) (lifetime : UInt8)
    (ack : TbfpAck) : SameSetup t (t.tbfpSend env payload interface lifetime ack).2 := by
  have hbuilt : SameSetup t (t.setNode interface
      ((t.node interface).buildFrame env.crc8SaeJ1850Calc payload lifetime ack).2) :=
    sameSetup_setNode (sameNode_buildFrame _ _ payload lifetime ack)
  unfold Transmitter.tbfpSend
  dsimp only
  split
  · exact hbuilt.trans (sameSetup_sysSendIf _ _ interface _)
  · exact hbuilt

/-- `tbfp_send_ack` for the interfaces other than `IF_LOOPBACK`. -/
def Transmitter.tbfpSendAck (env : Env W polls) (t : Transmitter W) (snum : UInt16) (interface : Interfaces) :
    Bool × Transmitter W :=
  let r := t.tbfpSend env (ackPayload snum) interface 0 .noNeed
  if r.1 then (true, r.2.countAck interface) else (false, r.2)

private theorem tbfpSendAck_of_ne (h : interface ≠ .loopback) (snum : UInt16) : d.tbfpSendAck env proc snum interface =
    ((d.tx.tbfpSendAck env snum interface).1, d.setTx (d.tx.tbfpSendAck env snum interface).2) := by
  simp only [Device.tbfpSendAck, Transmitter.tbfpSendAck, Device.tbfpSend_of_ne d _ h]
  split <;> rfl

private theorem sameSetup_tbfpSendAck (t : Transmitter W) (snum : UInt16) (interface : Interfaces) :
    SameSetup t (t.tbfpSendAck env snum interface).2 := by
  have h : SameSetup t (t.tbfpSend env (ackPayload snum) interface 0 .noNeed).2 := sameSetup_tbfpSend t _ _ _ _
  unfold Transmitter.tbfpSendAck
  dsimp only
  split
  · exact h.trans (sameSetup_countAck _ interface)
  · exact h

/-! ### The handlers -/

private theorem handled_uartFrame (k : Interfaces) : Handled slot n d (d.uartFrame env k).2 := by
  have huart : Handled slot n d (d.setTx (uartSend env d.tx uartNumZedF9p (d.rtcm3 k).fixedFrame.bytes).2) :=
    (Handled.refl d).setTx fun _ => ⟨rfl, rfl⟩
  unfold Device.uartFrame
  dsimp only
  split
  · exact huart
  · exact huart.setRtcm3 rfl rfl

private theorem handled_countLost (k i : Interfaces) : Handled slot n d (d.countLost k i) := by
  unfold Device.countLost
  refine Handled.setTx ((Handled.refl d).setRtcm3 ?_ ?_) fun _ => ⟨rfl, rfl⟩
  · rfl
  · rfl

private theorem handled_passFrame {i : Interfaces} (hi : i ≠ .loopback) (k : Interfaces) :
    Handled slot n d (d.passFrame env proc k i).2 := by
  have hnote : Handled slot n d (d.note (.passed i (d.rtcm3 k).fixedFrame.bytes)) := by
    refine (Handled.refl d).note ?_
    trivial
  unfold Device.passFrame
  dsimp only
  rw [Device.tbfpSend_of_ne _ _ hi]
  dsimp only
  have hsetup : SameSetup d.tx (d.tx.tbfpSend env (d.rtcm3 k).fixedFrame i 0 .noNeed).2 := sameSetup_tbfpSend _ _ _ _ _
  have hsent := hnote.setTx hsetup
  split
  · exact hsent
  · exact hsent.trans (handled_countLost k i)

private theorem handled_forward {k : Interfaces} (r : Bool × Device W) (i : Interfaces)
    (hf : (r.2.rtcm3 k).forwarding .loopback = false) :
    Handled slot n r.2 (Device.forward env proc k r i).2 := by
  have hnote : Handled slot n r.2 (r.2.note (.flag i)) := by
    refine (Handled.refl r.2).note ?_
    trivial
  unfold Device.forward
  split
  · rename_i hflag
    have hi : i ≠ .loopback := by
      rintro rfl
      rw [hf] at hflag
      cases hflag
    exact hnote.trans (handled_passFrame hi k)
  · exact hnote

private theorem handled_forwardAll {k : Interfaces} (is : List Interfaces) (r : Bool × Device W)
    (hf : (r.2.rtcm3 k).forwarding .loopback = false) :
    Handled slot n r.2 (is.foldl (Device.forward env proc k) r).2 := by
  induction is generalizing r with
  | nil => exact .refl r.2
  | cons i is ih =>
    have hstep : Handled slot n r.2 (Device.forward env proc k r i).2 := handled_forward r i hf
    exact hstep.trans (ih _ (by rw [(hstep.rtcm3 k).2]; exact hf))

private theorem handled_relay {k : Interfaces} (hk : ¬(d.rtcm3 k).FeedsLoopback) :
    Handled slot n d (d.relay env proc k).2 := by
  unfold Device.relay
  split
  · rename_i huart
    exact handled_forwardAll _ (true, d) (Bool.eq_false_iff.2 fun hf => hk ⟨huart, hf⟩)
  · exact handled_uartFrame k
  · exact handled_uartFrame k
  · exact handled_uartFrame k
  · exact .refl d

private theorem handled_rtcm3Done (k : Interfaces) : Handled slot n d (d.rtcm3Done k) := by
  unfold Device.rtcm3Done
  exact ((Handled.refl d).resetRx _).setRtcm3 rfl rfl

theorem handled_rtcm3ProcByte {k : Interfaces} (hk : ¬(d.rtcm3 k).FeedsLoopback) (rxByte : UInt8) :
    Handled slot n d (d.rtcm3ProcByte env proc k rxByte).2 := by
  have hstep := rtcm3ProcByte_cases env proc d k rxByte
  generalize d.rtcm3ProcByte env proc k rxByte = r at hstep ⊢
  cases hstep with
  | loads res p hi hf _ => exact (Handled.refl d).setRtcm3 hi hf
  | accepts p frame hi hf _ =>
    have htake : Handled slot n d ((d.setRtcm3 k p.takeFrame).note (.rtcm3 k frame)) := by
      refine Handled.note ((Handled.refl d).setRtcm3 hi hf) ?_
      trivial
    exact (htake.trans (handled_relay ((htake.feedsLoopback k).not.2 hk))).trans (handled_rtcm3Done k)

theorem handled_rtcm3Fed {k : Interfaces} (hk : ¬(d.rtcm3 k).FeedsLoopback) (src : Source) (m : Nat) :
    Handled slot n d (d.rtcm3Fed env proc src k m).2 := by
  induction m with
  | zero => exact .refl d
  | succ m ih => exact ih.trans (handled_rtcm3ProcByte ((ih.feedsLoopback k).not.2 hk) _)

private theorem handled_rtcm3ProcArray {k : Interfaces} (hk : ¬(d.rtcm3 k).FeedsLoopback) (src : Source) (size : Nat) :
    Handled slot n d (d.rtcm3ProcArray env proc src size k).2 := by
  have hreset : Handled slot n d (d.setRtcm3 k (rtcm3ResetRx (d.rtcm3 k))) :=
    (Handled.refl d).setRtcm3 rfl rfl
  have hfed : Handled slot n d
      ((d.setRtcm3 k (rtcm3ResetRx (d.rtcm3 k))).rtcm3Fed env proc src k size).2 :=
    hreset.trans (handled_rtcm3Fed ((hreset.feedsLoopback k).not.2 hk) src size)
  unfold Device.rtcm3ProcArray
  split
  · dsimp only
    split <;> exact hfed
  · exact .refl d

private theorem handled_read (need len : Nat) : Handled slot n d (d.note (.read need len)) := by
  refine (Handled.refl d).note ?_
  trivial

private theorem handled_procAck (len : UInt16) (k : Interfaces) :
    Handled slot n d (d.procAck slot len k).2 :=
  (handled_read 3 len.toNat).setTx (sameSetup_setNode ⟨rfl, rfl⟩)

private theorem handled_tbfpProcChat (len : UInt16) : Handled slot n d (d.tbfpProcChat env slot len).2 := by
  unfold Device.tbfpProcChat
  split
  · exact (handled_read len.toNat len.toNat).setTx fun _ => ⟨rfl, rfl⟩
  · exact .refl d

private theorem handled_tbfpProcPing (h : interface = .loopback → d.payload slot 0 ≠ frameIdPing) (len : UInt16) :
    Handled slot n d (d.tbfpProcPing env proc slot len interface).2 := by
  have hread : Handled slot n d (d.note (.read env.sizeofPingFrame len.toNat)) := handled_read _ _
  have hanswer : Handled slot n d ((d.note (.read env.sizeofPingFrame len.toNat)).answerPing env proc
      (d.payload slot 0) interface) := by
    unfold Device.answerPing Device.tbfpSendPing
    split
    · rename_i hping
      rw [Device.tbfpSend_of_ne _ _ fun hi => h hi hping]
      exact hread.setTx (sameSetup_tbfpSend _ _ _ _ _)
    · exact hread
  exact hanswer.setTx fun _ => ⟨rfl, rfl⟩

/-- A command that does not poll the radio. -/
private theorem handled_tbfpProcCmd {env : Env W} {len : UInt16} (hlen : len.toNat + tbfpSizeOverhead ≤ n) :
    Handled slot n d (d.tbfpProcCmd env proc slot len).2 := by
  rw [Device.tbfpProcCmd_env]
  split
  · have hread : Handled slot n d (d.note (.read len.toNat len.toNat)) := handled_read _ _
    have hend : Handled slot n d ((d.note (.read len.toNat len.toNat)).endString slot len) := by
      have hover : tbfpSizeOverhead = 7 := rfl
      have hindex : tbfpIndexPayload = 6 := rfl
      have hend : tbfpIndexPayload + len.toNat + 1 ≤ n := by omega
      refine Handled.note (hread.setTbfp rfl rfl ⟨rfl, rfl, rfl, .inl ⟨rfl, rfl⟩⟩ fun x hx => ?_) ⟨rfl, hend, rfl⟩
      have hne : x ≠ tbfpIndexPayload + len.toNat := by
        have hx' := hx rfl
        omega
      exact Buffer.store_of_ne 0 hne
    exact hend.setTx fun _ => ⟨rfl, rfl⟩
  · exact .refl d

/-- A payload that is no tunnel. -/
private theorem handled_tbfpProcPayload {env : Env W} (hping : interface = .loopback → d.payload slot 0 ≠ frameIdPing)
    (hrelay : d.payload slot 0 = frameIdRtcm3 → ¬(d.rtcm3 interface).FeedsLoopback) {len : UInt16}
    (hlen : len.toNat + tbfpSizeOverhead ≤ n) (hid : d.payload slot 0 ≠ frameIdTunnel) :
    Handled slot n d (d.tbfpProcPayload env proc slot len interface).2 := by
  have hread : Handled slot n d (d.note (.read 1 len.toNat)) := handled_read _ _
  unfold Device.tbfpProcPayload
  dsimp only
  split
  · exact hread.trans (handled_procAck len interface)
  · split
    · rename_i hrtcm3
      refine (hread.trans (handled_read _ _)).trans (handled_rtcm3ProcArray ?_ _ _)
      exact hrelay hrtcm3
    · split
      · exact hread.trans (handled_tbfpProcChat len)
      · split
        · refine hread.trans (handled_tbfpProcPing ?_ len)
          exact hping
        · split
          · exact hread.trans (handled_tbfpProcCmd hlen)
          · exact hread

/-! ### A whole frame -/

/-- The copy that a frame with a lifetime is sent as. -/
def Transmitter.meshFrame (env : Env W polls) (t : Transmitter W) (payload : Payload) (interface : Interfaces)
    (header : TbfHeader) : Bool × Transmitter W :=
  if 0 < header.lifetime ∧ header.lifetime < 4 then
    t.tbfpSend env payload interface (header.lifetime - 1) header.ackNeed
  else (true, t)

/-- What is sent for a well-formed frame before its payload is looked at. -/
def Transmitter.answer (env : Env W polls) (t : Transmitter W) (payload : Payload) (interface : Interfaces)
    (header : TbfHeader) : Bool × Transmitter W :=
  let r := t.meshFrame env payload interface header
  if header.ackNeed = .need then r.2.tbfpSendAck env header.snum interface else r

theorem sameSetup_answer (t : Transmitter W) (payload : Payload) (interface : Interfaces) (header : TbfHeader) :
    SameSetup t (t.answer env payload interface header).2 := by
  have hmesh : SameSetup t (t.meshFrame env payload interface header).2 := by
    unfold Transmitter.meshFrame
    split
    · exact sameSetup_tbfpSend _ _ _ _ _
    · exact fun _ => ⟨rfl, rfl⟩
  unfold Transmitter.answer
  dsimp only
  split
  · exact hmesh.trans (sameSetup_tbfpSendAck _ _ _)
  · exact hmesh

/-- The state in which the payload of a well-formed frame is handed on, or the frame is refused. -/
def Device.answered (env : Env W polls) (d : Device W) (slot : Interfaces) (len : UInt16) (interface : Interfaces) :
    Device W :=
  let header := TbfHeader.read (d.tbfp slot).parser.fixFrame
  (d.countFrame interface len header.snum).setTx
    (d.tx.answer env (.at (d.tbfp slot).parser.fixFrame tbfpIndexPayload header.len) interface header).2

theorem parser_countFrame (d : Device W) (interface : Interfaces) (len snum : UInt16) (s : Interfaces) :
    ((d.countFrame interface len snum).tbfp s).parser = (d.tbfp s).parser := by
  by_cases hs : s = interface
  · subst hs
    simp [Device.countFrame, Device.setTbfp, Device.note]
  · simp [Device.countFrame, Device.setTbfp, Device.note, hs]

theorem configured_countFrame (hd : Configured d) (interface : Interfaces) (len snum : UInt16) :
    Configured (d.countFrame interface len snum) := ⟨hd.tbfp, hd.rtcm3⟩

theorem rxPktCnt_countFrame (d : Device W) (interface : Interfaces) (len snum : UInt16) (s : Interfaces) :
    ((d.countFrame interface len snum).tbfp s).rxPktCnt = (d.tbfp s).rxPktCnt := by
  by_cases hs : s = interface
  · subst hs
    simp [Device.countFrame, Device.setTbfp, Device.note]
  · simp [Device.countFrame, Device.setTbfp, Device.note, hs]

/-- `tbfp_proc_full` of a frame whose answers go to no parser. -/
theorem tbfpProcFull_eq
    (h : interface = .loopback → (TbfHeader.read (d.tbfp slot).parser.fixFrame).Silent) (len : UInt16) :
    d.tbfpProcFull env proc slot len interface =
      if isTbfpProtocol env (d.tbfp slot).parser.fixFrame len (d.preambleVal interface) then
        let header := TbfHeader.read (d.tbfp slot).parser.fixFrame
        if (tbfpCheckFlowControl (d.tbfp interface).flow header.snum).1 then
          ((d.answered env slot len interface).note (.handed interface header.snum)).tbfpProcPayload env proc slot
            header.len interface
        else ((d.tx.answer env (.at (d.tbfp slot).parser.fixFrame tbfpIndexPayload header.len) interface header).1,
          d.answered env slot len interface)
      else (false, d) := by
  have hack : ∀ header : TbfHeader, (interface = .loopback → header.Silent) → Device.ackFrame env proc
      (Device.meshFrame env proc (true, d.countFrame interface len header.snum) slot interface header) interface header =
      ((d.tx.answer env (.at (d.tbfp slot).parser.fixFrame tbfpIndexPayload header.len) interface header).1,
        (d.countFrame interface len header.snum).setTx
          (d.tx.answer env (.at (d.tbfp slot).parser.fixFrame tbfpIndexPayload header.len) interface header).2) := by
    intro header hsilent
    by_cases hi : interface = .loopback
    · obtain ⟨hlife, hneed⟩ := hsilent hi
      simp [Device.ackFrame, Device.meshFrame, Transmitter.answer, Transmitter.meshFrame, hlife, hneed]
      rfl
    · simp only [Device.ackFrame, Device.meshFrame, Device.tbfpSend_of_ne _ _ hi, tbfpSendAck_of_ne hi,
        Transmitter.answer, Transmitter.meshFrame, parser_countFrame]
      split
      · split <;> rfl
      · split <;> rfl
  unfold Device.tbfpProcFull Device.handFrame
  dsimp only
  rw [hack _ h]
  rfl

/-! ### The frame in `fix_frame` -/

/-- The header of a frame. -/
def frameHeader (f : List UInt8) : TbfHeader := .read (Buffer.ofBytes f)

/-- The `fix_frame` of that entry of the table holds a frame with the right checksum. -/
structure HoldsFrame (env : Env W polls) (d : Device W) (slot : Interfaces) (f : List UInt8) : Prop where
  verdict : tbfpVerdict env.crc8SaeJ1850Calc (d.preambleVal slot) f = .frame
  bytes : bytesAt (d.tbfp slot).parser.fixFrame 0 f.length = f

private theorem frameHeader_preamble {f : List UInt8} {b : UInt8} (h : f.head? = some b) :
    (frameHeader f).preamble = b := by
  cases f with
  | nil => simp at h
  | cons c f => simpa [frameHeader, TbfHeader.read, Buffer.ofBytes_apply] using h

theorem frameHeader_len (f : List UInt8) : (frameHeader f).len.toNat = payloadLen f := rfl

theorem frameHeader_len_pred {f : List UInt8} (h : 1 ≤ payloadLen f) :
    ((frameHeader f).len - 1).toNat = payloadLen f - 1 := by
  rw [UInt16.toNat_sub_of_le, frameHeader_len]
  · rfl
  · rw [UInt16.le_iff_toNat_le, frameHeader_len]
    exact h

namespace HoldsFrame

variable {f : List UInt8} (h : HoldsFrame env d slot f)

include h

theorem length : f.length = payloadLen f + tbfpSizeOverhead := (verdict_frame h.verdict).2.2.1

theorem payloadLen_le : payloadLen f ≤ tbfpMaxPayload := (verdict_frame h.verdict).2.1

theorem agree : Agree (d.tbfp slot).parser.fixFrame (Buffer.ofBytes f) 0 f.length := Buffer.agree_ofBytes h.bytes

theorem header : TbfHeader.read (d.tbfp slot).parser.fixFrame = frameHeader f := by
  refine read_congr fun x hx hlt => h.agree x hx (Nat.lt_of_lt_of_le hlt ?_)
  rw [h.length]
  exact Nat.le_trans (by decide : tbfpSizeHeader ≤ tbfpSizeOverhead) (Nat.le_add_left _ _)

end HoldsFrame

/-- The check of a whole frame accepts what the parser accepted, and depends on the frame only. -/
theorem isTbfpProtocol_iff {f : List UInt8} {preambleVal : UInt8} {g : Mem}
    (hf : tbfpVerdict env.crc8SaeJ1850Calc preambleVal f = .frame) (hg : bytesAt g 0 f.length = f) (p : UInt8) :
    isTbfpProtocol env g (UInt16.ofNat f.length) p ↔ p = preambleVal := by
  obtain ⟨hhead, hmax, hlen, hcrc⟩ := verdict_frame hf
  have hpay : tbfpMaxPayload = 1039 := rfl
  have hover : tbfpSizeOverhead = 7 := rfl
  have hheader : tbfpSizeHeader = 6 := rfl
  have hread : TbfHeader.read g = frameHeader f :=
    read_congr fun x hx hlt => Buffer.agree_ofBytes hg x hx (by omega)
  have hframeLen : (frameHeader f).frameLen = f.length - 1 := by
    unfold TbfHeader.frameLen
    rw [frameHeader_len]
    omega
  have hpreamble := frameHeader_preamble hhead
  have hlt : (frameHeader f).len < UInt16.ofNat f.length := by
    rw [UInt16.lt_iff_toNat_lt, frameHeader_len, UInt16.toNat_ofNat']
    omega
  have hbody : bytesAt g 0 (f.length - 1) = f.dropLast := by
    rw [List.dropLast_eq_take, ← take_bytesAt (Nat.sub_le f.length 1), hg]
  have hlast : g (f.length - 1) = f.getLastD 0 := by
    rw [← Buffer.getD_of_bytesAt hg (by omega), List.getLastD_eq_getLast?, List.getLast?_eq_getElem?]
    rfl
  unfold isTbfpProtocol
  dsimp only
  rw [hread, hframeLen, hpreamble, hbody, hlast]
  exact ⟨fun h => h.1, fun h => ⟨h, hlt, hcrc⟩⟩

/-! ### The handling of an accepted frame -/

section

variable {f : List UInt8}

theorem parser_answered (env : Env W polls) (d : Device W) (slot interface s : Interfaces) (len : UInt16) :
    ((d.answered env slot len interface).tbfp s).parser = (d.tbfp s).parser :=
  parser_countFrame d interface len _ s

/-- A frame with the preamble of another interface. -/
theorem tbfpProcFull_foreign (h : HoldsFrame env d slot f) (hp : d.preambleVal interface ≠ d.preambleVal slot) :
    d.tbfpProcFull env proc slot (UInt16.ofNat f.length) interface = (false, d) := by
  unfold Device.tbfpProcFull
  rw [if_neg fun hc => hp ((isTbfpProtocol_iff h.verdict h.bytes _).1 hc)]

theorem handled_answered (h : HoldsFrame env d slot f) : Handled slot n
    (d.countFrame interface (UInt16.ofNat f.length) (frameHeader f).snum)
    (d.answered env slot (UInt16.ofNat f.length) interface) := by
  unfold Device.answered
  rw [h.header]
  exact (Handled.refl _).setTx (sameSetup_answer _ _ _ _)

/-- A frame that the flow control refuses is only answered. -/
theorem tbfpProcFull_refused_eq (h : HoldsFrame env d slot f)
    (hsilent : interface = .loopback → (frameHeader f).Silent) (hp : d.preambleVal interface = d.preambleVal slot)
    (hflow : ¬(d.tbfp interface).flow.prevSNum < (frameHeader f).snum) :
    d.tbfpProcFull env proc slot (UInt16.ofNat f.length) interface =
      ((d.tx.answer env (.at (d.tbfp slot).parser.fixFrame tbfpIndexPayload (frameHeader f).len) interface
        (frameHeader f)).1, d.answered env slot (UInt16.ofNat f.length) interface) := by
  rw [tbfpProcFull_eq (by rw [h.header]; exact hsilent), if_pos ((isTbfpProtocol_iff h.verdict h.bytes _).2 hp)]
  dsimp only
  rw [h.header, tbfpCheckFlowControl_fst, if_neg (by simpa using hflow)]

theorem tbfpProcFull_refused (h : HoldsFrame env d slot f)
    (hsilent : interface = .loopback → (frameHeader f).Silent) (hp : d.preambleVal interface = d.preambleVal slot)
    (hflow : ¬(d.tbfp interface).flow.prevSNum < (frameHeader f).snum) :
    (d.tbfpProcFull env proc slot (UInt16.ofNat f.length) interface).2 =
      d.answered env slot (UInt16.ofNat f.length) interface :=
  congrArg Prod.snd (tbfpProcFull_refused_eq h hsilent hp hflow)

/-- A frame that passes the flow control is answered and its payload handed on. -/
theorem tbfpProcFull_handed (h : HoldsFrame env d slot f)
    (hsilent : interface = .loopback → (frameHeader f).Silent) (hp : d.preambleVal interface = d.preambleVal slot)
    (hflow : (d.tbfp interface).flow.prevSNum < (frameHeader f).snum) :
    d.tbfpProcFull env proc slot (UInt16.ofNat f.length) interface =
      ((d.answered env slot (UInt16.ofNat f.length) interface).note
        (.handed interface (frameHeader f).snum)).tbfpProcPayload env proc slot (frameHeader f).len interface := by
  rw [tbfpProcFull_eq (by rw [h.header]; exact hsilent), if_pos ((isTbfpProtocol_iff h.verdict h.bytes _).2 hp)]
  dsimp only
  rw [h.header, tbfpCheckFlowControl_fst, if_pos (by simpa using hflow)]

/-- The id of the payload of a frame, which is the checksum when the payload is empty. -/
def frameId (f : List UInt8) : UInt8 := f.getD tbfpIndexPayload 0

theorem HoldsFrame.payload_id (h : HoldsFrame env d slot f) : d.payload slot 0 = frameId f := by
  refine (Buffer.getD_of_bytesAt h.bytes ?_).symm
  rw [h.length]
  exact Nat.lt_of_lt_of_le (by decide : tbfpIndexPayload < tbfpSizeOverhead) (Nat.le_add_left _ _)

theorem handled_handed (h : HoldsFrame env d slot f) (snum : UInt16) : Handled slot n
    (d.countFrame interface (UInt16.ofNat f.length) (frameHeader f).snum)
    ((d.answered env slot (UInt16.ofNat f.length) interface).note (.handed interface snum)) := by
  refine (handled_answered h).note ?_
  trivial

/-- The handling of a frame that is no tunnel. -/
theorem handled_tbfpProcFull {env : Env W} (h : HoldsFrame env d slot f)
    (hd : Apart d interface (frameHeader f) (frameId f)) (hf : frameId f ≠ frameIdTunnel)
    (hp : d.preambleVal interface = d.preambleVal slot) :
    Handled slot f.length (d.countFrame interface (UInt16.ofNat f.length) (frameHeader f).snum)
      (d.tbfpProcFull env proc slot (UInt16.ofNat f.length) interface).2 := by
  have hsilent : interface = .loopback → (frameHeader f).Silent := fun hi => (hd.loopback hi).1
  by_cases hflow : (d.tbfp interface).flow.prevSNum < (frameHeader f).snum
  · rw [tbfpProcFull_handed h hsilent hp hflow]
    generalize hm : (d.answered env slot (UInt16.ofNat f.length) interface).note
      (.handed interface (frameHeader f).snum) = m
    have hhanded : Handled slot f.length
        (d.countFrame interface (UInt16.ofNat f.length) (frameHeader f).snum) m := by
      rw [← hm]
      exact handled_handed h _
    have hparser : (m.tbfp slot).parser = (d.tbfp slot).parser := by
      rw [← hm]
      exact parser_answered env d slot interface slot _
    have hid : m.payload slot 0 = frameId f := by
      rw [← h.payload_id]
      simp only [Device.payload, hparser]
    refine hhanded.trans (handled_tbfpProcPayload ?_ ?_ ?_ ?_)
    · rw [hid]
      exact fun hi => (hd.loopback hi).2
    · rw [hid, hhanded.feedsLoopback]
      exact hd.relay
    · rw [frameHeader_len, h.length]
    · rw [hid]
      exact hf
  · rw [tbfpProcFull_refused h hsilent hp hflow]
    exact handled_answered h

theorem log_handed (h : HoldsFrame env d slot f) (snum : UInt16) :
    ((d.answered env slot (UInt16.ofNat f.length) interface).note (.handed interface snum)).log =
      [.handed interface snum, .received interface (frameHeader f).snum] ++ d.log := by
  unfold Device.answered
  rw [h.header]
  rfl

/-- The payload of a tunnel that passes the flow control is fed to the parser of `IF_LORA`. -/
theorem tbfpProcFull_tunnel (proc : Proc W) (h : HoldsFrame env d slot f)
    (hsilent : interface = .loopback → (frameHeader f).Silent) (hf : frameId f = frameIdTunnel)
    (hp : d.preambleVal interface = d.preambleVal slot)
    (hflow : (d.tbfp interface).flow.prevSNum < (frameHeader f).snum) :
    ∃ m, Handled slot n (d.countFrame interface (UInt16.ofNat f.length) (frameHeader f).snum) m ∧
      (∀ s, (m.tbfp s).parser = (d.tbfp s).parser) ∧
      m.log = [.read (1 + ((frameHeader f).len - 1).toNat) (frameHeader f).len.toNat, .read 1 (frameHeader f).len.toNat,
        .handed interface (frameHeader f).snum, .received interface (frameHeader f).snum] ++ d.log ∧
      d.tbfpProcFull env proc slot (UInt16.ofNat f.length) interface =
        proc m (.fixFrame slot (tbfpIndexPayload + 1)) ((frameHeader f).len - 1) .lora false := by
  rw [tbfpProcFull_handed h hsilent hp hflow]
  generalize hm : (d.answered env slot (UInt16.ofNat f.length) interface).note
    (.handed interface (frameHeader f).snum) = m
  have hhanded : Handled slot n
      (d.countFrame interface (UInt16.ofNat f.length) (frameHeader f).snum) m := hm ▸ handled_handed h _
  have hparser : ∀ s, (m.tbfp s).parser = (d.tbfp s).parser := fun s => hm ▸ parser_answered env d slot interface s _
  have hid : m.payload slot 0 = frameIdTunnel := by
    rw [← hf, ← h.payload_id]
    simp only [Device.payload, hparser]
  have hlog : m.log = [.handed interface (frameHeader f).snum, .received interface (frameHeader f).snum] ++ d.log :=
    hm ▸ log_handed h _
  refine ⟨(m.note (.read 1 (frameHeader f).len.toNat)).note
    (.read (1 + ((frameHeader f).len - 1).toNat) (frameHeader f).len.toNat), ?_, hparser, ?_, ?_⟩
  · exact (hhanded.trans (handled_read _ _)).trans (handled_read _ _)
  · rw [Device.note, Device.note, hlog]
    rfl
  · unfold Device.tbfpProcPayload Device.procTunnel
    dsimp only
    rw [hid, if_neg (by decide), if_pos rfl]

/-- The frame that a parser has loaded is in its `fix_frame`. -/
theorem holdsFrame_acceptFrame {r : TbfpReceiver} {f : List UInt8}
    (hv : tbfpVerdict env.crc8SaeJ1850Calc (d.preambleVal slot) f = .frame)
    (hl : bytesAt r.parser.rxFrame 0 f.length = f) (hi : r.parser.crc8Index.toNat + 1 = f.length) :
    HoldsFrame env (d.acceptFrame slot r) slot f := by
  refine ⟨hv, ?_⟩
  have hsize : tbfpSizeCrc = 1 := rfl
  have hfix : ((d.acceptFrame slot r).tbfp slot).parser.fixFrame =
      Buffer.copy r.parser.fixFrame r.parser.rxFrame (r.parser.crc8Index.toNat + tbfpSizeCrc) := by
    simp [Device.acceptFrame, Device.note, Device.setTbfp, TbfpReceiver.takeFrame, tbfpParserResetRx]
  rw [hfix, Buffer.bytesAt_copy (by omega), hl]

/-- The length that is given to `tbfp_proc_full`. -/
theorem crc8Index_succ {p : TbfpParser} {n : Nat} (h : p.crc8Index.toNat + 1 = n) :
    p.crc8Index + 1 = UInt16.ofNat n := by
  apply UInt16.toNat_inj.1
  rw [UInt16.toNat_add, UInt16.toNat_ofNat', ← h]
  rfl

end

end TiMcu.Tbfp
