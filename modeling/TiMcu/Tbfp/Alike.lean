import TiMcu.Tbfp.Handle

/-!
# States that differ in unused bytes

`Alike a d e` are two states of the device that differ only in bytes of the buffers that hold nothing: in the frames
being loaded the bytes behind the loaded ones, and in the `fix_frame` of the entry `s` the bytes from `a s` on.  Loading
bytes leads from two such states to two such states, and so does the whole RTCM3 parser.

What is stored is stored in both, so the bytes on which the buffers agree only become more.
-/

namespace TiMcu.Tbfp

open NorFlash LittleEndian Framing

variable {W : Type} {env : Env W} {proc : Proc W} {d e m : Device W} {slot : Interfaces}
variable {a : Interfaces → Nat} {n : Nat} {r q : TbfpReceiver} {p p' : Rtcm3Protocol}

/-! ### Alike states -/

/-- The two receivers differ behind the loaded bytes and from the byte `n` of `fix_frame` on. -/
def TbfpReceiver.Alike (n : Nat) (r q : TbfpReceiver) : Prop :=
  ∃ rxFrame fixFrame, q = { r with parser.rxFrame := rxFrame, parser.fixFrame := fixFrame } ∧
    Agree rxFrame r.parser.rxFrame 0 r.parser.loadLen ∧ Agree fixFrame r.parser.fixFrame 0 n

/-- The two RTCM3 instances differ behind the loaded bytes and in `fix_frame`. -/
def Rtcm3Protocol.Alike (p p' : Rtcm3Protocol) : Prop :=
  ∃ rxFrame fixFrame, p' = { p with rxFrame := rxFrame, fixFrame := fixFrame } ∧ Agree rxFrame p.rxFrame 0 p.loadLen

structure Alike (a : Interfaces → Nat) (d e : Device W) : Prop where
  tx : e.tx = d.tx
  log : e.log = d.log
  unfed : e.unfed = d.unfed
  tbfp : ∀ s, (d.tbfp s).Alike (a s) (e.tbfp s)
  rtcm3 : ∀ s, (d.rtcm3 s).Alike (e.rtcm3 s)

/-- The same result, and states that are alike. -/
structure SameRun (a : Interfaces → Nat) (r r' : Bool × Device W) : Prop where
  result : r'.1 = r.1
  state : Alike a r.2 r'.2

theorem Alike.mono {a' : Interfaces → Nat} (h : Alike a d e) (ha : ∀ s, a' s ≤ a s) : Alike a' d e := by
  refine ⟨h.tx, h.log, h.unfed, fun s => ?_, h.rtcm3⟩
  obtain ⟨rxFrame, fixFrame, heq, hrx, hfix⟩ := h.tbfp s
  exact ⟨rxFrame, fixFrame, heq, hrx, hfix.mono (Nat.le_refl 0) (ha s)⟩

theorem Alike.fixFrame (h : Alike a d e) {i : Nat} (hi : i < a slot) :
    (e.tbfp slot).parser.fixFrame i = (d.tbfp slot).parser.fixFrame i := by
  obtain ⟨rxFrame, fixFrame, heq, -, hfix⟩ := h.tbfp slot
  rw [heq]
  exact hfix i (Nat.zero_le i) hi

theorem Alike.preambleVal (h : Alike a d e) (s : Interfaces) : e.preambleVal s = d.preambleVal s := by
  rw [Device.preambleVal, h.tx, Device.preambleVal]

theorem Alike.interface (h : Alike a d e) (s : Interfaces) : e.interface s = d.interface s := by
  rw [Device.interface, h.tx, Device.interface]

theorem Alike.flow (h : Alike a d e) (s : Interfaces) : (e.tbfp s).flow = (d.tbfp s).flow := by
  obtain ⟨rxFrame, fixFrame, heq, -⟩ := h.tbfp s
  rw [heq]

theorem Alike.configured (h : Alike a d e) (hd : Configured d) : Configured e := by
  refine ⟨fun s => (h.interface s).trans (hd.tbfp s), fun s => ?_⟩
  obtain ⟨rxFrame, fixFrame, heq, -⟩ := h.rtcm3 s
  rw [heq]
  exact hd.rtcm3 s

theorem Alike.note (h : Alike a d e) (x : Seen) : Alike a (d.note x) (e.note x) :=
  ⟨h.tx, by rw [Device.note, Device.note, h.log], h.unfed, h.tbfp, h.rtcm3⟩

theorem Alike.setTx (h : Alike a d e) (t : Transmitter W) : Alike a (d.setTx t) (e.setTx t) :=
  ⟨rfl, h.log, h.unfed, h.tbfp, h.rtcm3⟩

theorem Alike.setTbfp (h : Alike a d e) (hr : r.Alike n q) :
    Alike (Function.update a slot n) (d.setTbfp slot r) (e.setTbfp slot q) := by
  refine ⟨h.tx, h.log, h.unfed, fun s => ?_, h.rtcm3⟩
  by_cases hs : s = slot
  · subst hs
    rw [Function.update_self, Device.setTbfp_self, Device.setTbfp_self]
    exact hr
  · rw [Function.update_of_ne hs, Device.setTbfp_of_ne _ _ hs, Device.setTbfp_of_ne _ _ hs]
    exact h.tbfp s

/-- A step that leaves `fix_frame` as it is. -/
theorem Alike.setTbfp_same (h : Alike a d e) (hr : r.Alike (a slot) q) :
    Alike a (d.setTbfp slot r) (e.setTbfp slot q) := by
  have hset : Alike (Function.update a slot (a slot)) (d.setTbfp slot r) (e.setTbfp slot q) := h.setTbfp hr
  rwa [Function.update_eq_self] at hset

theorem Alike.setRtcm3 (h : Alike a d e) (hp : p.Alike p') : Alike a (d.setRtcm3 slot p) (e.setRtcm3 slot p') := by
  refine ⟨h.tx, h.log, h.unfed, h.tbfp, fun s => ?_⟩
  by_cases hs : s = slot
  · subst hs
    rw [Device.setRtcm3_self, Device.setRtcm3_self]
    exact hp
  · rw [Device.setRtcm3_of_ne _ _ hs, Device.setRtcm3_of_ne _ _ hs]
    exact h.rtcm3 s

/-! ### Loading a frame -/

theorem TbfpReceiver.Alike.resetRx (h : r.Alike n q) : (tbfpParserResetRx r).Alike n (tbfpParserResetRx q) := by
  obtain ⟨rxFrame, fixFrame, rfl, -, hfix⟩ := h
  exact ⟨rxFrame, fixFrame, rfl, fun x _ hx => absurd hx (Nat.not_lt_zero x), hfix⟩

theorem TbfpReceiver.Alike.load (h : r.Alike n q) (b : UInt8) (rxState : RxState) :
    (r.load b rxState).Alike n (q.load b rxState) := by
  obtain ⟨rxFrame, fixFrame, rfl, hrx, hfix⟩ := h
  exact ⟨Buffer.store rxFrame r.parser.loadLen b, fixFrame, rfl, Buffer.agree_load hrx b, hfix⟩

theorem TbfpReceiver.Alike.loadLen (h : r.Alike n q) : q.parser.loadLen = r.parser.loadLen := by
  obtain ⟨rxFrame, fixFrame, rfl, -⟩ := h
  rfl

theorem alike_waitPreamble (h : r.Alike n q) (preambleVal b : UInt8) :
    (tbfpParserProcWaitPreamble preambleVal q b).1 = (tbfpParserProcWaitPreamble preambleVal r b).1 ∧
      (tbfpParserProcWaitPreamble preambleVal r b).2.Alike n (tbfpParserProcWaitPreamble preambleVal q b).2 := by
  unfold tbfpParserProcWaitPreamble
  rw [h.loadLen]
  split
  · exact ⟨rfl, h.load b _⟩
  · exact ⟨rfl, h.resetRx⟩

theorem alike_retransmitCnt (h : r.Alike n q) (b : UInt8) :
    (tbfpParserProcRetransmitCnt q b).1 = (tbfpParserProcRetransmitCnt r b).1 ∧
      (tbfpParserProcRetransmitCnt r b).2.Alike n (tbfpParserProcRetransmitCnt q b).2 := by
  unfold tbfpParserProcRetransmitCnt
  rw [h.loadLen]
  split
  · exact ⟨rfl, h.load b _⟩
  · exact ⟨rfl, h.resetRx⟩

theorem alike_waitSerialNum (h : r.Alike n q) (b : UInt8) :
    (tbfpParserProcWaitSerialNum q b).1 = (tbfpParserProcWaitSerialNum r b).1 ∧
      (tbfpParserProcWaitSerialNum r b).2.Alike n (tbfpParserProcWaitSerialNum q b).2 := by
  unfold tbfpParserProcWaitSerialNum
  rw [h.loadLen]
  split
  · exact ⟨rfl, h.load b _⟩
  · split
    · rename_i hlen
      obtain ⟨rxFrame, fixFrame, heq, hrx, hfix⟩ := h.load b .waitLen
      have hread : Agree rxFrame (r.load b .waitLen).parser.rxFrame 0 (tbfpIndexSerNum + 2) :=
        hrx.mono (Nat.le_refl 0) (Nat.succ_le_succ (Nat.le_of_eq hlen.symm))
      rw [heq]
      refine ⟨rfl, rxFrame, fixFrame, ?_, hrx, hfix⟩
      simp only [TbfpReceiver.takeSerialNum]
      rw [hread tbfpIndexSerNum (by decide) (by decide), hread (tbfpIndexSerNum + 1) (by decide) (by decide)]
    · exact ⟨rfl, h.resetRx⟩

theorem alike_waitLen (h : r.Alike n q) (b : UInt8) :
    (tbfpParserProcWaitLen q b).1 = (tbfpParserProcWaitLen r b).1 ∧
      (tbfpParserProcWaitLen r b).2.Alike n (tbfpParserProcWaitLen q b).2 := by
  unfold tbfpParserProcWaitLen
  rw [h.loadLen]
  split
  · exact ⟨rfl, h.load b _⟩
  · split
    · rename_i hlen
      obtain ⟨rxFrame, fixFrame, heq, hrx, hfix⟩ := h.load b .waitLen
      have hread : Agree rxFrame (r.load b .waitLen).parser.rxFrame 0 (tbfpIndexLen + 2) :=
        hrx.mono (Nat.le_refl 0) (Nat.succ_le_succ (Nat.le_of_eq hlen.symm))
      have htake : (r.load b .waitLen).takeLen.Alike n (q.load b .waitLen).takeLen := by
        rw [heq]
        refine ⟨rxFrame, fixFrame, ?_, hrx, hfix⟩
        simp only [TbfpReceiver.takeLen]
        rw [hread tbfpIndexLen (by decide) (by decide), hread (tbfpIndexLen + 1) (by decide) (by decide)]
      generalize (r.load b .waitLen).takeLen = r' at htake
      generalize (q.load b .waitLen).takeLen = q' at htake
      obtain ⟨rxFrame', fixFrame', rfl, hrx', hfix'⟩ := htake
      unfold tbfpCheckLen
      dsimp only
      split
      · split
        · exact ⟨rfl, rxFrame', fixFrame', rfl, hrx', hfix'⟩
        · exact ⟨rfl, rxFrame', fixFrame', rfl, fun x _ hx => absurd hx (Nat.not_lt_zero x), hfix'⟩
      · exact ⟨rfl, rxFrame', fixFrame', rfl, hrx', hfix'⟩
    · exact ⟨rfl, h.resetRx⟩

theorem alike_waitPayload (h : r.Alike n q) (b : UInt8) :
    (tbfpParserProcWaitPayload q b).1 = (tbfpParserProcWaitPayload r b).1 ∧
      (tbfpParserProcWaitPayload r b).2.Alike n (tbfpParserProcWaitPayload q b).2 := by
  have hexp : q.parser.expPayloadLen = r.parser.expPayloadLen := by
    obtain ⟨rxFrame, fixFrame, rfl, -⟩ := h
    rfl
  unfold tbfpParserProcWaitPayload
  rw [h.loadLen, hexp]
  split
  · exact ⟨rfl, h.resetRx⟩
  · split
    · exact ⟨rfl, h.load b _⟩
    · exact ⟨rfl, h.load b _⟩

/-- A step of the parser that only loads. -/
theorem sameRun_stepTbfp (h : Alike a d e) {r r' : Bool × TbfpReceiver}
    (hr : r'.1 = r.1 ∧ r.2.Alike (a slot) r'.2) : SameRun a (d.stepTbfp slot r) (e.stepTbfp slot r') :=
  ⟨hr.1, h.setTbfp_same hr.2⟩

/-! ### The RTCM3 parser -/

theorem Rtcm3Protocol.Alike.resetRx (h : p.Alike p') : (rtcm3ResetRx p).Alike (rtcm3ResetRx p') := by
  obtain ⟨rxFrame, fixFrame, rfl, -⟩ := h
  exact ⟨rxFrame, fixFrame, rfl, fun x _ hx => absurd hx (Nat.not_lt_zero x)⟩

theorem Rtcm3Protocol.Alike.load (h : p.Alike p') (b : UInt8) (rxState : RxState) :
    (p.load b rxState).Alike (p'.load b rxState) := by
  obtain ⟨rxFrame, fixFrame, rfl, hrx⟩ := h
  exact ⟨Buffer.store rxFrame p.loadLen b, fixFrame, rfl, Buffer.agree_load hrx b⟩

theorem Rtcm3Protocol.Alike.loadLen (h : p.Alike p') : p'.loadLen = p.loadLen := by
  obtain ⟨rxFrame, fixFrame, rfl, -⟩ := h
  rfl

theorem Rtcm3Protocol.Alike.expLen (h : p.Alike p') : p'.expLen = p.expLen := by
  obtain ⟨rxFrame, fixFrame, rfl, -⟩ := h
  rfl

private theorem Rtcm3Protocol.Alike.setExpLen (h : p.Alike p') (expLen : UInt16) :
    Rtcm3Protocol.Alike { p with expLen := expLen } { p' with expLen := expLen } := by
  obtain ⟨rxFrame, fixFrame, rfl, hrx⟩ := h
  exact ⟨rxFrame, fixFrame, rfl, hrx⟩

/-- A step that only loads leads to alike instances with the same result. -/
private theorem sameRun_stepRtcm3 (h : Alike a d e) {r r' : Bool × Rtcm3Protocol} (hr : r'.1 = r.1 ∧ r.2.Alike r'.2) :
    SameRun a (d.stepRtcm3 slot r) (e.stepRtcm3 slot r') := ⟨hr.1, h.setRtcm3 hr.2⟩

private theorem alike_rtcm3WaitPreamble (h : p.Alike p') (b : UInt8) :
    (rtcm3ProcWaitPreamble p' b).1 = (rtcm3ProcWaitPreamble p b).1 ∧
      (rtcm3ProcWaitPreamble p b).2.Alike (rtcm3ProcWaitPreamble p' b).2 := by
  unfold rtcm3ProcWaitPreamble
  rw [h.loadLen]
  split
  · exact ⟨rfl, h.load b _⟩
  · exact ⟨rfl, h.resetRx⟩

private theorem alike_rtcm3WaitLen (h : p.Alike p') (b : UInt8) :
    (rtcm3ProcWaitLen p' b).1 = (rtcm3ProcWaitLen p b).1 ∧
      (rtcm3ProcWaitLen p b).2.Alike (rtcm3ProcWaitLen p' b).2 := by
  unfold rtcm3ProcWaitLen
  rw [h.loadLen, h.expLen]
  split
  · exact ⟨rfl, (h.load b _).setExpLen _⟩
  · split
    · have hset := (h.load b .waitPayload).setExpLen (setLen8Low p.expLen b)
      obtain ⟨rxFrame, fixFrame, heq, hrx⟩ := hset
      rw [heq]
      unfold rtcm3CheckLen
      dsimp only
      split
      · exact ⟨rfl, rxFrame, fixFrame, rfl, fun x _ hx => absurd hx (Nat.not_lt_zero x)⟩
      · exact ⟨rfl, rxFrame, fixFrame, rfl, hrx⟩
    · exact ⟨rfl, h.resetRx⟩

private theorem alike_rtcm3WaitPayload (h : p.Alike p') (b : UInt8) :
    (rtcm3ProcWaitPayload p' b).1 = (rtcm3ProcWaitPayload p b).1 ∧
      (rtcm3ProcWaitPayload p b).2.Alike (rtcm3ProcWaitPayload p' b).2 := by
  unfold rtcm3ProcWaitPayload
  rw [h.loadLen, h.expLen]
  split
  · exact ⟨rfl, h.load b _⟩
  · split
    · exact ⟨rfl, h.load b _⟩
    · exact ⟨rfl, h.resetRx⟩

/-- The two instances hold the same frame in `fix_frame`. -/
private theorem sameRun_uartFrame (h : Alike a d e)
    (hfixed : (e.rtcm3 slot).fixedFrame.bytes = (d.rtcm3 slot).fixedFrame.bytes) :
    SameRun a (d.uartFrame env slot) (e.uartFrame env slot) := by
  unfold Device.uartFrame
  dsimp only
  rw [hfixed, h.tx]
  split
  · exact ⟨rfl, h.setTx _⟩
  · refine ⟨rfl, (h.setTx _).setRtcm3 ?_⟩
    obtain ⟨rxFrame, fixFrame, heq, hrx⟩ := h.rtcm3 slot
    rw [heq]
    exact ⟨rxFrame, fixFrame, rfl, hrx⟩

private theorem alike_rtcm3Done (h : Alike a d e) (slot : Interfaces) :
    Alike a (d.rtcm3Done slot) (e.rtcm3Done slot) := by
  have hinterface : (e.rtcm3 slot).interface = (d.rtcm3 slot).interface := by
    obtain ⟨rxFrame, fixFrame, heq, -⟩ := h.rtcm3 slot
    rw [heq]
  unfold Device.rtcm3Done
  rw [hinterface]
  exact (h.setTbfp_same (h.tbfp _).resetRx).setRtcm3 (h.rtcm3 slot).resetRx

theorem relay_lora (env : Env W) (proc : Proc W) (h : (d.rtcm3 slot).interface = .lora) :
    d.relay env proc slot = d.uartFrame env slot := by
  unfold Device.relay
  rw [h]

/-- All bytes of the frame are loaded. -/
private theorem packetLength_of_loaded (hlen : p.loadLen = p.crc24Index.toNat + 3) :
    p.packetLength.toNat = p.loadLen ∧ p.loadLen ≤ rtcm3RxMaxFrameSize := by
  have hfield := fieldLen_toNat p.expLen
  have hlt := Nat.mod_lt p.expLen.toNat (show 0 < 1024 by decide)
  have hmax : rtcm3RxMaxFrameSize = 1036 := rfl
  rw [hlen, Rtcm3Protocol.packetLength, Rtcm3Protocol.crc24Index, UInt16.toNat_add, UInt16.toNat_add, hfield,
    show (3 : UInt16).toNat = 3 from rfl]
  omega

theorem Rtcm3Protocol.Alike.takeCrc (env : Env W) (hp : p.Alike p') (hlen : p.loadLen = p.crc24Index.toNat + 3) :
    (p.takeCrc env).Alike (p'.takeCrc env) := by
  obtain ⟨rxFrame, fixFrame, rfl, hrx⟩ := hp
  refine ⟨rxFrame, fixFrame, ?_, hrx⟩
  have hindex : Rtcm3Protocol.crc24Index { p with rxFrame := rxFrame, fixFrame := fixFrame } = p.crc24Index := rfl
  simp only [Rtcm3Protocol.takeCrc, hindex]
  rw [hrx _ (Nat.zero_le _) (by omega), hrx (p.crc24Index.toNat + 1) (Nat.zero_le _) (by omega),
    hrx (p.crc24Index.toNat + 2) (Nat.zero_le _) (by omega)]

theorem Rtcm3Protocol.Alike.bytesAt (hp : p.Alike p') {n : Nat} (hn : n ≤ p.loadLen) :
    bytesAt p'.rxFrame 0 n = bytesAt p.rxFrame 0 n := by
  obtain ⟨rxFrame, fixFrame, rfl, hrx⟩ := hp
  exact bytesAt_congr (hrx.mono (Nat.le_refl 0) (by omega))

theorem Rtcm3Protocol.Alike.packetLength (hp : p.Alike p') : p'.packetLength = p.packetLength := by
  obtain ⟨_, _, rfl, -⟩ := hp
  rfl

theorem Rtcm3Protocol.Alike.crcOk_iff (env : Env W) (hp : p.Alike p') (hle : p.crc24Index.toNat ≤ p.loadLen) :
    p'.crcOk env ↔ p.crcOk env := by
  have hbytes := hp.bytesAt hle
  obtain ⟨rxFrame, fixFrame, rfl, -⟩ := hp
  unfold Rtcm3Protocol.crcOk
  rw [show Rtcm3Protocol.crc24Index { p with rxFrame := rxFrame, fixFrame := fixFrame } = p.crc24Index from rfl, hbytes]

theorem Rtcm3Protocol.Alike.takeFrame (hp : p.Alike p') : p.takeFrame.Alike p'.takeFrame := by
  obtain ⟨rxFrame, fixFrame, rfl, hrx⟩ := hp
  exact ⟨rxFrame, Buffer.copy fixFrame rxFrame rtcm3RxMaxFrameSize, rfl, hrx⟩

private theorem Rtcm3Protocol.Alike.countCrcErr (hp : p.Alike p') :
    (rtcm3ResetRx { p with crcErrCnt := p.crcErrCnt + 1 }).Alike
      (rtcm3ResetRx { p' with crcErrCnt := p'.crcErrCnt + 1 }) := by
  obtain ⟨rxFrame, fixFrame, rfl, -⟩ := hp
  exact ⟨rxFrame, fixFrame, rfl, fun x _ hx => absurd hx (Nat.not_lt_zero x)⟩

/-- The same frame is taken. -/
theorem Rtcm3Protocol.Alike.fixedFrame (hp : p.Alike p') (hpacket : p.packetLength.toNat = p.loadLen)
    (hmax : p.loadLen ≤ rtcm3RxMaxFrameSize) : p'.takeFrame.fixedFrame.bytes = p.takeFrame.fixedFrame.bytes := by
  have hframe := hp.bytesAt (Nat.le_of_eq hpacket)
  have hsize : p.packetLength.toNat = (NorFlash.bytesAt p.rxFrame 0 p.packetLength.toNat).length :=
    (bytesAt_length _ _ _).symm
  have hfits : (NorFlash.bytesAt p.rxFrame 0 p.packetLength.toNat).length ≤ rtcm3RxMaxFrameSize := by omega
  rw [fixedFrame_takeFrame (by rw [← hsize]) hsize hfits]
  exact fixedFrame_takeFrame (by rw [← hsize]; exact hframe) (by rw [hp.packetLength]; exact hsize) hfits

/-- The checksum is complete: all bytes that are looked at are loaded. -/
private theorem sameRun_rtcm3CheckCrc24 (hd : Configured d) (hs : slot ≠ .uart1) (h : Alike a d e)
    (hi : p.interface = (d.rtcm3 slot).interface) (hp : p.Alike p') (hlen : p.loadLen = p.crc24Index.toNat + 3) :
    SameRun a (d.rtcm3CheckCrc24 env proc slot (p.takeCrc env)) (e.rtcm3CheckCrc24 env proc slot (p'.takeCrc env)) := by
  obtain ⟨hpacket, hmax⟩ := packetLength_of_loaded hlen
  have hq : (p.takeCrc env).Alike (p'.takeCrc env) := hp.takeCrc env hlen
  have hi' : (p.takeCrc env).interface = (d.rtcm3 slot).interface := hi
  have hle : (p.takeCrc env).crc24Index.toNat ≤ (p.takeCrc env).loadLen := by
    change p.crc24Index.toNat ≤ p.loadLen
    omega
  have hpacket' : (p.takeCrc env).packetLength.toNat = (p.takeCrc env).loadLen := hpacket
  have hmax' : (p.takeCrc env).loadLen ≤ rtcm3RxMaxFrameSize := hmax
  generalize p.takeCrc env = q at hq hi' hle hpacket' hmax' ⊢
  generalize p'.takeCrc env = q' at hq ⊢
  unfold Device.rtcm3CheckCrc24
  by_cases hok : q.crcOk env
  · rw [if_pos hok, if_pos ((hq.crcOk_iff env hle).2 hok)]
    dsimp only
    rw [hq.packetLength, hq.bytesAt (Nat.le_of_eq hpacket')]
    generalize bytesAt q.rxFrame 0 q.packetLength.toNat = frame
    have halike : Alike a ((d.setRtcm3 slot q.takeFrame).note (.rtcm3 slot frame))
        ((e.setRtcm3 slot q'.takeFrame).note (.rtcm3 slot frame)) := (h.setRtcm3 hq.takeFrame).note _
    have hfixed : (((e.setRtcm3 slot q'.takeFrame).note (.rtcm3 slot frame)).rtcm3 slot).fixedFrame.bytes =
        (((d.setRtcm3 slot q.takeFrame).note (.rtcm3 slot frame)).rtcm3 slot).fixedFrame.bytes := by
      simp only [Device.note, Device.setRtcm3_self]
      exact hq.fixedFrame hpacket' hmax'
    have hlora : (((d.setRtcm3 slot q.takeFrame).note (.rtcm3 slot frame)).rtcm3 slot).interface = .lora := by
      simp only [Device.note, Device.setRtcm3_self]
      exact hi'.trans (hd.rtcm3_lora hs)
    generalize (d.setRtcm3 slot q.takeFrame).note (.rtcm3 slot frame) = m at halike hfixed hlora ⊢
    generalize (e.setRtcm3 slot q'.takeFrame).note (.rtcm3 slot frame) = me at halike hfixed ⊢
    have hlora' : (me.rtcm3 slot).interface = .lora := by
      obtain ⟨_, _, heq, -⟩ := halike.rtcm3 slot
      rw [heq]
      exact hlora
    have huart : SameRun a (m.uartFrame env slot) (me.uartFrame env slot) := sameRun_uartFrame halike hfixed
    rw [relay_lora env proc hlora, relay_lora env proc hlora']
    exact ⟨huart.result, alike_rtcm3Done huart.state slot⟩
  · rw [if_neg hok, if_neg fun hc => hok ((hq.crcOk_iff env hle).1 hc)]
    exact ⟨rfl, h.setRtcm3 hq.countCrcErr⟩

private theorem sameRun_rtcm3ProcByte (hd : Configured d) (hs : slot ≠ .uart1) (h : Alike a d e) (b : UInt8) :
    SameRun a (d.rtcm3ProcByte env proc slot b) (e.rtcm3ProcByte env proc slot b) := by
  have hp := h.rtcm3 slot
  have hstate : (e.rtcm3 slot).rxState = (d.rtcm3 slot).rxState := by
    obtain ⟨_, _, heq, -⟩ := hp
    rw [heq]
  unfold Device.rtcm3ProcByte
  rw [hstate]
  split
  · exact sameRun_stepRtcm3 h (alike_rtcm3WaitPreamble hp b)
  · exact sameRun_stepRtcm3 h (alike_rtcm3WaitLen hp b)
  · exact sameRun_stepRtcm3 h (alike_rtcm3WaitPayload hp b)
  · have hindex : (e.rtcm3 slot).crc24Index = (d.rtcm3 slot).crc24Index := by
      rw [Rtcm3Protocol.crc24Index, hp.expLen, Rtcm3Protocol.crc24Index]
    unfold Device.rtcm3ProcWaitCrc24
    dsimp only
    rw [hp.loadLen, hindex]
    split
    · exact ⟨rfl, h.setRtcm3 (hp.load b _)⟩
    · split
      · exact ⟨rfl, h.setRtcm3 (hp.load b _)⟩
      · split
        · rename_i hlast
          exact sameRun_rtcm3CheckCrc24 hd hs h rfl (hp.load b .waitCrc) (congrArg (· + 1) hlast)
        · exact ⟨rfl, h.setRtcm3 hp.resetRx⟩
  · exact sameRun_stepRtcm3 h ⟨rfl, hp.resetRx⟩

/-- The bytes of the array are in both. -/
theorem Alike.byteAt (h : Alike a d e) {offset i : Nat} (hi : offset + i < a slot) :
    e.byteAt (.fixFrame slot offset) i = d.byteAt (.fixFrame slot offset) i := h.fixFrame hi

section

variable (env) (hproc : ∀ (d : Device W) src len s reset, Configured d → Effects False d (proc d src len s reset).2)

include hproc

private theorem sameRun_rtcm3Fed (hd : Configured d) {k : Interfaces} (hk : k ≠ .uart1) (h : Alike a d e)
    {offset n : Nat}
    (hn : offset + n ≤ a slot) :
    SameRun a (d.rtcm3Fed env proc (.fixFrame slot offset) k n) (e.rtcm3Fed env proc (.fixFrame slot offset) k n) := by
  induction n with
  | zero => exact ⟨rfl, h⟩
  | succ n ih =>
    have hfed := (ih (by omega)).state
    have hconf : Configured (d.rtcm3Fed env proc (.fixFrame slot offset) k n).2 :=
      (effects_rtcm3Fed env hproc hd _ n).configured hd
    have hbyte := hfed.byteAt (show offset + n < a slot by omega)
    unfold Device.rtcm3Fed
    dsimp only
    rw [hbyte]
    exact sameRun_rtcm3ProcByte hconf hk hfed _

theorem sameRun_rtcm3ProcArray (hd : Configured d) {k : Interfaces} (hk : k ≠ .uart1) (h : Alike a d e)
    {offset size : Nat} (hsize : offset + size ≤ a slot) :
    SameRun a (d.rtcm3ProcArray env proc (.fixFrame slot offset) size k)
      (e.rtcm3ProcArray env proc (.fixFrame slot offset) size k) := by
  have hreset : Alike a (d.setRtcm3 k (rtcm3ResetRx (d.rtcm3 k))) (e.setRtcm3 k (rtcm3ResetRx (e.rtcm3 k))) :=
    h.setRtcm3 (h.rtcm3 k).resetRx
  have hconf : Configured (d.setRtcm3 k (rtcm3ResetRx (d.rtcm3 k))) := by
    have heffects : Effects True d (d.setRtcm3 k (rtcm3ResetRx (d.rtcm3 k))) :=
      effects_setRtcm3 rfl rfl (fun hok => hok.resetRx) fun _ => trivial
    exact heffects.configured hd
  have hfed := sameRun_rtcm3Fed env hproc hconf hk hreset hsize
  have hcnt : ∀ {d e : Device W}, Alike a d e → (e.rtcm3 k).rxPktCnt = (d.rtcm3 k).rxPktCnt := by
    intro d e h
    obtain ⟨_, _, heq, -⟩ := h.rtcm3 k
    rw [heq]
  unfold Device.rtcm3ProcArray
  dsimp only
  rw [hcnt h, hcnt hfed.state]
  split
  · split
    · exact ⟨rfl, hfed.state⟩
    · exact hfed
  · exact ⟨rfl, h⟩

end

end TiMcu.Tbfp
