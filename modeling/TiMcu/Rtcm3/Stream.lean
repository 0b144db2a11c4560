import TiMcu.Tbfp.System

/-!
# A stream of RTCM3 frames

`Relayed` is what a stream of bytes does to the device: the parser completes the frames that `Framing` finds in the
stream, and each of them is relayed once.  The frames of `IF_UART1` go through the forwarding loop, those of the other
instances to the UART of the GNSS receiver.
-/

namespace TiMcu.Tbfp

open NorFlash LittleEndian Framing Runs

variable {W : Type} {env : Env W} {proc : Proc W} {d d' d'' : Device W} {slot : Interfaces}

/-! ### What the log says -/

def Seen.rtcm3Frame (slot : Interfaces) : Seen → Option (List UInt8)
  | .rtcm3 k frame => if k = slot then some frame else none
  | _ => none

/-- The frames that an RTCM3 parser completed, the oldest first. -/
def rtcm3Frames (slot : Interfaces) (log : List Seen) : List (List UInt8) :=
  (log.filterMap (·.rtcm3Frame slot)).reverse

/-- The entry, when it is about the relay of the frames of `IF_UART1`. -/
def Seen.relayEntry : Seen → Option Seen
  | .flag i => some (.flag i)
  | .passed i frame => some (.passed i frame)
  | .rtcm3 k frame => if k = .uart1 then some (.rtcm3 k frame) else none
  | _ => none

/-- What the relay did with the frames of `IF_UART1`, the oldest first. -/
def relayLog (log : List Seen) : List Seen := (log.filterMap Seen.relayEntry).reverse

/-- What the forwarding loop does with a frame. -/
def forwarded (forwarding : Interfaces → Bool) (interfaces : List Interfaces) (frame : List UInt8) : List Seen :=
  interfaces.flatMap fun i => .flag i :: if forwarding i then [.passed i frame] else []

private theorem rtcm3Frames_append (slot : Interfaces) (newer log : List Seen) :
    rtcm3Frames slot (newer ++ log) = rtcm3Frames slot log ++ rtcm3Frames slot newer := by
  simp [rtcm3Frames]

private theorem relayLog_append (newer log : List Seen) : relayLog (newer ++ log) = relayLog log ++ relayLog newer := by
  simp [relayLog]

private theorem relayLog_cons (x : Seen) (log : List Seen) : relayLog (x :: log) = relayLog log ++ relayLog [x] :=
  relayLog_append [x] log

private theorem relayLog_of_not {newer : List Seen} (h : ∀ x ∈ newer, ¬x.OfRelay) : relayLog newer = [] := by
  have hnone : newer.filterMap Seen.relayEntry = [] := by
    rw [List.filterMap_eq_nil_iff]
    intro x hx
    have hx' := h x hx
    cases x with
    | flag | passed => exact absurd trivial hx'
    | rtcm3 k frame =>
      cases k with
      | uart1 => exact absurd trivial hx'
      | _ => rfl
    | _ => rfl
  simp [relayLog, hnone]

/-- The frames of `IF_UART1` are among what the relay did. -/
private theorem rtcm3Frames_relayLog (log : List Seen) :
    rtcm3Frames .uart1 log = (relayLog log).filterMap (·.rtcm3Frame .uart1) := by
  induction log with
  | nil => rfl
  | cons x log ih =>
    rw [relayLog_cons, List.filterMap_append, ← ih, ← List.singleton_append, rtcm3Frames_append]
    congr 1
    cases x with
    | rtcm3 k frame =>
      by_cases hk : k = .uart1
      · simp [rtcm3Frames, relayLog, Seen.relayEntry, Seen.rtcm3Frame, hk]
      · simp [rtcm3Frames, relayLog, Seen.relayEntry, Seen.rtcm3Frame, hk]
    | _ => rfl

private theorem filterMap_forwarded (forwarding : Interfaces → Bool) (interfaces : List Interfaces)
    (frame : List UInt8) :
    (forwarded forwarding interfaces frame).filterMap (·.rtcm3Frame .uart1) = [] := by
  rw [List.filterMap_eq_nil_iff]
  intro x hx
  obtain ⟨i, -, hi⟩ := List.mem_flatMap.1 hx
  rcases List.mem_cons.1 hi with rfl | hi
  · rfl
  · split at hi
    · rw [List.mem_singleton.1 hi]
      rfl
    · simp at hi

/-! ### The state of the device -/

/-- The set-up is that of `sw_init`, up to the forwarding flags, and the RTCM3 parsers are sound. -/
structure Rtcm3Ready (d : Device W) : Prop where
  configured : Configured d
  ok : ∀ s, (d.rtcm3 s).Ok

theorem Effects.ready {R : Prop} (h : Effects R d d') (hd : Rtcm3Ready d) : Rtcm3Ready d' :=
  ⟨h.configured hd.configured, h.ok hd.ok⟩

/-- A stream of bytes for an RTCM3 parser. -/
def Device.rtcm3ProcBytes (env : Env W) (proc : Proc W) (d : Device W) (slot : Interfaces) (bytes : List UInt8) :
    Device W :=
  bytes.foldl (fun d rxByte => (d.rtcm3ProcByte env proc slot rxByte).2) d

/-- From `d` to `d'` the parser completed the frames, and each of them was relayed. -/
structure Relayed (slot : Interfaces) (fs : List (List UInt8)) (d d' : Device W) : Prop where
  effects : Effects (slot = .uart1) d d'
  rxPktCnt : (d'.rtcm3 slot).rxPktCnt = (d.rtcm3 slot).rxPktCnt + UInt32.ofNat fs.length
  frames : rtcm3Frames slot d'.log = rtcm3Frames slot d.log ++ fs
  relay : slot = .uart1 → relayLog d'.log = relayLog d.log ++
    fs.flatMap fun f => .rtcm3 .uart1 f :: forwarded (d.rtcm3 .uart1).forwarding forwardInterfaces f
  uart : slot ≠ .uart1 → d'.tx.uart = (fs.map fun f => (uartNumZedF9p, f)).reverse ++ d.tx.uart

theorem Relayed.trans {fs fs' : List (List UInt8)} (h : Relayed slot fs d d') (h' : Relayed slot fs' d' d'') :
    Relayed slot (fs ++ fs') d d'' := by
  constructor
  · exact h.effects.trans h'.effects
  · rw [h'.rxPktCnt, h.rxPktCnt, List.length_append, UInt32.ofNat_add, UInt32.add_assoc]
  · rw [h'.frames, h.frames, List.append_assoc]
  · intro hs
    rw [h'.relay hs, h.relay hs, (h.effects.rtcm3 .uart1).2, List.flatMap_append, List.append_assoc]
  · intro hs
    rw [h'.uart hs, h.uart hs, List.map_append, List.reverse_append, List.append_assoc]

/-- A step in which the parser changes by itself. -/
private theorem relayed_setRtcm3 {p : Rtcm3Protocol} (hi : p.interface = (d.rtcm3 slot).interface)
    (hf : p.forwarding = (d.rtcm3 slot).forwarding) (hok : (d.rtcm3 slot).Ok → p.Ok)
    (hcnt : p.rxPktCnt = (d.rtcm3 slot).rxPktCnt) : Relayed slot [] d (d.setRtcm3 slot p) := by
  constructor
  · exact effects_setRtcm3 hi hf hok id
  · simp [hcnt]
  · simp [Device.setRtcm3]
  · simp [Device.setRtcm3]
  · simp [Device.setRtcm3]

theorem Relayed.refl (slot : Interfaces) (d : Device W) : Relayed slot [] d d := by
  constructor
  · exact .refl d
  · simp
  · simp
  · simp
  · simp

private theorem rxPktCnt_takeFrame {p : Rtcm3Protocol} (hc : Rtcm3Calm (d.rtcm3 slot) p) :
    p.takeFrame.rxPktCnt = (d.rtcm3 slot).rxPktCnt + UInt32.ofNat 1 := by
  simp [Rtcm3Protocol.takeFrame, hc.rxPktCnt]

/-! ### The forwarding loop -/

section

variable (env) (hproc : ∀ (d : Device W) src len s reset, Configured d → Effects False d (proc d src len s reset).2)

include hproc

/-- What passing the frame on changes of the parser, and what it logs. -/
private theorem passFrame_relay (hd : Configured d) (i : Interfaces) :
    ((d.passFrame env proc .uart1 i).2.rtcm3 .uart1).fixedFrame = (d.rtcm3 .uart1).fixedFrame ∧
      ((d.passFrame env proc .uart1 i).2.rtcm3 .uart1).rxPktCnt = (d.rtcm3 .uart1).rxPktCnt ∧
      relayLog (d.passFrame env proc .uart1 i).2.log =
        relayLog d.log ++ [.passed i (d.rtcm3 .uart1).fixedFrame.bytes] := by
  generalize hm : d.note (.passed i (d.rtcm3 .uart1).fixedFrame.bytes) = m
  have hcm : Configured m := hm ▸ hd.note _
  have hsend : Effects False m (m.tbfpSend env proc (d.rtcm3 .uart1).fixedFrame i 0 .noNeed).2 :=
    effects_tbfpSend env hproc hcm _ i 0 .noNeed
  have hrtcm3 : (m.tbfpSend env proc (d.rtcm3 .uart1).fixedFrame i 0 .noNeed).2.rtcm3 .uart1 = d.rtcm3 .uart1 := by
    rw [hsend.relay id, ← hm]
    rfl
  obtain ⟨newer, hlog, -, hnew⟩ := hsend.log
  have hrelay : relayLog (m.tbfpSend env proc (d.rtcm3 .uart1).fixedFrame i 0 .noNeed).2.log =
      relayLog d.log ++ [.passed i (d.rtcm3 .uart1).fixedFrame.bytes] := by
    rw [hlog, relayLog_append, relayLog_of_not (hnew id), List.append_nil, ← hm, Device.note, relayLog_cons]
    rfl
  unfold Device.passFrame
  dsimp only
  rw [hm]
  generalize m.tbfpSend env proc (d.rtcm3 .uart1).fixedFrame i 0 .noNeed = r at hrtcm3 hrelay
  split
  · exact ⟨by rw [hrtcm3], by rw [hrtcm3], hrelay⟩
  · refine ⟨?_, ?_, hrelay⟩
    · rw [← hrtcm3]
      simp [Device.countLost, Device.setTx, Rtcm3Protocol.fixedFrame, Rtcm3Protocol.packetLength,
        Rtcm3Protocol.crc24Index]
    · rw [← hrtcm3]
      simp [Device.countLost, Device.setTx]

/-- The forwarding loop over a list of interfaces. -/
private theorem forwards_relay (hd : Configured d) (res : Bool) (interfaces : List Interfaces) :
    ((interfaces.foldl (Device.forward env proc .uart1) (res, d)).2.rtcm3 .uart1).rxPktCnt =
        (d.rtcm3 .uart1).rxPktCnt ∧
      relayLog (interfaces.foldl (Device.forward env proc .uart1) (res, d)).2.log = relayLog d.log ++
        forwarded (d.rtcm3 .uart1).forwarding interfaces (d.rtcm3 .uart1).fixedFrame.bytes := by
  induction interfaces generalizing d res with
  | nil => exact ⟨rfl, by simp [forwarded]⟩
  | cons i interfaces ih =>
    have heffects : Effects True d (Device.forward env proc .uart1 (res, d) i).2 := effects_forward env hproc hd res i
    have hstep : ((Device.forward env proc .uart1 (res, d) i).2.rtcm3 .uart1).fixedFrame = (d.rtcm3 .uart1).fixedFrame ∧
        ((Device.forward env proc .uart1 (res, d) i).2.rtcm3 .uart1).rxPktCnt = (d.rtcm3 .uart1).rxPktCnt ∧
        relayLog (Device.forward env proc .uart1 (res, d) i).2.log = relayLog d.log ++
          forwarded (d.rtcm3 .uart1).forwarding [i] (d.rtcm3 .uart1).fixedFrame.bytes := by
      have hflag : relayLog (d.note (.flag i)).log = relayLog d.log ++ [.flag i] := by
        rw [Device.note, relayLog_cons]
        rfl
      by_cases hon : (d.rtcm3 .uart1).forwarding i
      · have hcase : Device.forward env proc .uart1 (res, d) i = (d.note (.flag i)).passFrame env proc .uart1 i :=
          if_pos hon
        obtain ⟨hfixed, hcnt, hlog⟩ := passFrame_relay env hproc (hd.note (.flag i)) i
        rw [hcase]
        refine ⟨hfixed, hcnt, ?_⟩
        rw [hlog, hflag]
        simp [forwarded, hon, Device.note]
      · have hcase : Device.forward env proc .uart1 (res, d) i = (res, d.note (.flag i)) := if_neg hon
        rw [hcase]
        refine ⟨rfl, rfl, ?_⟩
        rw [hflag]
        simp [forwarded, hon]
    obtain ⟨hfixed, hcnt, hlog⟩ := hstep
    rw [List.foldl_cons]
    obtain ⟨hcnt', hlog'⟩ := ih (heffects.configured hd) (Device.forward env proc .uart1 (res, d) i).1
    rw [(heffects.rtcm3 .uart1).2, hfixed, hlog] at hlog'
    refine ⟨hcnt'.trans hcnt, hlog'.trans ?_⟩
    simp [forwarded]

/-! ### A frame with the right checksum -/

omit hproc in
private theorem rtcm3Done_log (d : Device W) (slot : Interfaces) : (d.rtcm3Done slot).log = d.log := rfl

omit hproc in
private theorem rtcm3Done_tx (d : Device W) (slot : Interfaces) : (d.rtcm3Done slot).tx = d.tx := rfl

omit hproc in
private theorem rtcm3Done_rxPktCnt (d : Device W) (slot : Interfaces) :
    ((d.rtcm3Done slot).rtcm3 slot).rxPktCnt = (d.rtcm3 slot).rxPktCnt := by
  simp [Device.rtcm3Done, rtcm3ResetRx]

omit hproc in
private theorem uartFrame_relay (d : Device W) (slot : Interfaces) :
    ((d.uartFrame env slot).2.rtcm3 slot).rxPktCnt = (d.rtcm3 slot).rxPktCnt ∧ (d.uartFrame env slot).2.log = d.log ∧
      (d.uartFrame env slot).2.tx.uart = (uartNumZedF9p, (d.rtcm3 slot).fixedFrame.bytes) :: d.tx.uart := by
  unfold Device.uartFrame
  dsimp only
  split
  · exact ⟨rfl, rfl, rfl⟩
  · exact ⟨by simp, rfl, rfl⟩

/-- What every completed frame does, whichever way it is passed on. -/
private theorem effects_frame (hd : Configured d) {p : Rtcm3Protocol} (hc : Rtcm3Calm (d.rtcm3 slot) p)
    (frame : List UInt8) :
    Effects (slot = .uart1) d ((d.passRtcm3 env proc slot p frame).2.rtcm3Done slot) := by
  have htake : (d.rtcm3 slot).Ok → p.takeFrame.Ok := fun hok => ⟨hc.stored_lt hok, hc.readCrc, .inl rfl⟩
  exact (effects_passRtcm3 env hproc hd hc.interface hc.forwarding htake frame).trans effects_rtcm3Done

/-- A frame of the GNSS receiver is forwarded. -/
private theorem relayed_forwarded (hd : Configured d) {p : Rtcm3Protocol} {frame : List UInt8}
    (hc : Rtcm3Calm (d.rtcm3 .uart1) p) (hfixed : p.takeFrame.fixedFrame.bytes = frame) :
    Relayed .uart1 [frame] d ((d.passRtcm3 env proc .uart1 p frame).2.rtcm3Done .uart1) := by
  have htake : (d.rtcm3 .uart1).Ok → p.takeFrame.Ok := fun hok => ⟨hc.stored_lt hok, hc.readCrc, .inl rfl⟩
  have hpass : d.passRtcm3 env proc .uart1 p frame =
      ((d.setRtcm3 .uart1 p.takeFrame).note (.rtcm3 .uart1 frame)).relay env proc .uart1 := rfl
  generalize hm : (d.setRtcm3 .uart1 p.takeFrame).note (.rtcm3 .uart1 frame) = m at hpass
  have hmp : m.rtcm3 .uart1 = p.takeFrame := by
    rw [← hm]
    simp [Device.note]
  have hrelay : m.relay env proc .uart1 = forwardInterfaces.foldl (Device.forward env proc .uart1) (true, m) := by
    unfold Device.relay
    rw [hmp, show p.takeFrame.interface = .uart1 from hc.interface.trans (hd.rtcm3 .uart1)]
  have hcm : Configured m := by
    have hset : Effects True d (d.setRtcm3 .uart1 p.takeFrame) :=
      effects_setRtcm3 hc.interface hc.forwarding htake fun _ => trivial
    rw [← hm]
    exact (hset.configured hd).note _
  obtain ⟨hcnt, hlog⟩ := forwards_relay env hproc hcm true forwardInterfaces
  have hforwarding : p.takeFrame.forwarding = (d.rtcm3 .uart1).forwarding := hc.forwarding
  rw [hmp, hfixed, hforwarding] at hlog
  have hrelayLog : relayLog ((d.passRtcm3 env proc .uart1 p frame).2.rtcm3Done .uart1).log = relayLog d.log ++
      (.rtcm3 .uart1 frame :: forwarded (d.rtcm3 .uart1).forwarding forwardInterfaces frame) := by
    rw [rtcm3Done_log, hpass, hrelay, hlog, ← hm, Device.note, relayLog_cons, List.append_assoc]
    rfl
  refine ⟨effects_frame env hproc hd hc frame, ?_, ?_, fun _ => ?_, fun hn => absurd rfl hn⟩
  · rw [rtcm3Done_rxPktCnt, hpass, hrelay, hcnt, hmp, rxPktCnt_takeFrame hc]
    rfl
  · rw [rtcm3Frames_relayLog, hrelayLog, List.filterMap_append, ← rtcm3Frames_relayLog, List.filterMap_cons,
      filterMap_forwarded]
    rfl
  · rw [hrelayLog]
    simp

/-- A frame from elsewhere goes to the GNSS receiver. -/
private theorem relayed_uart (hd : Configured d) (hs : slot ≠ .uart1) {p : Rtcm3Protocol} {frame : List UInt8}
    (hc : Rtcm3Calm (d.rtcm3 slot) p) (hfixed : p.takeFrame.fixedFrame.bytes = frame) :
    Relayed slot [frame] d ((d.passRtcm3 env proc slot p frame).2.rtcm3Done slot) := by
  have hpass : d.passRtcm3 env proc slot p frame =
      ((d.setRtcm3 slot p.takeFrame).note (.rtcm3 slot frame)).relay env proc slot := rfl
  generalize hm : (d.setRtcm3 slot p.takeFrame).note (.rtcm3 slot frame) = m at hpass
  have hmp : m.rtcm3 slot = p.takeFrame := by
    rw [← hm]
    simp [Device.note]
  have hrelay : m.relay env proc slot = m.uartFrame env slot := by
    unfold Device.relay
    rw [hmp, show p.takeFrame.interface = .lora from hc.interface.trans (hd.rtcm3_lora hs)]
  obtain ⟨hcnt, hlog, huart⟩ := uartFrame_relay env m slot
  rw [hmp, hfixed] at huart
  refine ⟨effects_frame env hproc hd hc frame, ?_, ?_, fun hc => absurd hc hs, fun _ => ?_⟩
  · rw [rtcm3Done_rxPktCnt, hpass, hrelay, hcnt, hmp, rxPktCnt_takeFrame hc]
    rfl
  · rw [rtcm3Done_log, hpass, hrelay, hlog, ← hm, Device.note, ← List.singleton_append, rtcm3Frames_append]
    simp [rtcm3Frames, Seen.rtcm3Frame, Device.setRtcm3]
  · rw [rtcm3Done_tx, hpass, hrelay, huart, ← hm]
    rfl

/-- A frame is completed and passed on. -/
private theorem relayed_passRtcm3 (hd : Configured d) {p : Rtcm3Protocol} {frame : List UInt8}
    (hc : Rtcm3Calm (d.rtcm3 slot) p) (hbytes : bytesAt p.rxFrame 0 frame.length = frame)
    (hlen : p.packetLength.toNat = frame.length) (hmax : frame.length ≤ rtcm3RxMaxFrameSize) :
    Relayed slot [frame] d ((d.passRtcm3 env proc slot p frame).2.rtcm3Done slot) := by
  have hfixed := fixedFrame_takeFrame hbytes hlen hmax
  by_cases hs : slot = .uart1
  · subst hs
    exact relayed_forwarded env hproc hd hc hfixed
  · exact relayed_uart env hproc hd hs hc hfixed

/-! ### A stream of bytes -/

/-- One byte of a stream. -/
private theorem rtcm3ProcByte_relayed (hd : Rtcm3Ready d) {l : List UInt8} (h : Rtcm3Loaded (d.rtcm3 slot) l)
    (b : UInt8) :
    Relayed slot (complete (rtcm3Verdict env) (l ++ [b])) d (d.rtcm3ProcByte env proc slot b).2 ∧
      Rtcm3Loaded ((d.rtcm3ProcByte env proc slot b).2.rtcm3 slot) (keep (rtcm3Verdict env) (l ++ [b])) := by
  have hok := hd.ok slot
  have hstep : Rtcm3Step env proc d slot l b (d.rtcm3ProcByte env proc slot b) :=
    rtcm3ProcByte_spec h hok.readCrc proc b
  generalize d.rtcm3ProcByte env proc slot b = res at hstep ⊢
  cases hstep with
  | loads res p hv hl hc =>
    rw [complete_of_ne hv]
    refine ⟨relayed_setRtcm3 hc.interface hc.forwarding (fun _ => ?_) hc.rxPktCnt, ?_⟩
    · exact ⟨hc.stored_lt hok, hc.readCrc, .inr ⟨_, hl⟩⟩
    · rwa [Device.setRtcm3_self]
  | accepts p hv hl hi hc =>
    rw [complete_frame hv, keep_frame hv]
    refine ⟨relayed_passRtcm3 env hproc hd.configured hc hl hi ?_, ?_⟩
    · rw [List.length_append, List.length_singleton]
      exact h.length_lt
    · simpa [Device.rtcm3Done] using rtcm3Loaded_resetRx _

/-- What an RTCM3 parser completes in a stream, and what it holds behind it. -/
theorem rtcm3ProcBytes_relayed (hd : Rtcm3Ready d) {l : List UInt8} (h : Rtcm3Loaded (d.rtcm3 slot) l)
    (bs : List UInt8) :
    Relayed slot (frames (rtcm3Verdict env) l bs) d (d.rtcm3ProcBytes env proc slot bs) ∧
      Rtcm3Loaded ((d.rtcm3ProcBytes env proc slot bs).rtcm3 slot) (held (rtcm3Verdict env) l bs) := by
  induction bs generalizing d l with
  | nil => exact ⟨.refl slot d, h⟩
  | cons b bs ih =>
    obtain ⟨hstep, hloaded⟩ := rtcm3ProcByte_relayed env hproc hd h b
    obtain ⟨hrelayed, hheld⟩ := ih (hstep.effects.ready hd) hloaded
    exact ⟨hstep.trans hrelayed, hheld⟩

/-- A stream in any state of the parser. -/
theorem effects_rtcm3ProcBytes (hd : Configured d) (bs : List UInt8) :
    Effects (slot = .uart1) d (d.rtcm3ProcBytes env proc slot bs) := by
  induction bs generalizing d with
  | nil => exact .refl d
  | cons b bs ih =>
    have hstep : Effects (slot = .uart1) d (d.rtcm3ProcByte env proc slot b).2 := effects_rtcm3ProcByte env hproc hd b
    exact hstep.trans (ih (hstep.configured hd))

/-- The loop of `rtcm3_proc_array` over an array that the relay does not change. -/
private theorem rtcm3Fed_relayed (hd : Rtcm3Ready d) {l : List UInt8} (h : Rtcm3Loaded (d.rtcm3 slot) l) {src : Source}
    {bytes : List UInt8} {n : Nat} (hn : n ≤ bytes.length)
    (hbytes : ∀ i, i < n → (d.rtcm3Fed env proc src slot i).2.byteAt src i = bytes.getD i 0) :
    Relayed slot (frames (rtcm3Verdict env) l (bytes.take n)) d (d.rtcm3Fed env proc src slot n).2 ∧
      Rtcm3Loaded ((d.rtcm3Fed env proc src slot n).2.rtcm3 slot) (held (rtcm3Verdict env) l (bytes.take n)) := by
  induction n with
  | zero => exact ⟨.refl slot d, h⟩
  | succ n ih =>
    obtain ⟨hfed, hloaded⟩ := ih (Nat.le_of_succ_le hn) fun i hi => hbytes i (Nat.lt_succ_of_lt hi)
    obtain ⟨hstep, hloaded'⟩ := rtcm3ProcByte_relayed env hproc (hfed.effects.ready hd) hloaded (bytes.getD n 0)
    have htake : bytes.take (n + 1) = bytes.take n ++ [bytes.getD n 0] := by
      rw [List.take_succ_eq_append_getElem hn, List.getD_eq_getElem _ _ hn]
    have hsucc : (d.rtcm3Fed env proc src slot (n + 1)).2 =
        ((d.rtcm3Fed env proc src slot n).2.rtcm3ProcByte env proc slot (bytes.getD n 0)).2 := by
      rw [← hbytes n (Nat.lt_succ_self n)]
      rfl
    rw [hsucc, htake, held_append, held, held_nil, frames_append, frames, frames_nil, List.append_nil]
    exact ⟨hfed.trans hstep, hloaded'⟩

/-- `rtcm3_proc_array` begins with a reset, so it completes the frames of its array. -/
theorem rtcm3ProcArray_relayed (hd : Rtcm3Ready d) {src : Source} {bytes : List UInt8}
    (hbytes : ∀ i, i < bytes.length →
      ((d.setRtcm3 slot (rtcm3ResetRx (d.rtcm3 slot))).rtcm3Fed env proc src slot i).2.byteAt src i = bytes.getD i 0) :
    Relayed slot (frames (rtcm3Verdict env) [] bytes) d
      (d.rtcm3ProcArray env proc src bytes.length slot).2 := by
  have hreset : Relayed slot [] d (d.setRtcm3 slot (rtcm3ResetRx (d.rtcm3 slot))) :=
    relayed_setRtcm3 rfl rfl (fun hok => hok.resetRx) rfl
  unfold Device.rtcm3ProcArray
  by_cases hpos : 0 < bytes.length
  · obtain ⟨hfed, -⟩ := rtcm3Fed_relayed env hproc (hreset.effects.ready hd) (l := []) (by
      rw [Device.setRtcm3_self]
      exact rtcm3Loaded_resetRx _) (Nat.le_refl bytes.length) hbytes
    rw [List.take_length] at hfed
    rw [if_pos hpos]
    dsimp only
    split
    · exact hreset.trans hfed
    · exact hreset.trans hfed
  · rw [if_neg hpos, List.length_eq_zero_iff.1 (Nat.eq_zero_of_not_pos hpos)]
    exact .refl slot d

end

/-! ### The device from its start -/

/-- `rtcm3_fwd_command` sets a flag. -/
def Device.rtcm3FwdCommand (d : Device W) (interface1 interface2 : Interfaces) (status : Bool) : Device W :=
  let p := d.rtcm3 interface1
  d.setRtcm3 interface1 { p with forwarding := Function.update p.forwarding interface2 status }

/-- What happens to the device, the commands for the forwarding flags included. -/
inductive Action (W : Type)
  | input (x : Input W)
  | rtcm3FwdCommand (interface1 interface2 : Interfaces) (status : Bool)

def Device.act (env : Env W) (d : Device W) : Action W → Device W
  | .input x => d.step env x
  | .rtcm3FwdCommand interface1 interface2 status => d.rtcm3FwdCommand interface1 interface2 status

theorem ready_swInit_rtcm3 (radio : Sx1262) (now : Nat) (world : W) : Rtcm3Ready (swInit radio now world) := by
  refine ⟨configured_swInit radio now world, fun s => ?_⟩
  have hfresh : ∀ p : Rtcm3Protocol, p.stored = [] → p.readCrc = 0 → p.loadLen = 0 → p.rxState = .waitPreamble → p.Ok := by
    intro p hstored hcrc hlen hstate
    refine ⟨by simp [hstored], ?_, .inr ⟨[], rtcm3Loaded_nil hlen hstate⟩⟩
    rw [hcrc]
    decide
  cases s <;> exact hfresh _ rfl rfl rfl rfl

private theorem ready_rtcm3FwdCommand (hd : Rtcm3Ready d) (interface1 interface2 : Interfaces) (status : Bool) :
    Rtcm3Ready (d.rtcm3FwdCommand interface1 interface2 status) := by
  refine ⟨⟨hd.configured.tbfp, fun s => ?_⟩, fun s => ?_⟩
  · rw [← hd.configured.rtcm3 s]
    by_cases hs : s = interface1
    · subst hs
      simp [Device.rtcm3FwdCommand]
    · rw [Device.rtcm3FwdCommand, Device.setRtcm3_of_ne _ _ hs]
  · by_cases hs : s = interface1
    · subst hs
      rw [Device.rtcm3FwdCommand, Device.setRtcm3_self]
      exact (hd.ok s).congr rfl rfl rfl rfl rfl rfl
    · rw [Device.rtcm3FwdCommand, Device.setRtcm3_of_ne _ _ hs]
      exact hd.ok s

/-- Every run from `sw_init` leaves the RTCM3 parsers sound. -/
theorem ready_run_rtcm3 (env : Env W) (hd : Rtcm3Ready d) (xs : List (Action W)) :
    Rtcm3Ready (run (Device.act env) d xs) := by
  induction xs generalizing d with
  | nil => exact hd
  | cons x xs ih =>
    rw [run_cons]
    apply ih
    cases x with
    | input x => exact (effects_step hd.configured x).ready hd
    | rtcm3FwdCommand interface1 interface2 status => exact ready_rtcm3FwdCommand hd interface1 interface2 status

end TiMcu.Tbfp
