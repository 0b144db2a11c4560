import TiMcu.Tbfp.System
import TiMcu.Tbfp.TwoRuns

/-!
# What the handlers need of a payload

No handler but those of text and of commands asks how long the payload is before it reads it, and the id is read from an
empty payload as well.  `LongEnough` says that the payload of a frame is as long as its handler needs it and that, in a
tunnel, so are the payloads of the frames inside which the flow control of `IF_LORA` lets pass.  It is decided by the
bytes of the frame, and it is exactly what keeps the handlers inside (`within_tbfpProcFull_iff`).
-/

namespace TiMcu.Tbfp

open NorFlash LittleEndian Framing

variable {W : Type} {env : Env W} {proc : Proc W} {d d' d'' m : Device W} {slot interface : Interfaces}

/-! ### Parts of a run -/

theorem within_iff (newer : List Seen) (h : d'.log = newer ++ d.log) : Within d d' ↔ ∀ x ∈ newer, x.InBounds := by
  constructor
  · rintro ⟨newer', hlog, hall⟩
    rw [h, List.append_cancel_right_eq] at hlog
    exact hlog ▸ hall
  · exact fun hall => ⟨newer, h, hall⟩

private theorem within_of_log (h : d'.log = d.log) : Within d d' := (within_iff [] h).2 (by simp)

theorem Within.trans (h : Within d m) (h' : Within m d') : Within d d' := by
  obtain ⟨newer, hlog, hall⟩ := h
  obtain ⟨newer', hlog', hall'⟩ := h'
  refine ⟨newer' ++ newer, by rw [hlog', hlog, List.append_assoc], fun x hx => ?_⟩
  rcases List.mem_append.1 hx with hx | hx
  · exact hall' x hx
  · exact hall x hx

private theorem within_split (hm : d.log <:+ m.log) (hd' : m.log <:+ d'.log) : Within d d' ↔ Within d m ∧ Within m d' :=
  ⟨fun h => h.parts hm hd', fun h => h.1.trans h.2⟩

/-! ### One handler -/

/-- What the handler of the id needs of a payload. -/
def neededLen (env : Env W) (id : UInt8) : Nat :=
  if id = frameIdAck then 3
  else if id = frameIdPong ∨ id = frameIdPing then env.sizeofPingFrame
  else tbfpSizeId

private theorem within_rtcm3ProcByte (env : Env W) (proc : Proc W) (hd : Configured d) (hs : slot ≠ .uart1)
    (b : UInt8) :
    Within d (d.rtcm3ProcByte env proc slot b).2 := by
  have hstep := rtcm3ProcByte_cases env proc d slot b
  generalize d.rtcm3ProcByte env proc slot b = r at hstep ⊢
  cases hstep with
  | loads res p hi hf _ => exact within_of_log rfl
  | accepts p frame hi hf _ =>
    have hlora : (((d.setRtcm3 slot p.takeFrame).note (.rtcm3 slot frame)).rtcm3 slot).interface = .lora := by
      rw [show ((d.setRtcm3 slot p.takeFrame).note (.rtcm3 slot frame)).rtcm3 slot = p.takeFrame from
        Device.setRtcm3_self d slot p.takeFrame]
      exact hi.trans (hd.rtcm3_lora hs)
    refine (within_iff [.rtcm3 slot frame] ?_).2 (by simp [Seen.InBounds])
    unfold Device.passRtcm3
    rw [relay_lora env proc hlora]
    unfold Device.uartFrame
    dsimp only
    split <;> rfl

section

variable (env) (hproc : ∀ (d : Device W) src len s reset, Configured d → Effects False d (proc d src len s reset).2)

include hproc

private theorem within_rtcm3Fed (hd : Configured d) (hs : slot ≠ .uart1) (src : Source) (n : Nat) :
    Within d (d.rtcm3Fed env proc src slot n).2 := by
  induction n with
  | zero => exact within_of_log rfl
  | succ n ih =>
    have hconf : Configured (d.rtcm3Fed env proc src slot n).2 := (effects_rtcm3Fed env hproc hd src n).configured hd
    exact ih.trans (within_rtcm3ProcByte env proc hconf hs _)

private theorem within_rtcm3ProcArray (hd : Configured d) (hs : slot ≠ .uart1) (src : Source) (size : Nat) :
    Within d (d.rtcm3ProcArray env proc src size slot).2 := by
  have hreset : Effects True d (d.setRtcm3 slot (rtcm3ResetRx (d.rtcm3 slot))) :=
    effects_setRtcm3 rfl rfl (fun hok => hok.resetRx) fun _ => trivial
  have hfed : Within (d.setRtcm3 slot (rtcm3ResetRx (d.rtcm3 slot))) _ :=
    within_rtcm3Fed env hproc (hreset.configured hd) hs src size
  unfold Device.rtcm3ProcArray
  split
  · dsimp only
    split <;> exact hfed
  · exact within_of_log rfl

/-- A payload that is no tunnel. -/
private theorem within_tbfpProcPayload_iff (hd : Configured d) (hloop : interface ≠ .loopback)
    (huart : interface ≠ .uart1)
    {len : UInt16} (hid : d.payload slot 0 ≠ frameIdTunnel) :
    Within d (d.tbfpProcPayload env proc slot len interface).2 ↔ neededLen env (d.payload slot 0) ≤ len.toNat := by
  have hsize : tbfpSizeId = 1 := rfl
  have hping : 1 ≤ env.sizeofPingFrame := by
    have hrest := env.pingRest_length d.tx.world
    omega
  unfold Device.tbfpProcPayload neededLen
  dsimp only
  by_cases hack : d.payload slot 0 = frameIdAck
  · rw [if_pos hack, if_pos hack, within_iff [.read 3 len.toNat, .read 1 len.toNat] rfl]
    simp [Seen.InBounds]
    omega
  rw [if_neg hack, if_neg hack, if_neg hid]
  by_cases hrtcm3 : d.payload slot 0 = frameIdRtcm3
  · rw [if_pos hrtcm3, hrtcm3, if_neg (by decide)]
    have hconf : Configured ((d.note (.read 1 len.toNat)).note (.read len.toNat len.toNat)) := (hd.note _).note _
    have harray := within_rtcm3ProcArray env hproc hconf huart (.fixFrame slot tbfpIndexPayload) len.toNat
    rw [within_split (m := (d.note (.read 1 len.toNat)).note (.read len.toNat len.toNat)) ⟨[_, _], rfl⟩
      (effects_rtcm3ProcArray env hproc hconf _ _).suffix, and_iff_left harray,
      within_iff [.read len.toNat len.toNat, .read 1 len.toNat] rfl]
    simp [Seen.InBounds, hsize]
  rw [if_neg hrtcm3]
  by_cases hchat : d.payload slot 0 = frameIdChat
  · rw [if_pos hchat, hchat, if_neg (by decide)]
    unfold Device.tbfpProcChat
    split
    · rw [within_iff [.read len.toNat len.toNat, .read 1 len.toNat] rfl]
      simp [Seen.InBounds, hsize]
    · rw [within_iff [.read 1 len.toNat] rfl]
      simp [Seen.InBounds, hsize]
  rw [if_neg hchat]
  by_cases hpong : d.payload slot 0 = frameIdPong ∨ d.payload slot 0 = frameIdPing
  · rw [if_pos hpong, if_pos hpong, within_iff [.read env.sizeofPingFrame len.toNat, .read 1 len.toNat]
      (tbfpProcPing_log _ slot len hloop)]
    simp [Seen.InBounds]
    omega
  rw [if_neg hpong, if_neg hpong]
  by_cases hcmd : d.payload slot 0 = frameIdCmd
  · rw [if_pos hcmd]
    rw [Device.tbfpProcCmd_env]
    split
    · rw [within_iff [.fixed ⟨slot, tbfpIndexPayload + len.toNat, tbfpIndexPayload + len.toNat + 1⟩ d.unfed,
        .read len.toNat len.toNat, .read 1 len.toNat] rfl]
      simp [Seen.InBounds, hsize]
    · rw [within_iff [.read 1 len.toNat] rfl]
      simp [Seen.InBounds, hsize]
  · rw [if_neg hcmd, within_iff [.read 1 len.toNat] rfl]
    simp [Seen.InBounds, hsize]

end

/-! ### The frames inside of a tunnel -/

/-- The bytes in the payload of a tunnel. -/
def tunnelBytes (f : List UInt8) : List UInt8 := (f.drop (tbfpIndexPayload + 1)).take (payloadLen f - tbfpSizeId)

/-- A frame for `IF_LORA`, when the flow control remembers `prev`: the serial number that it remembers then, unless a
payload that is handed on is too short.  `inside` does the same for the bytes of a tunnel. -/
def longFrame (env : Env W) (inside : UInt16 → List UInt8 → Option UInt16) (prev : UInt16) (f : List UInt8) :
    Option UInt16 :=
  let snum := (frameHeader f).snum
  if prev < snum then
    if neededLen env (frameId f) ≤ payloadLen f then
      if frameId f = frameIdTunnel then inside snum (tunnelBytes f) else some snum
    else none
  else some snum

/-- The bytes of a tunnel, for a parser that holds `l`, with calls from within up to that depth. -/
def longBytes (env : Env W) (preambleVal : UInt8) : Nat → UInt16 → List UInt8 → List UInt8 → Option UInt16
  | 0, prev, _, _ => some prev
  | depth + 1, prev, l, bytes =>
    (frames (tbfpVerdict env.crc8SaeJ1850Calc preambleVal) l bytes).foldlM
      (longFrame env fun prev bytes => longBytes env preambleVal depth prev [] bytes) prev

/-- From `d` to `d'` no handler read behind its payload, the flow control of `IF_LORA` remembers `snum`, and from the
byte `n` on the `fix_frame` of `IF_LORA` is as it was. -/
structure Kept (n : Nat) (snum : UInt16) (d d' : Device W) : Prop where
  within : Within d d'
  prevSNum : (d'.tbfp .lora).flow.prevSNum = snum
  fixFrame : ∀ s x, (s = .lora → n ≤ x) → (d'.tbfp s).parser.fixFrame x = (d.tbfp s).parser.fixFrame x

/-- The outcome that the lengths of the payloads predict. -/
def Decided (n : Nat) (d d' : Device W) : Option UInt16 → Prop
  | none => ¬Within d d'
  | some snum => Kept n snum d d'

theorem Kept.mono {n n' : Nat} {snum : UInt16} (h : Kept n snum d d') (hn : n ≤ n') : Kept n' snum d d' :=
  ⟨h.within, h.prevSNum, fun s x hx => h.fixFrame s x fun hs => Nat.le_trans hn (hx hs)⟩

theorem Kept.trans {n : Nat} {snum snum' : UInt16} (h : Kept n snum d m) (h' : Kept n snum' m d') :
    Kept n snum' d d' :=
  ⟨h.within.trans h'.within, h'.prevSNum, fun s x hx => (h'.fixFrame s x hx).trans (h.fixFrame s x hx)⟩

theorem Decided.mono {n n' : Nat} {o : Option UInt16} (h : Decided n d d' o) (hn : n ≤ n') : Decided n' d d' o := by
  cases o with
  | none => exact h
  | some snum => exact Kept.mono h hn

/-- One part after another. -/
theorem Decided.bind {n : Nat} {o : Option UInt16} {g : UInt16 → Option UInt16} (h : Decided n d m o)
    (h' : ∀ snum, Kept n snum d m → Decided n m d' (g snum)) (hm : d.log <:+ m.log) (hd' : m.log <:+ d'.log) :
    Decided n d d' (o >>= g) := by
  cases o with
  | none => exact fun hw => h (hw.parts hm hd').1
  | some snum =>
    have hnext := h' snum h
    change Decided n d d' (g snum)
    cases hg : g snum with
    | none =>
      rw [hg] at hnext
      exact fun hw => hnext (hw.parts hm hd').2
    | some snum' =>
      rw [hg] at hnext
      exact Kept.trans h hnext

/-- A part after which nothing is read. -/
theorem Decided.quiet {n : Nat} {o : Option UInt16} (h : Decided n d m o) (hlog : d'.log = m.log)
    (hflow : (d'.tbfp .lora).flow = (m.tbfp .lora).flow)
    (hfix : ∀ s, (d'.tbfp s).parser.fixFrame = (m.tbfp s).parser.fixFrame) : Decided n d d' o := by
  cases o with
  | none =>
    intro hw
    apply h
    unfold Within at hw ⊢
    rwa [hlog] at hw
  | some snum =>
    have hk : Kept n snum d m := h
    refine ⟨hk.within.trans (within_of_log hlog), by rw [hflow]; exact hk.prevSNum, fun s x hx => ?_⟩
    rw [hfix]
    exact hk.fixFrame s x hx

theorem Decided.within_iff {n : Nat} {o : Option UInt16} (h : Decided n d d' o) : Within d d' ↔ o.isSome := by
  cases o with
  | none => exact iff_of_false h (by simp)
  | some snum => exact iff_of_true (Kept.within h) rfl

/-- What is still to be fed does not matter. -/
theorem Decided.unfed {n : Nat} {o : Option UInt16} {u u' : List Region} (h : Decided n { d with unfed := u } d' o) :
    Decided n d { d' with unfed := u' } o := by
  cases o with
  | none => exact h
  | some snum => exact ⟨h.within, h.prevSNum, h.fixFrame⟩

/-- Calls of `tbfp_proc` from within, as `inside` predicts them. -/
def DecidedProc (env : Env W) (proc : Proc W) (preambleVal : UInt8)
    (inside : UInt16 → List UInt8 → List UInt8 → Option UInt16) : Prop :=
  ∀ (d : Device W) (slot : Interfaces) (len : UInt16) (l bytes : List UInt8), Configured d →
    d.preambleVal .lora = preambleVal → Loaded (tbfpVerdict env.crc8SaeJ1850Calc preambleVal) (d.tbfp .lora).parser l →
    (slot = .lora → l = []) → bytes.length = len.toNat →
    (∀ i, i < bytes.length → d.byteAt (.fixFrame slot (tbfpIndexPayload + 1)) i = bytes.getD i 0) →
    Decided (l.length + len.toNat) d (proc d (.fixFrame slot (tbfpIndexPayload + 1)) len .lora false).2
      (inside (d.tbfp .lora).flow.prevSNum l bytes)

/-- The parser of `IF_LORA` starts anew. -/
theorem Decided.resetRx {n : Nat} {o : Option UInt16} (h : Decided n d m o) : Decided n d (m.resetRx .lora) o := by
  refine h.quiet rfl ?_ fun s => ?_
  · rw [Device.resetRx, Device.setTbfp_self]
    rfl
  · rw [Device.resetRx]
    by_cases hs : s = .lora
    · rw [hs, Device.setTbfp_self]
      rfl
    · rw [Device.setTbfp_of_ne _ _ hs]

/-- A completed frame of `n` bytes covers as many bytes of the `fix_frame` of `IF_LORA`. -/
private theorem kept_acceptFrame {n : Nat} {r : TbfpReceiver} (hc : Calm (d.tbfp .lora) r)
    (hlen : r.parser.crc8Index.toNat + 1 = n) : Kept n (d.tbfp .lora).flow.prevSNum d (d.acceptFrame .lora r) := by
  have hslot : (d.acceptFrame .lora r).tbfp .lora = r.takeFrame := Device.setTbfp_self d .lora _
  refine ⟨(within_iff [.accepted .lora _, .fixed _ _] rfl).2 (by simp [Seen.InBounds]), ?_, fun s x hx => ?_⟩
  · rw [hslot, show r.takeFrame.flow = r.flow from rfl, hc.flow]
  · by_cases hs : s = .lora
    · rw [hs, hslot, ← hc.fixFrame]
      have hcopy : r.parser.crc8Index.toNat + tbfpSizeCrc ≤ x := by
        rw [show r.parser.crc8Index.toNat + tbfpSizeCrc = n from hlen]
        exact hx hs
      exact Buffer.copy_of_ge hcopy
    · exact congrArg (fun r : TbfpReceiver => r.parser.fixFrame x) (Device.setTbfp_of_ne d r.takeFrame hs)

section

variable {f : List UInt8}

theorem HoldsFrame.tunnelBytes_length (h : HoldsFrame env d slot f) :
    (tunnelBytes f).length = payloadLen f - tbfpSizeId := by
  have hlen := h.length
  have hover : tbfpSizeOverhead = 7 := rfl
  have hindex : tbfpIndexPayload = 6 := rfl
  have hsize : tbfpSizeId = 1 := rfl
  simp only [tunnelBytes, List.length_take, List.length_drop]
  omega

/-- The bytes of a tunnel stand behind the header and the id. -/
theorem HoldsFrame.tunnel_byteAt (h : HoldsFrame env d slot f) (hm : (m.tbfp slot).parser = (d.tbfp slot).parser)
    {i : Nat} (hi : i < (tunnelBytes f).length) :
    m.byteAt (.fixFrame slot (tbfpIndexPayload + 1)) i = (tunnelBytes f).getD i 0 := by
  have hlen := h.length
  have hover : tbfpSizeOverhead = 7 := rfl
  have hindex : tbfpIndexPayload = 6 := rfl
  have hsize : tbfpSizeId = 1 := rfl
  have hi' : i < payloadLen f - tbfpSizeId := h.tunnelBytes_length ▸ hi
  have hbyte : m.byteAt (.fixFrame slot (tbfpIndexPayload + 1)) i = f.getD (tbfpIndexPayload + 1 + i) 0 := by
    change (m.tbfp slot).parser.fixFrame (tbfpIndexPayload + 1 + i) = _
    rw [hm]
    exact (Buffer.getD_of_bytesAt h.bytes (by omega)).symm
  rw [hbyte, tunnelBytes, List.getD_eq_getElem?_getD, List.getD_eq_getElem?_getD, List.getElem?_take_of_lt hi',
    List.getElem?_drop]

end

/-! ### A frame -/

section

variable (env) (hproc : ∀ (d : Device W) src len s reset, Configured d → Effects False d (proc d src len s reset).2)
variable {f : List UInt8}

/-- The answers to a frame read nothing of it behind its payload. -/
private theorem within_answered (h : HoldsFrame env d slot f) :
    Within d (d.answered env slot (UInt16.ofNat f.length) interface) := by
  refine (within_iff [.received interface (frameHeader f).snum] ?_).2 (by simp [Seen.InBounds])
  unfold Device.answered
  rw [h.header]
  rfl

/-- A tunnel is opened when it has an id. -/
private theorem within_tunnel (proc : Proc W) (h : HoldsFrame env d slot f) (hloop : interface ≠ .loopback)
    (hf : frameId f = frameIdTunnel) (hp : d.preambleVal interface = d.preambleVal slot)
    (hflow : (d.tbfp interface).flow.prevSNum < (frameHeader f).snum) :
    ∃ m, Handled slot 0 (d.countFrame interface (UInt16.ofNat f.length) (frameHeader f).snum) m ∧
      (∀ s, (m.tbfp s).parser = (d.tbfp s).parser) ∧ d.log <:+ m.log ∧ (Within d m ↔ tbfpSizeId ≤ payloadLen f) ∧
      d.tbfpProcFull env proc slot (UInt16.ofNat f.length) interface =
        proc m (.fixFrame slot (tbfpIndexPayload + 1)) ((frameHeader f).len - 1) .lora false := by
  obtain ⟨m, hm, hparser, hlog, heq⟩ := tbfpProcFull_tunnel proc h (fun hc => absurd hc hloop) hf hp hflow
  refine ⟨m, hm, hparser, ⟨_, hlog.symm⟩, ?_, heq⟩
  have hsize : tbfpSizeId = 1 := rfl
  rw [within_iff _ hlog]
  by_cases hpos : 1 ≤ payloadLen f
  · have hone := frameHeader_len_pred hpos
    simp [Seen.InBounds, frameHeader_len, hsize, hpos, hone]
  · simp [Seen.InBounds, frameHeader_len, hsize, hpos]

include hproc

/-- A frame that passes the flow control and is no tunnel. -/
private theorem within_handed_iff (hd : Configured d) (h : HoldsFrame env d slot f) (hloop : interface ≠ .loopback)
    (huart : interface ≠ .uart1) (hf : frameId f ≠ frameIdTunnel) (hp : d.preambleVal interface = d.preambleVal slot)
    (hflow : (d.tbfp interface).flow.prevSNum < (frameHeader f).snum) :
    Within d (d.tbfpProcFull env proc slot (UInt16.ofNat f.length) interface).2 ↔
      neededLen env (frameId f) ≤ payloadLen f := by
  rw [tbfpProcFull_handed h (fun hc => absurd hc hloop) hp hflow]
  have hlog : ((d.answered env slot (UInt16.ofNat f.length) interface).note
      (.handed interface (frameHeader f).snum)).log = _ := log_handed h _
  have hhanded : Handled slot 0 (d.countFrame interface (UInt16.ofNat f.length) (frameHeader f).snum)
      ((d.answered env slot (UInt16.ofNat f.length) interface).note (.handed interface (frameHeader f).snum)) :=
    handled_handed h _
  have hparser : (((d.answered env slot (UInt16.ofNat f.length) interface).note
      (.handed interface (frameHeader f).snum)).tbfp slot).parser = (d.tbfp slot).parser :=
    parser_answered env d slot interface slot _
  generalize (d.answered env slot (UInt16.ofNat f.length) interface).note
    (.handed interface (frameHeader f).snum) = m at hlog hhanded hparser ⊢
  have hconf := hhanded.configured (configured_countFrame hd _ _ _)
  have hid : m.payload slot 0 = frameId f := by
    rw [← h.payload_id]
    simp only [Device.payload, hparser]
  have hbefore : Within d m := (within_iff _ hlog).2 (by simp [Seen.InBounds])
  have heffects : Effects False m (m.tbfpProcPayload env proc slot (frameHeader f).len interface).2 :=
    effects_tbfpProcPayload env hproc hconf _ huart
  rw [within_split ⟨_, hlog.symm⟩ heffects.suffix, and_iff_right hbefore,
    within_tbfpProcPayload_iff env hproc hconf hloop huart (hid ▸ hf), hid, frameHeader_len]

omit hproc in
private theorem kept_handled {n : Nat} {len snum : UInt16} (h : Handled .lora n (d.countFrame .lora len snum) d')
    (hw : Within d d') : Kept n snum d d' := by
  refine ⟨hw, ?_, fun s x hx => ?_⟩
  · rw [h.flow, countFrame_flow, if_pos rfl, tbfpCheckFlowControl_prevSNum]
  · rw [h.fixFrame s x hx, parser_countFrame]

/-- A frame for `IF_LORA`. -/
private theorem decided_tbfpProcFull (hd : Configured d) (h : HoldsFrame env d .lora f)
    (hl : Loaded (tbfpVerdict env.crc8SaeJ1850Calc (d.preambleVal .lora)) (d.tbfp .lora).parser [])
    {inside : UInt16 → List UInt8 → List UInt8 → Option UInt16}
    (hin : DecidedProc env proc (d.preambleVal .lora) inside) :
    Decided f.length d (d.tbfpProcFull env proc .lora (UInt16.ofNat f.length) .lora).2
      (longFrame env (fun prev bytes => inside prev [] bytes) (d.tbfp .lora).flow.prevSNum f) := by
  have hapart : Apart d .lora (frameHeader f) (frameId f) := by
    have := hd.apart .lora (frameHeader f) (frameId f)
    rwa [hd.tbfp, if_neg (by decide)] at this
  have hframe := h.length
  unfold longFrame
  dsimp only
  by_cases hflow : (d.tbfp .lora).flow.prevSNum < (frameHeader f).snum
  · rw [if_pos hflow]
    by_cases htunnel : frameId f = frameIdTunnel
    · obtain ⟨m, hm, hparser, hlog, hwithin, heq⟩ := within_tunnel env proc h (by decide) htunnel rfl hflow
      have hneeded : neededLen env (frameId f) = tbfpSizeId := by
        rw [htunnel]
        rfl
      have hconf := hm.configured (configured_countFrame hd _ _ _)
      have hproc' : Effects False m (proc m (.fixFrame .lora (tbfpIndexPayload + 1)) ((frameHeader f).len - 1) .lora
        false).2 := hproc _ _ _ _ _ hconf
      rw [hneeded, heq]
      by_cases hpos : tbfpSizeId ≤ payloadLen f
      · rw [if_pos hpos, if_pos htunnel]
        have hkept : Kept f.length (frameHeader f).snum d m := (kept_handled hm (hwithin.2 hpos)).mono (Nat.zero_le _)
        have hone := frameHeader_len_pred hpos
        have hbytes := h.tunnelBytes_length
        have hsize : tbfpSizeId = 1 := rfl
        have hcall := hin m .lora ((frameHeader f).len - 1) [] (tunnelBytes f) hconf (hm.setup .lora).2
          (hparser .lora ▸ hl) (fun _ => rfl) (by omega) fun i hi => h.tunnel_byteAt (hparser .lora) hi
        rw [hkept.prevSNum] at hcall
        have hle : 0 + ((frameHeader f).len - 1).toNat ≤ f.length := by omega
        exact Decided.bind (o := some (frameHeader f).snum) (g := fun snum => inside snum [] (tunnelBytes f)) hkept
          (fun snum hsnum => by
            rw [← hsnum.prevSNum, hkept.prevSNum]
            exact hcall.mono hle) hlog hproc'.suffix
      · rw [if_neg hpos]
        exact fun hw => hpos (hwithin.1 (hw.parts hlog hproc'.suffix).1)
    · have hwithin : Within d (d.tbfpProcFull env proc .lora (UInt16.ofNat f.length) .lora).2 ↔ _ :=
        within_handed_iff env hproc hd h (by decide) (by decide) htunnel rfl hflow
      by_cases hneeded : neededLen env (frameId f) ≤ payloadLen f
      · rw [if_pos hneeded, if_neg htunnel]
        exact kept_handled (handled_tbfpProcFull h hapart htunnel rfl) (hwithin.2 hneeded)
      · rw [if_neg hneeded]
        exact fun hw => hneeded (hwithin.1 hw)
  · rw [if_neg hflow, tbfpProcFull_refused h (fun hi => (hapart.loopback hi).1) rfl hflow]
    exact kept_handled (handled_answered h) (within_answered env h)

/-! ### The bytes of a tunnel -/

variable {l bytes : List UInt8}

/-- One byte for the parser of `IF_LORA`. -/
private theorem decided_tbfpProcByte (hd : Configured d)
    (hl : Loaded (tbfpVerdict env.crc8SaeJ1850Calc (d.preambleVal .lora)) (d.tbfp .lora).parser l)
    {inside : UInt16 → List UInt8 → List UInt8 → Option UInt16}
    (hin : DecidedProc env proc (d.preambleVal .lora) inside) (b : UInt8) :
    Decided (l.length + 1) d (d.tbfpProcByte env proc .lora b).2
      ((complete (tbfpVerdict env.crc8SaeJ1850Calc (d.preambleVal .lora)) (l ++ [b])).foldlM
        (longFrame env fun prev bytes => inside prev [] bytes) (d.tbfp .lora).flow.prevSNum) := by
  have hstep := tbfpProcByte_spec hl proc b
  generalize d.tbfpProcByte env proc .lora b = res at hstep ⊢
  cases hstep with
  | loads r hv _ hc =>
    rw [complete_of_ne hv]
    refine ⟨within_of_log rfl, ?_, fun s x _ => ?_⟩
    · rw [Device.setTbfp_self, hc.flow]
    · by_cases hs : s = .lora
      · rw [hs, Device.setTbfp_self, hc.fixFrame]
      · rw [Device.setTbfp_of_ne _ _ hs]
  | accepts r hv hl hi hc =>
    have hsize : (l ++ [b]).length = l.length + 1 := by rw [List.length_append, List.length_singleton]
    have hlen : r.parser.crc8Index.toNat + 1 = (l ++ [b]).length := by rw [hi, hsize]
    rw [complete_frame hv, crc8Index_succ hlen]
    have hholds : HoldsFrame env (d.acceptFrame .lora r) .lora (l ++ [b]) :=
      holdsFrame_acceptFrame hv (by rw [hsize]; exact hl) hlen
    have haccept : Kept (l ++ [b]).length (d.tbfp .lora).flow.prevSNum d (d.acceptFrame .lora r) :=
      kept_acceptFrame hc hlen
    have hconf : Configured (d.acceptFrame .lora r) := ⟨hd.tbfp, hd.rtcm3⟩
    have hfree : Loaded (tbfpVerdict env.crc8SaeJ1850Calc ((d.acceptFrame .lora r).preambleVal .lora))
        ((d.acceptFrame .lora r).tbfp .lora).parser [] := d.acceptFrame_loaded .lora r
    have hinterface : d.interface .lora = .lora := by
      rw [hd.tbfp, if_neg (by decide)]
    rw [hinterface]
    have hfull : Decided _ (d.acceptFrame .lora r) _ _ := decided_tbfpProcFull env hproc hconf hholds hfree hin
    have heffects : Effects False (d.acceptFrame .lora r) ((d.acceptFrame .lora r).tbfpProcFull env proc .lora
        (UInt16.ofNat (l ++ [b]).length) .lora).2 := effects_tbfpProcFull env hproc hconf _ (by decide)
    have hboth := Decided.bind (o := some (d.tbfp .lora).flow.prevSNum)
      (g := fun prev => longFrame env (fun prev bytes => inside prev [] bytes) prev (l ++ [b])) haccept
      (fun snum hsnum => by rw [← hsnum.prevSNum]; exact hfull) ⟨[_, _], rfl⟩ heffects.suffix
    have hone : [l ++ [b]].foldlM (longFrame env fun prev bytes => inside prev [] bytes) (d.tbfp .lora).flow.prevSNum =
        longFrame env (fun prev bytes => inside prev [] bytes) (d.tbfp .lora).flow.prevSNum (l ++ [b]) := by
      rw [List.foldlM_cons]
      simp only [List.foldlM_nil, bind_pure]
    rw [hone]
    exact (hboth.mono (Nat.le_of_eq hsize)).resetRx

private theorem decided_feedByte (hd : Configured d)
    (hl : Loaded (tbfpVerdict env.crc8SaeJ1850Calc (d.preambleVal .lora)) (d.tbfp .lora).parser l)
    {inside : UInt16 → List UInt8 → List UInt8 → Option UInt16}
    (hin : DecidedProc env proc (d.preambleVal .lora) inside) (src : Source) (len : UInt16) {i : Nat} {b : UInt8}
    (hb : d.byteAt src i = b) :
    Decided (l.length + 1) d (d.feedByte env proc src len .lora i).2
      ((complete (tbfpVerdict env.crc8SaeJ1850Calc (d.preambleVal .lora)) (l ++ [b])).foldlM
        (longFrame env fun prev bytes => inside prev [] bytes) (d.tbfp .lora).flow.prevSNum) := by
  have hconf : Configured { d with unfed := src.rest (i + 1) len.toNat ++ d.unfed } := ⟨hd.tbfp, hd.rtcm3⟩
  unfold Device.feedByte
  dsimp only
  rw [hb]
  exact (decided_tbfpProcByte env hproc hconf hl hin b).unfed

/-- The loop of `tbfp_proc` after the first bytes of a tunnel.  A frame that is completed on the way is saved in front
of the bytes that are still to be fed, so these are what they were. -/
private theorem decided_fed (hd : Configured d) {p : UInt8} (hp : d.preambleVal .lora = p)
    (hl : Loaded (tbfpVerdict env.crc8SaeJ1850Calc p) (d.tbfp .lora).parser l) (hslot : slot = .lora → l = [])
    {inside : UInt16 → List UInt8 → List UInt8 → Option UInt16} (hin : DecidedProc env proc p inside) (len : UInt16)
    (hbytes : ∀ i, i < bytes.length → d.byteAt (.fixFrame slot (tbfpIndexPayload + 1)) i = bytes.getD i 0) {n : Nat}
    (hn : n ≤ bytes.length) :
    let d' := (d.fed env proc (.fixFrame slot (tbfpIndexPayload + 1)) len .lora n).2
    let o := (frames (tbfpVerdict env.crc8SaeJ1850Calc p) l (bytes.take n)).foldlM
      (longFrame env fun prev bytes => inside prev [] bytes) (d.tbfp .lora).flow.prevSNum
    Decided (l.length + n) d d' o ∧ ∀ snum, o = some snum →
      Loaded (tbfpVerdict env.crc8SaeJ1850Calc p) (d'.tbfp .lora).parser
        (held (tbfpVerdict env.crc8SaeJ1850Calc p) l (bytes.take n)) := by
  induction n with
  | zero => exact ⟨⟨within_of_log rfl, rfl, fun _ _ _ => rfl⟩, fun _ _ => hl⟩
  | succ n ih =>
    obtain ⟨hdecided, hloaded⟩ := ih (Nat.le_of_succ_le hn)
    have hfed : d.fed env proc (.fixFrame slot (tbfpIndexPayload + 1)) len .lora (n + 1) =
        (_, ((d.fed env proc (.fixFrame slot (tbfpIndexPayload + 1)) len .lora n).2.feedByte env proc
          (.fixFrame slot (tbfpIndexPayload + 1)) len .lora n).2) := rfl
    have heffects := effects_fed env hproc hd (.fixFrame slot (tbfpIndexPayload + 1)) len .lora n
    have hconf := heffects.configured hd
    have hpm := (heffects.preambleVal .lora).trans hp
    have hsuffix := heffects.suffix
    have hnext := (effects_feedByte env hproc hconf (.fixFrame slot (tbfpIndexPayload + 1)) len .lora n).suffix
    have hlt : n < bytes.length := hn
    have hget : bytes[n] = bytes.getD n 0 := (List.getD_eq_getElem _ _ hlt).symm
    have hsize : (held (tbfpVerdict env.crc8SaeJ1850Calc p) l (bytes.take n)).length ≤ l.length + n := by
      refine Nat.le_trans (held_length_le l (bytes.take n)) ?_
      rw [List.length_take]
      omega
    dsimp only at hdecided hloaded ⊢
    rw [hfed, frames_take_succ l hlt, held_take_succ l hlt, hget, List.foldlM_append]
    generalize (d.fed env proc (.fixFrame slot (tbfpIndexPayload + 1)) len .lora n).2 = m at *
    generalize held (tbfpVerdict env.crc8SaeJ1850Calc p) l (bytes.take n) = l' at *
    generalize (frames (tbfpVerdict env.crc8SaeJ1850Calc p) l (bytes.take n)).foldlM
      (longFrame env fun prev bytes => inside prev [] bytes) (d.tbfp .lora).flow.prevSNum = o at *
    -- the next byte is where it was
    have hbyte : ∀ snum, Kept (l.length + n) snum d m →
        m.byteAt (.fixFrame slot (tbfpIndexPayload + 1)) n = bytes.getD n 0 := by
      intro snum hkept
      rw [← hbytes n hlt]
      refine hkept.fixFrame slot (tbfpIndexPayload + 1 + n) fun hs => ?_
      rw [hslot hs, List.length_nil]
      omega
    subst hpm
    cases o with
    | none => exact ⟨fun hw => hdecided (hw.parts hsuffix hnext).1, fun _ ho => by cases ho⟩
    | some snum =>
      have hkept : Kept (l.length + n) snum d m := hdecided
      have hl' := hloaded snum rfl
      have hstep := decided_feedByte env hproc hconf hl' hin (.fixFrame slot (tbfpIndexPayload + 1)) len
        (hbyte snum hkept)
      have hmore := loaded_feedByte env proc hl' (.fixFrame slot (tbfpIndexPayload + 1)) len n
      rw [hbyte snum hkept] at hmore
      rw [hkept.prevSNum] at hstep
      refine ⟨?_, fun _ _ => hmore⟩
      exact Decided.bind (o := some snum) (hkept.mono (Nat.le_succ _)) (fun snum' hsnum => by
        rw [← hsnum.prevSNum, hkept.prevSNum]
        exact hstep.mono (Nat.succ_le_succ hsize)) hsuffix hnext

end

/-- The calls of `tbfp_proc` from within, up to any depth. -/
private theorem decided_tbfpProc (env : Env W) (preambleVal : UInt8) (depth : Nat) :
    DecidedProc env (tbfpProc env depth) preambleVal (longBytes env preambleVal depth) := by
  induction depth with
  | zero =>
    intro d slot len l bytes _ _ _ _ _ _
    exact ⟨(within_iff [.tooDeep] rfl).2 (by simp [Seen.InBounds]), rfl, fun _ _ _ => rfl⟩
  | succ depth ih =>
    intro d slot len l bytes hd hp hl hslot hlen hbytes
    have hfed := (decided_fed env (fun _ _ _ _ _ hd => tbfpProc_effects depth hd _ _ _ _) hd hp hl hslot ih len hbytes
      (Nat.le_refl bytes.length)).1
    rw [List.take_length] at hfed
    change Decided _ d (tbfpProcBody env (tbfpProc env depth) d _ len .lora false).2 _
    unfold tbfpProcBody Device.countLack
    simp only [Bool.false_eq_true, if_false, ite_self]
    rw [← hlen]
    exact hfed

/-! ### The effect of a frame -/

/-- The payload of the frame is as long as its handler needs it, and so are those of the frames inside that are handed
on, when `IF_LORA` holds the bytes `l`. -/
def Device.LongEnough (env : Env W) (depth : Nat) (d : Device W) (slot interface : Interfaces) (l f : List UInt8) :
    Prop :=
  d.preambleVal interface = d.preambleVal slot → (d.tbfp interface).flow.prevSNum < (frameHeader f).snum →
    neededLen env (frameId f) ≤ payloadLen f ∧
      (frameId f = frameIdTunnel → (longBytes env (d.preambleVal .lora) depth
        (if interface = .lora then (frameHeader f).snum else (d.tbfp .lora).flow.prevSNum) l (tunnelBytes f)).isSome)

/-- No handler reads behind its payload exactly when the payloads are long enough. -/
theorem within_tbfpProcFull_iff (env : Env W) (depth : Nat) (hd : Configured d) {f : List UInt8}
    (h : HoldsFrame env d slot f) {l : List UInt8}
    (hl : Loaded (tbfpVerdict env.crc8SaeJ1850Calc (d.preambleVal .lora)) (d.tbfp .lora).parser l)
    (hslot : slot = .lora → l = []) (hloop : interface ≠ .loopback) (huart : interface ≠ .uart1) :
    Within d (d.tbfpProcFull env (tbfpProc env depth) slot (UInt16.ofNat f.length) interface).2 ↔
      d.LongEnough env depth slot interface l f := by
  have hproc : ∀ (d : Device W) src len s reset, Configured d →
      Effects False d (tbfpProc env depth d src len s reset).2 := fun _ _ _ _ _ hd => tbfpProc_effects depth hd _ _ _ _
  unfold Device.LongEnough
  by_cases hp : d.preambleVal interface = d.preambleVal slot
  · rw [forall_prop_of_true hp]
    by_cases hflow : (d.tbfp interface).flow.prevSNum < (frameHeader f).snum
    · rw [forall_prop_of_true hflow]
      by_cases htunnel : frameId f = frameIdTunnel
      · rw [forall_prop_of_true htunnel]
        obtain ⟨m, hm, hparser, hlog, hwithin, heq⟩ := within_tunnel env (tbfpProc env depth) h hloop htunnel hp hflow
        have hconf := hm.configured (configured_countFrame hd _ _ _)
        have heffects : Effects False m (tbfpProc env depth m (.fixFrame slot (tbfpIndexPayload + 1))
          ((frameHeader f).len - 1) .lora false).2 := hproc _ _ _ _ _ hconf
        have hneeded : neededLen env (frameId f) = tbfpSizeId := by
          rw [htunnel]
          rfl
        rw [heq, within_split hlog heffects.suffix, hwithin, hneeded]
        refine and_congr_right fun hpos => ?_
        have hone := frameHeader_len_pred hpos
        have hbytes := h.tunnelBytes_length
        have hsize : tbfpSizeId = 1 := rfl
        have hprev : (m.tbfp .lora).flow.prevSNum =
            if interface = .lora then (frameHeader f).snum else (d.tbfp .lora).flow.prevSNum := by
          rw [hm.flow, countFrame_flow]
          by_cases hi : interface = .lora
          · rw [if_pos hi.symm, if_pos hi, tbfpCheckFlowControl_prevSNum]
          · rw [if_neg fun hc => hi hc.symm, if_neg hi]
        have hcall : Decided _ m _ _ := decided_tbfpProc env (d.preambleVal .lora) depth m slot ((frameHeader f).len - 1) l
          (tunnelBytes f) hconf (hm.setup .lora).2 (hparser .lora ▸ hl) hslot (by omega)
          fun i hi => h.tunnel_byteAt (hparser slot) hi
        rw [hprev] at hcall
        exact hcall.within_iff
      · rw [within_handed_iff env hproc hd h hloop huart htunnel hp hflow]
        exact (and_iff_left fun hc => absurd hc htunnel).symm
    · rw [tbfpProcFull_refused h (fun hc => absurd hc hloop) hp hflow]
      exact iff_of_true (within_answered env h) fun hc => absurd hc hflow
  · rw [tbfpProcFull_foreign h hp]
    exact iff_of_true (within_of_log rfl) fun hc => absurd hc hp

/-- What the frame does depends on its payload alone: no handler reads behind it, and a device that differs only in
bytes of the buffers that are not the frame's does the same. -/
def Device.EffectOfPayload (env : Env W) (depth : Nat) (d : Device W) (slot : Interfaces) (f : List UInt8) : Prop :=
  let full := fun d : Device W => d.tbfpProcFull env (tbfpProc env depth) slot (UInt16.ofNat f.length) (d.interface slot)
  let behind : Interfaces → Nat := Function.update (fun _ => 0) slot f.length
  Within d (full d).2 ∧ ∀ e, Alike behind d e → SameRun behind (full d) (full e)

/-- The effect of an accepted frame depends on its payload alone exactly when the payloads are long enough. -/
theorem effectOfPayload_iff (env : Env W) (depth : Nat) (d : Device W) (slot : Interfaces) (l f : List UInt8)
    (hd : Configured d) (h : HoldsFrame env d slot f)
    (hl : Loaded (tbfpVerdict env.crc8SaeJ1850Calc (d.preambleVal .lora)) (d.tbfp .lora).parser l)
    (hslot : slot = .lora → l = []) :
    d.EffectOfPayload env depth slot f ↔ d.LongEnough env depth slot (d.interface slot) l f := by
  have hwithin := within_tbfpProcFull_iff env depth hd h hl hslot (hd.ne_loopback slot) (hd.ne_uart1 slot)
  rw [← hwithin]
  refine ⟨fun heffect => heffect.1, fun hin => ⟨hin, fun e halike => ?_⟩⟩
  dsimp only
  rw [halike.interface]
  refine sameRun_tbfpProcFull env (fun _ _ _ _ _ hd => tbfpProc_effects depth hd _ _ _ _) (alike_tbfpProc env depth) hd
    halike h ?_ hl (hd.ne_loopback slot) (hd.ne_uart1 slot) hin
  rw [Function.update_self]

/-! ### A short PONG -/

/-- An outside that remembers the coordinates of the last ping: they stand behind the id, the MAC address and the time. -/
def rememberPing : Env (List UInt8) := Env.idle fun ping _ => ping.drop 17

/-- The device after its start with the frame in the `fix_frame` of `IF_LORA`, and what older frames left behind it. -/
def holding (f older : List UInt8) : Device (List UInt8) :=
  (swInit restingRadio 0 []).setTbfp .lora { parser.fixFrame := Buffer.ofBytes (f ++ older) }

private theorem configured_holding (f older : List UInt8) : Configured (holding f older) := by
  have h : Configured (swInit restingRadio 0 ([] : List UInt8)) := configured_swInit restingRadio 0 []
  exact ⟨h.tbfp, h.rtcm3⟩

private theorem holdsFrame_holding {payload : List UInt8} (h : payload.length ≤ tbfpMaxPayload) (snum : UInt16)
    (older : List UInt8) :
    HoldsFrame rememberPing (holding (tbfFrame crc8SaeJ1850 0xA5 0 snum payload) older) .lora
      (tbfFrame crc8SaeJ1850 0xA5 0 snum payload) := by
  refine ⟨(isFrame_tbfFrame h 0 snum).frame, ?_⟩
  rw [holding, Device.setTbfp_self]
  exact Buffer.bytesAt_ofBytes_append _ older

private theorem loaded_holding (f older : List UInt8) :
    Loaded (tbfpVerdict rememberPing.crc8SaeJ1850Calc ((holding f older).preambleVal .lora))
      ((holding f older).tbfp .lora).parser [] := by
  rw [holding, Device.setTbfp_self]
  exact loaded_nil rfl rfl

private theorem alike_holding (f older older' : List UInt8) :
    Alike (Function.update (fun _ => 0) .lora f.length) (holding f older) (holding f older') := by
  have hsame : Alike (fun _ => 0) (swInit restingRadio 0 ([] : List UInt8)) (swInit restingRadio 0 []) := by
    refine ⟨rfl, rfl, rfl, fun s => ⟨_, _, rfl, ?_, ?_⟩, fun s => ⟨_, _, rfl, ?_⟩⟩
    · exact fun _ _ _ => rfl
    · exact fun _ _ _ => rfl
    · exact fun _ _ _ => rfl
  refine hsame.setTbfp ⟨_, Buffer.ofBytes (f ++ older'), rfl, fun _ _ _ => rfl, fun x _ hx => ?_⟩
  change Buffer.ofBytes (f ++ older') x = Buffer.ofBytes (f ++ older) x
  rw [Buffer.ofBytes_apply, Buffer.ofBytes_apply, List.getD_append _ _ _ _ hx, List.getD_append _ _ _ _ hx]

/-- A text is long enough. -/
theorem chat_effectOfPayload :
    (holding (tbfFrame crc8SaeJ1850 0xA5 0 1 [frameIdChat, 0x48, 0x69, 0x21]) [7, 7]).EffectOfPayload rememberPing 1
      .lora (tbfFrame crc8SaeJ1850 0xA5 0 1 [frameIdChat, 0x48, 0x69, 0x21]) := by
  refine (effectOfPayload_iff rememberPing 1 _ .lora [] _ (configured_holding _ _)
    (holdsFrame_holding (by decide) 1 _) (loaded_holding _ _) fun _ => rfl).2 fun _ _ =>
      ⟨by decide +kernel, fun hid => ?_⟩
  exact absurd hid (by decide +kernel)

/-- What a PING of 33 bytes left in `fix_frame` behind its first two: the MAC address, the time, the latitude and the
longitude (37.0). -/
def olderPing (latitude : List UInt8) : List UInt8 :=
  List.replicate 15 0 ++ latitude ++ [0x00, 0x00, 0x00, 0x00, 0x00, 0x80, 0x42, 0x40]

/-- A PONG with nothing but its id, in front of what a PING from the latitude 55.0 left: the coordinates that are stored
are those of the older frame. -/
theorem shortPong_not_effectOfPayload :
    let f := tbfFrame crc8SaeJ1850 0xA5 0 1 [frameIdPong]
    let older := olderPing [0x00, 0x00, 0x00, 0x00, 0x00, 0x80, 0x4B, 0x40]
    HoldsFrame rememberPing (holding f older) .lora f ∧ ¬(holding f older).EffectOfPayload rememberPing 1 .lora f := by
  intro f older
  refine ⟨holdsFrame_holding (by decide) 1 _, fun h => ?_⟩
  have hworld := congrArg Transmitter.world (h.2 (holding f (olderPing
    [0x00, 0x00, 0x00, 0x00, 0x00, 0x00, 0x4C, 0x40])) (alike_holding f _ _)).state.tx
  revert hworld
  decide +kernel

end TiMcu.Tbfp
