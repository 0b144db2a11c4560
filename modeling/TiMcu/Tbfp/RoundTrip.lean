import TiMcu.Tbfp.Handle
import TiMcu.Tbfp.System

/-!
# A stream of frames

The bytes of a stream go to `tbfp_proc_byte` one after the other.  While no frame of the stream is a tunnel and its
handling sends nothing to a parser of the device, the parser completes the frames that `Framing` finds in the stream
(`tbfpProcBytes_took`), and frames built as `tbfp_send` builds them come back as they were (`stream_roundTrip`).
-/

namespace TiMcu.Tbfp

open NorFlash LittleEndian Framing

variable {W : Type} {env : Env W} {proc : Proc W} {d d' d'' : Device W} {slot : Interfaces}

/-! ### The frames that a parser completed -/

def Seen.acceptedFrame (slot : Interfaces) : Seen → Option (List UInt8)
  | .accepted k frame => if k = slot then some frame else none
  | _ => none

/-- The frames that a parser completed, the oldest first. -/
def acceptedFrames (slot : Interfaces) (log : List Seen) : List (List UInt8) :=
  (log.filterMap (·.acceptedFrame slot)).reverse

private theorem acceptedFrames_append (slot : Interfaces) (newer log : List Seen) :
    acceptedFrames slot (newer ++ log) = acceptedFrames slot log ++ acceptedFrames slot newer := by
  simp [acceptedFrames]

/-- A stream of bytes for a parser. -/
def Device.tbfpProcBytes (env : Env W) (proc : Proc W) (d : Device W) (slot : Interfaces) (bytes : List UInt8) :
    Device W :=
  bytes.foldl (fun d rxByte => (d.tbfpProcByte env proc slot rxByte).2) d

/-- The handling of the frame feeds no parser. -/
structure FeedsNone (d : Device W) (interface : Interfaces) (f : List UInt8) : Prop where
  apart : Apart d interface (frameHeader f) (frameId f)
  tunnel : frameId f ≠ frameIdTunnel

/-- The parser of another entry of the table is as it was, up to a reset, and its `fix_frame` stays. -/
structure Untouched (r r' : TbfpReceiver) : Prop where
  parser : SameOrReset r.parser r'.parser
  fixFrame : r'.parser.fixFrame = r.parser.fixFrame
  rxPktCnt : r'.rxPktCnt = r.rxPktCnt

theorem Untouched.refl (r : TbfpReceiver) : Untouched r r := ⟨.refl _, rfl, rfl⟩

theorem Untouched.trans {r r' r'' : TbfpReceiver} (h : Untouched r r') (h' : Untouched r' r'') : Untouched r r'' :=
  ⟨h.parser.trans h'.parser, h'.fixFrame.trans h.fixFrame, h'.rxPktCnt.trans h.rxPktCnt⟩

/-- From `d` to `d'` the parser completed the frames, and no parser was fed by their handling. -/
structure Took (slot : Interfaces) (fs : List (List UInt8)) (d d' : Device W) : Prop where
  setup : SameSetup d.tx d'.tx
  rtcm3 : ∀ s, (d'.rtcm3 s).interface = (d.rtcm3 s).interface ∧ (d'.rtcm3 s).forwarding = (d.rtcm3 s).forwarding
  rxPktCnt : (d'.tbfp slot).rxPktCnt = (d.tbfp slot).rxPktCnt + UInt32.ofNat fs.length
  others : ∀ s, s ≠ slot → Untouched (d.tbfp s) (d'.tbfp s)
  flow : ∀ s, s ≠ d.interface slot → (d'.tbfp s).flow = (d.tbfp s).flow
  accepted : acceptedFrames slot d'.log = acceptedFrames slot d.log ++ fs
  received : d.preambleVal (d.interface slot) = d.preambleVal slot →
    received (d.interface slot) d'.log =
      received (d.interface slot) d.log ++ fs.map fun f => (frameHeader f).snum

theorem Took.refl (slot : Interfaces) (d : Device W) : Took slot [] d d :=
  ⟨fun _ => ⟨rfl, rfl⟩, fun _ => ⟨rfl, rfl⟩, by simp, fun _ _ => .refl _, fun _ _ => rfl, by simp, by simp⟩

theorem Took.interface {fs : List (List UInt8)} (h : Took slot fs d d') (s : Interfaces) :
    d'.interface s = d.interface s := (h.setup s).1

theorem Took.preambleVal {fs : List (List UInt8)} (h : Took slot fs d d') (s : Interfaces) :
    d'.preambleVal s = d.preambleVal s := (h.setup s).2

private theorem Took.feedsNone {fs : List (List UInt8)} (h : Took slot fs d d') {i : Interfaces} {f : List UInt8}
    (hq : FeedsNone d i f) : FeedsNone d' i f := by
  refine ⟨⟨hq.apart.loopback, fun hid hfeeds => hq.apart.relay hid ?_⟩, hq.tunnel⟩
  unfold Rtcm3Protocol.FeedsLoopback at hfeeds ⊢
  rwa [(h.rtcm3 i).1, (h.rtcm3 i).2] at hfeeds

theorem Took.trans {fs fs' : List (List UInt8)} (h : Took slot fs d d') (h' : Took slot fs' d' d'') :
    Took slot (fs ++ fs') d d'' := by
  refine ⟨h.setup.trans h'.setup, fun s => ?_, ?_, fun s hs => (h.others s hs).trans (h'.others s hs), fun s hs => ?_, ?_,
    fun hp => ?_⟩
  · exact ⟨(h'.rtcm3 s).1.trans (h.rtcm3 s).1, (h'.rtcm3 s).2.trans (h.rtcm3 s).2⟩
  · rw [h'.rxPktCnt, h.rxPktCnt, List.length_append, UInt32.ofNat_add, UInt32.add_assoc]
  · rw [h'.flow s (by rwa [h.interface]), h.flow s hs]
  · rw [h'.accepted, h.accepted, List.append_assoc]
  · have hp' := h'.received (by rw [h.interface, h.preambleVal, h.preambleVal]; exact hp)
    rw [h.interface] at hp'
    rw [hp', h.received hp, List.append_assoc, List.map_append]

/-! ### One byte -/

private theorem acceptedFrames_ofHandler {s : Interfaces} {n : Nat} {unfed : List Region} {newer : List Seen}
    (h : ∀ x ∈ newer, x.OfHandler s n unfed) (slot : Interfaces) : acceptedFrames slot newer = [] := by
  have hnone : newer.filterMap (·.acceptedFrame slot) = [] := by
    rw [List.filterMap_eq_nil_iff]
    intro x hx
    cases x with
    | accepted s f => exact absurd (h _ hx) id
    | _ => rfl
  simp [acceptedFrames, hnone]

private theorem received_ofHandler {s : Interfaces} {n : Nat} {unfed : List Region} {newer : List Seen}
    (h : ∀ x ∈ newer, x.OfHandler s n unfed) (i : Interfaces) : received i newer = [] := by
  have hnone : newer.filterMap (·.serNum i) = [] := by
    rw [List.filterMap_eq_nil_iff]
    intro x hx
    cases x with
    | received k snum => exact absurd (h _ hx) id
    | _ => rfl
  simp [received, hnone]

/-- A parser that only loads completes nothing. -/
theorem took_setTbfp {r : TbfpReceiver} (hr : r.rxPktCnt = (d.tbfp slot).rxPktCnt) (hf : r.flow = (d.tbfp slot).flow) :
    Took slot [] d (d.setTbfp slot r) := by
  refine ⟨fun _ => ⟨rfl, rfl⟩, fun _ => ⟨rfl, rfl⟩, ?_, fun s hs => ?_, fun s _ => ?_, ?_, ?_⟩
  · simp [Device.setTbfp, hr]
  · simpa [Device.setTbfp, hs] using Untouched.refl _
  · by_cases hs : s = slot
    · subst hs
      rw [Device.setTbfp_self, hf]
    · rw [d.setTbfp_of_ne r hs]
  · simp [Device.setTbfp]
  · simp [Device.setTbfp]

theorem tbfp_acceptFrame (r : TbfpReceiver) {s : Interfaces} (hs : s ≠ slot) :
    (d.acceptFrame slot r).tbfp s = d.tbfp s := by
  simp [Device.acceptFrame, Device.note, Device.setTbfp, hs]

theorem flow_acceptFrame {r : TbfpReceiver} (hc : Calm (d.tbfp slot) r) (s : Interfaces) :
    ((d.acceptFrame slot r).tbfp s).flow = (d.tbfp s).flow := by
  by_cases hs : s = slot
  · subst hs
    simp [Device.acceptFrame, Device.note, Device.setTbfp, TbfpReceiver.takeFrame, tbfpParserResetRx, hc.flow]
  · rw [tbfp_acceptFrame r hs]

private theorem flow_countFrame (d : Device W) {interface s : Interfaces} (len snum : UInt16) (hs : s ≠ interface) :
    ((d.countFrame interface len snum).tbfp s).flow = (d.tbfp s).flow := by
  simp [Device.countFrame, Device.note, Device.setTbfp, hs]

theorem acceptedFrames_acceptFrame (d : Device W) (slot : Interfaces) (r : TbfpReceiver) :
    acceptedFrames slot (d.acceptFrame slot r).log =
      acceptedFrames slot d.log ++ [bytesAt r.parser.rxFrame 0 (r.parser.crc8Index.toNat + tbfpSizeCrc)] := by
  simp [acceptedFrames, Device.acceptFrame, Device.note, Device.setTbfp, Seen.acceptedFrame]

private theorem received_acceptFrame (d : Device W) (slot i : Interfaces) (r : TbfpReceiver) :
    received i (d.acceptFrame slot r).log = received i d.log := by
  simp [received, Device.acceptFrame, Device.note, Device.setTbfp, Seen.serNum]

/-- A frame of the parser was handled without feeding a parser. -/
theorem took_of_handled {r : TbfpReceiver} {f : List UInt8} (hl : bytesAt r.parser.rxFrame 0 f.length = f)
    (hi : r.parser.crc8Index.toNat + 1 = f.length) (hc : Calm (d.tbfp slot) r)
    (h : Handled slot f.length
      ((d.acceptFrame slot r).countFrame (d.interface slot) (UInt16.ofNat f.length) (frameHeader f).snum) d') :
    Took slot [f] d d' := by
  have hframe : bytesAt r.parser.rxFrame 0 (r.parser.crc8Index.toNat + tbfpSizeCrc) = f := by
    rw [show r.parser.crc8Index.toNat + tbfpSizeCrc = f.length from hi, hl]
  obtain ⟨newer, hlog, hnew⟩ := h.log
  have hlog' : d'.log = (newer ++ [.received (d.interface slot) (frameHeader f).snum]) ++ (d.acceptFrame slot r).log := by
    rw [hlog, List.append_assoc]
    rfl
  refine ⟨h.setup, h.rtcm3, ?_, fun s hs => ?_, fun s hs => ?_, ?_, fun _ => ?_⟩
  · rw [h.rxPktCnt, rxPktCnt_countFrame]
    simp [Device.acceptFrame, Device.note, Device.setTbfp, TbfpReceiver.takeFrame, tbfpParserResetRx, hc.rxPktCnt]
  · have hparser := h.parser s
    rw [parser_countFrame, tbfp_acceptFrame r hs] at hparser
    refine ⟨hparser, ?_, ?_⟩
    · funext x
      rw [h.fixFrame s x fun hc => absurd hc hs, parser_countFrame, tbfp_acceptFrame r hs]
    · rw [h.rxPktCnt, rxPktCnt_countFrame, tbfp_acceptFrame r hs]
  · rw [h.flow, flow_countFrame _ _ _ hs, flow_acceptFrame hc]
  · rw [hlog', acceptedFrames_append, acceptedFrames_append, acceptedFrames_ofHandler hnew, acceptedFrames_acceptFrame,
      hframe]
    simp [acceptedFrames, Seen.acceptedFrame]
  · rw [hlog', received_append, received_append, received_ofHandler hnew, received_acceptFrame]
    simp [received, Seen.serNum]

private theorem took_accepted {r : TbfpReceiver} {f : List UInt8}
    (hv : tbfpVerdict env.crc8SaeJ1850Calc (d.preambleVal slot) f = .frame)
    (hl : bytesAt r.parser.rxFrame 0 f.length = f) (hi : r.parser.crc8Index.toNat + 1 = f.length)
    (hc : Calm (d.tbfp slot) r) (hq : FeedsNone d (d.interface slot) f) :
    Took slot [f] d ((d.acceptFrame slot r).tbfpProcFull env proc slot (UInt16.ofNat f.length)
      (d.interface slot)).2 := by
  have hholds := holdsFrame_acceptFrame hv hl hi
  by_cases hp : d.preambleVal (d.interface slot) = d.preambleVal slot
  · refine took_of_handled hl hi hc (handled_tbfpProcFull hholds ?_ hq.tunnel hp)
    exact ⟨hq.apart.loopback, fun hid hfeeds => hq.apart.relay hid hfeeds⟩
  · have hframe : bytesAt r.parser.rxFrame 0 (r.parser.crc8Index.toNat + tbfpSizeCrc) = f := by
      rw [show r.parser.crc8Index.toNat + tbfpSizeCrc = f.length from hi, hl]
    rw [tbfpProcFull_foreign hholds hp]
    refine ⟨fun _ => ⟨rfl, rfl⟩, fun _ => ⟨rfl, rfl⟩, ?_, fun s hs => ?_, fun s _ => flow_acceptFrame hc s, ?_,
      fun hc => absurd hc hp⟩
    · simp [Device.acceptFrame, Device.note, Device.setTbfp, TbfpReceiver.takeFrame, tbfpParserResetRx, hc.rxPktCnt]
    · rw [tbfp_acceptFrame r hs]
      exact .refl _
    · rw [acceptedFrames_acceptFrame, hframe]

/-! ### Frames that complete no other -/

/-- In this state and in all that follow, the handling of the frame completes no other frame of the parser. -/
def Alone (env : Env W) (proc : Proc W) (slot : Interfaces) (d : Device W) (f : List UInt8) : Prop :=
  ∀ fs d', Took slot fs d d' → ∀ r : TbfpReceiver,
    tbfpVerdict env.crc8SaeJ1850Calc (d'.preambleVal slot) f = .frame → bytesAt r.parser.rxFrame 0 f.length = f →
    r.parser.crc8Index.toNat + 1 = f.length → Calm (d'.tbfp slot) r →
    Took slot [f] d' ((d'.acceptFrame slot r).tbfpProcFull env proc slot (UInt16.ofNat f.length) (d'.interface slot)).2

theorem FeedsNone.alone {f : List UInt8} (hq : FeedsNone d (d.interface slot) f) : Alone env proc slot d f := by
  intro fs d' h r hv hl hi hc
  refine took_accepted hv hl hi hc ?_
  rw [h.interface]
  exact h.feedsNone hq

theorem Alone.after {fs : List (List UInt8)} {f : List UInt8} (hq : Alone env proc slot d f) (h : Took slot fs d d') :
    Alone env proc slot d' f := fun _ _ h' => hq _ _ (h.trans h')

theorem Took.unfed {fs : List (List UInt8)} {u u' : List Region}
    (h : Took slot fs { d with unfed := u } d') : Took slot fs d { d' with unfed := u' } :=
  ⟨h.setup, h.rtcm3, h.rxPktCnt, h.others, h.flow, h.accepted, h.received⟩

theorem Alone.unfed {f : List UInt8} (hq : Alone env proc slot d f) (u : List Region) :
    Alone env proc slot { d with unfed := u } f := by
  intro fs d' h
  exact hq fs { d' with unfed := d'.unfed } h.unfed

/-- One byte of a stream. -/
private theorem tbfpProcByte_took (proc : Proc W) {l : List UInt8} {b : UInt8}
    (h : Loaded (tbfpVerdict env.crc8SaeJ1850Calc (d.preambleVal slot)) (d.tbfp slot).parser l)
    (hq : ∀ f ∈ complete (tbfpVerdict env.crc8SaeJ1850Calc (d.preambleVal slot)) (l ++ [b]), Alone env proc slot d f) :
    Took slot (complete (tbfpVerdict env.crc8SaeJ1850Calc (d.preambleVal slot)) (l ++ [b])) d
        (d.tbfpProcByte env proc slot b).2 ∧
      Loaded (tbfpVerdict env.crc8SaeJ1850Calc (d.preambleVal slot))
        ((d.tbfpProcByte env proc slot b).2.tbfp slot).parser
        (keep (tbfpVerdict env.crc8SaeJ1850Calc (d.preambleVal slot)) (l ++ [b])) := by
  have hstep := tbfpProcByte_spec h proc b
  generalize d.tbfpProcByte env proc slot b = res at hstep ⊢
  cases hstep with
  | loads r hv hl hc =>
    rw [complete_of_ne hv]
    exact ⟨took_setTbfp hc.rxPktCnt hc.flow, by simpa [Device.setTbfp] using hl⟩
  | accepts r hv hl hi hc =>
    rw [complete_frame hv] at hq ⊢
    have hlen : r.parser.crc8Index.toNat + 1 = (l ++ [b]).length := by
      rw [hi, List.length_append, List.length_singleton]
    rw [crc8Index_succ hlen, keep_frame hv]
    have hframe : Took slot [l ++ [b]] d ((d.acceptFrame slot r).tbfpProcFull env proc slot
        (UInt16.ofNat (l ++ [b]).length) (d.interface slot)).2 :=
      hq _ (List.mem_singleton_self _) [] d (.refl slot d) r hv (by simpa using hl) hlen hc
    exact ⟨hframe.trans (took_setTbfp rfl rfl), Device.resetRx_loaded _ slot⟩

/-! ### A stream of bytes -/

/-- What a parser completes in a stream, and what it holds behind it. -/
theorem tbfpProcBytes_took (proc : Proc W) {p : UInt8} (hp : d.preambleVal slot = p) {l : List UInt8} (bs : List UInt8)
    (h : Loaded (tbfpVerdict env.crc8SaeJ1850Calc p) (d.tbfp slot).parser l)
    (hq : ∀ f ∈ frames (tbfpVerdict env.crc8SaeJ1850Calc p) l bs, Alone env proc slot d f) :
    Took slot (frames (tbfpVerdict env.crc8SaeJ1850Calc p) l bs) d (d.tbfpProcBytes env proc slot bs) ∧
      Loaded (tbfpVerdict env.crc8SaeJ1850Calc p) ((d.tbfpProcBytes env proc slot bs).tbfp slot).parser
        (held (tbfpVerdict env.crc8SaeJ1850Calc p) l bs) := by
  induction bs generalizing d l with
  | nil => exact ⟨.refl slot d, h⟩
  | cons b bs ih =>
    subst hp
    rw [frames] at hq
    obtain ⟨hstep, hloaded⟩ := tbfpProcByte_took proc h fun f hf => hq f (List.mem_append_left _ hf)
    obtain ⟨htook, hheld⟩ := ih (hstep.preambleVal slot) hloaded fun f hf =>
      (hq f (List.mem_append_right _ hf)).after hstep
    exact ⟨hstep.trans htook, hheld⟩

/-! ### An array -/

/-- The array is not in the `fix_frame` of the parser that it is fed to. -/
def Source.Outside (slot : Interfaces) : Source → Prop
  | .bytes _ => True
  | .fixFrame s _ => s ≠ slot
  | .txFrame _ => False

theorem Took.byteAt {fs : List (List UInt8)} (h : Took slot fs d d') {src : Source} (hsrc : src.Outside slot) (i : Nat) :
    d'.byteAt src i = d.byteAt src i := by
  cases src with
  | bytes array => rfl
  | fixFrame s offset => exact congrFun (h.others s hsrc).fixFrame (offset + i)
  | txFrame s => exact absurd hsrc id

section

variable {p : UInt8} {l bytes : List UInt8} {src : Source}

private theorem feedByte_took (proc : Proc W) {n : Nat} {b : UInt8} (hb : d.byteAt src n = b) (len : UInt16)
    (h : Loaded (tbfpVerdict env.crc8SaeJ1850Calc (d.preambleVal slot)) (d.tbfp slot).parser l)
    (hq : ∀ f ∈ complete (tbfpVerdict env.crc8SaeJ1850Calc (d.preambleVal slot)) (l ++ [b]), Alone env proc slot d f) :
    Took slot (complete (tbfpVerdict env.crc8SaeJ1850Calc (d.preambleVal slot)) (l ++ [b])) d
        (d.feedByte env proc src len slot n).2 ∧
      Loaded (tbfpVerdict env.crc8SaeJ1850Calc (d.preambleVal slot))
        ((d.feedByte env proc src len slot n).2.tbfp slot).parser
        (keep (tbfpVerdict env.crc8SaeJ1850Calc (d.preambleVal slot)) (l ++ [b])) := by
  generalize hm : { d with unfed := src.rest (n + 1) len.toNat ++ d.unfed } = m
  have hstep : Took slot (complete (tbfpVerdict env.crc8SaeJ1850Calc (m.preambleVal slot)) (l ++ [b])) m
        (m.tbfpProcByte env proc slot b).2 ∧
      Loaded (tbfpVerdict env.crc8SaeJ1850Calc (m.preambleVal slot)) ((m.tbfpProcByte env proc slot b).2.tbfp slot).parser
        (keep (tbfpVerdict env.crc8SaeJ1850Calc (m.preambleVal slot)) (l ++ [b])) := by
    subst hm
    exact tbfpProcByte_took proc h fun f hf => (hq f hf).unfed _
  unfold Device.feedByte
  rw [hm, hb]
  subst hm
  exact ⟨hstep.1.unfed, hstep.2⟩

/-- The loop of `tbfp_proc` after the first bytes of an array. -/
private theorem fed_took (proc : Proc W) (hp : d.preambleVal slot = p) (hsrc : src.Outside slot) (len : UInt16)
    (hbytes : ∀ i, i < bytes.length → d.byteAt src i = bytes.getD i 0)
    (h : Loaded (tbfpVerdict env.crc8SaeJ1850Calc p) (d.tbfp slot).parser l)
    (hq : ∀ f ∈ frames (tbfpVerdict env.crc8SaeJ1850Calc p) l bytes, Alone env proc slot d f) {n : Nat}
    (hn : n ≤ bytes.length) :
    Took slot (frames (tbfpVerdict env.crc8SaeJ1850Calc p) l (bytes.take n)) d (d.fed env proc src len slot n).2 ∧
      Loaded (tbfpVerdict env.crc8SaeJ1850Calc p) ((d.fed env proc src len slot n).2.tbfp slot).parser
        (held (tbfpVerdict env.crc8SaeJ1850Calc p) l (bytes.take n)) := by
  induction n with
  | zero => exact ⟨.refl slot d, h⟩
  | succ n ih =>
    obtain ⟨htook, hloaded⟩ := ih (Nat.le_of_succ_le hn)
    have hlt : n < bytes.length := hn
    have hq' : ∀ f ∈ frames (tbfpVerdict env.crc8SaeJ1850Calc p) l (bytes.take (n + 1)), Alone env proc slot d f :=
      fun f hf => hq f ((frames_isPrefix l (List.take_prefix (n + 1) bytes)).subset hf)
    have hfed : (d.fed env proc src len slot (n + 1)).2 =
        ((d.fed env proc src len slot n).2.feedByte env proc src len slot n).2 := rfl
    rw [frames_take_succ l hlt] at hq' ⊢
    rw [hfed, held_take_succ l hlt]
    generalize (d.fed env proc src len slot n).2 = m at htook hloaded ⊢
    have hp' : m.preambleVal slot = p := (htook.preambleVal slot).trans hp
    have hb : m.byteAt src n = bytes[n] := by
      rw [htook.byteAt hsrc n, hbytes n hlt, List.getD_eq_getElem _ _ hlt]
    subst hp'
    obtain ⟨hstep, hloaded'⟩ := feedByte_took proc hb len hloaded
      fun f hf => (hq' f (List.mem_append_right _ hf)).after htook
    exact ⟨htook.trans hstep, hloaded'⟩

private theorem countLack_took (d : Device W) (slot : Interfaces) (initRxPkt : UInt32) (isResetParser : Bool) :
    Took slot [] d (d.countLack slot initRxPkt isResetParser) ∧
      ((d.countLack slot initRxPkt isResetParser).tbfp slot).parser = (d.tbfp slot).parser := by
  unfold Device.countLack
  dsimp only
  split
  · exact ⟨.refl slot d, rfl⟩
  · split
    · exact ⟨took_setTbfp rfl rfl, by simp [Device.setTbfp]⟩
    · exact ⟨.refl slot d, rfl⟩

/-- A call of `tbfp_proc`. -/
theorem tbfpProcBody_took (proc : Proc W) (hp : d.preambleVal slot = p) (hsrc : src.Outside slot)
    (hlen : bytes.length < 2 ^ 16) (hbytes : ∀ i, i < bytes.length → d.byteAt src i = bytes.getD i 0)
    (isResetParser : Bool)
    (h : if isResetParser then l = [] else Loaded (tbfpVerdict env.crc8SaeJ1850Calc p) (d.tbfp slot).parser l)
    (hq : ∀ f ∈ frames (tbfpVerdict env.crc8SaeJ1850Calc p) l bytes, Alone env proc slot d f) :
    Took slot (frames (tbfpVerdict env.crc8SaeJ1850Calc p) l bytes) d
        (tbfpProcBody env proc d src (UInt16.ofNat bytes.length) slot isResetParser).2 ∧
      Loaded (tbfpVerdict env.crc8SaeJ1850Calc p)
        ((tbfpProcBody env proc d src (UInt16.ofNat bytes.length) slot isResetParser).2.tbfp slot).parser
        (held (tbfpVerdict env.crc8SaeJ1850Calc p) l bytes) := by
  have hreset : Took slot [] d (if isResetParser then d.resetRx slot else d) ∧
      Loaded (tbfpVerdict env.crc8SaeJ1850Calc p) ((if isResetParser then d.resetRx slot else d).tbfp slot).parser l := by
    cases isResetParser with
    | true =>
      rw [if_pos rfl] at h ⊢
      subst h
      exact ⟨took_setTbfp rfl rfl, d.resetRx_loaded slot⟩
    | false => exact ⟨.refl slot d, h⟩
  have hsize : (UInt16.ofNat bytes.length).toNat = bytes.length := by
    rw [UInt16.toNat_ofNat']
    omega
  unfold tbfpProcBody
  dsimp only
  rw [hsize]
  generalize (if isResetParser then d.resetRx slot else d) = m at hreset ⊢
  obtain ⟨htook, hloaded⟩ := hreset
  have hfed := fed_took proc ((htook.preambleVal slot).trans hp) hsrc (UInt16.ofNat bytes.length)
    (fun i hi => (htook.byteAt hsrc i).trans (hbytes i hi)) hloaded (fun f hf => (hq f hf).after htook)
    (Nat.le_refl bytes.length)
  rw [List.take_length] at hfed
  generalize m.fed env proc src (UInt16.ofNat bytes.length) slot bytes.length = fed at hfed ⊢
  obtain ⟨hlack, hparser⟩ := countLack_took fed.2 slot (d.tbfp slot).rxPktCnt isResetParser
  refine ⟨by simpa using (htook.trans hfed.1).trans hlack, ?_⟩
  rw [hparser]
  exact hfed.2

end

/-! ### The round trip -/

/-- What `tbfp_send` makes a frame of. -/
structure Message where
  flags : UInt8
  snum : UInt16
  payload : List UInt8

/-- The payload fits in a frame. -/
def Message.Fits (m : Message) : Prop := 1 ≤ m.payload.length ∧ m.payload.length ≤ 1038

def Message.frame (crc8SaeJ1850Calc : List UInt8 → UInt8) (preambleVal : UInt8) (m : Message) : List UInt8 :=
  tbfFrame crc8SaeJ1850Calc preambleVal m.flags m.snum m.payload

/-- The frame goes out for the message on an interface with this preamble: its bytes in a row, under any flags and
serial number, or what `tbfp_send` has in the frame buffer. -/
inductive Message.Built (crc8SaeJ1850Calc : List UInt8 → UInt8) (preambleVal : UInt8) : Message → List UInt8 → Prop
  | laid {m : Message} (hfits : m.Fits) : Built crc8SaeJ1850Calc preambleVal m (m.frame crc8SaeJ1850Calc preambleVal)
  | sent {n : Node} {payload : Payload} {lifetime : UInt8} {ack : TbfpAck} (hpreamble : n.tbfp.preambleVal = preambleVal)
      (hbuilt : (n.buildFrame crc8SaeJ1850Calc payload lifetime ack).1 = true) :
      Built crc8SaeJ1850Calc preambleVal ⟨tbfpFlags lifetime ack, n.tbfp.sNum, payload.bytes⟩
        ((n.buildFrame crc8SaeJ1850Calc payload lifetime ack).2.builtFrame payload.bytes.length).bytes

/-- An array with the frame passes the check of a whole frame, and the message is read from it. -/
def Message.ReadsBack (env : Env W) (preambleVal : UInt8) (m : Message) (frame : List UInt8) : Prop :=
  ∀ arr : Mem, bytesAt arr 0 frame.length = frame →
    isTbfpProtocol env arr (UInt16.ofNat frame.length) preambleVal ∧
      TbfHeader.read arr = ⟨preambleVal, m.flags, m.snum, UInt16.ofNat m.payload.length⟩ ∧
      bytesAt arr tbfpIndexPayload m.payload.length = m.payload

section

variable {crc8SaeJ1850Calc : List UInt8 → UInt8} {preambleVal : UInt8} {m : Message}

private theorem TxFrame.take_header (t : TxFrame) (preamble flags : UInt8) (snum len : UInt16) :
    (t.copy 0 (tbfHeader preamble flags snum len)).bytes.take tbfpIndexPayload = tbfHeader preamble flags snum len := by
  have hlen : 0 + (tbfHeader preamble flags snum len).length ≤ tbfpMaxFrame := by
    rw [Nat.zero_add]
    exact (by decide : tbfpIndexPayload ≤ tbfpMaxFrame)
  exact t.take_copy hlen

private theorem builtFrame_fillFrame {n : Node} {payload : Payload} {header : List UInt8}
    (hhead : n.tbfp.txFrame.bytes.take tbfpIndexPayload = header) (hlt : payload.bytes.length < tbfpMaxPayload) :
    ((n.fillFrame crc8SaeJ1850Calc payload).builtFrame payload.bytes.length).bytes =
      header ++ payload.bytes ++ [crc8SaeJ1850Calc (header ++ payload.bytes)] := by
  have hmax : tbfpMaxPayload = 1039 := rfl
  have hmax' : tbfpMaxFrame = 1046 := rfl
  have hindex : tbfpIndexPayload = 6 := rfl
  have hheader : tbfpSizeHeader = 6 := rfl
  have hover : payload.bytes.length + tbfpSizeOverhead = tbfpSizeHeader + payload.bytes.length + 1 := by
    rw [show tbfpSizeOverhead = tbfpSizeHeader + 1 from rfl]
    omega
  have hbody : (n.tbfp.txFrame.copy tbfpIndexPayload payload.bytes).bytes.take (tbfpSizeHeader + payload.bytes.length) =
      header ++ payload.bytes := by
    rw [← hhead]
    exact TxFrame.take_copy _ (by omega)
  have hcrc := (n.tbfp.txFrame.copy tbfpIndexPayload payload.bytes).take_copy
    (by simp; omega : tbfpSizeHeader + payload.bytes.length + [crc8SaeJ1850Calc (header ++ payload.bytes)].length ≤
      tbfpMaxFrame)
  rw [hbody] at hcrc
  simp only [Node.builtFrame, TxFrame.frame, Node.fillFrame]
  rw [hbody, hover]
  exact hcrc

/-- The frame that `tbfp_send` has in the frame buffer. -/
theorem buildFrame_message {n : Node} {payload : Payload} {lifetime : UInt8} {ack : TbfpAck}
    (h : (n.buildFrame crc8SaeJ1850Calc payload lifetime ack).1 = true) :
    Message.Fits ⟨tbfpFlags lifetime ack, n.tbfp.sNum, payload.bytes⟩ ∧
      ((n.buildFrame crc8SaeJ1850Calc payload lifetime ack).2.builtFrame payload.bytes.length).bytes =
        Message.frame crc8SaeJ1850Calc n.tbfp.preambleVal ⟨tbfpFlags lifetime ack, n.tbfp.sNum, payload.bytes⟩ := by
  unfold Node.buildFrame at h ⊢
  split at h
  · rename_i hsize
    rw [if_pos hsize]
    by_cases hlt : payload.bytes.length < tbfpMaxPayload
    · refine ⟨⟨hsize.1, Nat.le_of_lt_succ hlt⟩, ?_⟩
      simp only [tbfpMakeHeader, hlt, if_true]
      exact builtFrame_fillFrame (TxFrame.zero.take_header _ _ _ _) hlt
    · simp [tbfpMakeHeader, hlt] at h
  · simp at h

theorem Message.Fits.isFrame (h : m.Fits) :
    IsFrame (tbfpVerdict crc8SaeJ1850Calc preambleVal) (m.frame crc8SaeJ1850Calc preambleVal) :=
  isFrame_tbfFrame (Nat.le_trans h.2 (by decide)) m.flags m.snum

theorem frameHeader_message (m : Message) : frameHeader (m.frame crc8SaeJ1850Calc preambleVal) =
    ⟨preambleVal, m.flags, m.snum, UInt16.ofNat m.payload.length⟩ := by
  simp [frameHeader, TbfHeader.read, Buffer.ofBytes_apply, Message.frame, tbfFrame, tbfHeader, tbfpIndexRetx,
    tbfpIndexSerNum, tbfpIndexLen]

theorem frameId_message {b : UInt8} {bytes : List UInt8} (hm : m.payload = b :: bytes) :
    frameId (m.frame crc8SaeJ1850Calc preambleVal) = b := by
  simp [frameId, Message.frame, tbfFrame, tbfHeader, tbfpIndexPayload, hm]

/-- The fields of a frame are those of the message. -/
theorem Message.read {arr : Mem}
    (harr : bytesAt arr 0 (m.frame crc8SaeJ1850Calc preambleVal).length = m.frame crc8SaeJ1850Calc preambleVal) :
    TbfHeader.read arr = ⟨preambleVal, m.flags, m.snum, UInt16.ofNat m.payload.length⟩ ∧
      bytesAt arr tbfpIndexPayload m.payload.length = m.payload := by
  constructor
  · have hheader : tbfpSizeHeader ≤ (m.frame crc8SaeJ1850Calc preambleVal).length := by
      rw [Message.frame, tbfFrame_length]
      exact Nat.le_trans (by decide : tbfpSizeHeader ≤ tbfpSizeOverhead) (Nat.le_add_left _ _)
    rw [← frameHeader_message]
    exact read_congr fun x hx hlt => Buffer.agree_ofBytes harr x hx (Nat.lt_of_lt_of_le hlt hheader)
  · rw [Message.frame, tbfFrame_length, Nat.add_comm, show tbfpSizeOverhead = tbfpIndexPayload + 1 from rfl,
      Nat.add_assoc, Nat.add_comm 1, bytesAt_add, bytesAt_add, Nat.zero_add, tbfFrame,
      List.append_assoc] at harr
    have hrest := (List.append_inj harr rfl).2
    exact (List.append_inj hrest (bytesAt_length _ _ _)).1

private theorem noise_dropped (crc8SaeJ1850Calc : List UInt8 → UInt8) {noise : List UInt8}
    (h : ∀ b ∈ noise, b ≠ preambleVal) :
    held (tbfpVerdict crc8SaeJ1850Calc preambleVal) [] noise = [] ∧
      frames (tbfpVerdict crc8SaeJ1850Calc preambleVal) [] noise = [] := by
  refine held_noise fun b hb => ?_
  have hne := h b hb
  simp [tbfpVerdict, hne]

/-- Either way the frame is the one of the message. -/
theorem Message.Built.message {m : Message} {frame : List UInt8} (h : m.Built crc8SaeJ1850Calc preambleVal frame) :
    m.Fits ∧ frame = m.frame crc8SaeJ1850Calc preambleVal := by
  cases h with
  | laid hfits => exact ⟨hfits, rfl⟩
  | sent hpreamble hbuilt =>
    obtain ⟨hfits, hframe⟩ := buildFrame_message hbuilt
    exact ⟨hfits, hpreamble ▸ hframe⟩

private theorem Message.Built.readsBack {env : Env W} {m : Message} {frame : List UInt8}
    (h : m.Built env.crc8SaeJ1850Calc preambleVal frame) : m.ReadsBack env preambleVal frame := by
  obtain ⟨hfits, rfl⟩ := h.message
  intro arr harr
  exact ⟨(isTbfpProtocol_iff hfits.isFrame.frame harr _).2 rfl, m.read harr⟩

private theorem isFrame_of_built {messages : List Message} {built : List (List UInt8)}
    (h : List.Forall₂ (Message.Built crc8SaeJ1850Calc preambleVal) messages built) :
    ∀ f ∈ built, IsFrame (tbfpVerdict crc8SaeJ1850Calc preambleVal) f := by
  induction h with
  | nil => exact fun f hf => nomatch hf
  | cons hm _ ih =>
    obtain ⟨hfits, rfl⟩ := hm.message
    exact List.forall_mem_cons.2 ⟨hfits.isFrame, ih⟩

end

/-- What a parser that is waiting for a preamble makes of built frames. -/
private theorem tbfpProcBytes_built (proc : Proc W) (noise : List UInt8) {messages : List Message}
    {built : List (List UInt8)}
    (hstate : (d.tbfp slot).parser.rxState = .waitPreamble) (hlen : (d.tbfp slot).parser.loadLen = 0)
    (hnoise : ∀ b ∈ noise, b ≠ d.preambleVal slot)
    (hbuilt : List.Forall₂ (Message.Built env.crc8SaeJ1850Calc (d.preambleVal slot)) messages built)
    (hfeeds : ∀ f ∈ built, FeedsNone d (d.interface slot) f) :
    let d' := d.tbfpProcBytes env proc slot (noise ++ built.flatten)
    Took slot built d d' ∧
      Loaded (tbfpVerdict env.crc8SaeJ1850Calc (d.preambleVal slot)) (d'.tbfp slot).parser [] := by
  intro d'
  obtain ⟨hheld, hnone⟩ := noise_dropped env.crc8SaeJ1850Calc hnoise
  obtain ⟨hend, hall⟩ := frames_flatten (isFrame_of_built hbuilt)
  have hframes : frames (tbfpVerdict env.crc8SaeJ1850Calc (d.preambleVal slot)) [] (noise ++ built.flatten) = built := by
    rw [frames_append, hnone, hheld, hall, List.nil_append]
  have hempty : held (tbfpVerdict env.crc8SaeJ1850Calc (d.preambleVal slot)) [] (noise ++ built.flatten) = [] := by
    rw [held_append, hheld, hend]
  have htook := tbfpProcBytes_took proc rfl (noise ++ built.flatten) (loaded_nil hlen hstate)
    (by
      rw [hframes]
      exact fun f hf => (hfeeds f hf).alone)
  rwa [hframes, hempty] at htook

/-- Frames built as `tbfp_send` builds them come back from a stream as they were. -/
theorem stream_roundTrip (env : Env W) (proc : Proc W) (d : Device W) (slot : Interfaces) (noise : List UInt8)
    {messages : List Message} {built : List (List UInt8)} (hstate : (d.tbfp slot).parser.rxState = .waitPreamble)
    (hlen : (d.tbfp slot).parser.loadLen = 0) (hnoise : ∀ b ∈ noise, b ≠ d.preambleVal slot)
    (hbuilt : List.Forall₂ (Message.Built env.crc8SaeJ1850Calc (d.preambleVal slot)) messages built)
    (hfeeds : ∀ f ∈ built, FeedsNone d (d.interface slot) f) :
    let d' := d.tbfpProcBytes env proc slot (noise ++ built.flatten)
    acceptedFrames slot d'.log = acceptedFrames slot d.log ++ built ∧
      (d'.tbfp slot).rxPktCnt = (d.tbfp slot).rxPktCnt + UInt32.ofNat messages.length ∧
      (d'.tbfp slot).parser.rxState = .waitPreamble ∧ (d'.tbfp slot).parser.loadLen = 0 ∧
      List.Forall₂ (Message.ReadsBack env (d.preambleVal slot)) messages built := by
  intro d'
  obtain ⟨htook, hloaded⟩ := tbfpProcBytes_built proc noise hstate hlen hnoise hbuilt hfeeds
  refine ⟨htook.accepted, ?_, hloaded.rxState, hloaded.loadLen, hbuilt.imp fun m f hm => hm.readsBack⟩
  rw [htook.rxPktCnt, hbuilt.length_eq]

/-- A node of the interface that the frames of the next example come from. -/
def chatNode : Node := Node.init 0xA5 100 0

/-- A frame of text that `tbfp_send` built, with a lifetime and behind a byte of noise, and one with all the flags that
`tbfp_make_header` leaves clear. -/
theorem chat_roundTrip :
    let d := swInit restingRadio 0 ()
    let built := [((chatNode.buildFrame crc8SaeJ1850 ⟨[frameIdChat, 0x41], by decide⟩ 2 .noNeed).2.builtFrame 2).bytes,
      Message.frame crc8SaeJ1850 0xA5 ⟨0x70, 2, [frameIdChat]⟩]
    acceptedFrames .lora (d.tbfpProcBytes .bench (tbfpProc .bench 1) .lora ([0x00] ++ built.flatten)).log = built := by
  refine (stream_roundTrip Env.bench (tbfpProc .bench 1) (swInit restingRadio 0 ()) .lora [0x00] rfl rfl ?_
    (.cons (.sent rfl rfl) (.cons (.laid ⟨by decide, by decide⟩) .nil)) ?_).1
  · simp [swInit, Device.preambleVal, tbfpProtocolInit]
  · intro f hf
    refine ⟨(configured_swInit restingRadio 0 ()).apart .lora _ _, ?_⟩
    rw [List.mem_cons, List.mem_singleton] at hf
    rcases hf with rfl | rfl
    · decide
    · decide

end TiMcu.Tbfp
