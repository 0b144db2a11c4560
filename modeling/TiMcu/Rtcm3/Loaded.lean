import TiMcu.Lib.Framing
import TiMcu.Rtcm3.Parser

/-!
# What an RTCM3 parser has loaded

As for TBFP, the state of the parser is the list of the bytes of the frame it is loading.  `rtcm3ProcByte_spec` says
what one more byte does, as `rtcm3Verdict` decides on the loaded bytes alone.

The parser takes a frame without a payload for an array that ends with its header, and drops it at the next byte.
-/

namespace TiMcu.Tbfp

open NorFlash LittleEndian Framing

variable {W : Type} {polls : Bool} {env : Env W polls} {proc : Proc W} {d : Device W} {slot : Interfaces}
variable {l : List UInt8} {b : UInt8} {p p' : Rtcm3Protocol}

/-! ### The frames -/

/-- The length of the payload in the header of the loaded bytes. -/
def rtcm3Len (l : List UInt8) : Nat := (fieldLen (join (l.getD 2 0) (l.getD 1 0))).toNat

/-- The loaded bytes are the front of a frame. -/
def Rtcm3Front (l : List UInt8) : Prop :=
  l.head? = some rtcm3Preamble ∧
    (l.length ≤ rtcm3HeaderSize ∨ rtcm3Len l ≠ 0 ∧ l.length < rtcm3Len l + rtcm3Overhead)

instance (l : List UInt8) : Decidable (Rtcm3Front l) := inferInstanceAs (Decidable (_ ∧ _))

/-- The loaded bytes are a frame with the right checksum. -/
def Rtcm3Whole (env : Env W polls) (l : List UInt8) : Prop :=
  l.head? = some rtcm3Preamble ∧ rtcm3Len l ≠ 0 ∧ l.length = rtcm3Len l + rtcm3Overhead ∧
    let i := rtcm3HeaderSize + rtcm3Len l
    env.calcCrc24Q (l.take i) =
      env.reverseByteOrderUint24 (join24 (l.getD i 0) (l.getD (i + 1) 0) (l.getD (i + 2) 0))

instance (env : Env W polls) (l : List UInt8) : Decidable (Rtcm3Whole env l) := inferInstanceAs (Decidable (_ ∧ _))

/-- What the parser makes of the bytes it has loaded. -/
def rtcm3Verdict (env : Env W polls) (l : List UInt8) : Verdict :=
  if Rtcm3Front l then .more else if Rtcm3Whole env l then .frame else .drop

theorem fieldLen_toNat (len16 : UInt16) : (fieldLen len16).toNat = len16.toNat % 1024 := by
  rw [fieldLen, UInt16.toNat_and]
  exact Nat.and_two_pow_sub_one_eq_mod _ 10

private theorem rtcm3Len_lt (l : List UInt8) : rtcm3Len l < 1024 := by
  rw [rtcm3Len, fieldLen_toNat]
  exact Nat.mod_lt _ (by decide)

theorem rtcm3Len_append (h : rtcm3HeaderSize ≤ l.length) (l' : List UInt8) : rtcm3Len (l ++ l') = rtcm3Len l := by
  have hheader : rtcm3HeaderSize = 3 := rfl
  rw [rtcm3Len, rtcm3Len, List.getD_append _ _ _ _ (by omega), List.getD_append _ _ _ _ (by omega)]

theorem verdict_of_front (h : Rtcm3Front l) : rtcm3Verdict env l = .more := if_pos h

private theorem Rtcm3Whole.not_front (h : Rtcm3Whole env l) : ¬Rtcm3Front l := by
  have hheader : rtcm3HeaderSize = 3 := rfl
  have hover : rtcm3Overhead = 6 := rfl
  obtain ⟨-, hpos, hlen, -⟩ := h
  rintro ⟨-, hle | ⟨-, hlt⟩⟩ <;> omega

private theorem verdict_of_whole (h : Rtcm3Whole env l) : rtcm3Verdict env l = .frame := by
  rw [rtcm3Verdict, if_neg h.not_front, if_pos h]

theorem verdict_of_not (hf : ¬Rtcm3Front l) (hw : ¬Rtcm3Whole env l) : rtcm3Verdict env l = .drop := by
  rw [rtcm3Verdict, if_neg hf, if_neg hw]

theorem Rtcm3Whole.isFrame (h : Rtcm3Whole env l) : IsFrame (rtcm3Verdict env) l := by
  have hheader : rtcm3HeaderSize = 3 := rfl
  have hover : rtcm3Overhead = 6 := rfl
  refine IsFrame.of_splits ?_ ?_ (verdict_of_whole h)
  · rintro rfl
    exact absurd h.1 (by simp)
  · rintro q t hne htpos rfl
    obtain ⟨hhead, hpos, hlen, -⟩ := h
    rw [List.length_append] at hlen
    rw [List.head?_append_of_ne_nil _ hne] at hhead
    refine verdict_of_front ⟨hhead, ?_⟩
    by_cases hl : q.length ≤ rtcm3HeaderSize
    · exact .inl hl
    · rw [rtcm3Len_append (by omega)] at hpos hlen
      exact .inr ⟨hpos, by omega⟩

/-- The check of a whole frame, for an array of the length in its header. -/
theorem isRtcm3Frame_iff {arr : Mem} (harr : bytesAt arr 0 l.length = l) (hhead : l.head? = some rtcm3Preamble)
    (hlen : l.length = rtcm3Len l + rtcm3Overhead) :
    isRtcm3Frame env arr (UInt16.ofNat l.length) ↔ Rtcm3Whole env l := by
  have hheader : rtcm3HeaderSize = 3 := rfl
  have hover : rtcm3Overhead = 6 := rfl
  have hlt := rtcm3Len_lt l
  have hget : ∀ i, i < l.length → arr i = l.getD i 0 := fun i hi => (Buffer.getD_of_bytesAt harr hi).symm
  have hpre : arr 0 = rtcm3Preamble := by
    rw [hget 0 (by omega)]
    cases l with
    | nil => simp at hhead
    | cons a l => simpa using hhead
  have hfield : (fieldLen (join (arr 2) (arr 1))).toNat = rtcm3Len l := by
    rw [hget 2 (by omega), hget 1 (by omega), rtcm3Len]
  have hzero : fieldLen (join (arr 2) (arr 1)) ≠ 0 ↔ rtcm3Len l ≠ 0 := by
    rw [← hfield, Ne, Ne, ← UInt16.toNat_inj]
    rfl
  have hne : UInt16.ofNat l.length ≠ 0 := by
    rw [Ne, ← UInt16.toNat_inj, UInt16.toNat_ofNat']
    simp only [UInt16.toNat_zero]
    omega
  have htake : bytesAt arr 0 (rtcm3HeaderSize + rtcm3Len l) = l.take (rtcm3HeaderSize + rtcm3Len l) := by
    rw [← take_bytesAt (show rtcm3HeaderSize + rtcm3Len l ≤ l.length by omega), harr]
  unfold isRtcm3Frame Rtcm3Whole
  dsimp only
  rw [hzero, hfield, htake, hget (rtcm3HeaderSize + rtcm3Len l) (by omega), hget (_ + 1) (by omega),
    hget (_ + 2) (by omega)]
  exact ⟨fun h => ⟨hhead, h.2.2.1, hlen, h.2.2.2⟩, fun h => ⟨hne, hpre, h.2.1, h.2.2.2⟩⟩

/-! ### The state of the parser -/

/-- The state after loading these bytes. -/
def rtcm3State (l : List UInt8) : RxState :=
  if l.length = 0 then .waitPreamble
  else if l.length < rtcm3HeaderSize then .waitLen
  else if l.length = rtcm3HeaderSize ∨ l.length < rtcm3HeaderSize + rtcm3Len l then .waitPayload
  else .waitCrc

/-- The parser has loaded these bytes. -/
structure Rtcm3Loaded (p : Rtcm3Protocol) (l : List UInt8) : Prop where
  loadLen : p.loadLen = l.length
  rxFrame : bytesAt p.rxFrame 0 l.length = l
  rxState : p.rxState = rtcm3State l
  expLenHigh : l.length = 2 → hi p.expLen = l.getD 1 0
  expLen : rtcm3HeaderSize ≤ l.length → p.expLen = join (l.getD 2 0) (l.getD 1 0)
  front : l = [] ∨ Rtcm3Front l

/-- What a step of the parser that only loads leaves unchanged. -/
structure Rtcm3Calm (p p' : Rtcm3Protocol) : Prop where
  interface : p'.interface = p.interface
  forwarding : p'.forwarding = p.forwarding
  rxPktCnt : p'.rxPktCnt = p.rxPktCnt
  fixFrame : p'.fixFrame = p.fixFrame
  uartLostPktCnt : p'.uartLostPktCnt = p.uartLostPktCnt
  stored : ∀ i ∈ p'.stored, i ∈ p.stored ∨ i < rtcm3RxMaxFrameSize
  readCrc : p'.readCrc.toNat < 2 ^ 24

theorem rtcm3Loaded_nil (hlen : p.loadLen = 0) (hstate : p.rxState = .waitPreamble) : Rtcm3Loaded p [] :=
  ⟨hlen, rfl, hstate, fun h => absurd h (by decide), fun h => absurd h (by decide), .inl rfl⟩

theorem rtcm3Loaded_resetRx (p : Rtcm3Protocol) : Rtcm3Loaded (rtcm3ResetRx p) [] := rtcm3Loaded_nil rfl rfl

/-- There is room for one byte more. -/
theorem Rtcm3Loaded.length_lt (h : Rtcm3Loaded p l) : l.length < rtcm3RxMaxFrameSize := by
  have hmax : rtcm3RxMaxFrameSize = 1036 := rfl
  have hheader : rtcm3HeaderSize = 3 := rfl
  have hover : rtcm3Overhead = 6 := rfl
  have hlt := rtcm3Len_lt l
  rcases h.front with rfl | ⟨-, hle | ⟨-, hlt'⟩⟩
  · exact Nat.succ_pos _
  · omega
  · omega

theorem Rtcm3Loaded.head (h : Rtcm3Loaded p l) (hpos : 0 < l.length) (b : UInt8) :
    (l ++ [b]).head? = some rtcm3Preamble := by
  rw [List.head?_append_of_ne_nil _ (List.length_pos_iff.1 hpos)]
  rcases h.front with rfl | hfront
  · exact absurd hpos (by decide)
  · exact hfront.1

/-- The bytes after one more is loaded. -/
private theorem rtcm3Load_bytes (hlen : p.loadLen = l.length) (hbytes : bytesAt p.rxFrame 0 l.length = l) (b : UInt8)
    (rxState : RxState) :
    (p.load b rxState).loadLen = (l ++ [b]).length ∧
      bytesAt (p.load b rxState).rxFrame 0 (l ++ [b]).length = l ++ [b] := by
  constructor
  · simp [Rtcm3Protocol.load, hlen]
  · simp only [Rtcm3Protocol.load, hlen, List.length_append, List.length_singleton]
    rw [Buffer.bytesAt_store, hbytes]

/-! ### One byte more -/

/-- A frame with the right checksum is noted and passed on. -/
def Device.passRtcm3 (env : Env W polls) (proc : Proc W) (d : Device W) (slot : Interfaces) (p : Rtcm3Protocol)
    (frame : List UInt8) : Bool × Device W :=
  ((d.setRtcm3 slot p.takeFrame).note (.rtcm3 slot frame)).relay env proc slot

/-- The outcome of a byte: it is loaded or dropped, or it completes a frame, which is passed on. -/
inductive Rtcm3Step (env : Env W polls) (proc : Proc W) (d : Device W) (slot : Interfaces) (l : List UInt8) (b : UInt8) :
    Bool × Device W → Prop
  | loads (res : Bool) (p : Rtcm3Protocol) (hv : rtcm3Verdict env (l ++ [b]) ≠ .frame)
      (hl : Rtcm3Loaded p (keep (rtcm3Verdict env) (l ++ [b]))) (hc : Rtcm3Calm (d.rtcm3 slot) p) :
      Rtcm3Step env proc d slot l b (res, d.setRtcm3 slot p)
  | accepts (p : Rtcm3Protocol) (hv : rtcm3Verdict env (l ++ [b]) = .frame)
      (hl : bytesAt p.rxFrame 0 (l ++ [b]).length = l ++ [b]) (hi : p.packetLength.toNat = (l ++ [b]).length)
      (hc : Rtcm3Calm (d.rtcm3 slot) p) :
      Rtcm3Step env proc d slot l b
        ((d.passRtcm3 env proc slot p (l ++ [b])).1, (d.passRtcm3 env proc slot p (l ++ [b])).2.rtcm3Done slot)

section

variable (h : Rtcm3Loaded (d.rtcm3 slot) l) (hread : (d.rtcm3 slot).readCrc.toNat < 2 ^ 24)

private theorem rtcm3Step_drop {res : Bool} (hf : ¬Rtcm3Front (l ++ [b])) (hw : ¬Rtcm3Whole env (l ++ [b]))
    (hc : Rtcm3Calm (d.rtcm3 slot) p) : Rtcm3Step env proc d slot l b (res, d.setRtcm3 slot (rtcm3ResetRx p)) := by
  have hv : rtcm3Verdict env (l ++ [b]) = .drop := verdict_of_not hf hw
  refine .loads res _ (by simp [hv]) ?_ ⟨hc.interface, hc.forwarding, hc.rxPktCnt, hc.fixFrame, hc.uartLostPktCnt,
    hc.stored, hc.readCrc⟩
  rw [keep_drop hv]
  exact rtcm3Loaded_resetRx p

include h hread

private theorem rtcm3Calm_load (b : UInt8) (rxState : RxState) :
    Rtcm3Calm (d.rtcm3 slot) ((d.rtcm3 slot).load b rxState) := by
  refine ⟨rfl, rfl, rfl, rfl, rfl, fun i hi => ?_, hread⟩
  rcases List.mem_cons.1 hi with rfl | hi
  · exact .inr (h.loadLen ▸ h.length_lt)
  · exact .inl hi

private theorem rtcm3Step_more {res : Bool} (e : UInt16) (rxState : RxState) (hf : Rtcm3Front (l ++ [b]))
    (hstate : rxState = rtcm3State (l ++ [b])) (hhigh : l.length = 1 → hi e = (l ++ [b]).getD 1 0)
    (hexp : 2 ≤ l.length → e = join ((l ++ [b]).getD 2 0) ((l ++ [b]).getD 1 0)) :
    Rtcm3Step env proc d slot l b
      (res, d.setRtcm3 slot { (d.rtcm3 slot).load b rxState with expLen := e }) := by
  have hv : rtcm3Verdict env (l ++ [b]) = .more := verdict_of_front hf
  obtain ⟨hlen, hbytes⟩ := rtcm3Load_bytes h.loadLen h.rxFrame b rxState
  have hc := rtcm3Calm_load h hread b rxState
  refine .loads res _ (by simp [hv]) ?_ ⟨hc.interface, hc.forwarding, hc.rxPktCnt, hc.fixFrame, hc.uartLostPktCnt,
    hc.stored, hc.readCrc⟩
  rw [keep_more hv]
  refine ⟨hlen, hbytes, hstate, fun htwo => ?_, fun hthree => ?_, .inr hf⟩
  · rw [List.length_append, List.length_singleton] at htwo
    exact hhigh (by omega)
  · rw [List.length_append, List.length_singleton] at hthree
    exact hexp (Nat.le_of_succ_le_succ hthree)

/-- Behind the header the length stays. -/
private theorem rtcm3Step_behind {res : Bool} (rxState : RxState) (hf : Rtcm3Front (l ++ [b]))
    (hstate : rxState = rtcm3State (l ++ [b])) (hl : rtcm3HeaderSize ≤ l.length) :
    Rtcm3Step env proc d slot l b (res, d.setRtcm3 slot ((d.rtcm3 slot).load b rxState)) := by
  have hheader : rtcm3HeaderSize = 3 := rfl
  refine rtcm3Step_more h hread (d.rtcm3 slot).expLen rxState hf hstate (fun _ => by omega) fun _ => ?_
  rw [h.expLen hl, List.getD_append _ _ _ _ (by omega), List.getD_append _ _ _ _ (by omega)]

private theorem rtcm3Step_waitPreamble (hl : l.length = 0) : Rtcm3Step env proc d slot l b
    (d.stepRtcm3 slot (rtcm3ProcWaitPreamble (d.rtcm3 slot) b)) := by
  have hnil : l = [] := List.length_eq_zero_iff.1 hl
  subst hnil
  have hlen : (d.rtcm3 slot).loadLen = 0 := h.loadLen
  unfold rtcm3ProcWaitPreamble
  by_cases hb : rtcm3Preamble = b
  · rw [if_pos ⟨hb, hlen⟩]
    exact rtcm3Step_more h hread (d.rtcm3 slot).expLen .waitLen ⟨by simp [hb], .inl (by simp [rtcm3HeaderSize])⟩ rfl
      (fun hc => absurd hc (by decide)) fun hc => absurd hc (by decide)
  · rw [if_neg fun hand => hb hand.1]
    have hhead : ([] ++ [b]).head? ≠ some rtcm3Preamble := by
      simpa using fun hc : b = rtcm3Preamble => hb hc.symm
    exact rtcm3Step_drop (fun hf => hhead hf.1) (fun hw => hhead hw.1) ⟨rfl, rfl, rfl, rfl, rfl, fun _ => .inl, hread⟩

private theorem rtcm3Step_waitLen (hl : l.length = 1 ∨ l.length = 2) : Rtcm3Step env proc d slot l b
    (d.stepRtcm3 slot (rtcm3ProcWaitLen (d.rtcm3 slot) b)) := by
  have hheader : rtcm3HeaderSize = 3 := rfl
  have hsize : (l ++ [b]).length = l.length + 1 := by simp
  have hfront : Rtcm3Front (l ++ [b]) := ⟨h.head (by omega) b, .inl (by omega)⟩
  unfold rtcm3ProcWaitLen
  rcases hl with hl | hl
  · rw [if_pos (h.loadLen.trans hl)]
    refine rtcm3Step_more h hread _ .waitLen hfront ?_ (fun _ => ?_) fun hc => by omega
    · rw [rtcm3State, hsize, hl, if_neg (by decide), if_pos (by decide)]
    · rw [setLen8High, hi_join, List.getD_append_right _ _ _ _ (by omega), hl]
      rfl
  · rw [if_neg (by rw [h.loadLen, hl]; decide), if_pos (h.loadLen.trans hl)]
    have hfits : ¬rtcm3RxMaxFrameSize < (fieldLen (setLen8Low (d.rtcm3 slot).expLen b)).toNat + rtcm3Overhead := by
      have hmax : rtcm3RxMaxFrameSize = 1036 := rfl
      have hover : rtcm3Overhead = 6 := rfl
      rw [fieldLen_toNat]
      omega
    unfold rtcm3CheckLen
    rw [if_neg hfits]
    refine rtcm3Step_more h hread _ .waitPayload hfront ?_ (fun hc => by omega) fun _ => ?_
    · rw [rtcm3State, hsize, hl, if_neg (by decide), if_neg (by decide), if_pos (.inl rfl)]
    · rw [setLen8Low, h.expLenHigh hl, List.getD_append _ _ 0 1 (by omega),
        List.getD_append_right _ _ _ 2 (by omega), hl]
      rfl

private theorem rtcm3Step_waitPayload (hl : rtcm3HeaderSize ≤ l.length)
    (hlt : l.length = rtcm3HeaderSize ∨ l.length < rtcm3HeaderSize + rtcm3Len l) : Rtcm3Step env proc d slot l b
    (d.stepRtcm3 slot (rtcm3ProcWaitPayload (d.rtcm3 slot) b)) := by
  have hheader : rtcm3HeaderSize = 3 := rfl
  have hover : rtcm3Overhead = 6 := rfl
  have hsize : (l ++ [b]).length = l.length + 1 := by simp
  have hlen : (fieldLen (d.rtcm3 slot).expLen).toNat = rtcm3Len l := by rw [h.expLen hl, rtcm3Len]
  have happend := rtcm3Len_append hl [b]
  unfold rtcm3ProcWaitPayload
  rw [h.loadLen, hlen]
  by_cases hpos : rtcm3Len l = 0
  · -- the frame without a payload: its header is already behind the payload
    rw [if_neg (by omega), if_neg (by omega)]
    refine rtcm3Step_drop ?_ (fun hw => hw.2.1 (happend.trans hpos)) ⟨rfl, rfl, rfl, rfl, rfl, fun _ => .inl, hread⟩
    rintro ⟨-, hle | ⟨hne, -⟩⟩
    · omega
    · exact hne (happend.trans hpos)
  · have hfront : Rtcm3Front (l ++ [b]) :=
      ⟨h.head (by omega) b, .inr ⟨by rwa [happend], by rw [happend, hsize]; omega⟩⟩
    have hstate : rtcm3State (l ++ [b]) =
        if l.length + 1 < rtcm3HeaderSize + rtcm3Len l then .waitPayload else .waitCrc := by
      rw [rtcm3State, happend, hsize, if_neg (by omega), if_neg (by omega)]
      simp only [show ¬l.length + 1 = rtcm3HeaderSize by omega, false_or]
    by_cases hlast : l.length < rtcm3HeaderSize + rtcm3Len l - 1
    · rw [if_pos hlast]
      exact rtcm3Step_behind h hread .waitPayload hfront (by rw [hstate, if_pos (by omega)]) hl
    · rw [if_neg hlast, if_pos (by omega)]
      exact rtcm3Step_behind h hread .waitCrc hfront (by rw [hstate, if_neg (by omega)]) hl

end

/-- The high byte of `read_crc` stays zero, so the three bytes of the frame are all that is reversed. -/
private theorem takeCrc_readCrc (hread : p.readCrc.toNat < 2 ^ 24) : (p.takeCrc env).readCrc =
    join24 (p.rxFrame (p.crc24Index.toNat + 2)) (p.rxFrame (p.crc24Index.toNat + 1)) (p.rxFrame p.crc24Index.toNat) := by
  have hhigh : p.readCrc &&& 0xFF000000 = 0 := by
    apply UInt32.toNat_inj.1
    rw [UInt32.toNat_and, show (0xFF000000 : UInt32).toNat = 255 <<< 24 from rfl]
    apply Nat.eq_of_testBit_eq
    intro i
    rw [Nat.testBit_and, Nat.testBit_shiftLeft]
    by_cases hi : 24 ≤ i
    · have hbit : p.readCrc.toNat.testBit i = false :=
        Nat.testBit_lt_two_pow (Nat.lt_of_lt_of_le hread (Nat.pow_le_pow_right (by decide) hi))
      simp [hbit]
    · simp [hi]
  simp only [Rtcm3Protocol.takeCrc]
  rw [hhigh, UInt32.zero_or, env.reverseByteOrderUint24_join24]

private theorem takeCrc_lt (hread : p.readCrc.toNat < 2 ^ 24) : (p.takeCrc env).readCrc.toNat < 2 ^ 24 := by
  rw [takeCrc_readCrc hread, toNat_join24]
  have h0 := (p.rxFrame p.crc24Index.toNat).toNat_lt
  have h1 := (p.rxFrame (p.crc24Index.toNat + 1)).toNat_lt
  have h2 := (p.rxFrame (p.crc24Index.toNat + 2)).toNat_lt
  omega

section

variable (h : Rtcm3Loaded (d.rtcm3 slot) l) (hread : (d.rtcm3 slot).readCrc.toNat < 2 ^ 24)

include h

theorem Rtcm3Loaded.crc24Index (hl : rtcm3HeaderSize ≤ l.length) :
    (d.rtcm3 slot).crc24Index.toNat = rtcm3HeaderSize + rtcm3Len l := by
  have hlt := rtcm3Len_lt l
  have hlen : (fieldLen (d.rtcm3 slot).expLen).toNat = rtcm3Len l := by rw [h.expLen hl, rtcm3Len]
  rw [Rtcm3Protocol.crc24Index, UInt16.toNat_add, hlen, show (3 : UInt16).toNat = rtcm3HeaderSize from rfl]
  have hheader : rtcm3HeaderSize = 3 := rfl
  omega

include hread

/-- The last byte of the checksum. -/
private theorem rtcm3Step_last (hl : l.length = rtcm3HeaderSize + rtcm3Len l + 2) (hpos : rtcm3Len l ≠ 0) :
    Rtcm3Step env proc d slot l b
      (d.rtcm3CheckCrc24 env proc slot (((d.rtcm3 slot).load b .waitCrc).takeCrc env)) := by
  have hheader : rtcm3HeaderSize = 3 := rfl
  have hover : rtcm3Overhead = 6 := rfl
  have hlt := rtcm3Len_lt l
  have happend := rtcm3Len_append (l := l) (by omega) [b]
  have hsize : (l ++ [b]).length = l.length + 1 := by simp
  have hindex := h.crc24Index (by omega)
  obtain ⟨-, hbytes⟩ := rtcm3Load_bytes h.loadLen h.rxFrame b .waitCrc
  have hc := rtcm3Calm_load h hread b .waitCrc
  generalize hq : (d.rtcm3 slot).load b .waitCrc = q at hbytes hc
  have hqindex : q.crc24Index.toNat = rtcm3HeaderSize + rtcm3Len (l ++ [b]) := by
    rw [happend, ← hindex, ← hq]
    rfl
  have hget : ∀ i, i < (l ++ [b]).length → q.rxFrame i = (l ++ [b]).getD i 0 :=
    fun i hi => (Buffer.getD_of_bytesAt hbytes hi).symm
  have hc' : Rtcm3Calm (d.rtcm3 slot) (q.takeCrc env) :=
    ⟨hc.interface, hc.forwarding, hc.rxPktCnt, hc.fixFrame, hc.uartLostPktCnt, hc.stored, takeCrc_lt hc.readCrc⟩
  have hcrc : (q.takeCrc env).crcOk env ↔ Rtcm3Whole env (l ++ [b]) := by
    have htake : bytesAt q.rxFrame 0 (rtcm3HeaderSize + rtcm3Len (l ++ [b])) =
        (l ++ [b]).take (rtcm3HeaderSize + rtcm3Len (l ++ [b])) := by
      rw [← take_bytesAt (show rtcm3HeaderSize + rtcm3Len (l ++ [b]) ≤ (l ++ [b]).length by omega), hbytes]
    unfold Rtcm3Protocol.crcOk Rtcm3Whole
    dsimp only
    rw [takeCrc_readCrc hc.readCrc, show (q.takeCrc env).crc24Index = q.crc24Index from rfl,
      show (q.takeCrc env).rxFrame = q.rxFrame from rfl, hqindex, htake, env.reverseByteOrderUint24_join24,
      hget (rtcm3HeaderSize + rtcm3Len (l ++ [b])) (by omega),
      hget (rtcm3HeaderSize + rtcm3Len (l ++ [b]) + 1) (by omega),
      hget (rtcm3HeaderSize + rtcm3Len (l ++ [b]) + 2) (by omega)]
    exact ⟨fun hok => ⟨h.head (by omega) b, by rwa [happend], by omega, hok⟩, fun hw => hw.2.2.2⟩
  have hpacket : (q.takeCrc env).packetLength.toNat = (l ++ [b]).length := by
    rw [Rtcm3Protocol.packetLength, UInt16.toNat_add, show (q.takeCrc env).crc24Index = q.crc24Index from rfl, hqindex,
      show (3 : UInt16).toNat = 3 from rfl]
    omega
  unfold Device.rtcm3CheckCrc24
  by_cases hok : Rtcm3Whole env (l ++ [b])
  · rw [if_pos (hcrc.2 hok)]
    dsimp only
    rw [hpacket, show bytesAt (q.takeCrc env).rxFrame 0 (l ++ [b]).length = l ++ [b] from hbytes]
    exact .accepts _ (verdict_of_whole hok) hbytes hpacket hc'
  · rw [if_neg fun hc => hok (hcrc.1 hc)]
    refine rtcm3Step_drop ?_ hok ⟨hc'.interface, hc'.forwarding, hc'.rxPktCnt, hc'.fixFrame, hc'.uartLostPktCnt,
      hc'.stored, hc'.readCrc⟩
    rintro ⟨-, hle | ⟨-, hlt'⟩⟩ <;> omega

private theorem rtcm3Step_waitCrc (hl : rtcm3HeaderSize < l.length) (hge : rtcm3HeaderSize + rtcm3Len l ≤ l.length) :
    Rtcm3Step env proc d slot l b (d.rtcm3ProcWaitCrc24 env proc slot b) := by
  have hheader : rtcm3HeaderSize = 3 := rfl
  have hover : rtcm3Overhead = 6 := rfl
  have hsize : (l ++ [b]).length = l.length + 1 := by simp
  have hindex := h.crc24Index (Nat.le_of_lt hl)
  have happend := rtcm3Len_append (Nat.le_of_lt hl) [b]
  obtain ⟨hpos, hlt⟩ : rtcm3Len l ≠ 0 ∧ l.length < rtcm3Len l + rtcm3Overhead := by
    rcases h.front with rfl | ⟨-, hle | hbehind⟩
    · exact absurd hl (by decide)
    · exact absurd hle (Nat.not_le.2 hl)
    · exact hbehind
  have hstate : .waitCrc = rtcm3State (l ++ [b]) := by
    rw [rtcm3State, happend, hsize, if_neg (by omega), if_neg (by omega), if_neg (by omega)]
  have hfront : l.length < rtcm3HeaderSize + rtcm3Len l + 2 → Rtcm3Front (l ++ [b]) := fun hlt =>
    ⟨h.head (by omega) b, .inr ⟨by rwa [happend], by omega⟩⟩
  unfold Device.rtcm3ProcWaitCrc24
  dsimp only
  rw [h.loadLen, hindex]
  by_cases hfirst : l.length = rtcm3HeaderSize + rtcm3Len l
  · rw [if_pos hfirst]
    exact rtcm3Step_behind h hread .waitCrc (hfront (by omega)) hstate (Nat.le_of_lt hl)
  · rw [if_neg hfirst]
    by_cases hsecond : l.length = rtcm3HeaderSize + rtcm3Len l + 1
    · rw [if_pos hsecond]
      exact rtcm3Step_behind h hread .waitCrc (hfront (by omega)) hstate (Nat.le_of_lt hl)
    · rw [if_neg hsecond, if_pos (by omega)]
      exact rtcm3Step_last h hread (by omega) hpos

/-- What `rtcm3_proc_byte` does with a byte. -/
theorem rtcm3ProcByte_spec (proc : Proc W) (b : UInt8) :
    Rtcm3Step env proc d slot l b (d.rtcm3ProcByte env proc slot b) := by
  have hheader : rtcm3HeaderSize = 3 := rfl
  have hstate := h.rxState
  unfold Device.rtcm3ProcByte
  by_cases h0 : l.length = 0
  · rw [rtcm3State, if_pos h0] at hstate
    rw [hstate]
    exact rtcm3Step_waitPreamble h hread h0
  by_cases h2 : l.length < rtcm3HeaderSize
  · rw [rtcm3State, if_neg h0, if_pos h2] at hstate
    rw [hstate]
    exact rtcm3Step_waitLen h hread (by omega)
  by_cases hp : l.length = rtcm3HeaderSize ∨ l.length < rtcm3HeaderSize + rtcm3Len l
  · rw [rtcm3State, if_neg h0, if_neg h2, if_pos hp] at hstate
    rw [hstate]
    exact rtcm3Step_waitPayload h hread (by omega) hp
  · rw [rtcm3State, if_neg h0, if_neg h2, if_neg hp] at hstate
    rw [hstate]
    exact rtcm3Step_waitCrc h hread (by omega) (by omega)

end

/-- The frame that was taken is the one in `fix_frame`. -/
theorem fixedFrame_takeFrame {frame : List UInt8}
    (hbytes : bytesAt p.rxFrame 0 frame.length = frame) (hlen : p.packetLength.toNat = frame.length)
    (hmax : frame.length ≤ rtcm3RxMaxFrameSize) : p.takeFrame.fixedFrame.bytes = frame := by
  have hpacket : p.takeFrame.packetLength = p.packetLength := rfl
  unfold Rtcm3Protocol.fixedFrame Payload.at
  dsimp only
  rw [hpacket, hlen, show p.takeFrame.fixFrame = Buffer.copy p.fixFrame p.rxFrame rtcm3RxMaxFrameSize from rfl,
    Buffer.bytesAt_copy (by omega), hbytes]

/-! ### The parser is sound -/

/-- The parser is in a state it can reach: its indices were inside of `rx_frame`, and unless a frame is being passed on
it has loaded the front of a frame. -/
structure Rtcm3Protocol.Ok (p : Rtcm3Protocol) : Prop where
  stored : ∀ i ∈ p.stored, i < rtcm3RxMaxFrameSize
  readCrc : p.readCrc.toNat < 2 ^ 24
  loaded : p.rxState = .rxDone ∨ ∃ l, Rtcm3Loaded p l

theorem Rtcm3Protocol.Ok.congr (h : p.Ok) (hstored : p'.stored = p.stored) (hcrc : p'.readCrc = p.readCrc)
    (hstate : p'.rxState = p.rxState) (hlen : p'.loadLen = p.loadLen) (hframe : p'.rxFrame = p.rxFrame)
    (hexp : p'.expLen = p.expLen) : p'.Ok := by
  refine ⟨hstored ▸ h.stored, hcrc ▸ h.readCrc, ?_⟩
  rcases h.loaded with hdone | ⟨l, hl⟩
  · exact .inl (hstate.trans hdone)
  · exact .inr ⟨l, hlen.trans hl.loadLen, hframe ▸ hl.rxFrame, hstate.trans hl.rxState, hexp ▸ hl.expLenHigh,
      hexp ▸ hl.expLen, hl.front⟩

theorem Rtcm3Protocol.Ok.resetRx (h : p.Ok) : (rtcm3ResetRx p).Ok :=
  ⟨h.stored, h.readCrc, .inr ⟨[], rtcm3Loaded_resetRx p⟩⟩

theorem Rtcm3Calm.stored_lt (h : Rtcm3Calm p p') (hp : p.Ok) : ∀ i ∈ p'.stored, i < rtcm3RxMaxFrameSize :=
  fun i hi => (h.stored i hi).elim (hp.stored i) id

/-- What any byte does in any state: the parser changes by itself, or it completes a frame. -/
inductive Rtcm3Move (env : Env W polls) (proc : Proc W) (d : Device W) (slot : Interfaces) : Bool × Device W → Prop
  | loads (res : Bool) (p : Rtcm3Protocol) (hi : p.interface = (d.rtcm3 slot).interface)
      (hf : p.forwarding = (d.rtcm3 slot).forwarding) (hok : (d.rtcm3 slot).Ok → p.Ok) :
      Rtcm3Move env proc d slot (res, d.setRtcm3 slot p)
  | accepts (p : Rtcm3Protocol) (frame : List UInt8) (hi : p.interface = (d.rtcm3 slot).interface)
      (hf : p.forwarding = (d.rtcm3 slot).forwarding) (hok : (d.rtcm3 slot).Ok → p.takeFrame.Ok) :
      Rtcm3Move env proc d slot
        ((d.passRtcm3 env proc slot p frame).1, (d.passRtcm3 env proc slot p frame).2.rtcm3Done slot)

theorem rtcm3ProcByte_cases (env : Env W polls) (proc : Proc W) (d : Device W) (slot : Interfaces) (b : UInt8) :
    Rtcm3Move env proc d slot (d.rtcm3ProcByte env proc slot b) := by
  by_cases hok : (d.rtcm3 slot).Ok
  · rcases hok.loaded with hdone | ⟨l, hl⟩
    · unfold Device.rtcm3ProcByte
      rw [hdone]
      exact .loads false _ rfl rfl fun hp => hp.resetRx
    · have hstep : Rtcm3Step env proc d slot l b (d.rtcm3ProcByte env proc slot b) :=
        rtcm3ProcByte_spec hl hok.readCrc proc b
      generalize d.rtcm3ProcByte env proc slot b = res at hstep ⊢
      cases hstep with
      | loads res p hv hl hc =>
        exact .loads res p hc.interface hc.forwarding fun hp => ⟨hc.stored_lt hp, hc.readCrc, .inr ⟨_, hl⟩⟩
      | accepts p hv hl hi hc =>
        exact .accepts p _ hc.interface hc.forwarding fun hp => ⟨hc.stored_lt hp, hc.readCrc, .inl rfl⟩
  · -- nothing is known of the parser, so only what no branch changes is left
    have hstep : ∀ r : Bool × Rtcm3Protocol, r.2.interface = (d.rtcm3 slot).interface →
        r.2.forwarding = (d.rtcm3 slot).forwarding → Rtcm3Move env proc d slot (d.stepRtcm3 slot r) :=
      fun r hi hf => .loads r.1 r.2 hi hf fun hp => absurd hp hok
    unfold Device.rtcm3ProcByte
    split
    · unfold rtcm3ProcWaitPreamble
      split <;> exact hstep _ rfl rfl
    · unfold rtcm3ProcWaitLen rtcm3CheckLen
      split
      · exact hstep _ rfl rfl
      · split
        · split <;> exact hstep _ rfl rfl
        · exact hstep _ rfl rfl
    · unfold rtcm3ProcWaitPayload
      split
      · exact hstep _ rfl rfl
      · split <;> exact hstep _ rfl rfl
    · unfold Device.rtcm3ProcWaitCrc24 Device.rtcm3CheckCrc24
      dsimp only
      split
      · exact hstep (true, _) rfl rfl
      · split
        · exact hstep (true, _) rfl rfl
        · split
          · split
            · exact .accepts _ _ rfl rfl fun hp => absurd hp hok
            · exact hstep (false, _) rfl rfl
          · exact hstep (false, _) rfl rfl
    · exact hstep _ rfl rfl

end TiMcu.Tbfp
