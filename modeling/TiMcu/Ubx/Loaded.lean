import Mathlib.Data.List.Forall2
import TiMcu.Lib.Framing
import TiMcu.Ubx.Driver
import TiMcu.Ubx.Inside

/-!
# What the UBX parser has loaded

The state of the parser is a list of bytes: those of the frame it is loading.  `Loaded` relates the two, and
`ubxStep_loaded` says what one more byte does, as `ubxVerdict` decides on the loaded bytes alone.  So `Framing` says what
becomes of a stream.

A declared length of 0 is taken up, but the parser then waits for a payload: the first byte of the checksum makes it drop
the frame.
-/

namespace TiMcu.Ubx

open NorFlash LittleEndian Framing Runs

variable {W : Type} {env : UbxEnv W} {u : Receiver W} {b : UInt8} {l : List UInt8} {p : UbloxProtocol}

/-! ### The packets -/

/-- The packet in `fix_frame` that `ubx_proc_frame` gets. -/
def UbloxProtocol.packet (p : UbloxProtocol) : UbxPacket where
  cls := p.fixFrame ubxIndexCls
  id := p.fixFrame ubxIndexId
  payload := bytesAt p.fixFrame ubxHeaderSize p.expLen.toNat

/-- The packet that the byte completes. -/
def ubxAccepts (u : Receiver W) (rxByte : UInt8) : Option UbxPacket :=
  if u.proto.rxState = .waitCrc ∧ u.proto.loadLen = u.proto.crcIndex + 1 then
    let u := u.load rxByte .waitCrc
    if u.proto.calcCrc = u.proto.carriedCrc then some u.takeCrc.takeFrame.proto.packet else none
  else none

/-- The packets that a stream completes. -/
def ubxPackets (env : UbxEnv W) : Receiver W → List UInt8 → List UbxPacket
  | _, [] => []
  | u, b :: bs => (ubxAccepts u b).toList ++ ubxPackets env (ubxStep env u b) bs

/-- A packet is what `ubx_proc_frame` is called with. -/
theorem ubxAccepts_some {m : UbxPacket} (h : ubxAccepts u b = some m) :
    ∃ v : Receiver W, v.proto.packet = m ∧ v.world = u.world ∧ v.proto.ack = u.proto.ack ∧
      v.proto.ackCnt = u.proto.ackCnt ∧ v.proto.rxPktCnt = u.proto.rxPktCnt + 1 ∧
      ubxStep env u b = ubxResetRx (ubxProcFrame env v).2 := by
  unfold ubxAccepts at h
  split at h
  · rename_i hlast
    obtain ⟨hstate, hload⟩ := hlast
    dsimp only at h
    split at h
    · rename_i hcrc
      refine ⟨(u.load b .waitCrc).takeCrc.takeFrame, Option.some.inj h, rfl, rfl, rfl, rfl, ?_⟩
      unfold ubxStep ubxProcByte
      rw [hstate]
      simp only [procUbloxWaitCrc]
      rw [if_neg (by omega), if_pos hload, ubxCheckCrc, if_pos hcrc]
    · simp at h
  · simp at h

/-- Without a packet `ubx_proc_frame` is not called. -/
theorem ubxAccepts_none (h : ubxAccepts u b = none) :
    (ubxStep env u b).world = u.world ∧ (ubxStep env u b).proto.ack = u.proto.ack ∧
      (ubxStep env u b).proto.ackCnt = u.proto.ackCnt ∧ (ubxStep env u b).proto.rxPktCnt = u.proto.rxPktCnt := by
  unfold ubxStep ubxProcByte
  cases hstate : u.proto.rxState with
  | waitSyc0 =>
    simp only [procUbloxWaitSync0]
    split <;> exact ⟨rfl, rfl, rfl, rfl⟩
  | waitSyc1 =>
    simp only [procUbloxWaitSync1]
    split <;> exact ⟨rfl, rfl, rfl, rfl⟩
  | waitClass | waitId | rxDone => exact ⟨rfl, rfl, rfl, rfl⟩
  | waitLen =>
    simp only [procUbloxWaitLen]
    split
    · exact ⟨rfl, rfl, rfl, rfl⟩
    · split
      · split <;> exact ⟨rfl, rfl, rfl, rfl⟩
      · exact ⟨rfl, rfl, rfl, rfl⟩
  | waitPayload =>
    simp only [procUbloxWaitPayload]
    split
    · exact ⟨rfl, rfl, rfl, rfl⟩
    · split <;> exact ⟨rfl, rfl, rfl, rfl⟩
  | waitCrc =>
    simp only [procUbloxWaitCrc]
    split
    · exact ⟨rfl, rfl, rfl, rfl⟩
    · split
      · rename_i hload
        rw [ubxAccepts, if_pos ⟨hstate, hload⟩] at h
        dsimp only at h
        split at h
        · simp at h
        · rename_i hcrc
          rw [ubxCheckCrc, if_neg hcrc]
          exact ⟨rfl, rfl, rfl, rfl⟩
      · exact ⟨rfl, rfl, rfl, rfl⟩

/-! ### The frames -/

/-- The length in the header of the loaded bytes. -/
def declaredLen (l : List UInt8) : UInt16 := join (l.getD ubxIndexLen 0) (l.getD (ubxIndexLen + 1) 0)

/-- The number of bytes of a frame. -/
def frameLen (l : List UInt8) : Nat := ubxHeaderSize + (declaredLen l).toNat + ubxLenSize

/-- The checksum of a frame is right. -/
def CrcOk (l : List UInt8) : Prop :=
  ubxCalcCrc16 ((l.take (ubxHeaderSize + (declaredLen l).toNat)).drop 2) =
    join (l.getD (ubxHeaderSize + (declaredLen l).toNat) 0) (l.getD (ubxHeaderSize + (declaredLen l).toNat + 1) 0)

instance (l : List UInt8) : Decidable (CrcOk l) := by
  unfold CrcOk
  infer_instance

/-- What the parser makes of the bytes it has loaded. -/
def ubxVerdict (l : List UInt8) : Verdict :=
  if l.head? ≠ some ubxSyn0 then .drop
  else if l.length = 1 then .more
  else if l.getD 1 0 ≠ ubxSyn1 then .drop
  else if l.length < ubxHeaderSize then .more
  else if ubxRxFrameSize < (declaredLen l).toNat then .drop
  else if l.length = ubxHeaderSize then .more
  else if (declaredLen l).toNat = 0 then .drop
  else if l.length < frameLen l then .more
  else if l.length = frameLen l ∧ CrcOk l then .frame
  else .drop

/-- The state after loading these bytes. -/
def loadState (l : List UInt8) : UbxState :=
  if l.length = 0 then .waitSyc0
  else if l.length = 1 then .waitSyc1
  else if l.length = 2 then .waitClass
  else if l.length = 3 then .waitId
  else if l.length < ubxHeaderSize then .waitLen
  else if l.length = ubxHeaderSize ∨ l.length < ubxHeaderSize + (declaredLen l).toNat then .waitPayload
  else .waitCrc

/-- The packet in a frame. -/
def packetOf (f : List UInt8) : UbxPacket where
  cls := f.getD ubxIndexCls 0
  id := f.getD ubxIndexId 0
  payload := (f.drop ubxHeaderSize).take (declaredLen f).toNat

/-- The packet is that of the frame, if the payload fits in `fix_frame`. -/
structure Carries (m : UbxPacket) (f : List UInt8) : Prop where
  length : m.payload.length = (declaredLen f).toNat
  eq_packetOf : ubxHeaderSize + (declaredLen f).toNat ≤ ubxRxFrameSize → m = packetOf f

/-- The parser has loaded these bytes. -/
structure Loaded (p : UbloxProtocol) (l : List UInt8) : Prop where
  loadLen : l ≠ [] → p.loadLen = l.length
  rxFrame : bytesAt p.rxFrame 0 l.length = l
  rxState : p.rxState = loadState l
  expLen : ubxHeaderSize ≤ l.length → p.expLen = declaredLen l
  held : l = [] ∨ ubxVerdict l = .more

theorem loaded_nil (h : p.rxState = .waitSyc0) : Loaded p [] :=
  ⟨fun hne => absurd rfl hne, rfl, h, fun hle => absurd hle (by decide), .inl rfl⟩

theorem declaredLen_append (h : ubxHeaderSize ≤ l.length) (l' : List UInt8) :
    declaredLen (l ++ l') = declaredLen l := by
  unfold ubxHeaderSize ubxLenSize at h
  have h4 : ubxIndexLen < l.length := by
    unfold ubxIndexLen
    omega
  have h5 : ubxIndexLen + 1 < l.length := by
    unfold ubxIndexLen
    omega
  rw [declaredLen, List.getD_append _ _ _ _ h4, List.getD_append _ _ _ _ h5, declaredLen]

/-! ### What the verdict on the loaded bytes says -/

private theorem head_of_more (h : ubxVerdict l = .more) : l.head? = some ubxSyn0 := by
  unfold ubxVerdict at h
  split at h
  · simp at h
  · rename_i hhead
    exact not_not.1 hhead

private theorem second_of_more (h : ubxVerdict l = .more) (hlen : l.length ≠ 1) : l.getD 1 0 = ubxSyn1 := by
  unfold ubxVerdict at h
  rw [if_neg (not_not.2 (head_of_more h)), if_neg hlen] at h
  split at h
  · simp at h
  · rename_i hsecond
    exact not_not.1 hsecond

/-- Behind the header the declared length is accepted, and the frame is not complete. -/
private theorem bounds_of_more (h : ubxVerdict l = .more) (hlen : ubxHeaderSize ≤ l.length) :
    (declaredLen l).toNat ≤ ubxRxFrameSize ∧
      (l.length = ubxHeaderSize ∨ 0 < (declaredLen l).toNat ∧ l.length < frameLen l) := by
  have hheader : ubxHeaderSize = 6 := rfl
  have hne : l.length ≠ 1 := by omega
  have hsecond := second_of_more h hne
  unfold ubxVerdict at h
  rw [if_neg (not_not.2 (head_of_more h)), if_neg hne, if_neg (not_not.2 hsecond), if_neg (by omega)] at h
  split at h
  · simp at h
  · rename_i hsize
    refine ⟨by omega, ?_⟩
    split at h
    · rename_i hsix
      exact .inl hsix
    · split at h
      · simp at h
      · rename_i hzero
        split at h
        · rename_i hlt
          exact .inr ⟨by omega, hlt⟩
        · split at h <;> simp at h

theorem Loaded.verdict (h : Loaded p l) (hpos : 0 < l.length) : ubxVerdict l = .more := by
  rcases h.held with rfl | hv
  · exact absurd hpos (by decide)
  · exact hv

theorem Loaded.head (h : Loaded p l) (hpos : 0 < l.length) (b : UInt8) : (l ++ [b]).head? = some ubxSyn0 := by
  rw [List.head?_append_of_ne_nil _ (List.length_pos_iff.1 hpos)]
  exact head_of_more (h.verdict hpos)

theorem Loaded.second (h : Loaded p l) (hpos : 1 < l.length) (b : UInt8) : (l ++ [b]).getD 1 0 = ubxSyn1 := by
  rw [List.getD_append _ _ _ _ hpos]
  exact second_of_more (h.verdict (by omega)) (by omega)

/-! ### One byte more -/

private theorem ubxAccepts_of_ne (h : u.proto.rxState ≠ .waitCrc) : ubxAccepts u b = none := by
  rw [ubxAccepts, if_neg]
  rintro ⟨hstate, -⟩
  exact h hstate

theorem Loaded.store (h : Loaded p l) (b : UInt8) :
    bytesAt (Buffer.store p.rxFrame l.length b) 0 (l ++ [b]).length = l ++ [b] := by
  rw [List.length_append, List.length_singleton, Buffer.bytesAt_store, h.rxFrame]

/-- What a byte does to a parser that has loaded `l`. -/
structure ByteStep (env : UbxEnv W) (u : Receiver W) (l : List UInt8) (b : UInt8) : Prop where
  loaded : Loaded (ubxStep env u b).proto (keep ubxVerdict (l ++ [b]))
  accepts : List.Forall₂ Carries (ubxAccepts u b).toList (complete ubxVerdict (l ++ [b]))

/-- The byte is loaded. -/
theorem byteStep_more {v : Receiver W} (h : Loaded u.proto l) (hv : ubxVerdict (l ++ [b]) = .more)
    (hstep : ubxStep env u b = v) (haccepts : ubxAccepts u b = none)
    (hframe : v.proto.rxFrame = Buffer.store u.proto.rxFrame l.length b) (hlen : v.proto.loadLen = l.length + 1)
    (hstate : v.proto.rxState = loadState (l ++ [b]))
    (hexp : ubxHeaderSize ≤ l.length + 1 → v.proto.expLen = declaredLen (l ++ [b])) : ByteStep env u l b := by
  constructor
  · rw [hstep, keep_more hv]
    refine ⟨fun _ => ?_, ?_, hstate, fun hle => ?_, .inr hv⟩
    · rw [hlen, List.length_append, List.length_singleton]
    · rw [hframe]
      exact h.store b
    · rw [List.length_append, List.length_singleton] at hle
      exact hexp hle
  · rw [haccepts, complete_of_ne (by rw [hv]; simp)]
    exact .nil

/-- A byte of the header before the length is complete. -/
theorem byteStep_header {v : Receiver W} (h : Loaded u.proto l) (hlt : l.length + 1 < ubxHeaderSize)
    (hv : ubxVerdict (l ++ [b]) = .more) (hstep : ubxStep env u b = v) (haccepts : ubxAccepts u b = none)
    (hframe : v.proto.rxFrame = Buffer.store u.proto.rxFrame l.length b) (hlen : v.proto.loadLen = l.length + 1)
    (hstate : v.proto.rxState = loadState (l ++ [b])) : ByteStep env u l b :=
  byteStep_more h hv hstep haccepts hframe hlen hstate fun hle => absurd hle (by omega)

/-- The frame is dropped. -/
theorem byteStep_drop {v : Receiver W} (hv : ubxVerdict (l ++ [b]) = .drop) (hstep : ubxStep env u b = ubxResetRx v)
    (haccepts : ubxAccepts u b = none) : ByteStep env u l b := by
  constructor
  · rw [hstep, keep_drop hv]
    exact loaded_nil rfl
  · rw [haccepts, complete_of_ne (by rw [hv]; simp)]
    exact .nil

private theorem byteStep_waitSync0 (h : Loaded u.proto l) (hl : l.length = 0) : ByteStep env u l b := by
  obtain rfl : l = [] := List.length_eq_zero_iff.1 hl
  have hstate : u.proto.rxState = .waitSyc0 := h.rxState
  have haccepts : ubxAccepts u b = none := ubxAccepts_of_ne (by rw [hstate]; simp)
  by_cases hb : ubxSyn0 = b
  · have hstep : ubxStep env u b = { u.put 0 b with proto.rxState := .waitSyc1, proto.loadLen := 1 } := by
      rw [ubxStep, ubxProcByte, hstate]
      exact congrArg Prod.snd (if_pos hb)
    have hv : ubxVerdict ([] ++ [b]) = .more := by simp [ubxVerdict, ← hb]
    exact byteStep_header h (by simp [ubxHeaderSize, ubxLenSize]) hv hstep haccepts rfl rfl rfl
  · have hstep : ubxStep env u b = ubxResetRx u := by
      rw [ubxStep, ubxProcByte, hstate]
      exact congrArg Prod.snd (if_neg hb)
    refine byteStep_drop ?_ hstep haccepts
    have hb' : ¬b = ubxSyn0 := fun hc => hb hc.symm
    simp [ubxVerdict, hb']

private theorem byteStep_waitSync1 (h : Loaded u.proto l) (hl : l.length = 1) : ByteStep env u l b := by
  obtain ⟨c, rfl⟩ := List.length_eq_one_iff.1 hl
  have hstate : u.proto.rxState = .waitSyc1 := h.rxState
  have haccepts : ubxAccepts u b = none := ubxAccepts_of_ne (by rw [hstate]; simp)
  have hhead := h.head (Nat.one_pos) b
  by_cases hb : ubxSyn1 = b
  · have hstep : ubxStep env u b = { u.put 1 b with proto.rxState := .waitClass, proto.loadLen := 2 } := by
      rw [ubxStep, ubxProcByte, hstate]
      exact congrArg Prod.snd (if_pos hb)
    have hv : ubxVerdict ([c] ++ [b]) = .more := by
      rw [ubxVerdict, if_neg (not_not.2 hhead)]
      simp [← hb, ubxHeaderSize, ubxLenSize]
    exact byteStep_header h (by simp [ubxHeaderSize, ubxLenSize]) hv hstep haccepts rfl rfl rfl
  · have hstep : ubxStep env u b = ubxResetRx u := by
      rw [ubxStep, ubxProcByte, hstate]
      exact congrArg Prod.snd (if_neg hb)
    refine byteStep_drop ?_ hstep haccepts
    have hb' : ¬b = ubxSyn1 := fun hc => hb hc.symm
    rw [ubxVerdict, if_neg (not_not.2 hhead)]
    simp [hb']

/-- Inside the header nothing is decided. -/
theorem verdict_header (h : Loaded p l) (hpos : 1 < l.length) (hlt : l.length + 1 < ubxHeaderSize) :
    ubxVerdict (l ++ [b]) = .more := by
  rw [ubxVerdict, if_neg (not_not.2 (h.head (by omega) b)), List.length_append, List.length_singleton,
    if_neg (by omega), if_neg (not_not.2 (h.second hpos b)), if_pos hlt]

private theorem byteStep_waitClass (h : Loaded u.proto l) (hl : l.length = 2) : ByteStep env u l b := by
  have hstate : u.proto.rxState = .waitClass := by rw [h.rxState, loadState]; simp [hl]
  have hstep : ubxStep env u b = (procUbloxWaitClass u b).2 := by rw [ubxStep, ubxProcByte, hstate]
  have hlt : l.length + 1 < ubxHeaderSize := by rw [hl]; decide
  exact byteStep_header h hlt (verdict_header h (by omega) hlt) hstep (ubxAccepts_of_ne (by rw [hstate]; simp))
    (by rw [hl]; rfl) (by rw [hl]; rfl) (by simp [procUbloxWaitClass, loadState, hl])

private theorem byteStep_waitId (h : Loaded u.proto l) (hl : l.length = 3) : ByteStep env u l b := by
  have hstate : u.proto.rxState = .waitId := by rw [h.rxState, loadState]; simp [hl]
  have hstep : ubxStep env u b = (procUbloxWaitId u b).2 := by rw [ubxStep, ubxProcByte, hstate]
  have hlt : l.length + 1 < ubxHeaderSize := by rw [hl]; decide
  exact byteStep_header h hlt (verdict_header h (by omega) hlt) hstep (ubxAccepts_of_ne (by rw [hstate]; simp))
    (by rw [hl]; rfl) (by rw [hl]; rfl) (by simp [procUbloxWaitId, loadState, hl, ubxHeaderSize, ubxLenSize])

/-- The length field that the parser reads from `rx_frame`. -/
theorem Loaded.declared (h : Loaded p l) (hl : l.length = 5) (b : UInt8) :
    join (Buffer.store p.rxFrame 5 b ubxIndexLen) (Buffer.store p.rxFrame 5 b (ubxIndexLen + 1)) =
      declaredLen (l ++ [b]) := by
  have hbytes := h.store b
  rw [List.length_append, hl] at hbytes
  have h4 := Buffer.getD_of_bytesAt hbytes (show ubxIndexLen < 5 + [b].length by simp [ubxIndexLen])
  have h5 := Buffer.getD_of_bytesAt hbytes (show ubxIndexLen + 1 < 5 + [b].length by simp [ubxIndexLen])
  rw [declaredLen, h4, h5]

theorem byteStep_waitLen (h : Loaded u.proto l) (hl : l.length = 4 ∨ l.length = 5) : ByteStep env u l b := by
  have hheader : ubxHeaderSize = 6 := rfl
  have hstate : u.proto.rxState = .waitLen := by
    rw [h.rxState, loadState]
    rcases hl with hl | hl <;> simp [hl, hheader]
  have hload := h.loadLen (by rintro rfl; simp at hl)
  have hstep : ubxStep env u b = (procUbloxWaitLen u b).2 := by rw [ubxStep, ubxProcByte, hstate]
  have haccepts : ubxAccepts u b = none := ubxAccepts_of_ne (by rw [hstate]; simp)
  unfold procUbloxWaitLen at hstep
  rcases hl with hl | hl
  · rw [if_pos (by rw [hload, hl])] at hstep
    have hlt : l.length + 1 < ubxHeaderSize := by omega
    exact byteStep_header h hlt (verdict_header h (by omega) hlt) hstep haccepts (by rw [hl]; rfl) (by rw [hl])
      (by simp [loadState, hl, hheader])
  · rw [if_neg (by omega), if_pos (by omega)] at hstep
    have hdeclared := h.declared hl b
    simp only [Receiver.put, Receiver.reads, hdeclared] at hstep
    have hsix : (l ++ [b]).length = ubxHeaderSize := by rw [List.length_append, hl]; rfl
    have hverdict : ubxVerdict (l ++ [b]) =
        if ubxRxFrameSize < (declaredLen (l ++ [b])).toNat then .drop else .more := by
      rw [ubxVerdict, if_neg (not_not.2 (h.head (by omega) b)), hsix, if_neg (by decide),
        if_neg (not_not.2 (h.second (by omega) b)), if_neg (Nat.lt_irrefl _), if_pos rfl]
    by_cases hsize : ubxRxFrameSize < (declaredLen (l ++ [b])).toNat
    · rw [if_pos hsize] at hstep hverdict
      exact byteStep_drop hverdict hstep haccepts
    · rw [if_neg hsize] at hstep hverdict
      refine byteStep_more h hverdict hstep haccepts (by rw [hl]) (by rw [hl]) ?_ fun _ => rfl
      simp [loadState, hl, hheader]

/-- Behind the header the verdict depends on the declared length. -/
private theorem verdict_behind (h : Loaded p l) (hl : ubxHeaderSize ≤ l.length) (b : UInt8) :
    ubxVerdict (l ++ [b]) =
      if (declaredLen l).toNat = 0 then .drop
      else if l.length + 1 < frameLen l then .more
      else if l.length + 1 = frameLen l ∧ CrcOk (l ++ [b]) then .frame
      else .drop := by
  have hheader : ubxHeaderSize = 6 := rfl
  obtain ⟨hsize, -⟩ := bounds_of_more (h.verdict (by omega)) hl
  have happend := declaredLen_append hl [b]
  have hframe : frameLen (l ++ [b]) = frameLen l := by rw [frameLen, happend, frameLen]
  rw [ubxVerdict, if_neg (not_not.2 (h.head (by omega) b)), List.length_append, List.length_singleton,
    if_neg (by omega), if_neg (not_not.2 (h.second (by omega) b)), if_neg (by omega), happend, if_neg (by omega),
    if_neg (by omega), hframe]

theorem byteStep_waitPayload (h : Loaded u.proto l) (hl : ubxHeaderSize ≤ l.length)
    (hwait : l.length = ubxHeaderSize ∨ l.length < ubxHeaderSize + (declaredLen l).toNat) : ByteStep env u l b := by
  have hheader : ubxHeaderSize = 6 := rfl
  have hlen : ubxLenSize = 2 := rfl
  have hstate : u.proto.rxState = .waitPayload := by
    rw [h.rxState, loadState, if_neg (by omega), if_neg (by omega), if_neg (by omega), if_neg (by omega),
      if_neg (by omega), if_pos hwait]
  have hload := h.loadLen (by rintro rfl; simp [hheader] at hl)
  have hexp := h.expLen hl
  have hverdict := verdict_behind h hl b
  have happend := declaredLen_append hl [b]
  have hstep : ubxStep env u b = (procUbloxWaitPayload u b).2 := by rw [ubxStep, ubxProcByte, hstate]
  have haccepts : ubxAccepts u b = none := ubxAccepts_of_ne (by rw [hstate]; simp)
  unfold procUbloxWaitPayload at hstep
  rw [hload, hexp] at hstep
  by_cases hzero : (declaredLen l).toNat = 0
  -- no payload is declared, and the byte is one of the checksum
  · rw [if_pos hzero] at hverdict
    rw [if_neg (by omega), if_neg (by omega)] at hstep
    exact byteStep_drop hverdict hstep haccepts
  · have hlt : l.length + 1 < frameLen l := by
      unfold frameLen
      omega
    rw [if_neg hzero, if_pos hlt] at hverdict
    have hloadState : loadState (l ++ [b]) =
        if l.length + 1 < ubxHeaderSize + (declaredLen l).toNat then .waitPayload else .waitCrc := by
      rw [loadState, List.length_append, List.length_singleton, happend, if_neg (by omega), if_neg (by omega),
        if_neg (by omega), if_neg (by omega), if_neg (by omega)]
      simp only [show ¬l.length + 1 = ubxHeaderSize by omega, false_or]
    by_cases hlast : l.length + 1 < ubxHeaderSize + (declaredLen l).toNat
    · rw [if_pos hlast] at hloadState
      rw [if_pos (by omega)] at hstep
      exact byteStep_more h hverdict hstep haccepts (by rw [← hload]; rfl) (by rw [← hload]; rfl) hloadState.symm
        fun _ => hexp.trans happend.symm
    · rw [if_neg hlast] at hloadState
      rw [if_neg (by omega), if_pos (by omega)] at hstep
      exact byteStep_more h hverdict hstep haccepts (by rw [← hload]; rfl) (by rw [← hload]; rfl) hloadState.symm
        fun _ => hexp.trans happend.symm

/-- The places of the checksum. -/
theorem Loaded.crcIndex (h : Loaded p l) (hl : ubxHeaderSize ≤ l.length) :
    p.crcIndex = ubxHeaderSize + (declaredLen l).toNat ∧ p.crcLen = (declaredLen l).toNat + 4 := by
  have hheader : ubxHeaderSize = 6 := rfl
  have hrx : ubxRxFrameSize = 100 := rfl
  obtain ⟨hsize, -⟩ := bounds_of_more (h.verdict (by omega)) hl
  rw [UbloxProtocol.crcIndex, UbloxProtocol.crcLen, h.expLen hl]
  constructor
  · rw [UInt16.toNat_add, hheader]
    simp
    omega
  · rw [UInt16.toNat_add]
    simp
    omega

/-- The last byte of a frame: the checksum in the buffer is that of the loaded bytes. -/
theorem Loaded.crcOk_iff (h : Loaded u.proto l) (hl : ubxHeaderSize ≤ l.length) (hend : l.length + 1 = frameLen l)
    (b : UInt8) : (u.load b .waitCrc).proto.calcCrc = (u.load b .waitCrc).proto.carriedCrc ↔ CrcOk (l ++ [b]) := by
  have hlen : ubxLenSize = 2 := rfl
  obtain ⟨hindex, hcount⟩ := h.crcIndex hl
  have hload := h.loadLen (by rintro rfl; simp [ubxHeaderSize, ubxLenSize] at hl)
  have hbytes := h.store b
  have happend := declaredLen_append hl [b]
  have htotal : (l ++ [b]).length = ubxHeaderSize + (declaredLen l).toNat + 2 := by
    rw [List.length_append, List.length_singleton, hend, frameLen, hlen]
  have hframe : (u.load b .waitCrc).proto.rxFrame = Buffer.store u.proto.rxFrame l.length b := by
    rw [← hload]
    rfl
  have hcalc : bytesAt (Buffer.store u.proto.rxFrame l.length b) 2 ((declaredLen l).toNat + 4) =
      ((l ++ [b]).take (ubxHeaderSize + (declaredLen l).toNat)).drop 2 := by
    rw [← hbytes, take_bytesAt (by omega), show ubxHeaderSize + (declaredLen l).toNat =
      2 + ((declaredLen l).toNat + 4) by rw [show ubxHeaderSize = 6 from rfl]; omega, Buffer.drop_bytesAt]
  unfold UbloxProtocol.calcCrc UbloxProtocol.carriedCrc CrcOk
  rw [show (u.load b .waitCrc).proto.crcLen = u.proto.crcLen from rfl,
    show (u.load b .waitCrc).proto.crcIndex = u.proto.crcIndex from rfl, hindex, hcount, hframe, hcalc, happend,
    Buffer.getD_of_bytesAt hbytes (by omega), Buffer.getD_of_bytesAt hbytes (by omega)]

/-- The packet of a complete frame. -/
theorem Loaded.carries (h : Loaded u.proto l) (hl : ubxHeaderSize ≤ l.length) (hend : l.length + 1 = frameLen l)
    (b : UInt8) : Carries (u.load b .waitCrc).takeCrc.takeFrame.proto.packet (l ++ [b]) := by
  have hload := h.loadLen (by rintro rfl; simp [ubxHeaderSize, ubxLenSize] at hl)
  have hbytes := h.store b
  have happend := declaredLen_append hl [b]
  have hexp : (u.load b .waitCrc).takeCrc.takeFrame.proto.expLen = declaredLen l := h.expLen hl
  have hfix : (u.load b .waitCrc).takeCrc.takeFrame.proto.fixFrame =
      Buffer.copy u.proto.fixFrame (Buffer.store u.proto.rxFrame l.length b) ubxRxFrameSize := by
    rw [← hload]
    rfl
  constructor
  · rw [UbloxProtocol.packet, hexp, happend, bytesAt_length]
  · rw [happend]
    intro hfits
    have htotal : (l ++ [b]).length = ubxHeaderSize + (declaredLen l).toNat + 2 := by
      rw [List.length_append, List.length_singleton, hend, frameLen]
      rfl
    have hheader : ubxHeaderSize = 6 := rfl
    have hcls := Buffer.getD_of_bytesAt hbytes (show 2 < (l ++ [b]).length by omega)
    have hid := Buffer.getD_of_bytesAt hbytes (show 3 < (l ++ [b]).length by omega)
    have hpayload : bytesAt (Buffer.store u.proto.rxFrame l.length b) ubxHeaderSize (declaredLen l).toNat =
        ((l ++ [b]).drop ubxHeaderSize).take (declaredLen l).toNat := by
      rw [List.take_drop, ← hbytes, take_bytesAt (by omega), Buffer.drop_bytesAt]
    rw [UbloxProtocol.packet, packetOf, hexp, hfix, happend, Buffer.bytesAt_copy hfits,
      Buffer.copy_of_lt (by decide), Buffer.copy_of_lt (by decide), ubxIndexCls, ubxIndexId, hcls, hid, hpayload]

theorem byteStep_waitCrc (h : Loaded u.proto l) (hl : ubxHeaderSize ≤ l.length)
    (hwait : ¬(l.length = ubxHeaderSize ∨ l.length < ubxHeaderSize + (declaredLen l).toNat)) : ByteStep env u l b := by
  have hheader : ubxHeaderSize = 6 := rfl
  have hlen : ubxLenSize = 2 := rfl
  have hstate : u.proto.rxState = .waitCrc := by
    rw [h.rxState, loadState, if_neg (by omega), if_neg (by omega), if_neg (by omega), if_neg (by omega),
      if_neg (by omega), if_neg hwait]
  have hload := h.loadLen (by rintro rfl; simp [hheader] at hl)
  have happend := declaredLen_append hl [b]
  obtain ⟨hindex, -⟩ := h.crcIndex hl
  obtain ⟨-, hopen⟩ := bounds_of_more (h.verdict (by omega)) hl
  have hverdict := verdict_behind h hl b
  rw [if_neg (by omega)] at hverdict
  have hstep : ubxStep env u b = (procUbloxWaitCrc env u b).2 := by rw [ubxStep, ubxProcByte, hstate]
  unfold procUbloxWaitCrc at hstep
  rw [hload, hindex] at hstep
  by_cases hfirst : l.length = ubxHeaderSize + (declaredLen l).toNat
  -- the first of the two checksum bytes is only loaded
  · rw [if_pos hfirst] at hstep
    rw [if_pos (by rw [frameLen]; omega)] at hverdict
    have haccepts : ubxAccepts u b = none := by
      rw [ubxAccepts, if_neg]
      rintro ⟨-, hlast⟩
      omega
    refine byteStep_more h hverdict hstep haccepts (by rw [← hload]; rfl) (by rw [← hload]; rfl) ?_
      fun _ => (h.expLen hl).trans happend.symm
    rw [loadState, List.length_append, List.length_singleton, happend, if_neg (by omega), if_neg (by omega),
      if_neg (by omega), if_neg (by omega), if_neg (by omega), if_neg (by omega)]
    rfl
  -- the second one completes the frame
  · have hend : l.length + 1 = frameLen l := by
      rw [frameLen] at hopen ⊢
      omega
    have hcrc := h.crcOk_iff hl hend b
    rw [if_neg hfirst, if_pos (by rw [frameLen] at hend; omega)] at hstep
    rw [if_neg (by omega)] at hverdict
    have haccepts : ubxAccepts u b =
        if (u.load b .waitCrc).proto.calcCrc = (u.load b .waitCrc).proto.carriedCrc then
          some (u.load b .waitCrc).takeCrc.takeFrame.proto.packet else none :=
      if_pos ⟨hstate, by rw [hload, hindex]; rw [frameLen] at hend; omega⟩
    unfold ubxCheckCrc at hstep
    by_cases hok : CrcOk (l ++ [b])
    · rw [if_pos (hcrc.2 hok)] at hstep haccepts
      rw [if_pos ⟨hend, hok⟩] at hverdict
      constructor
      · rw [hstep, keep_frame hverdict]
        exact loaded_nil rfl
      · rw [haccepts, complete_frame hverdict]
        exact .cons (h.carries hl hend b) .nil
    · rw [if_neg fun hc => hok (hcrc.1 hc)] at hstep haccepts
      rw [if_neg fun hc => hok hc.2] at hverdict
      exact byteStep_drop hverdict hstep haccepts

/-- What `ubx_proc_byte` does with a byte. -/
theorem ubxStep_loaded (env : UbxEnv W) (h : Loaded u.proto l) (b : UInt8) : ByteStep env u l b := by
  have hheader : ubxHeaderSize = 6 := rfl
  by_cases h0 : l.length = 0
  · exact byteStep_waitSync0 h h0
  by_cases h1 : l.length = 1
  · exact byteStep_waitSync1 h h1
  by_cases h2 : l.length = 2
  · exact byteStep_waitClass h h2
  by_cases h3 : l.length = 3
  · exact byteStep_waitId h h3
  by_cases h5 : l.length < ubxHeaderSize
  · exact byteStep_waitLen h (by omega)
  by_cases hwait : l.length = ubxHeaderSize ∨ l.length < ubxHeaderSize + (declaredLen l).toNat
  · exact byteStep_waitPayload h (by omega) hwait
  · exact byteStep_waitCrc h (by omega) hwait

/-- What `ubx_proc_byte` does with a stream. -/
theorem run_loaded (env : UbxEnv W) (h : Loaded u.proto l) (bytes : List UInt8) :
    Loaded (run (ubxStep env) u bytes).proto (held ubxVerdict l bytes) ∧
      List.Forall₂ Carries (ubxPackets env u bytes) (frames ubxVerdict l bytes) := by
  induction bytes generalizing u l with
  | nil => exact ⟨h, .nil⟩
  | cons b bytes ih =>
    obtain ⟨hloaded, haccepts⟩ := ubxStep_loaded env h b
    obtain ⟨hrun, hpackets⟩ := ih hloaded
    exact ⟨hrun, List.rel_append haccepts hpackets⟩

end TiMcu.Ubx
