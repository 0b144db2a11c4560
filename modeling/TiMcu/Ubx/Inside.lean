import TiMcu.Ubx.Parser
import TiMcu.Lib.Runs

/-!
# The UBX parser and its frame buffer

The parser takes up a declared length of up to `UBX_RX_FRAME_SIZE` bytes, but a frame is eight bytes longer than its
payload.  So the frames with a payload of 93 to 100 bytes do not fit in `rx_frame`, and their last bytes are stored
behind it; every other stream stays inside.

The invariant: while a payload or a checksum is loaded, the frame fits.
-/

namespace TiMcu.Ubx

open NorFlash LittleEndian Runs

variable {W : Type} {env : UbxEnv W} {u : Receiver W} {b : UInt8}

/-- One byte as a step. -/
def ubxStep (env : UbxEnv W) (u : Receiver W) (rxByte : UInt8) : Receiver W := (ubxProcByte env u rxByte).2

/-! ### The law and its condition -/

/-- The use stays inside `rx_frame`. -/
def Touch.Inside : Touch → Prop
  | .wrote index => index < ubxRxFrameSize
  | .read _ hi => hi ≤ ubxRxFrameSize

/-- A frame with a payload of that length fits in `rx_frame`. -/
def Fits (expLen : UInt16) : Prop := ubxHeaderSize + expLen.toNat + ubxLenSize ≤ ubxRxFrameSize

instance (expLen : UInt16) : Decidable (Fits expLen) := by
  unfold Fits
  infer_instance

/-- The byte does not complete a length field that the parser takes up although the frame does not fit. -/
def LengthOk (u : Receiver W) (rxByte : UInt8) : Prop :=
  u.proto.rxState = .waitLen → u.proto.loadLen = 5 →
    Fits (join (u.proto.rxFrame ubxIndexLen) rxByte) ∨
    ubxRxFrameSize < (join (u.proto.rxFrame ubxIndexLen) rxByte).toNat

instance (u : Receiver W) (rxByte : UInt8) : Decidable (LengthOk u rxByte) := by
  unfold LengthOk
  infer_instance

/-! ### The invariant -/

structure InsideInv (u : Receiver W) : Prop where
  fits : u.proto.rxState = .waitPayload ∨ u.proto.rxState = .waitCrc → Fits u.proto.expLen
  seen : ∀ t ∈ u.seen, t.Inside

private theorem insideInv_reset (h : ∀ t ∈ u.seen, t.Inside) : InsideInv (ubxResetRx u) :=
  ⟨by simp [ubxResetRx], h⟩

private theorem seen_cons {seen : List Touch} {t : Touch} (h : ∀ t ∈ seen, t.Inside) (ht : t.Inside) :
    ∀ t' ∈ t :: seen, t'.Inside := List.forall_mem_cons.2 ⟨ht, h⟩

theorem InsideInv.load {rxState : UbxState} (h : InsideInv u) (hlt : u.proto.loadLen < ubxRxFrameSize)
    (hfits : Fits u.proto.expLen) : InsideInv (u.load b rxState) :=
  ⟨fun _ => hfits, seen_cons h.seen hlt⟩

theorem Fits.le {expLen : UInt16} (h : Fits expLen) : expLen.toNat ≤ 92 := by
  unfold Fits ubxHeaderSize ubxLenSize ubxRxFrameSize at h
  omega

theorem Fits.crcIndex {p : UbloxProtocol} (h : Fits p.expLen) : p.crcIndex = 6 + p.expLen.toNat := by
  have hle := h.le
  simp [UbloxProtocol.crcIndex, ubxHeaderSize, ubxLenSize, UInt16.toNat_add]
  omega

theorem Fits.crcLen {p : UbloxProtocol} (h : Fits p.expLen) : p.crcLen = p.expLen.toNat + 4 := by
  have hle := h.le
  simp [UbloxProtocol.crcLen, UInt16.toNat_add]
  omega

private theorem waitLen_inside (h : InsideInv u) (hstate : u.proto.rxState = .waitLen) (hok : LengthOk u b) :
    InsideInv (procUbloxWaitLen u b).2 := by
  unfold procUbloxWaitLen
  split
  · exact ⟨by simp [Receiver.put], seen_cons h.seen (show 4 < ubxRxFrameSize by decide)⟩
  · split
    case isTrue hload =>
      have hlow : Buffer.store u.proto.rxFrame 5 b ubxIndexLen = u.proto.rxFrame ubxIndexLen :=
        Buffer.store_of_ne b (by decide)
      have hhigh : Buffer.store u.proto.rxFrame 5 b (ubxIndexLen + 1) = b := Buffer.store_self _ _ _
      have hseen : ∀ t ∈ ((u.put 5 b).reads ubxIndexLen (ubxIndexLen + ubxLenSize)).seen, t.Inside :=
        seen_cons (seen_cons h.seen (show 5 < ubxRxFrameSize by decide))
          (show ubxIndexLen + ubxLenSize ≤ ubxRxFrameSize by decide)
      simp only [Receiver.put, Receiver.reads, hlow, hhigh]
      split
      · exact insideInv_reset hseen
      · exact ⟨fun _ => (hok hstate hload).resolve_right (by assumption), hseen⟩
    · exact insideInv_reset h.seen

private theorem waitPayload_inside (h : InsideInv u) (hstate : u.proto.rxState = .waitPayload) :
    InsideInv (procUbloxWaitPayload u b).2 := by
  have hfits : Fits u.proto.expLen := h.fits (.inl hstate)
  have hle := hfits.le
  have hsize : ubxRxFrameSize = 100 := rfl
  have hheader : ubxHeaderSize = 6 := rfl
  unfold procUbloxWaitPayload
  split
  · exact h.load (by omega) hfits
  · split
    · exact h.load (by omega) hfits
    · exact insideInv_reset h.seen

private theorem ubxProcFrame_seen (u : Receiver W) : (ubxProcFrame env u).2.seen = u.seen := by
  simp only [ubxProcFrame, ubxResetRx, ubxProcClass, ubxProcAckFrame]
  split
  · split <;> rfl
  · rfl

private theorem checkCrc_inside (h : InsideInv u) (hfits : Fits u.proto.expLen) : InsideInv (ubxCheckCrc env u).2 := by
  have hle := hfits.le
  have hsize : ubxRxFrameSize = 100 := rfl
  have hlen : ubxLenSize = 2 := rfl
  have hindex : u.proto.crcIndex + ubxLenSize ≤ ubxRxFrameSize := by
    rw [hfits.crcIndex]
    omega
  have hcheck : 2 + u.proto.crcLen ≤ ubxRxFrameSize := by
    rw [hfits.crcLen]
    omega
  have hseen : ∀ t ∈ u.takeCrc.seen, t.Inside := seen_cons (seen_cons h.seen hindex) hcheck
  unfold ubxCheckCrc
  split
  · refine insideInv_reset ?_
    rw [ubxProcFrame_seen]
    exact seen_cons hseen (Nat.le_refl ubxRxFrameSize)
  · exact insideInv_reset hseen

private theorem waitCrc_inside (h : InsideInv u) (hstate : u.proto.rxState = .waitCrc) :
    InsideInv (procUbloxWaitCrc env u b).2 := by
  have hfits : Fits u.proto.expLen := h.fits (.inr hstate)
  have hle := hfits.le
  have hsize : ubxRxFrameSize = 100 := rfl
  have hindex := hfits.crcIndex
  unfold procUbloxWaitCrc
  split
  · exact h.load (by omega) hfits
  · split
    · exact checkCrc_inside (h.load (by omega) hfits) hfits
    · exact insideInv_reset h.seen

private theorem ubxStep_inside (h : InsideInv u) (hok : LengthOk u b) : InsideInv (ubxStep env u b) := by
  unfold ubxStep ubxProcByte
  cases hstate : u.proto.rxState with
  | waitSyc0 =>
    simp only [procUbloxWaitSync0]
    split
    · exact ⟨by simp [Receiver.put], seen_cons h.seen (show 0 < ubxRxFrameSize by decide)⟩
    · exact insideInv_reset h.seen
  | waitSyc1 =>
    simp only [procUbloxWaitSync1]
    split
    · exact ⟨by simp [Receiver.put], seen_cons h.seen (show 1 < ubxRxFrameSize by decide)⟩
    · exact insideInv_reset h.seen
  | waitClass => exact ⟨by simp [procUbloxWaitClass], seen_cons h.seen (show 2 < ubxRxFrameSize by decide)⟩
  | waitId => exact ⟨by simp [procUbloxWaitId], seen_cons h.seen (show 3 < ubxRxFrameSize by decide)⟩
  | waitLen => exact waitLen_inside h hstate hok
  | waitPayload => exact waitPayload_inside h hstate
  | waitCrc => exact waitCrc_inside h hstate
  | rxDone => exact insideInv_reset h.seen

/-! ### Every stream -/

private theorem init_insideInv (now : UInt32) (world : W) : InsideInv (Receiver.init now world) :=
  ⟨by simp [Receiver.init], by simp [Receiver.init]⟩

/-- In every stream that declares no length of 93 to 100 bytes, each store into `rx_frame` and each read of it for the
length, the checksums and the copy stays inside it. -/
theorem stream_inside (now : UInt32) (world : W) (bytes : List UInt8)
    (h : Guarded (ubxStep env) LengthOk (Receiver.init now world) bytes) :
    ∀ t ∈ (run (ubxStep env) (Receiver.init now world) bytes).seen, t.Inside :=
  (h.invariant (init_insideInv now world) fun _ _ hu hok => ubxStep_inside hu hok).seen

/-- The handlers do nothing. -/
def idleEnv : UbxEnv Unit := ⟨fun _ _ => (), fun _ _ _ => (false, ())⟩

/-- An acknowledgement: `B5 62`, class 5, id 1, two bytes of payload and the checksum. -/
def ackStream : List UInt8 := [0xB5, 0x62, 0x05, 0x01, 0x02, 0x00, 0x06, 0x01, 0x0F, 0x38]

theorem ackStream_inside : (run (ubxStep idleEnv) (Receiver.init 0 ()) ackStream).proto.ackCnt = 1 ∧
    ∀ t ∈ (run (ubxStep idleEnv) (Receiver.init 0 ()) ackStream).seen, t.Inside := by
  exact ⟨by decide +kernel, stream_inside 0 () ackStream (by decide +kernel)⟩

/-! ### The frames that do not fit -/

/-- The byte with index `n` of a frame comes next. -/
structure Loading (expLen : UInt16) (n : Nat) (u : Receiver W) : Prop where
  declared : u.proto.expLen = expLen
  loaded : u.proto.loadLen = n
  header : ubxHeaderSize ≤ n
  state : n < ubxHeaderSize + expLen.toNat ∧ u.proto.rxState = .waitPayload ∨
    n = ubxHeaderSize + expLen.toNat ∧ u.proto.rxState = .waitCrc ∨
    n = ubxHeaderSize + expLen.toNat + 1 ∧ u.proto.rxState = .waitCrc

private theorem ubxCheckCrc_seen (u : Receiver W) : u.seen <:+ (ubxCheckCrc env u).2.seen := by
  unfold ubxCheckCrc
  split
  · change u.seen <:+ (ubxProcFrame env u.takeCrc.takeFrame).2.seen
    rw [ubxProcFrame_seen]
    exact ⟨[.read 0 ubxRxFrameSize, .read 2 (2 + u.proto.crcLen), .read u.proto.crcIndex (u.proto.crcIndex + ubxLenSize)],
      rfl⟩
  · exact ⟨[.read 2 (2 + u.proto.crcLen), .read u.proto.crcIndex (u.proto.crcIndex + ubxLenSize)], rfl⟩

/-- The use of the frame buffer is only added to. -/
private theorem ubxStep_seen (u : Receiver W) (b : UInt8) : u.seen <:+ (ubxStep env u b).seen := by
  unfold ubxStep ubxProcByte
  split
  · unfold procUbloxWaitSync0
    split
    · exact List.suffix_cons _ _
    · exact List.suffix_rfl
  · unfold procUbloxWaitSync1
    split
    · exact List.suffix_cons _ _
    · exact List.suffix_rfl
  · exact List.suffix_cons _ _
  · exact List.suffix_cons _ _
  · unfold procUbloxWaitLen
    split
    · exact List.suffix_cons _ _
    · split
      · dsimp only
        split <;> exact ⟨[.read ubxIndexLen (ubxIndexLen + ubxLenSize), .wrote 5], rfl⟩
      · exact List.suffix_rfl
  · unfold procUbloxWaitPayload
    split
    · exact List.suffix_cons _ _
    · split
      · exact List.suffix_cons _ _
      · exact List.suffix_rfl
  · unfold procUbloxWaitCrc
    split
    · exact List.suffix_cons _ _
    · split
      · have hload : u.seen <:+ (u.load b .waitCrc).seen := List.suffix_cons _ _
        exact hload.trans (ubxCheckCrc_seen _)
      · exact List.suffix_rfl
  · exact List.suffix_rfl

private theorem run_seen (u : Receiver W) (bytes : List UInt8) : u.seen <:+ (run (ubxStep env) u bytes).seen := by
  induction bytes generalizing u with
  | nil => exact List.suffix_rfl
  | cons b bytes ih => exact (ubxStep_seen u b).trans (ih _)

/-- The next byte of the frame is stored at its index. -/
theorem Loading.wrote {expLen : UInt16} {n : Nat} (h : Loading expLen n u) (hle : expLen.toNat ≤ ubxRxFrameSize) :
    .wrote n ∈ (ubxStep env u b).seen ∧
      (n < ubxHeaderSize + expLen.toNat + 1 → Loading expLen (n + 1) (ubxStep env u b)) := by
  obtain ⟨hexp, hload, hheader, hstate⟩ := h
  have hindex : u.proto.crcIndex = ubxHeaderSize + expLen.toNat := by
    simp [UbloxProtocol.crcIndex, hexp, ubxHeaderSize, ubxLenSize, ubxRxFrameSize, UInt16.toNat_add] at hle ⊢
    omega
  rcases hstate with ⟨hn, hwait⟩ | ⟨hn, hwait⟩ | ⟨hn, hwait⟩
  · simp only [ubxStep, ubxProcByte, hwait, procUbloxWaitPayload, hload, hexp]
    split
    · exact ⟨by simp [Receiver.load, Receiver.put, hload], fun _ =>
        ⟨hexp, by simp [Receiver.load, hload], by omega, .inl ⟨by omega, rfl⟩⟩⟩
    · rw [if_pos (by omega)]
      exact ⟨by simp [Receiver.load, Receiver.put, hload], fun _ =>
        ⟨hexp, by simp [Receiver.load, hload], by omega, .inr (.inl ⟨by omega, rfl⟩)⟩⟩
  · simp only [ubxStep, ubxProcByte, hwait, procUbloxWaitCrc, hload, hindex]
    rw [if_pos hn]
    exact ⟨by simp [Receiver.load, Receiver.put, hload], fun _ =>
      ⟨hexp, by simp [Receiver.load, hload], by omega, .inr (.inr ⟨by omega, rfl⟩)⟩⟩
  · simp only [ubxStep, ubxProcByte, hwait, procUbloxWaitCrc, hload, hindex]
    rw [if_neg (by omega), if_pos hn]
    refine ⟨(ubxCheckCrc_seen _).mem ?_, by omega⟩
    simp [Receiver.load, Receiver.put, hload]

private theorem Loading.run_wrote {expLen : UInt16} {n : Nat} (h : Loading expLen n u)
    (hle : expLen.toNat ≤ ubxRxFrameSize)
    {bytes : List UInt8} (hbytes : bytes ≠ []) (hend : n + bytes.length ≤ ubxHeaderSize + expLen.toNat + ubxLenSize) :
    .wrote (n + bytes.length - 1) ∈ (run (ubxStep env) u bytes).seen := by
  have hlen : ubxLenSize = 2 := rfl
  induction bytes generalizing u n with
  | nil => exact absurd rfl hbytes
  | cons b bytes ih =>
    obtain ⟨hwrote, hnext⟩ : .wrote n ∈ (ubxStep env u b).seen ∧
        (n < ubxHeaderSize + expLen.toNat + 1 → Loading expLen (n + 1) (ubxStep env u b)) := h.wrote hle
    simp only [List.length_cons] at hend
    cases bytes with
    | nil => exact hwrote
    | cons c bytes =>
      simp only [List.length_cons] at hend
      have hrun := ih (hnext (by omega)) (by simp) (by simp only [List.length_cons]; omega)
      rwa [show n + (b :: c :: bytes).length - 1 = n + 1 + (c :: bytes).length - 1 by
        simp only [List.length_cons]; omega, run_cons]

/-- A length of 93 to 100 bytes that is taken up leads to a store behind `rx_frame`, whatever the next 95 bytes are. -/
theorem overlong_overruns {expLen : UInt16} (hlow : ¬Fits expLen) (hhigh : expLen.toNat ≤ ubxRxFrameSize)
    (h : Loading expLen ubxHeaderSize u) {bytes : List UInt8} (hbytes : 95 ≤ bytes.length) :
    .wrote ubxRxFrameSize ∈ (run (ubxStep env) u bytes).seen := by
  unfold Fits at hlow
  have hheader : ubxHeaderSize = 6 := rfl
  have hlen : ubxLenSize = 2 := rfl
  have hsize : ubxRxFrameSize = 100 := rfl
  have htake : (bytes.take 95).length = 95 := by
    rw [List.length_take]
    omega
  have hne : bytes.take 95 ≠ [] := by
    intro hnil
    simp [hnil] at htake
  have hwrote : .wrote (ubxHeaderSize + (bytes.take 95).length - 1) ∈ (run (ubxStep env) u (bytes.take 95)).seen :=
    h.run_wrote hhigh hne (by omega)
  rw [htake] at hwrote
  rw [← List.take_append_drop 95 bytes, run_append]
  exact (run_seen _ _).mem hwrote

/-- The header of a frame with 93 bytes of payload. -/
def overlongHeader : List UInt8 := [0xB5, 0x62, 0x01, 0x07, 0x5D, 0x00]

theorem not_stream_inside : ¬∀ bytes, ∀ t ∈ (run (ubxStep idleEnv) (Receiver.init 0 ()) bytes).seen, t.Inside := by
  intro h
  have hheader : Loading 93 ubxHeaderSize (run (ubxStep idleEnv) (Receiver.init 0 ()) overlongHeader) :=
    ⟨by decide, by decide, by decide, .inl (by decide)⟩
  have hwrote : .wrote ubxRxFrameSize ∈
      (run (ubxStep idleEnv) (run (ubxStep idleEnv) (Receiver.init 0 ()) overlongHeader) (.replicate 95 0)).seen :=
    overlong_overruns (by decide) (by decide) hheader (by decide)
  rw [← run_append] at hwrote
  exact Nat.lt_irrefl _ (h _ _ hwrote)

end TiMcu.Ubx
