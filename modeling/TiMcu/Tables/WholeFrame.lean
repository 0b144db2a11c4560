import TiMcu.Lib.Fetch
import TiMcu.Rtcm3.Loaded
import TiMcu.Tbfp.Loaded

/-!
# The bytes that the checks of a whole frame read

`is_tbfp_protocol` and `is_rtcm3_frame` get an array and its length.  Both read the length of the payload from the array
and use it as an index.  Here they are programs that fetch one byte after the other; their results are those of
`isTbfpProtocol` and `isRtcm3Frame`.

An array of `len` bytes lies in a memory that holds anything behind it.  A check is sound on it (`SoundCheck`) when it
stays inside and accepts exactly the whole frames.  It is sound unless the array ends inside the bytes that it reads
(`wholeFrame_sound_iff`): `is_tbfp_protocol` copies the six bytes of the header in any case and compares only the length
of the payload with `len`, `is_rtcm3_frame` compares `len` only with 0.
-/

namespace TiMcu.Tbfp

open NorFlash LittleEndian

variable {W : Type} (env : Env W)

/-! ### The checks -/

/-- `memcpy(&header, arr, sizeof(TbfHeader_t))` -/
def fetchHeader : Fetch TbfHeader := do
  let header ← Fetch.bytes 0 tbfpSizeHeader
  pure (TbfHeader.read (Buffer.ofBytes header))

def isTbfpProtocolFetch (len : UInt16) (preambleVal : UInt8) : Fetch Bool := do
  let header ← fetchHeader
  if preambleVal = header.preamble then
    if header.len < len then do
      let readCrc8 ← Fetch.fetch header.frameLen
      let bytes ← Fetch.bytes 0 header.frameLen
      pure (decide (env.crc8SaeJ1850Calc bytes = readCrc8))
    else pure false
  else pure false

/-- The part of `is_rtcm3_frame` behind the length. -/
def checkCrc24Fetch (crc24Index : Nat) : Fetch Bool := do
  let a ← Fetch.fetch crc24Index
  let b ← Fetch.fetch (crc24Index + 1)
  let c ← Fetch.fetch (crc24Index + 2)
  let bytes ← Fetch.bytes 0 crc24Index
  pure (decide (env.calcCrc24Q bytes = env.reverseByteOrderUint24 (join24 a b c)))

def isRtcm3FrameFetch (len : UInt16) : Fetch Bool :=
  if len = 0 then pure false
  else do
    let preamble ← Fetch.fetch 0
    if preamble = rtcm3Preamble then do
      let low ← Fetch.fetch 2
      let high ← Fetch.fetch 1
      if fieldLen (join low high) = 0 then pure false
      else checkCrc24Fetch env (rtcm3HeaderSize + (fieldLen (join low high)).toNat)
    else pure false

/-! ### Their results -/

@[simp] theorem run_fetchHeader (mem : Mem) : fetchHeader.run mem = TbfHeader.read mem := by
  simp only [fetchHeader, Fetch.run_bind, Fetch.run_bytes, Fetch.run_pure]
  apply read_congr
  have hlength := bytesAt_length mem 0 tbfpSizeHeader
  exact fun i h1 h2 => (Buffer.agree_ofBytes (hlength.symm ▸ rfl) i h1 (hlength.symm ▸ h2)).symm

theorem run_isTbfpProtocol (mem : Mem) (len : UInt16) (preambleVal : UInt8) :
    (isTbfpProtocolFetch env len preambleVal).run mem = decide (isTbfpProtocol env mem len preambleVal) := by
  simp only [isTbfpProtocolFetch, isTbfpProtocol, Fetch.run_bind, run_fetchHeader]
  split
  · next hpreamble =>
    split
    · next hlen => simp [hpreamble, hlen]
    · next hlen => simp [hlen]
  · next hpreamble => simp [hpreamble]

theorem run_isRtcm3Frame (mem : Mem) (len : UInt16) :
    (isRtcm3FrameFetch env len).run mem = true ↔ isRtcm3Frame env mem len := by
  unfold isRtcm3FrameFetch isRtcm3Frame
  by_cases hlen : len = 0
  · simp [hlen]
  · by_cases hpreamble : mem 0 = rtcm3Preamble
    · by_cases hfield : fieldLen (join (mem 2) (mem 1)) = 0
      · simp [hlen, hpreamble, hfield]
      · simp [hlen, hpreamble, hfield, checkCrc24Fetch]
    · simp [hlen, hpreamble]

/-! ### The bytes that they read -/

private theorem below_fetchHeader {mem : Mem} {n : Nat} : Fetch.Below mem n fetchHeader ↔ tbfpSizeHeader ≤ n := by
  have hsize : tbfpSizeHeader = 6 := rfl
  simp only [fetchHeader, Fetch.below_bind, Fetch.below_bytes, Fetch.below_pure, and_true]
  omega

private theorem below_isTbfpProtocol {mem : Mem} {n : Nat} {len : UInt16} {preambleVal : UInt8} :
    Fetch.Below mem n (isTbfpProtocolFetch env len preambleVal) ↔
      tbfpSizeHeader ≤ n ∧
        (preambleVal = mem 0 → (TbfHeader.read mem).len < len → (TbfHeader.read mem).frameLen < n) := by
  simp only [isTbfpProtocolFetch, Fetch.below_bind, below_fetchHeader, run_fetchHeader]
  have hpreamble : (TbfHeader.read mem).preamble = mem 0 := rfl
  rw [Fetch.below_ite, Fetch.below_ite, hpreamble]
  simp only [Fetch.below_bind, Fetch.below_fetch, Fetch.below_bytes, Fetch.below_pure, implies_true, and_true]
  refine and_congr_right fun hsize => forall_congr' fun hp => forall_congr' fun hlen => ?_
  omega

private theorem below_isRtcm3Frame {mem : Mem} {n : Nat} {len : UInt16} :
    Fetch.Below mem n (isRtcm3FrameFetch env len) ↔ (len ≠ 0 → 0 < n ∧ (mem 0 = rtcm3Preamble →
      2 < n ∧ (fieldLen (join (mem 2) (mem 1)) ≠ 0 →
        (fieldLen (join (mem 2) (mem 1))).toNat + rtcm3Overhead ≤ n))) := by
  have hheader : rtcm3HeaderSize = 3 := rfl
  have hover : rtcm3Overhead = 6 := rfl
  simp only [isRtcm3FrameFetch, checkCrc24Fetch, Fetch.below_ite, Fetch.below_bind, Fetch.below_fetch,
    Fetch.below_bytes, Fetch.below_pure, implies_true, and_true, true_and, hheader, hover]
  simp only [Fetch.run_fetch]
  refine forall_congr' fun hlen => and_congr_right fun hn => forall_congr' fun hpreamble => ?_
  constructor
  · rintro ⟨h2, -, hread⟩
    exact ⟨h2, fun hfield => by have := hread hfield; omega⟩
  · rintro ⟨h2, hread⟩
    exact ⟨h2, by omega, fun hfield => by have := hread hfield; omega⟩

/-! ### SoundCheck checks -/

/-- The check of an array, whatever lies behind it, stays inside and accepts exactly the well-formed arrays. -/
structure SoundCheck (check : Fetch Bool) (wellFormed : List UInt8 → Prop) (array : List UInt8) : Prop where
  inside : ∀ mem, bytesAt mem 0 array.length = array → Fetch.Below mem array.length check
  accepts : ∀ mem, bytesAt mem 0 array.length = array → (check.run mem = true ↔ wellFormed array)

/-- The array begins with a TBFP frame. -/
def TbfpWellFormed (preambleVal : UInt8) (array : List UInt8) : Prop :=
  let frameLen := tbfpSizeHeader + payloadLen array
  array.head? = some preambleVal ∧ frameLen + tbfpSizeCrc ≤ array.length ∧
    env.crc8SaeJ1850Calc (array.take frameLen) = array.getD frameLen 0

/-- The array begins with an RTCM3 frame.  The checksum is stored with the highest byte first. -/
def Rtcm3WellFormed (array : List UInt8) : Prop :=
  let i := rtcm3HeaderSize + rtcm3Len array
  array.head? = some rtcm3Preamble ∧ rtcm3Len array ≠ 0 ∧ i + rtcm3Crc24Size ≤ array.length ∧
    env.calcCrc24Q (array.take i) = join24 (array.getD (i + 2) 0) (array.getD (i + 1) 0) (array.getD i 0)

variable {env} {array : List UInt8}

/-- It is enough to look at one memory, since a check that stays inside sees no other bytes. -/
private theorem sound_iff {check : Fetch Bool} {wellFormed : List UInt8 → Prop} :
    SoundCheck check wellFormed array ↔ Fetch.Below (Buffer.ofBytes array) array.length check ∧
      (check.run (Buffer.ofBytes array) = true ↔ wellFormed array) := by
  constructor
  · rintro ⟨hinside, haccepts⟩
    exact ⟨hinside _ (Buffer.bytesAt_ofBytes array), haccepts _ (Buffer.bytesAt_ofBytes array)⟩
  · rintro ⟨hbelow, haccepts⟩
    have hcongr : ∀ mem, bytesAt mem 0 array.length = array →
        check.run (Buffer.ofBytes array) = check.run mem ∧ check.uses (Buffer.ofBytes array) = check.uses mem :=
      fun mem hmem => hbelow.congr (Buffer.agree_ofBytes hmem).symm
    refine ⟨fun mem hmem => ?_, fun mem hmem => ?_⟩
    · rwa [Fetch.Below, ← (hcongr mem hmem).2]
    · rw [← (hcongr mem hmem).1, haccepts]

private theorem take_ofBytes {n : Nat} (h : n ≤ array.length) : bytesAt (Buffer.ofBytes array) 0 n = array.take n := by
  rw [← take_bytesAt h, Buffer.bytesAt_ofBytes]

private theorem head?_iff {b : UInt8} (h : 0 < array.length) : array.head? = some b ↔ b = Buffer.ofBytes array 0 := by
  cases array with
  | nil => simp at h
  | cons c array => simp [Buffer.ofBytes_apply, eq_comm]

/-- The length in the header is compared with the length of the array. -/
private theorem header_len_lt_iff (hlen : array.length < 2 ^ 16) :
    (TbfHeader.read (Buffer.ofBytes array)).len < UInt16.ofNat array.length ↔ payloadLen array < array.length := by
  rw [UInt16.lt_iff_toNat_lt, UInt16.toNat_ofNat_of_lt' hlen]
  rfl

private theorem frameLen_ofBytes :
    (TbfHeader.read (Buffer.ofBytes array)).frameLen = tbfpSizeHeader + payloadLen array := rfl

private theorem tbfp_sound_iff (preambleVal : UInt8) (hlen : array.length < 2 ^ 16) :
    SoundCheck (isTbfpProtocolFetch env (UInt16.ofNat array.length) preambleVal) (TbfpWellFormed env preambleVal) array ↔
      tbfpSizeHeader ≤ array.length ∧ (array.head? = some preambleVal → payloadLen array < array.length →
        tbfpSizeHeader + payloadLen array + tbfpSizeCrc ≤ array.length) := by
  have hheader : tbfpSizeHeader = 6 := rfl
  have hcrc : tbfpSizeCrc = 1 := rfl
  rw [sound_iff, below_isTbfpProtocol, header_len_lt_iff hlen, frameLen_ofBytes, hheader, hcrc]
  constructor
  · rintro ⟨⟨hsize, hbelow⟩, -⟩
    exact ⟨hsize, fun hhead hlt => hbelow ((head?_iff (by omega)).1 hhead) hlt⟩
  · rintro ⟨hsize, hbelow⟩
    have hhead := fun b => head?_iff (b := b) (show 0 < array.length by omega)
    refine ⟨⟨hsize, fun h hlt => hbelow ((hhead _).2 h) hlt⟩, ?_⟩
    rw [run_isTbfpProtocol, decide_eq_true_iff]
    have hpreamble : (TbfHeader.read (Buffer.ofBytes array)).preamble = Buffer.ofBytes array 0 := rfl
    unfold isTbfpProtocol TbfpWellFormed
    dsimp only
    rw [hpreamble, header_len_lt_iff hlen, frameLen_ofBytes, ← hhead, hheader, hcrc]
    refine and_congr_right fun h => ?_
    constructor
    · rintro ⟨hlt, heq⟩
      have hin := hbelow h hlt
      exact ⟨hin, by rwa [take_ofBytes (by omega)] at heq⟩
    · rintro ⟨hin, heq⟩
      exact ⟨by omega, by rwa [take_ofBytes (by omega)]⟩

private theorem rtcm3_sound_iff (hlen : array.length < 2 ^ 16) :
    SoundCheck (isRtcm3FrameFetch env (UInt16.ofNat array.length)) (Rtcm3WellFormed env) array ↔
      (array.head? = some rtcm3Preamble → rtcm3HeaderSize ≤ array.length ∧
        (rtcm3Len array ≠ 0 → rtcm3Len array + rtcm3Overhead ≤ array.length)) := by
  have hheader : rtcm3HeaderSize = 3 := rfl
  have hcrc : rtcm3Crc24Size = 3 := rfl
  have hover : rtcm3Overhead = 6 := rfl
  have hfield : (fieldLen (join (Buffer.ofBytes array 2) (Buffer.ofBytes array 1))).toNat = rtcm3Len array := rfl
  have hzero : fieldLen (join (Buffer.ofBytes array 2) (Buffer.ofBytes array 1)) ≠ 0 ↔ rtcm3Len array ≠ 0 := by
    rw [← hfield, ne_eq, ← UInt16.toNat_inj]
    rfl
  have hempty : UInt16.ofNat array.length ≠ 0 ↔ 0 < array.length := by
    rw [ne_eq, ← UInt16.toNat_inj, UInt16.toNat_ofNat_of_lt' hlen]
    exact Nat.pos_iff_ne_zero.symm
  have hhead : 0 < array.length → (array.head? = some rtcm3Preamble ↔ Buffer.ofBytes array 0 = rtcm3Preamble) :=
    fun h => (head?_iff h).trans eq_comm
  rw [sound_iff, below_isRtcm3Frame, hzero, hempty, hfield, hheader, hover]
  constructor
  · rintro ⟨hbelow, -⟩ h
    have hpos : 0 < array.length := by
      cases array with
      | nil => simp at h
      | cons b array => simp
    exact (hbelow hpos).2 ((hhead hpos).1 h)
  · intro hin
    refine ⟨fun hpos => ⟨hpos, fun h => hin ((hhead hpos).2 h)⟩, ?_⟩
    rw [run_isRtcm3Frame]
    unfold isRtcm3Frame Rtcm3WellFormed
    dsimp only
    rw [hempty, hzero, hfield, env.reverseByteOrderUint24_join24, hheader, hcrc]
    constructor
    · rintro ⟨hpos, h, hne, heq⟩
      have hsize := (hin ((hhead hpos).2 h)).2 hne
      exact ⟨(hhead hpos).2 h, hne, by omega, by rwa [take_ofBytes (by omega)] at heq⟩
    · rintro ⟨h, hne, hsize, heq⟩
      have hpos : 0 < array.length := by omega
      exact ⟨hpos, (hhead hpos).1 h, hne, by rwa [take_ofBytes (by omega)]⟩

/-- The checks of an array of `len` bytes read only these bytes and accept exactly the arrays that begin with a frame,
if and only if the array does not end inside what they read. -/
theorem wholeFrame_sound_iff (env : Env W) (preambleVal : UInt8) (array : List UInt8) (hlen : array.length < 2 ^ 16) :
    (SoundCheck (isTbfpProtocolFetch env (UInt16.ofNat array.length) preambleVal) (TbfpWellFormed env preambleVal)
        array ∧
      SoundCheck (isRtcm3FrameFetch env (UInt16.ofNat array.length)) (Rtcm3WellFormed env) array) ↔
    (tbfpSizeHeader ≤ array.length ∧ (array.head? = some preambleVal → payloadLen array < array.length →
        tbfpSizeHeader + payloadLen array + tbfpSizeCrc ≤ array.length)) ∧
      (array.head? = some rtcm3Preamble → rtcm3HeaderSize ≤ array.length ∧
        (rtcm3Len array ≠ 0 → rtcm3Len array + rtcm3Overhead ≤ array.length)) :=
  and_congr (tbfp_sound_iff preambleVal hlen) (rtcm3_sound_iff hlen)

/-- A frame with a payload of one byte and one byte behind it. -/
theorem wholeFrame_sound_one :
    let env := Env.bench
    let array : List UInt8 := tbfFrame env.crc8SaeJ1850Calc 0xA5 0 1 [0x4E] ++ [0xFF]
    SoundCheck (isTbfpProtocolFetch env (UInt16.ofNat array.length) 0xA5) (TbfpWellFormed env 0xA5) array ∧
      SoundCheck (isRtcm3FrameFetch env (UInt16.ofNat array.length)) (Rtcm3WellFormed env) array := by
  exact (wholeFrame_sound_iff _ 0xA5 _ (by decide)).2 (by decide)

/-- Of an array of one byte both read what lies behind it. -/
theorem wholeFrame_not_sound :
    ¬∀ (preambleVal : UInt8) (array : List UInt8), array.length < 2 ^ 16 →
      let env := Env.bench
      SoundCheck (isTbfpProtocolFetch env (UInt16.ofNat array.length) preambleVal) (TbfpWellFormed env preambleVal)
          array ∧
        SoundCheck (isRtcm3FrameFetch env (UInt16.ofNat array.length)) (Rtcm3WellFormed env) array := by
  intro h
  obtain ⟨htbfp, -⟩ := h 0xA5 [0xD3] (by decide)
  have hbelow := htbfp.inside (Buffer.ofBytes [0xD3]) rfl
  rw [below_isTbfpProtocol] at hbelow
  exact absurd hbelow.1 (by decide)

end TiMcu.Tbfp
