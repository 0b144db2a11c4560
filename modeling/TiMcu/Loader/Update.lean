import Mathlib.Data.UInt
import TiMcu.FlashFs.Nvs

/-!
# The firmware loader

`main`, `is_current_firmware_equal`, `loader_update_firmware` and `loader_write_firmware` of the loader that runs on the
PC, from the moment the image is in memory.  The target answers over the serial line; its answers are a parameter, and a
write command that succeeds has written and verified its chunk.

The write loop need not end, so its functions say what happened in its first iterations.
-/

namespace TiMcu.Loader

open FlashFs

/-! ### Data -/

def flashSize : Nat := 352 * kBytes
def maxBootloaderSize : Nat := 0x1A000
def appStartAddress : Nat := maxBootloaderSize
def maxGenericSize : Nat := flashSize - maxBootloaderSize - nvsSize - kBytes
def dfltAppStartAddr : Nat := 0x0001A000
def dfltAppEndAddr : Nat := dfltAppStartAddr + maxGenericSize
def flashRdTryCnt : Nat := 8
def flashRdChunkSize : Nat := 64
def flashWrChunkSize : Nat := 64

/-- The memory of the PC from the first byte of the image on. -/
abbrev Image := Nat → UInt8

/-- The chunk of the image at an offset. -/
def Image.chunk (newFirmware : Image) (offset : Nat) : Fin flashRdChunkSize → UInt8 := fun i => newFirmware (offset + i)

/-- The answers of the target. -/
structure Target where
  /-- The chunk that `cli_wrp_flash_read` gets at an address with a try. -/
  flashRead : Nat → Nat → Option (Fin flashRdChunkSize → UInt8)
  /-- The result of `cli_wrp_errase_app`. -/
  erraseApp : Bool
  /-- The results of the calls of `cli_wrp_flash_write_verify`. -/
  flashWriteVerify : Nat → Bool

/-- A call of `cli_wrp_flash_write_verify` for the chunk of the image at an offset. -/
structure Write where
  addr : UInt32
  offset : UInt32
  res : Bool
  deriving DecidableEq

/-! ### Comparing -/

section

variable (t : Target) (newFirmware : Image)

/-- The chunk that the first good try reads. -/
def Target.readChunk (addr : Nat) : Option (Fin flashRdChunkSize → UInt8) :=
  (List.range' 1 flashRdTryCnt).findSome? (t.flashRead addr)

/-- The loop of `is_current_firmware_equal`, with the offsets of the chunks it looks at in the image. -/
def compareLoop (addr : Nat) (res : Bool) : Bool × List Nat :=
  if addr ≤ dfltAppEndAddr - flashRdChunkSize then
    match t.readChunk addr with
    | none => (false, [])
    | some flashChunk =>
      if flashChunk = newFirmware.chunk (addr - dfltAppStartAddr) then
        let (res, looked) := compareLoop (addr + flashRdChunkSize) true
        (res, (addr - dfltAppStartAddr) :: looked)
      else (false, [addr - dfltAppStartAddr])
  else (res, [])
termination_by dfltAppEndAddr - addr
decreasing_by
  have hend : flashRdChunkSize < dfltAppEndAddr := by decide
  have hpos : 0 < flashRdChunkSize := by decide
  omega

def isCurrentFirmwareEqual : Bool × List Nat := compareLoop t newFirmware dfltAppStartAddr false

end

/-! ### Writing -/

section

variable (t : Target) (newFwLen : UInt32)

/-- The loop of `loader_write_firmware`. -/
structure WriteLoop where
  offset : UInt32
  res : Bool
  running : Bool
  writes : List Write

/-- One iteration; `k` is the number of the call it makes. -/
def writeStep (k : Nat) (loop : WriteLoop) : WriteLoop :=
  if loop.running then
    if loop.offset ≤ newFwLen - UInt32.ofNat flashWrChunkSize then
      let res := t.flashWriteVerify k
      let writes := loop.writes ++ [⟨UInt32.ofNat appStartAddress + loop.offset, loop.offset, res⟩]
      if res then ⟨loop.offset + UInt32.ofNat flashWrChunkSize, true, true, writes⟩
      else ⟨loop.offset, false, false, writes⟩
    else { loop with running := false }
  else loop

/-- The loop after its first iterations. -/
def writeLoop : Nat → WriteLoop
  | 0 => ⟨0, false, true, []⟩
  | k + 1 => writeStep t newFwLen k (writeLoop k)

/-- What the loader did so far. -/
structure Progress where
  /-- It said that the firmware is updated. -/
  updated : Bool
  looked : List Nat
  writes : List Write

/-- `loader_write_firmware`: whether it returned `true` so far, and its writes. -/
def loaderWriteFirmware (k : Nat) : Bool × List Write :=
  if 0 < newFwLen then
    let loop := writeLoop t newFwLen k
    (!loop.running && loop.res, loop.writes)
  else (false, [])

def loaderUpdateFirmware (k : Nat) : Bool × List Write :=
  if 0 < newFwLen then
    if t.erraseApp then loaderWriteFirmware t newFwLen k else (false, [])
  else (false, [])

/-- The part of `main` behind the loading of the image. -/
def loaderMain (newFirmware : Image) (k : Nat) : Progress :=
  -- the result of this check is set again below before it is looked at
  let _res := !decide (maxGenericSize < newFwLen.toNat)
  if 1 < newFwLen then
    match isCurrentFirmwareEqual t newFirmware with
    | (true, looked) => ⟨false, looked, []⟩
    | (false, looked) =>
      let (res, writes) := loaderUpdateFirmware t newFwLen k
      ⟨res, looked, writes⟩
  else ⟨false, [], []⟩

end

/-! ### The comparison -/

section

variable (t : Target) (newFirmware : Image)

/-- The number of chunks of the application area. -/
def areaChunks : Nat := maxGenericSize / flashRdChunkSize

/-- The chunk with this number can be read. -/
def Readable (j : Nat) : Prop := (t.readChunk (dfltAppStartAddr + flashRdChunkSize * j)).isSome

instance (j : Nat) : Decidable (Readable t j) := inferInstanceAs (Decidable (_ = true))

/-- The chunk with this number cannot be read or differs from the image. -/
def Differs (j : Nat) : Prop :=
  t.readChunk (dfltAppStartAddr + flashRdChunkSize * j) ≠ some (newFirmware.chunk (flashRdChunkSize * j))

/-- The offsets of some chunks in a row. -/
def offsets (j count : Nat) : List Nat := (List.range' j count).map (flashRdChunkSize * ·)

private theorem offsets_succ (j count : Nat) :
    offsets j (count + 1) = flashRdChunkSize * j :: offsets (j + 1) count := rfl

theorem mem_offsets {o count : Nat} : o ∈ offsets 0 count ↔ ∃ i < count, o = flashRdChunkSize * i := by
  simp [offsets, List.mem_map, eq_comm]

private theorem readable_of_not_differs {j : Nat} (h : ¬Differs t newFirmware j) : Readable t j := by
  rw [Readable, not_not.1 h]
  rfl

private theorem compareLoop_next {j : Nat} (hj : j < areaChunks) (res : Bool) :
    compareLoop t newFirmware (dfltAppStartAddr + flashRdChunkSize * j) res =
      match t.readChunk (dfltAppStartAddr + flashRdChunkSize * j) with
      | none => (false, [])
      | some flashChunk =>
        if flashChunk = newFirmware.chunk (flashRdChunkSize * j) then
          ((compareLoop t newFirmware (dfltAppStartAddr + flashRdChunkSize * (j + 1)) true).1, flashRdChunkSize * j ::
            (compareLoop t newFirmware (dfltAppStartAddr + flashRdChunkSize * (j + 1)) true).2)
        else (false, [flashRdChunkSize * j]) := by
  have hle : dfltAppStartAddr + flashRdChunkSize * j ≤ dfltAppEndAddr - flashRdChunkSize := by
    have hchunks : areaChunks = 3440 := rfl
    have hend : dfltAppEndAddr - flashRdChunkSize = 326592 := rfl
    rw [hend, dfltAppStartAddr, flashRdChunkSize]
    omega
  rw [compareLoop, if_pos hle, Nat.add_sub_cancel_left]
  rfl

private theorem compareLoop_end (res : Bool) :
    compareLoop t newFirmware (dfltAppStartAddr + flashRdChunkSize * areaChunks) res = (res, []) := by
  rw [compareLoop, if_neg (by decide)]

/-- From a chunk on, the loop looks at all chunks when none differs, and otherwise up to the first that does. -/
private theorem compareLoop_spec {j left : Nat} (hj : j + left = areaChunks) (res : Bool) :
    ((∀ i < left, ¬Differs t newFirmware (j + i)) ∧
      compareLoop t newFirmware (dfltAppStartAddr + flashRdChunkSize * j) res =
        (if left = 0 then res else true, offsets j left)) ∨
    ∃ c < left, (∀ i < c, ¬Differs t newFirmware (j + i)) ∧ Differs t newFirmware (j + c) ∧
      compareLoop t newFirmware (dfltAppStartAddr + flashRdChunkSize * j) res =
        (false, offsets j (c + if Readable t (j + c) then 1 else 0)) := by
  induction left generalizing j res with
  | zero =>
    rw [Nat.add_zero] at hj
    subst hj
    exact Or.inl ⟨fun i hi => absurd hi (Nat.not_lt_zero i), compareLoop_end t newFirmware res⟩
  | succ left ih =>
    have hnext : ∀ i, j + 1 + i = j + (i + 1) := by omega
    rw [compareLoop_next t newFirmware (by omega)]
    by_cases hdiff : Differs t newFirmware j
    · refine Or.inr ⟨0, Nat.succ_pos left, fun i hi => absurd hi (Nat.not_lt_zero i), hdiff, ?_⟩
      cases hread : t.readChunk (dfltAppStartAddr + flashRdChunkSize * j) with
      | none =>
        have hnot : ¬Readable t (j + 0) := by simp [Readable, hread]
        rw [if_neg hnot]
        rfl
      | some flashChunk =>
        have hyes : Readable t (j + 0) := by simp [Readable, hread]
        have hne : flashChunk ≠ newFirmware.chunk (flashRdChunkSize * j) := by
          rintro rfl
          exact hdiff hread
        dsimp only
        rw [if_pos hyes, if_neg hne]
        rfl
    · rw [not_not.1 hdiff]
      dsimp only
      rw [if_pos rfl]
      have hfirst : ∀ c, (∀ i < c, ¬Differs t newFirmware (j + 1 + i)) →
          ∀ i < c + 1, ¬Differs t newFirmware (j + i) := by
        intro c hsame i hi
        cases i with
        | zero => exact hdiff
        | succ i => exact hnext i ▸ hsame i (Nat.lt_of_succ_lt_succ hi)
      have hsum : j + 1 + left = areaChunks := by omega
      rcases ih hsum true with ⟨hsame, hloop⟩ | ⟨c, hc, hsame, hdiffc, hloop⟩
      · refine Or.inl ⟨hfirst left hsame, ?_⟩
        rw [hloop, offsets_succ, ite_self, if_neg (Nat.succ_ne_zero left)]
      · refine Or.inr ⟨c + 1, Nat.succ_lt_succ hc, hfirst c hsame, hnext c ▸ hdiffc, ?_⟩
        rw [hloop, hnext, Nat.add_right_comm, offsets_succ]

private theorem isCurrentFirmwareEqual_spec :
    ((∀ i < areaChunks, ¬Differs t newFirmware i) ∧
      isCurrentFirmwareEqual t newFirmware = (true, offsets 0 areaChunks)) ∨
    ∃ c < areaChunks, (∀ i < c, ¬Differs t newFirmware i) ∧ Differs t newFirmware c ∧
      isCurrentFirmwareEqual t newFirmware = (false, offsets 0 (c + if Readable t c then 1 else 0)) := by
  have hspec := compareLoop_spec t newFirmware (Nat.zero_add areaChunks) false
  have hne : areaChunks ≠ 0 := by decide
  simp only [Nat.zero_add, if_neg hne] at hspec
  exact hspec

end

/-! ### The write loop -/

section

variable (t : Target) (newFwLen : UInt32)

/-- The condition of the loop in an iteration. -/
def InBound (j : Nat) : Prop :=
  UInt32.ofNat (flashWrChunkSize * j) ≤ newFwLen - UInt32.ofNat flashWrChunkSize

/-- The call in an iteration. -/
def writeOf (j : Nat) : Write where
  addr := UInt32.ofNat appStartAddress + UInt32.ofNat (flashWrChunkSize * j)
  offset := UInt32.ofNat (flashWrChunkSize * j)
  res := t.flashWriteVerify j

/-- The iterations with these numbers have written their chunks. -/
def Written (count : Nat) : Prop := ∀ j < count, InBound newFwLen j ∧ t.flashWriteVerify j = true

/-- Where the loop can be after some iterations. -/
inductive Stage (k : Nat) : WriteLoop → Prop
  | running (h : Written t newFwLen k) :
    Stage k ⟨UInt32.ofNat (flashWrChunkSize * k), decide (0 < k), true, (List.range k).map (writeOf t)⟩
  | finished (m : Nat) (hm : m < k) (h : Written t newFwLen m) (hbound : ¬InBound newFwLen m) :
    Stage k ⟨UInt32.ofNat (flashWrChunkSize * m), decide (0 < m), false, (List.range m).map (writeOf t)⟩
  | failed (m : Nat) (hm : m < k) (h : Written t newFwLen m) (hbound : InBound newFwLen m)
    (hres : t.flashWriteVerify m = false) :
    Stage k ⟨UInt32.ofNat (flashWrChunkSize * m), false, false, (List.range (m + 1)).map (writeOf t)⟩

variable {t newFwLen}

theorem Written.succ {k : Nat} (h : Written t newFwLen k) (hbound : InBound newFwLen k)
    (hres : t.flashWriteVerify k = true) : Written t newFwLen (k + 1) := by
  intro j hj
  rcases Nat.lt_succ_iff_lt_or_eq.1 hj with hlt | rfl
  · exact h j hlt
  · exact ⟨hbound, hres⟩

private theorem writeStep_good {k : Nat} {loop : WriteLoop} (hrun : loop.running = true)
    (hbound : loop.offset ≤ newFwLen - UInt32.ofNat flashWrChunkSize) (hres : t.flashWriteVerify k = true) :
    writeStep t newFwLen k loop = ⟨loop.offset + UInt32.ofNat flashWrChunkSize, true, true,
      loop.writes ++ [⟨UInt32.ofNat appStartAddress + loop.offset, loop.offset, t.flashWriteVerify k⟩]⟩ := by
  rw [writeStep, if_pos hrun, if_pos hbound, hres]
  rfl

private theorem writeStep_failed {k : Nat} {loop : WriteLoop} (hrun : loop.running = true)
    (hbound : loop.offset ≤ newFwLen - UInt32.ofNat flashWrChunkSize) (hres : t.flashWriteVerify k = false) :
    writeStep t newFwLen k loop = ⟨loop.offset, false, false,
      loop.writes ++ [⟨UInt32.ofNat appStartAddress + loop.offset, loop.offset, t.flashWriteVerify k⟩]⟩ := by
  rw [writeStep, if_pos hrun, if_pos hbound, hres]
  rfl

private theorem writeStep_leaves {k : Nat} {loop : WriteLoop} (hrun : loop.running = true)
    (hbound : ¬loop.offset ≤ newFwLen - UInt32.ofNat flashWrChunkSize) :
    writeStep t newFwLen k loop = { loop with running := false } := by
  rw [writeStep, if_pos hrun, if_neg hbound]

private theorem writeStep_rests {k : Nat} {loop : WriteLoop} (hrun : loop.running = false) :
    writeStep t newFwLen k loop = loop := by
  rw [writeStep, hrun]
  rfl

private theorem writeLoop_stage (k : Nat) : Stage t newFwLen k (writeLoop t newFwLen k) := by
  induction k with
  | zero => exact Stage.running fun j hj => absurd hj (Nat.not_lt_zero j)
  | succ k ih =>
    rw [writeLoop]
    generalize writeLoop t newFwLen k = loop at ih ⊢
    cases ih with
    | running h =>
      have hwrites : (List.range k).map (writeOf t) ++ [writeOf t k] = (List.range (k + 1)).map (writeOf t) := by
        rw [List.range_succ, List.map_append]
        rfl
      have hoffset : UInt32.ofNat (flashWrChunkSize * k) + UInt32.ofNat flashWrChunkSize =
          UInt32.ofNat (flashWrChunkSize * (k + 1)) := by
        rw [Nat.mul_succ, UInt32.ofNat_add]
      by_cases hbound : InBound newFwLen k
      · cases hres : t.flashWriteVerify k with
        | true =>
          have hstage : Stage t newFwLen (k + 1) _ := Stage.running (h.succ hbound hres)
          rw [← hwrites, ← hoffset] at hstage
          rw [writeStep_good rfl hbound hres]
          exact hstage
        | false =>
          have hstage : Stage t newFwLen (k + 1) _ := Stage.failed k (Nat.lt_succ_self k) h hbound hres
          rw [← hwrites] at hstage
          rw [writeStep_failed rfl hbound hres]
          exact hstage
      · rw [writeStep_leaves rfl hbound]
        exact Stage.finished k (Nat.lt_succ_self k) h hbound
    | finished m hm h hbound =>
      rw [writeStep_rests rfl]
      exact Stage.finished m (Nat.lt_succ_of_lt hm) h hbound
    | failed m hm h hbound hres =>
      rw [writeStep_rests rfl]
      exact Stage.failed m (Nat.lt_succ_of_lt hm) h hbound hres

/-- A call is made after all calls before it were good. -/
private theorem writes_spec {k : Nat} {w : Write} (hw : w ∈ (writeLoop t newFwLen k).writes) :
    ∃ j, w = writeOf t j ∧ InBound newFwLen j ∧ Written t newFwLen j := by
  have hstage : Stage t newFwLen k (writeLoop t newFwLen k) := writeLoop_stage k
  generalize writeLoop t newFwLen k = loop at hstage hw
  have hbefore : ∀ {m j : Nat}, Written t newFwLen m → j < m → InBound newFwLen j ∧ Written t newFwLen j :=
    fun h hj => ⟨(h _ hj).1, fun i hi => h i (hi.trans hj)⟩
  cases hstage with
  | running h | finished m hm h hbound =>
    obtain ⟨j, hj, rfl⟩ := List.mem_map.1 hw
    exact ⟨j, rfl, hbefore h (List.mem_range.1 hj)⟩
  | failed m hm h hbound hres =>
    obtain ⟨j, hj, rfl⟩ := List.mem_map.1 hw
    rcases Nat.lt_succ_iff_lt_or_eq.1 (List.mem_range.1 hj) with hlt | rfl
    · exact ⟨j, rfl, hbefore h hlt⟩
    · exact ⟨j, rfl, hbound, h⟩

/-- A call is made when all calls before it are good. -/
private theorem writeOf_mem {j : Nat} (hbound : InBound newFwLen j) (h : Written t newFwLen j) :
    writeOf t j ∈ (writeLoop t newFwLen (j + 1)).writes := by
  have hstage : Stage t newFwLen (j + 1) (writeLoop t newFwLen (j + 1)) := writeLoop_stage (j + 1)
  generalize writeLoop t newFwLen (j + 1) = loop at hstage ⊢
  cases hstage with
  | running _ => exact List.mem_map_of_mem (List.mem_range.2 (Nat.lt_succ_self j))
  | finished m hm hm' hnot =>
    rcases Nat.lt_succ_iff_lt_or_eq.1 hm with hlt | rfl
    · exact absurd (h m hlt).1 hnot
    · exact absurd hbound hnot
  | failed m hm hm' hm'' hres =>
    rcases Nat.lt_succ_iff_lt_or_eq.1 hm with hlt | rfl
    · rw [(h m hlt).2] at hres
      cases hres
    · exact List.mem_map_of_mem (List.mem_range.2 (Nat.lt_succ_self m))

/-- The loop has returned `true`: it went on to its bound. -/
private theorem returned_spec {k : Nat}
    (h : (!(writeLoop t newFwLen k).running && (writeLoop t newFwLen k).res) = true) :
    ∃ m, 0 < m ∧ ¬InBound newFwLen m ∧ Written t newFwLen m ∧
      (writeLoop t newFwLen k).writes = (List.range m).map (writeOf t) := by
  have hstage : Stage t newFwLen k (writeLoop t newFwLen k) := writeLoop_stage k
  generalize writeLoop t newFwLen k = loop at hstage h ⊢
  cases hstage with
  | running _ => cases h
  | finished m hm hm' hbound => exact ⟨m, of_decide_eq_true h, hbound, hm', rfl⟩
  | failed => cases h

theorem returns {m : Nat} (hpos : 0 < m) (hbound : ¬InBound newFwLen m) (h : Written t newFwLen m) :
    (!(writeLoop t newFwLen (m + 1)).running && (writeLoop t newFwLen (m + 1)).res) = true := by
  have hstage : Stage t newFwLen (m + 1) (writeLoop t newFwLen (m + 1)) := writeLoop_stage (m + 1)
  generalize writeLoop t newFwLen (m + 1) = loop at hstage ⊢
  have hsame : ∀ {i : Nat}, i < m + 1 → ¬i < m → i = m := by omega
  cases hstage with
  | running hall => exact absurd (hall m (Nat.lt_succ_self m)).1 hbound
  | finished i hi hi' hnot =>
    obtain rfl := hsame hi fun hlt => hnot (h i hlt).1
    exact decide_eq_true hpos
  | failed i hi hi' hbound' hres =>
    obtain rfl := hsame hi fun hlt => by
      rw [(h i hlt).2] at hres
      cases hres
    exact absurd hbound' hbound

end

/-! ### The bound of the loop -/

private theorem toNat_offset {newFwLen : UInt32} {j : Nat} (hj : flashWrChunkSize * j ≤ newFwLen.toNat) :
    (UInt32.ofNat (flashWrChunkSize * j)).toNat = flashWrChunkSize * j :=
  UInt32.toNat_ofNat_of_lt' (lt_of_le_of_lt hj newFwLen.toNat_lt)

/-- For an image of at least one chunk, the bound is the last offset of a chunk inside the image. -/
private theorem inBound_iff {newFwLen : UInt32} (hlen : flashWrChunkSize ≤ newFwLen.toNat) {j : Nat}
    (hj : flashWrChunkSize * j ≤ newFwLen.toNat) :
    InBound newFwLen j ↔ flashWrChunkSize * (j + 1) ≤ newFwLen.toNat := by
  have hle : UInt32.ofNat flashWrChunkSize ≤ newFwLen := UInt32.le_iff_toNat_le.2 hlen
  have hsub : (newFwLen - UInt32.ofNat flashWrChunkSize).toNat = newFwLen.toNat - flashWrChunkSize :=
    UInt32.toNat_sub_of_le _ _ hle
  rw [InBound, UInt32.le_iff_toNat_le, hsub, toNat_offset hj, Nat.mul_succ]
  omega

/-- For a shorter image, the subtraction wraps and no offset is above the bound. -/
private theorem inBound_of_short {newFwLen : UInt32} (hlen : newFwLen.toNat < flashWrChunkSize) (j : Nat) :
    InBound newFwLen j := by
  have hsize : flashWrChunkSize = 64 := rfl
  have hchunk : (UInt32.ofNat flashWrChunkSize).toNat = 64 := rfl
  have hlast : (UInt32.ofNat (flashWrChunkSize * j)).toNat ≤ 2 ^ 32 - 64 := by
    rw [UInt32.toNat_ofNat', hsize]
    omega
  rw [InBound, UInt32.le_iff_toNat_le, UInt32.toNat_sub, hchunk]
  omega

/-- The iterations up to one that is inside the bound stay inside the image. -/
private theorem inside_of_inBound {newFwLen : UInt32} (hlen : flashWrChunkSize ≤ newFwLen.toNat) {count : Nat}
    (h : ∀ i < count, InBound newFwLen i) : flashWrChunkSize * count ≤ newFwLen.toNat := by
  induction count with
  | zero => exact Nat.zero_le _
  | succ count ih =>
    have hbefore := ih fun i hi => h i (Nat.lt_succ_of_lt hi)
    exact (inBound_iff hlen hbefore).1 (h count (Nat.lt_succ_self count))

private theorem inBound_of_inside {newFwLen : UInt32} {j : Nat} (h : flashWrChunkSize * (j + 1) ≤ newFwLen.toNat) :
    InBound newFwLen j := by
  have hlen : flashWrChunkSize ≤ newFwLen.toNat := (Nat.le_mul_of_pos_right _ (Nat.succ_pos j)).trans h
  exact (inBound_iff hlen ((Nat.mul_le_mul_left _ (Nat.le_succ j)).trans h)).2 h

/-! ### The update -/

section

variable (t : Target) (newFirmware : Image) (newFwLen : UInt32)

/-- The comparison finds a difference and the application is erased, so that the image gets written. -/
def Reached : Prop := t.erraseApp = true ∧ ∃ j < areaChunks, Differs t newFirmware j

/-- The comparison finds a difference, or a chunk it cannot read, before it leaves the image. -/
def CompareInside : Prop :=
  ∀ j < areaChunks, (∀ i < j, ¬Differs t newFirmware i) → Readable t j →
    flashRdChunkSize * (j + 1) ≤ newFwLen.toNat

/-- Every byte of the image has been written and verified at its address. -/
def Progress.Complete (p : Progress) : Prop :=
  ∀ i < newFwLen.toNat, ∃ w ∈ p.writes, w.res = true ∧
    ∃ b < flashWrChunkSize, w.addr.toNat + b = appStartAddress + i ∧ w.offset.toNat + b = i

/-- No byte behind the image has been read. -/
def Progress.ReadsInside (p : Progress) : Prop :=
  (∀ o ∈ p.looked, o + flashRdChunkSize ≤ newFwLen.toNat) ∧
    ∀ w ∈ p.writes, w.offset.toNat + flashWrChunkSize ≤ newFwLen.toNat

/-- No flash address outside the application area has been written. -/
def Progress.WritesInside (p : Progress) : Prop :=
  ∀ w ∈ p.writes, appStartAddress ≤ w.addr.toNat ∧
    w.addr.toNat + flashWrChunkSize ≤ appStartAddress + maxGenericSize

/-- Success is only reported for a complete update that stayed inside the image and the application area, and an image
that is too long is not written. -/
structure UpdateOk : Prop where
  success : ∀ k, (loaderMain t newFwLen newFirmware k).updated = true →
    (loaderMain t newFwLen newFirmware k).Complete newFwLen ∧
    (loaderMain t newFwLen newFirmware k).ReadsInside newFwLen ∧ (loaderMain t newFwLen newFirmware k).WritesInside
  limited : maxGenericSize < newFwLen.toNat → ∀ k, (loaderMain t newFwLen newFirmware k).writes = []

/-- The loader stays inside the image and the application area, whatever it reports. -/
def StaysInside : Prop :=
  ∀ k, (loaderMain t newFwLen newFirmware k).ReadsInside newFwLen ∧ (loaderMain t newFwLen newFirmware k).WritesInside

variable {t newFirmware newFwLen}

private theorem looked_inside_iff :
    (∀ o ∈ (isCurrentFirmwareEqual t newFirmware).2, o + flashRdChunkSize ≤ newFwLen.toNat) ↔
      CompareInside t newFirmware newFwLen := by
  rcases isCurrentFirmwareEqual_spec t newFirmware with ⟨hsame, heq⟩ | ⟨c, hc, hsame, hdiff, heq⟩
  · rw [heq]
    constructor
    · intro h j hj _ _
      exact h _ (mem_offsets.2 ⟨j, hj, rfl⟩)
    · intro h o ho
      obtain ⟨i, hi, rfl⟩ := mem_offsets.1 ho
      exact h i hi (fun b hb => hsame b (hb.trans hi)) (readable_of_not_differs t newFirmware (hsame i hi))
  · rw [heq]
    constructor
    · intro h j _ hbefore hread
      -- the comparison looks at nothing behind its first difference
      have hle : j ≤ c := by
        by_contra hgt
        exact hbefore c (Nat.not_le.1 hgt) hdiff
      have hlooked : j < c + if Readable t c then 1 else 0 := by
        rcases Nat.eq_or_lt_of_le hle with rfl | hlt
        · rw [if_pos hread]
          exact Nat.lt_succ_self j
        · exact Nat.lt_add_right _ hlt
      exact h _ (mem_offsets.2 ⟨j, hlooked, rfl⟩)
    · intro h o ho
      obtain ⟨i, hi, rfl⟩ := mem_offsets.1 ho
      by_cases hlt : i < c
      · exact h i (hlt.trans hc) (fun b hb => hsame b (hb.trans hlt))
          (readable_of_not_differs t newFirmware (hsame i hlt))
      · by_cases hread : Readable t c
        · rw [if_pos hread] at hi
          obtain rfl : i = c := by omega
          exact h i hc hsame hread
        · rw [if_neg hread] at hi
          omega

private theorem loaderMain_looked (hlen : 2 ≤ newFwLen.toNat) (k : Nat) :
    (loaderMain t newFwLen newFirmware k).looked = (isCurrentFirmwareEqual t newFirmware).2 := by
  have hone : 1 < newFwLen := UInt32.lt_iff_toNat_lt.2 hlen
  rw [loaderMain]
  dsimp only
  rw [if_pos hone]
  rcases isCurrentFirmwareEqual_spec t newFirmware with ⟨-, heq⟩ | ⟨c, -, -, -, heq⟩
  · rw [heq]
  · rw [heq]

/-- The image gets written. -/
private theorem loaderMain_reached (hlen : 2 ≤ newFwLen.toNat) (h : Reached t newFirmware) (k : Nat) :
    (loaderMain t newFwLen newFirmware k).updated =
      (!(writeLoop t newFwLen k).running && (writeLoop t newFwLen k).res) ∧
    (loaderMain t newFwLen newFirmware k).writes = (writeLoop t newFwLen k).writes := by
  have hone : 1 < newFwLen := UInt32.lt_iff_toNat_lt.2 hlen
  have hpos : 0 < newFwLen := UInt32.lt_iff_toNat_lt.2 (Nat.lt_of_succ_lt hlen)
  obtain ⟨herrase, j, hj, hdiff⟩ := h
  rcases isCurrentFirmwareEqual_spec t newFirmware with ⟨hsame, -⟩ | ⟨c, -, -, -, heq⟩
  · exact absurd hdiff (hsame j hj)
  · rw [loaderMain]
    dsimp only
    rw [if_pos hone, heq]
    dsimp only
    rw [loaderUpdateFirmware, if_pos hpos, if_pos herrase, loaderWriteFirmware, if_pos hpos]
    exact ⟨rfl, rfl⟩

/-- Nothing gets written. -/
private theorem loaderMain_not_reached (h : ¬Reached t newFirmware) (k : Nat) :
    (loaderMain t newFwLen newFirmware k).updated = false ∧ (loaderMain t newFwLen newFirmware k).writes = [] := by
  rw [loaderMain]
  dsimp only
  split
  · rcases isCurrentFirmwareEqual_spec t newFirmware with ⟨-, heq⟩ | ⟨c, hc, -, hdiff, heq⟩
    · rw [heq]
      exact ⟨rfl, rfl⟩
    · have herrase : ¬t.erraseApp = true := fun herrase => h ⟨herrase, c, hc, hdiff⟩
      rw [heq]
      dsimp only
      rw [loaderUpdateFirmware, if_neg herrase, ite_self]
      exact ⟨rfl, rfl⟩
  · exact ⟨rfl, rfl⟩

private theorem toNat_writeOf_addr {j : Nat} (h : appStartAddress + flashWrChunkSize * j < 2 ^ 32) :
    (writeOf t j).addr.toNat = appStartAddress + flashWrChunkSize * j := by
  have hstart : appStartAddress < 2 ^ 32 := by decide
  have hoffset : flashWrChunkSize * j < 2 ^ 32 := lt_of_le_of_lt (Nat.le_add_left _ _) h
  rw [writeOf, UInt32.toNat_add, UInt32.toNat_ofNat_of_lt' hstart, UInt32.toNat_ofNat_of_lt' hoffset,
    Nat.mod_eq_of_lt h]

/-- The first chunk is always written, whatever the length. -/
private theorem inBound_zero : InBound newFwLen 0 := by
  rw [InBound, UInt32.le_iff_toNat_le]
  exact Nat.zero_le _

private theorem first_write (hlen : 2 ≤ newFwLen.toNat) (h : Reached t newFirmware) :
    writeOf t 0 ∈ (loaderMain t newFwLen newFirmware 1).writes := by
  rw [(loaderMain_reached hlen h 1).2]
  exact writeOf_mem inBound_zero fun j hj => absurd hj (Nat.not_lt_zero j)

private theorem loaderMain_writes (hlen : 2 ≤ newFwLen.toNat) (h : Reached t newFirmware) {k : Nat} {w : Write}
    (hw : w ∈ (loaderMain t newFwLen newFirmware k).writes) :
    ∃ j, w = writeOf t j ∧ InBound newFwLen j ∧ Written t newFwLen j := by
  rw [(loaderMain_reached hlen h k).2] at hw
  exact writes_spec hw

/-- An image of at least one chunk that is written to the end. -/
private theorem updated_iff (hlen : 2 ≤ newFwLen.toNat) (h : Reached t newFirmware) {k : Nat}
    (hupdated : (loaderMain t newFwLen newFirmware k).updated = true) :
    flashWrChunkSize ≤ newFwLen.toNat ∧ Written t newFwLen (newFwLen.toNat / flashWrChunkSize) ∧
      (loaderMain t newFwLen newFirmware k).writes =
        (List.range (newFwLen.toNat / flashWrChunkSize)).map (writeOf t) := by
  obtain ⟨hres, hwrites⟩ := loaderMain_reached hlen h k
  rw [hres] at hupdated
  obtain ⟨m, hpos, hbound, hwritten, hloop⟩ := returned_spec hupdated
  have hlong : flashWrChunkSize ≤ newFwLen.toNat := by
    by_contra hshort
    exact hbound (inBound_of_short (Nat.not_le.1 hshort) m)
  have hinside : flashWrChunkSize * m ≤ newFwLen.toNat := inside_of_inBound hlong fun i hi => (hwritten i hi).1
  have hlast : ¬flashWrChunkSize * (m + 1) ≤ newFwLen.toNat := fun hle => hbound (inBound_of_inside hle)
  have hm : newFwLen.toNat / flashWrChunkSize = m := by
    have hsize : flashWrChunkSize = 64 := rfl
    rw [hsize] at hinside hlast ⊢
    omega
  rw [hm, hwrites]
  exact ⟨hlong, hwritten, hloop⟩

/-- The full chunks of the image are what the loop writes. -/
private theorem written_iff :
    Written t newFwLen (newFwLen.toNat / flashWrChunkSize) ↔
      ∀ j < newFwLen.toNat / flashWrChunkSize, t.flashWriteVerify j = true := by
  constructor
  · intro h j hj
    exact (h j hj).2
  · intro h j hj
    have hinside : flashWrChunkSize * (j + 1) ≤ newFwLen.toNat :=
      (Nat.mul_le_mul_left _ hj).trans (Nat.mul_div_le _ _)
    exact ⟨inBound_of_inside hinside, h j hj⟩

theorem updates (hlen : flashWrChunkSize ≤ newFwLen.toNat) (h : Reached t newFirmware)
    (hgood : ∀ j < newFwLen.toNat / flashWrChunkSize, t.flashWriteVerify j = true) :
    (loaderMain t newFwLen newFirmware (newFwLen.toNat / flashWrChunkSize + 1)).updated = true := by
  have htwo : 2 ≤ newFwLen.toNat := le_trans (by decide) hlen
  have hsize : flashWrChunkSize = 64 := rfl
  rw [(loaderMain_reached htwo h _).1]
  apply returns
  · exact Nat.div_pos hlen (by decide)
  · intro hbound
    have hle := (inBound_iff hlen (Nat.mul_div_le _ _)).1 hbound
    rw [hsize] at hle
    omega
  · exact written_iff.2 hgood

/-- All bytes are written exactly when the length is a multiple of the chunk size. -/
private theorem complete_iff (hmax : newFwLen.toNat ≤ maxGenericSize) {p : Progress}
    (hwrites : p.writes = (List.range (newFwLen.toNat / flashWrChunkSize)).map (writeOf t))
    (hgood : ∀ j < newFwLen.toNat / flashWrChunkSize, t.flashWriteVerify j = true) :
    p.Complete newFwLen ↔ flashWrChunkSize ∣ newFwLen.toNat := by
  have hsize : flashWrChunkSize = 64 := rfl
  have hlimit : appStartAddress + maxGenericSize < 2 ^ 32 := by decide
  constructor
  · intro h
    by_contra hnot
    -- the byte behind the last full chunk
    have hlast : flashWrChunkSize * (newFwLen.toNat / flashWrChunkSize) < newFwLen.toNat := by
      rw [hsize] at hnot ⊢
      omega
    obtain ⟨w, hw, -, b, hb, -, hoffset⟩ := h _ hlast
    rw [hwrites] at hw
    obtain ⟨j, hj, rfl⟩ := List.mem_map.1 hw
    have hlt := List.mem_range.1 hj
    have hinside : flashWrChunkSize * j ≤ newFwLen.toNat :=
      (Nat.mul_le_mul_left _ hlt.le).trans (Nat.mul_div_le _ _)
    rw [show (writeOf t j).offset = UInt32.ofNat (flashWrChunkSize * j) from rfl, toNat_offset hinside] at hoffset
    rw [hsize] at hoffset hlt hb
    omega
  · intro hdvd i hi
    have hj : i / flashWrChunkSize < newFwLen.toNat / flashWrChunkSize := Nat.div_lt_div_of_lt_of_dvd hdvd hi
    have hbelow : flashWrChunkSize * (i / flashWrChunkSize) ≤ i := Nat.mul_div_le _ _
    have hsum : flashWrChunkSize * (i / flashWrChunkSize) + i % flashWrChunkSize = i := Nat.div_add_mod _ _
    refine ⟨writeOf t (i / flashWrChunkSize), ?_, hgood _ hj, i % flashWrChunkSize, Nat.mod_lt _ (by decide), ?_, ?_⟩
    · rw [hwrites]
      exact List.mem_map_of_mem (List.mem_range.2 hj)
    · rw [toNat_writeOf_addr (by omega), Nat.add_assoc, hsum]
    · rw [show (writeOf t (i / flashWrChunkSize)).offset = UInt32.ofNat (flashWrChunkSize * (i / flashWrChunkSize))
        from rfl, toNat_offset (hbelow.trans hi.le), hsum]

private theorem write_reads_inside (hlen : flashWrChunkSize ≤ newFwLen.toNat) {j : Nat} (hbound : InBound newFwLen j)
    (hwritten : Written t newFwLen j) : flashWrChunkSize * (j + 1) ≤ newFwLen.toNat ∧
      (writeOf t j).offset.toNat + flashWrChunkSize ≤ newFwLen.toNat := by
  have hinside : flashWrChunkSize * (j + 1) ≤ newFwLen.toNat := by
    apply inside_of_inBound hlen
    intro i hi
    rcases Nat.lt_succ_iff_lt_or_eq.1 hi with hlt | rfl
    · exact (hwritten i hlt).1
    · exact hbound
  have hoffset : (writeOf t j).offset.toNat = flashWrChunkSize * j :=
    toNat_offset ((Nat.mul_le_mul_left _ (Nat.le_succ j)).trans hinside)
  rw [hoffset]
  exact ⟨hinside, hinside⟩

private theorem write_inside_iff {j : Nat} (hj : j ≤ areaChunks) : (appStartAddress ≤ (writeOf t j).addr.toNat ∧
    (writeOf t j).addr.toNat + flashWrChunkSize ≤ appStartAddress + maxGenericSize) ↔ j < areaChunks := by
  have hchunks : areaChunks = 3440 := rfl
  have hstart : appStartAddress = 106496 := rfl
  have hmax : maxGenericSize = 220160 := rfl
  have hsize : flashWrChunkSize = 64 := rfl
  have haddr : appStartAddress + flashWrChunkSize * j < 2 ^ 32 := by
    rw [hsize, hstart]
    omega
  rw [toNat_writeOf_addr haddr, hsize]
  omega

/-- The writes of an image that is not too long stay inside the application area. -/
private theorem update_inside (hlen : flashWrChunkSize ≤ newFwLen.toNat) (hmax : newFwLen.toNat < maxGenericSize +
    flashWrChunkSize) {j : Nat} (hbound : InBound newFwLen j) (hwritten : Written t newFwLen j) : j < areaChunks := by
  have hinside := (write_reads_inside hlen hbound hwritten).1
  have hchunks : areaChunks = 3440 := rfl
  have harea : maxGenericSize = 220160 := rfl
  have hsize : flashWrChunkSize = 64 := rfl
  rw [hsize] at hinside hmax
  omega

private theorem loaderMain_reads_inside (hlen : 2 ≤ newFwLen.toNat) (h : Reached t newFirmware)
    (hone : flashWrChunkSize ≤ newFwLen.toNat) {k : Nat} {w : Write}
    (hw : w ∈ (loaderMain t newFwLen newFirmware k).writes) : w.offset.toNat + flashWrChunkSize ≤ newFwLen.toNat := by
  obtain ⟨j, rfl, hbound, hbefore⟩ := loaderMain_writes hlen h hw
  exact (write_reads_inside hone hbound hbefore).2

/-- The writes are inside when the loop ends before the chunk behind the area. -/
private theorem loaderMain_writesInside (hlen : 2 ≤ newFwLen.toNat) (h : Reached t newFirmware)
    (hends : ∀ j, InBound newFwLen j → Written t newFwLen j → j < areaChunks) (k : Nat) :
    (loaderMain t newFwLen newFirmware k).WritesInside := by
  intro w hw
  obtain ⟨j, rfl, hbound, hbefore⟩ := loaderMain_writes hlen h hw
  have hj := hends j hbound hbefore
  exact (write_inside_iff hj.le).2 hj

private theorem updateOk_iff (hlen : 2 ≤ newFwLen.toNat) : UpdateOk t newFirmware newFwLen ↔
    (Reached t newFirmware → newFwLen.toNat ≤ maxGenericSize ∧
      (flashWrChunkSize ≤ newFwLen.toNat →
        (∀ j < newFwLen.toNat / flashWrChunkSize, t.flashWriteVerify j = true) →
        flashWrChunkSize ∣ newFwLen.toNat ∧ CompareInside t newFirmware newFwLen)) := by
  constructor
  · intro hok hreached
    have hmax : newFwLen.toNat ≤ maxGenericSize := by
      by_contra hlong
      have hwrite := first_write hlen hreached
      rw [hok.limited (Nat.not_le.1 hlong)] at hwrite
      cases hwrite
    refine ⟨hmax, fun hone hgood => ?_⟩
    have hupdated := updates hone hreached hgood
    obtain ⟨hcomplete, hreads, -⟩ := hok.success _ hupdated
    constructor
    · exact (complete_iff hmax (updated_iff hlen hreached hupdated).2.2 hgood).1 hcomplete
    · rw [← looked_inside_iff, ← loaderMain_looked hlen _]
      exact hreads.1
  · intro hcond
    constructor
    · intro k hupdated
      have hreached : Reached t newFirmware := by
        by_contra hnot
        rw [(loaderMain_not_reached hnot k).1] at hupdated
        cases hupdated
      obtain ⟨hmax, hrest⟩ := hcond hreached
      obtain ⟨hone, hwritten, hwrites⟩ := updated_iff hlen hreached hupdated
      have hgood := written_iff.1 hwritten
      obtain ⟨hdvd, hcompare⟩ := hrest hone hgood
      refine ⟨(complete_iff hmax hwrites hgood).2 hdvd, ⟨?_, ?_⟩, ?_⟩
      · rw [loaderMain_looked hlen, looked_inside_iff]
        exact hcompare
      · exact fun w hw => loaderMain_reads_inside hlen hreached hone hw
      · exact loaderMain_writesInside hlen hreached
          (fun j hbound hbefore => update_inside hone (Nat.lt_of_le_of_lt hmax (by decide)) hbound hbefore) k
    · intro hlong k
      by_cases hreached : Reached t newFirmware
      · exact absurd (hcond hreached).1 (Nat.not_le.2 hlong)
      · exact (loaderMain_not_reached hreached k).2

/-- A longer image is written behind the area, unless a chunk inside fails. -/
private theorem failed_of_writesInside (hlen : 2 ≤ newFwLen.toNat) (hreached : Reached t newFirmware)
    (hlong : maxGenericSize + flashWrChunkSize ≤ newFwLen.toNat)
    (h : (loaderMain t newFwLen newFirmware (areaChunks + 1)).WritesInside) :
    ∃ j < areaChunks, t.flashWriteVerify j = false := by
  by_contra hall
  have hgood : ∀ j < areaChunks, t.flashWriteVerify j = true := by
    intro j hj
    by_contra hbad
    exact hall ⟨j, hj, Bool.not_eq_true _ ▸ hbad⟩
  -- all chunks of the area are written, and then the first behind it
  have hbound : ∀ j ≤ areaChunks, InBound newFwLen j := by
    intro j hj
    have hchunks : areaChunks = 3440 := rfl
    have harea : maxGenericSize = 220160 := rfl
    have hsize : flashWrChunkSize = 64 := rfl
    apply inBound_of_inside
    rw [hsize] at hlong ⊢
    omega
  have hwrite : writeOf t areaChunks ∈ (loaderMain t newFwLen newFirmware (areaChunks + 1)).writes := by
    rw [(loaderMain_reached hlen hreached _).2]
    exact writeOf_mem (hbound _ (le_refl _)) fun j hj => ⟨hbound j hj.le, hgood j hj⟩
  exact absurd ((write_inside_iff (le_refl _)).1 (h _ hwrite)) (lt_irrefl _)

/-- Nothing is written behind a chunk that fails. -/
private theorem le_of_failed {f j : Nat} (hfailed : t.flashWriteVerify f = false) (h : Written t newFwLen j) :
    j ≤ f := by
  by_contra hgt
  rw [(h f (Nat.not_le.1 hgt)).2] at hfailed
  cases hfailed

theorem staysInside_iff (hlen : 2 ≤ newFwLen.toNat) : StaysInside t newFirmware newFwLen ↔
    CompareInside t newFirmware newFwLen ∧ (Reached t newFirmware → flashWrChunkSize ≤ newFwLen.toNat ∧
      (newFwLen.toNat < maxGenericSize + flashWrChunkSize ∨ ∃ j < areaChunks, t.flashWriteVerify j = false)) := by
  constructor
  · intro h
    refine ⟨?_, fun hreached => ⟨?_, ?_⟩⟩
    · rw [← looked_inside_iff, ← loaderMain_looked hlen 0]
      exact (h 0).1.1
    · have hread := (h 1).1.2 _ (first_write hlen hreached)
      exact le_trans (Nat.le_add_left _ _) hread
    · rcases Nat.lt_or_ge newFwLen.toNat (maxGenericSize + flashWrChunkSize) with hmax | hlong
      · exact Or.inl hmax
      · exact Or.inr (failed_of_writesInside hlen hreached hlong (h _).2)
  · rintro ⟨hcompare, hcond⟩ k
    have hlooked : ∀ o ∈ (loaderMain t newFwLen newFirmware k).looked, o + flashRdChunkSize ≤ newFwLen.toNat := by
      rw [loaderMain_looked hlen, looked_inside_iff]
      exact hcompare
    by_cases hreached : Reached t newFirmware
    · obtain ⟨hone, hend⟩ := hcond hreached
      refine ⟨⟨hlooked, ?_⟩, ?_⟩
      · exact fun w hw => loaderMain_reads_inside hlen hreached hone hw
      · refine loaderMain_writesInside hlen hreached (fun j hbound hbefore => ?_) k
        rcases hend with hmax | ⟨f, hf, hfailed⟩
        · exact update_inside hone hmax hbound hbefore
        · exact (le_of_failed hfailed hbefore).trans_lt hf
    · have hnone : (loaderMain t newFwLen newFirmware k).writes = [] := (loaderMain_not_reached hreached k).2
      refine ⟨⟨hlooked, ?_⟩, ?_⟩
      · rw [hnone]
        exact fun w hw => absurd hw List.not_mem_nil
      · rw [Progress.WritesInside, hnone]
        exact fun w hw => absurd hw List.not_mem_nil

end

/-! ### The condition -/

/-- The exact conditions.  For reports of success to be right: when the image gets written, it is not too long, and if
it has a full chunk and all calls for its full chunks are good, then its length is a multiple of the chunk size and the
comparison stopped inside the image.  For the loader to stay inside the image and the application area whatever it
reports: the comparison stops inside the image, and when the image gets written it has a full chunk and either ends in
the area or a call fails there. -/
theorem update_ok_iff (t : Target) (newFirmware : Image) (newFwLen : UInt32) (hlen : 2 ≤ newFwLen.toNat) :
    (UpdateOk t newFirmware newFwLen ↔
      (Reached t newFirmware → newFwLen.toNat ≤ maxGenericSize ∧
        (flashWrChunkSize ≤ newFwLen.toNat →
          (∀ j < newFwLen.toNat / flashWrChunkSize, t.flashWriteVerify j = true) →
          flashWrChunkSize ∣ newFwLen.toNat ∧ CompareInside t newFirmware newFwLen))) ∧
    (StaysInside t newFirmware newFwLen ↔
      CompareInside t newFirmware newFwLen ∧ (Reached t newFirmware → flashWrChunkSize ≤ newFwLen.toNat ∧
        (newFwLen.toNat < maxGenericSize + flashWrChunkSize ∨ ∃ j < areaChunks, t.flashWriteVerify j = false))) :=
  ⟨updateOk_iff hlen, staysInside_iff hlen⟩

/-- A target with an erased application area that carries out every command. -/
def erasedTarget : Target where
  flashRead _ _ := some fun _ => 0xFF
  erraseApp := true
  flashWriteVerify _ := true

/-- An image of zeros. -/
def zeros : Image := fun _ => 0

private theorem erasedTarget_differs : Differs erasedTarget zeros 0 := by
  unfold Differs
  decide

private theorem erasedTarget_reached : Reached erasedTarget zeros := ⟨rfl, 0, by decide, erasedTarget_differs⟩

private theorem erasedTarget_compareInside {newFwLen : UInt32} (hlen : flashRdChunkSize ≤ newFwLen.toNat) :
    CompareInside erasedTarget zeros newFwLen := by
  intro j _ hbefore _
  cases j with
  | zero => exact hlen
  | succ j => exact absurd erasedTarget_differs (hbefore 0 (Nat.succ_pos j))

/-- Two full chunks are written. -/
theorem two_chunks_updated : UpdateOk erasedTarget zeros 128 ∧ StaysInside erasedTarget zeros 128 := by
  have hcompare : CompareInside erasedTarget zeros 128 := erasedTarget_compareInside (by decide)
  obtain ⟨hok, hinside⟩ := update_ok_iff erasedTarget zeros 128 (by decide)
  exact ⟨hok.2 fun _ => ⟨by decide, fun _ _ => ⟨by decide, hcompare⟩⟩,
    hinside.2 ⟨hcompare, fun _ => ⟨by decide, Or.inl (by decide)⟩⟩⟩

/-- Of an image of 100 bytes, the last 36 are left out and success is reported. -/
theorem not_tail_written : ¬UpdateOk erasedTarget zeros 100 := by
  intro hok
  have hlen : 2 ≤ (100 : UInt32).toNat := by decide
  obtain ⟨-, hrest⟩ := (updateOk_iff hlen).1 hok erasedTarget_reached
  have hdvd := (hrest (by decide) fun _ _ => rfl).1
  exact absurd hdvd (by decide)

end TiMcu.Loader
