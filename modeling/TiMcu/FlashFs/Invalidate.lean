import TiMcu.FlashFs.FileMap

/-!
# Invalidation of what was stored

`mm_invalidate` hands the item with its header to `mm_flash_zero`, which takes at most `MAX_FLASH_ZERO_SIZE` bytes.
`mm_set` knows no such bound, so a longer file can be stored and not be removed again (`Follows.mmInvalidate_iff`).
Where it is removed, only its own identifier is lost (`Follows.removed`).
-/

namespace TiMcu.FlashFs

open NorFlash

variable {crc : List UInt8 → UInt8} {nvs : Nvs} {s : Nat} {L : List (Nat × Nat)} {id i : UInt16} {file : MmFile}

/-- `mm_invalidate` returns true, after which `mm_get` fails for the identifier and is as before for the others. -/
structure Removed (crc : List UInt8 → UInt8) (nvs : Nvs) (id : UInt16) : Prop where
  returns : (mmInvalidate crc nvs id).1 = true
  gone : ∀ maxValueLen, (mmGet crc (mmInvalidate crc nvs id).2 id maxValueLen).1 = none
  others : ∀ i ≠ id, ∀ maxValueLen,
    (mmGet crc (mmInvalidate crc nvs id).2 i maxValueLen).1 = (mmGet crc nvs i maxValueLen).1

/-- The item of the file that the last accepted call stored. -/
theorem Follows.item {st : Logged} (h : Follows crc st) (htidy : Tidy crc st.nvs.mem s L)
    (hlast : lastAccepted id st.log = some (.set i file)) :
    ∃ it, oldItem st.nvs.mem L id = some it ∧ it.2 = itemHeaderSz + file.bytes.length := by
  have hmap := h.files id
  rw [fileMap, htidy.mmFiles_eq, lookup_itemFiles, storedFile, hlast] at hmap
  obtain ⟨it, hold, hfile⟩ := Option.map_eq_some_iff.1 hmap
  have hmem := (oldItem_mem hold).1
  refine ⟨it, hold, ?_⟩
  calc it.2 = itemHeaderSz + (mmItem st.nvs.mem it.1).length.toNat := (htidy.item_length hmem).symm
    _ = itemHeaderSz + (itemFile st.nvs.mem it).length := by rw [htidy.itemFile_length hmem]
    _ = itemHeaderSz + file.bytes.length := by rw [hfile]

/-- A stored file can be invalidated exactly when its item fits `mm_flash_zero`. -/
theorem Follows.mmInvalidate_iff {st : Logged} (h : Follows crc st)
    (hlast : lastAccepted id st.log = some (.set i file)) :
    (mmInvalidate crc st.nvs id).1 = true ↔ itemHeaderSz + file.bytes.length ≤ maxFlashZeroSize := by
  obtain ⟨s, L, htidy⟩ := h.tidy
  obtain ⟨it, hold, hlen⟩ := h.item htidy hlast
  rw [(htidy.single _).mmInvalidate_eq, hold]
  dsimp only
  rw [hlen]
  by_cases hle : itemHeaderSz + file.bytes.length ≤ maxFlashZeroSize
  · simp only [hle, ↓reduceIte]
  · simp only [hle, ↓reduceIte, Bool.false_eq_true]

/-- An accepted call of `mm_invalidate` removes the file and keeps the others. -/
theorem Follows.removed {st : Logged} (h : Follows crc st) (hok : MapOk crc st.nvs (.invalidate id))
    (hres : (mmInvalidate crc st.nvs id).1 = true) : Removed crc st.nvs id := by
  obtain ⟨s, L, htidy⟩ := h.tidy
  have hcall := htidy.stepOk_iff.1 hok.1
  obtain ⟨s', L', htidy'⟩ := htidy.step_tidy hcall
  have hfiles : ∀ i, fileMap crc (mmInvalidate crc st.nvs id).2.mem i =
      if i = id then none else fileMap crc st.nvs.mem i := fun i => by
    rw [htidy.mmInvalidate_files hcall, hres]
    rfl
  refine ⟨hres, fun maxValueLen => htidy'.mmGet_none ?_ maxValueLen, fun i hi maxValueLen => ?_⟩
  · exact (hfiles id).trans (if_pos rfl)
  · exact htidy'.mmGet_congr htidy ((hfiles i).trans (if_neg hi)) maxValueLen

/-- In every run whose calls meet the condition, a stored file can be invalidated exactly when it has at most 249 bytes,
and invalidating it removes it and nothing else. -/
theorem mmInvalidate_removes (crc : List UInt8 → UInt8) (f : Mem) (calls : List Call)
    (hok : Runs.Guarded (Logged.step crc) (fun st call => MapOk crc st.nvs call) ⟨formatted f, []⟩ calls)
    (id : UInt16) (file : MmFile) :
    let st := Runs.run (Logged.step crc) ⟨formatted f, []⟩ calls
    lastAccepted id st.log = some (.set id file) →
      ((mmInvalidate crc st.nvs id).1 = true ↔ file.bytes.length ≤ 249) ∧
        (MapOk crc st.nvs (.invalidate id) → file.bytes.length ≤ 249 → Removed crc st.nvs id) := by
  intro st hlast
  have hfollows : Follows crc st := hok.invariant (Follows.start f) fun _ _ h hstep => h.step hstep
  have hiff : (mmInvalidate crc st.nvs id).1 = true ↔ file.bytes.length ≤ 249 := by
    have h7 : itemHeaderSz = 7 := rfl
    have h256 : maxFlashZeroSize = 256 := rfl
    rw [hfollows.mmInvalidate_iff hlast]
    omega
  exact ⟨hiff, fun hinv hlen => hfollows.removed hinv (hiff.2 hlen)⟩

/-- The first call of `mm_set` on a formatted store in the log. -/
private theorem formatted_logged (f : Mem) (hid : mmInvalidId ≠ id) (hlen : file.bytes.length ≠ 0)
    (hle : file.bytes.length ≤ 16373) :
    lastAccepted id (Logged.step crc ⟨formatted f, []⟩ (.set id file)).log = some (.set id file) := by
  have hres : (Call.run crc (formatted f) (.set id file)).1 = true := (formatted_oneFile f hid hlen hle).1
  rw [Logged.step_log, hres, lastAccepted_concat, if_pos (by simp [Accepted])]

/-- A file of one byte is removed. -/
theorem mmInvalidate_removes_one :
    let st := Runs.run (Logged.step crc8Autosar) ⟨formatted fun _ => 0xFF, []⟩ [.set 1 (byteFile 0x2A)]
    Removed crc8Autosar st.nvs 1 := by
  intro st
  have hid : mmInvalidId ≠ 1 := by decide
  have hlen : (byteFile 0x2A).bytes.length ≠ 0 := by decide
  have hle : (byteFile 0x2A).bytes.length ≤ 16373 := by decide
  have hone : OneFile crc8Autosar st.nvs.mem 1 (byteFile 0x2A) := (formatted_oneFile _ hid hlen hle).2
  have hinv : MapOk crc8Autosar st.nvs (.invalidate 1) :=
    ⟨hone.dense.toTidy.stepOk_iff.2 hone.invalidateOk, fun _ _ => trivial⟩
  exact (mmInvalidate_removes crc8Autosar (fun _ => 0xFF) [.set 1 (byteFile 0x2A)]
    ⟨formatted_mapOk _ hid (fits_nil _ hle), trivial⟩ 1 (byteFile 0x2A) (formatted_logged _ hid hlen hle)).2 hinv
    (by decide)

/-- Whatever the checksum, a file of 250 bytes is stored and cannot be removed. -/
theorem not_removes_longFile :
    ¬∃ crc, ∀ f id file, (mmSet crc (formatted f) id file).1 = true →
      Removed crc (mmSet crc (formatted f) id file).2 id := by
  rintro ⟨crc, h⟩
  obtain ⟨file, hlen⟩ : ∃ file : MmFile, file.bytes.length = 250 := ⟨zeroFile 250 (by decide), zeroFile_length _ _⟩
  obtain ⟨hres, hone⟩ := @formatted_oneFile crc 1 file (fun _ => 0xFF) (by decide) (by omega) (by omega)
  have hreturns := (h (fun _ => 0xFF) 1 file hres).returns
  have hgt : ¬(firstItem file).2 ≤ maxFlashZeroSize := by
    have h256 : maxFlashZeroSize = 256 := rfl
    rw [firstItem, hlen]
    omega
  have hone' : OneFile crc (mmSet crc (formatted fun _ => 0xFF) 1 file).2.mem 1 file := hone
  rw [(hone'.dense.toTidy.single 1).mmInvalidate_eq, hone'.oldItem_eq] at hreturns
  simp only [hgt, ↓reduceIte] at hreturns
  exact absurd hreturns (by simp)

end TiMcu.FlashFs
