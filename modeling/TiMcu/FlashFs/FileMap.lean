import TiMcu.FlashFs.Calls

/-!
# The store as a finite map

Seen from outside the store is a map from identifiers to files.  `mapAfter` says how a call that returns its result
changes the map, and `Tidy.callStep_files` that the page follows it: the files a scan enumerates after the call are the
map after the call.  The last accepted call for an identifier then decides what `mm_get` returns in every state of a
run (`store_refines_map`).

A call has to meet two conditions: it leaves a tidy page (`StepOk`), and a file that it writes can be found again
(`Readable`): it is programmed on bytes that still can take it, and its header does not stand in the last eight bytes,
which the scan does not look at.
-/

namespace TiMcu.FlashFs

open NorFlash

variable {crc : List UInt8 → UInt8} {f : Mem} {s : Nat} {id i : UInt16} {file : MmFile} {nvs : Nvs}
  {L : List (Nat × Nat)}

/-! ### Files by identifier -/

private theorem lookup_keptItems (f : Mem) (L : List (Nat × Nat)) (id i : UInt16) :
    (itemFiles f (keptItems f L id)).lookup i = if i = id then none else (itemFiles f L).lookup i := by
  induction L with
  | nil => simp [keptItems, itemFiles]
  | cons it L ih =>
    unfold keptItems itemFiles at ih ⊢
    by_cases hid : itemId f it = id
    · -- the item is dropped, and only a lookup of its own identifier notices
      rw [List.filter_cons_of_neg (by simpa using hid), ih, List.map_cons, List.lookup_cons, hid]
      by_cases hi : i = id
      · rw [if_pos hi, if_pos hi]
      · have hne : (i == id) = false := by simpa using hi
        rw [if_neg hi, if_neg hi, hne]
    · rw [List.filter_cons_of_pos (by simpa using hid), List.map_cons, List.map_cons, List.lookup_cons,
        List.lookup_cons, ih]
      by_cases hi : i = itemId f it
      · have heq : (i == itemId f it) = true := by simpa using hi
        have hne : ¬ i = id := by rw [hi]; exact hid
        simp only [heq, hne, ↓reduceIte]
      · have hne : (i == itemId f it) = false := by simpa using hi
        rw [hne]

/-- The map the active page holds. -/
def fileMap (crc : List UInt8 → UInt8) (f : Mem) (id : UInt16) : Option (List UInt8) := (mmFiles crc f).lookup id

/-- The map after a call with its result. -/
def mapAfter (m : UInt16 → Option (List UInt8)) : Call × Bool → UInt16 → Option (List UInt8)
  | (.set id file, true), i => if i = id then some file.bytes else m i
  | (.invalidate id, true), i => if i = id then none else m i
  | _, i => m i

/-- The file written by a call of `mm_set` can be found again. -/
def SetFound (crc : List UInt8 → UInt8) (f : Mem) (s : Nat) (L : List (Nat × Nat)) : Call → Prop
  | .set id file =>
    BadParams id file ∨ Unchanged f L id file ∨ remaining s L < file.bytes.length ∨ Readable crc f s L id file
  | _ => True

/-- The condition on a call for the store to follow the map. -/
def MapOk (crc : List UInt8 → UInt8) (nvs : Nvs) (call : Call) : Prop :=
  StepOk crc nvs call ∧ ∀ s, ActivePage nvs.mem s → SetFound crc nvs.mem s (mmItems crc nvs.mem) call

theorem Unchanged.lookup (h : Unchanged f L id file) : (itemFiles f L).lookup id = some file.bytes := by
  obtain ⟨it, hold, hfile⟩ := h
  rw [lookup_itemFiles, hold, Option.map_some, hfile]

/-- The map after `mm_set`. -/
theorem Tidy.mmSet_files (h : Tidy crc nvs.mem s L) (hok : SetOk crc nvs.mem s L id file)
    (hread : SetFound crc nvs.mem s L (.set id file)) (i : UInt16) :
    fileMap crc (mmSet crc nvs id file).2.mem i =
      mapAfter (fileMap crc nvs.mem) (.set id file, (mmSet crc nvs id file).1) i := by
  by_cases hbad : BadParams id file
  · rw [mmSet_badParams hbad]
    rfl
  obtain ⟨hid, hlen⟩ := not_or.1 hbad
  by_cases hun : Unchanged nvs.mem L id file
  · rw [(h.single _).mmSet_unchanged hid hlen hun]
    by_cases hi : i = id
    · subst hi
      simp only [mapAfter, ↓reduceIte]
      rw [fileMap, h.mmFiles_eq, hun.lookup]
    · simp only [mapAfter, hi, ↓reduceIte]
  by_cases hrem : remaining s L < file.bytes.length
  · rw [(h.single _).mmSet_refused hid hlen hun hrem]
    rfl
  obtain ⟨hfit, hno⟩ : Fits s L file ∧ NoItem crc (setImage crc nvs.mem s L id file) s
      (setItems crc nvs.mem s L id file) := by
    rcases hok with hc | hc | hc | hok
    · exact absurd hc hbad
    · exact absurd hc hun
    · exact absurd hc hrem
    · exact hok
  have hreadable : Readable crc nvs.mem s L id file := by
    rcases hread with hc | hc | hc | hread
    · exact absurd hc hbad
    · exact absurd hc hun
    · exact absurd hc hrem
    · exact hread
  rw [(h.single _).mmSet_writes hid hlen hun hfit, Nvs.applyAll_mem, replay_setOps, fileMap,
    (h.set hid hfit hno).mmFiles_eq, h.set_files hfit hreadable, List.lookup_append, lookup_keptItems]
  by_cases hi : i = id
  · simp [mapAfter, hi]
  · have hne : (i == id) = false := by simpa using hi
    rw [List.lookup_cons, hne]
    simp [mapAfter, hi, fileMap, h.mmFiles_eq]

/-- The map after `mm_invalidate`. -/
theorem Tidy.mmInvalidate_files (h : Tidy crc nvs.mem s L) (hok : InvalidateOk crc nvs.mem s L id) (i : UInt16) :
    fileMap crc (mmInvalidate crc nvs id).2.mem i =
      mapAfter (fileMap crc nvs.mem) (.invalidate id, (mmInvalidate crc nvs id).1) i := by
  rw [(h.single _).mmInvalidate_eq]
  cases hold : oldItem nvs.mem L id with
  | none => rfl
  | some it =>
    by_cases hle : it.2 ≤ maxFlashZeroSize
    · obtain ⟨hzero, hfiles⟩ := h.zero hold (hok it hold hle)
      simp only [hle, ↓reduceIte]
      rw [show (nvs.apply (.program it.1 (List.replicate it.2 0))).mem = zeroItem nvs.mem it from rfl,
        fileMap, hzero.mmFiles_eq, hfiles, lookup_keptItems, ← h.mmFiles_eq]
      rfl
    · simp only [hle, ↓reduceIte]
      rfl

/-- A turn keeps the map. -/
private theorem Tidy.mmTurnPage_files (h : Tidy crc nvs.mem s L) (hinert : TurnInert crc nvs.mem s L) :
    mmFiles crc (mmTurnPage crc nvs).2.mem = mmFiles crc nvs.mem := by
  obtain ⟨hmem, -⟩ := h.turnPage hinert
  obtain ⟨hholds, hfiles⟩ := h.turnImage_holds
  rw [hmem, hholds.mmFiles_eq, hfiles, h.mmFiles_eq]

/-- The page follows the map. -/
theorem Tidy.callStep_files (h : Tidy crc nvs.mem s L) {call : Call} (hok : CallOk crc nvs.mem s L call)
    (hread : SetFound crc nvs.mem s L call) (i : UInt16) :
    fileMap crc (callStep crc nvs call).mem i =
      mapAfter (fileMap crc nvs.mem) (call, (call.run crc nvs).1) i := by
  cases call with
  | set id file => exact h.mmSet_files hok hread i
  | invalidate id => exact h.mmInvalidate_files hok i
  | maintain =>
    show fileMap crc (mmMaintain crc nvs).2.mem i = fileMap crc nvs.mem i
    rw [h.mmMaintain_eq]
    by_cases hrem : remaining s L < minFileLen
    · rw [if_pos hrem, fileMap, h.mmTurnPage_files (hok hrem), fileMap]
    · rw [if_neg hrem]
  | turnPage =>
    show fileMap crc (mmTurnPage crc nvs).2.mem i = fileMap crc nvs.mem i
    rw [fileMap, h.mmTurnPage_files hok, fileMap]

/-! ### Runs with their results -/

/-- The store and the calls so far with what they returned, oldest first. -/
structure Logged where
  nvs : Nvs
  log : List (Call × Bool)

def Logged.step (crc : List UInt8 → UInt8) (st : Logged) (call : Call) : Logged where
  nvs := callStep crc st.nvs call
  log := st.log ++ [(call, (call.run crc st.nvs).1)]

@[simp] theorem Logged.step_nvs (st : Logged) (call : Call) : (st.step crc call).nvs = callStep crc st.nvs call := rfl

@[simp] theorem Logged.step_log (st : Logged) (call : Call) :
    (st.step crc call).log = st.log ++ [(call, (call.run crc st.nvs).1)] := rfl

/-- The call returned true and is about the identifier. -/
def Accepted (id : UInt16) : Call × Bool → Bool
  | (.set i _, ok) => i = id && ok
  | (.invalidate i, ok) => i = id && ok
  | _ => false

/-- The last call for the identifier that returned true. -/
def lastAccepted (id : UInt16) (log : List (Call × Bool)) : Option Call :=
  ((log.filter (Accepted id)).getLast?).map Prod.fst

/-- What `mm_get` returns is decided by the last accepted call: its file, or nothing when the identifier was
invalidated or never set. -/
def GetsLast (crc : List UInt8 → UInt8) (st : Logged) : Prop :=
  ∀ (id maxValueLen : UInt16),
    match lastAccepted id st.log with
    | some (.set _ file) =>
      file.bytes.length ≤ maxValueLen.toNat →
        (mmGet crc st.nvs id maxValueLen).1 = some (file.bytes, UInt16.ofNat file.bytes.length)
    | _ => (mmGet crc st.nvs id maxValueLen).1 = none

private theorem GetsLast.of_none {st : Logged} (h : GetsLast crc st) (hlast : lastAccepted id st.log = none)
    (maxValueLen : UInt16) : (mmGet crc st.nvs id maxValueLen).1 = none := by
  have hget := h id maxValueLen
  rw [hlast] at hget
  exact hget

/-- The file the last accepted call leaves under an identifier. -/
def storedFile (log : List (Call × Bool)) (id : UInt16) : Option (List UInt8) :=
  match lastAccepted id log with
  | some (.set _ file) => some file.bytes
  | _ => none

theorem lastAccepted_concat (id : UInt16) (log : List (Call × Bool)) (e : Call × Bool) :
    lastAccepted id (log ++ [e]) = if Accepted id e then some e.1 else lastAccepted id log := by
  unfold lastAccepted
  by_cases h : Accepted id e
  · simp [List.filter_append, h]
  · simp [List.filter_append, h]

private theorem storedFile_concat (log : List (Call × Bool)) (e : Call × Bool) (i : UInt16) :
    storedFile (log ++ [e]) i = mapAfter (storedFile log) e i := by
  unfold storedFile
  rw [lastAccepted_concat]
  obtain ⟨call, ok⟩ := e
  cases call with
  | set id file =>
    cases ok with
    | false => simp [Accepted, mapAfter]
    | true =>
      by_cases hi : i = id
      · simp [Accepted, mapAfter, hi]
      · simp [Accepted, mapAfter, hi, Ne.symm hi]
  | invalidate id =>
    cases ok with
    | false => simp [Accepted, mapAfter]
    | true =>
      by_cases hi : i = id
      · simp [Accepted, mapAfter, hi]
      · simp [Accepted, mapAfter, hi, Ne.symm hi]
  | maintain => simp [Accepted, mapAfter]
  | turnPage => simp [Accepted, mapAfter]

private theorem lastAccepted_mem {log : List (Call × Bool)} {call : Call} (h : lastAccepted id log = some call) :
    (call, true) ∈ log ∧ Accepted id (call, true) = true := by
  obtain ⟨⟨c, ok⟩, hlast, rfl⟩ := Option.map_eq_some_iff.1 h
  obtain ⟨hmem, hacc⟩ := List.mem_filter.1 (List.mem_of_getLast? hlast)
  have hok : ok = true := by
    cases c <;> simp [Accepted] at hacc <;> exact hacc.2
  subst hok
  exact ⟨hmem, hacc⟩

/-! ### What mm_get returns -/

theorem mmGet_badParams {maxValueLen : UInt16} (h : mmInvalidId = id ∨ maxValueLen = 0) :
    (mmGet crc nvs id maxValueLen).1 = none := by
  rw [mmGet, if_pos h]

/-- Tidy pages that agree on an identifier return the same for it. -/
theorem Tidy.mmGet_congr {nvs' : Nvs} {s' : Nat} {L' : List (Nat × Nat)} (h : Tidy crc nvs.mem s L)
    (h' : Tidy crc nvs'.mem s' L') (hmap : fileMap crc nvs.mem id = fileMap crc nvs'.mem id) (maxValueLen : UInt16) :
    (mmGet crc nvs id maxValueLen).1 = (mmGet crc nvs' id maxValueLen).1 := by
  by_cases hbad : mmInvalidId = id ∨ maxValueLen = 0
  · rw [mmGet_badParams hbad, mmGet_badParams hbad]
  · obtain ⟨hid, hmax⟩ := not_or.1 hbad
    rw [fileMap, fileMap, h.mmFiles_eq, h'.mmFiles_eq] at hmap
    rw [(h.single _).mmGet_eq hid hmax, (h'.single _).mmGet_eq hid hmax, hmap]

/-- An identifier without a file is not found. -/
theorem Tidy.mmGet_none (h : Tidy crc nvs.mem s L) (hmap : fileMap crc nvs.mem id = none) (maxValueLen : UInt16) :
    (mmGet crc nvs id maxValueLen).1 = none := by
  by_cases hbad : mmInvalidId = id ∨ maxValueLen = 0
  · exact mmGet_badParams hbad
  obtain ⟨hid, hmax⟩ := not_or.1 hbad
  rw [fileMap, h.mmFiles_eq] at hmap
  rw [(h.single _).mmGet_eq hid hmax, hmap]
  rfl

private theorem Tidy.fileMap_invalidId (h : Tidy crc f s L) : fileMap crc f mmInvalidId = none := by
  rw [fileMap, h.mmFiles_eq, lookup_itemFiles, h.noMatch_invalidId.oldItem_eq]
  rfl

/-- A file is returned when the buffer is large enough. -/
theorem Tidy.mmGet_some (h : Tidy crc nvs.mem s L) {v : List UInt8} (hmap : fileMap crc nvs.mem id = some v)
    {maxValueLen : UInt16} (hmax : maxValueLen ≠ 0) (hlen : v.length ≤ maxValueLen.toNat) :
    (mmGet crc nvs id maxValueLen).1 = some (v, UInt16.ofNat v.length) := by
  have hid : mmInvalidId ≠ id := by
    rintro rfl
    rw [h.fileMap_invalidId] at hmap
    exact absurd hmap (by simp)
  rw [fileMap, h.mmFiles_eq] at hmap
  rw [(h.single _).mmGet_eq hid hmax, hmap]
  simp only [Option.bind_eq_bind, Option.bind_some]
  rw [if_neg (by omega)]

/-! ### Every run follows the map -/

/-- The page is tidy and holds the map that the calls so far describe. -/
structure Follows (crc : List UInt8 → UInt8) (st : Logged) : Prop where
  tidy : ∃ s L, Tidy crc st.nvs.mem s L
  files : ∀ i, fileMap crc st.nvs.mem i = storedFile st.log i
  nonempty : ∀ id file, (Call.set id file, true) ∈ st.log → file.bytes.length ≠ 0

theorem Follows.start (f : Mem) : Follows crc ⟨formatted f, []⟩ := by
  have htidy : Tidy crc (formatted f).mem memoryManager1Offset [] := formatted_tidy f
  refine ⟨⟨_, _, htidy⟩, fun i => ?_, by simp⟩
  rw [fileMap, htidy.mmFiles_eq]
  rfl

theorem Follows.step {st : Logged} {call : Call} (h : Follows crc st) (hok : MapOk crc st.nvs call) :
    Follows crc (st.step crc call) := by
  obtain ⟨s, L, htidy⟩ := h.tidy
  have hcall := htidy.stepOk_iff.1 hok.1
  have hfound := hok.2 s htidy.active
  rw [htidy.mmItems_eq] at hfound
  refine ⟨htidy.step_tidy hcall, fun i => ?_, fun id file hmem => ?_⟩
  · show fileMap crc (callStep crc st.nvs call).mem i = storedFile (st.log ++ [(call, (call.run crc st.nvs).1)]) i
    rw [htidy.callStep_files hcall hfound, storedFile_concat, funext h.files]
  · rcases List.mem_append.1 hmem with hmem | hmem
    · exact h.nonempty id file hmem
    · intro hlen
      have heq := List.mem_singleton.1 hmem
      simp only [Prod.mk.injEq] at heq
      obtain ⟨rfl, hres⟩ := heq
      rw [Call.run, mmSet_badParams (Or.inr hlen)] at hres
      exact absurd hres (by simp)

private theorem Follows.getsLast {st : Logged} (h : Follows crc st) : GetsLast crc st := by
  intro id maxValueLen
  obtain ⟨s, L, htidy⟩ := h.tidy
  have hmap := h.files id
  unfold storedFile at hmap
  cases hlast : lastAccepted id st.log with
  | none =>
    rw [hlast] at hmap
    exact htidy.mmGet_none hmap maxValueLen
  | some call =>
    rw [hlast] at hmap
    cases call with
    | set j file =>
      intro hlen
      have hpos := h.nonempty j file (lastAccepted_mem hlast).1
      refine htidy.mmGet_some hmap ?_ hlen
      rintro rfl
      have hzero : (0 : UInt16).toNat = 0 := rfl
      omega
    | invalidate j => exact htidy.mmGet_none hmap maxValueLen
    | maintain => exact htidy.mmGet_none hmap maxValueLen
    | turnPage => exact htidy.mmGet_none hmap maxValueLen

/-- In every run whose calls meet the condition `mm_get` returns what the last accepted call stored. -/
theorem store_refines_map (crc : List UInt8 → UInt8) (f : Mem) (calls : List Call)
    (hok : Runs.Guarded (Logged.step crc) (fun st call => MapOk crc st.nvs call) ⟨formatted f, []⟩ calls) :
    GetsLast crc (Runs.run (Logged.step crc) ⟨formatted f, []⟩ calls) :=
  (hok.invariant (Follows.start f) fun _ _ h hstep => h.step hstep).getsLast

/-- A call of `mm_set` that writes meets the condition when the file fits, can be found, and uncovers nothing. -/
private theorem Tidy.mapOk_set (h : Tidy crc nvs.mem s L) (hfit : Fits s L file)
    (hread : Readable crc nvs.mem s L id file)
    (hno : NoItem crc (setImage crc nvs.mem s L id file) s (setItems crc nvs.mem s L id file)) :
    MapOk crc nvs (.set id file) := by
  refine ⟨h.stepOk_iff.2 (Or.inr (Or.inr (Or.inr ⟨hfit, hno⟩))), fun s hs => ?_⟩
  rw [hs.unique h.active, h.mmItems_eq]
  exact Or.inr (Or.inr (Or.inr hread))

/-- So does the first call of `mm_set` for an identifier on a page without garbage. -/
private theorem Dense.mapOk_first (h : Dense crc nvs.mem s L) (hid : mmInvalidId ≠ id) (hno : NoMatch nvs.mem id L)
    (hfit : Fits s L file) (hlt : pageEmpty s L < scanEnd s) : MapOk crc nvs (.set id file) := by
  obtain ⟨hread, hitems, hdense⟩ := h.set_first hid hno hfit hlt
  exact h.toTidy.mapOk_set hfit hread (hitems ▸ hdense.noItem)

/-- The first call of `mm_set` on a formatted store meets the condition when the file fits. -/
theorem formatted_mapOk (f : Mem) (hid : mmInvalidId ≠ id) (hfit : Fits memoryManager1Offset [] file) :
    MapOk crc (formatted f) (.set id file) :=
  (formatted_dense f).mapOk_first hid (by simp [NoMatch]) hfit (by decide)

/-- Two files are stored, and the first one is superseded. -/
def storedTwice : List Call := [.set 1 (byteFile 0x2A), .set 2 (byteFile 0x17), .set 1 (byteFile 0x55)]

theorem storedTwice_mapOk :
    Runs.Guarded (callStep crc8Autosar) (MapOk crc8Autosar) (formatted fun _ => 0xFF) storedTwice := by
  obtain ⟨-, hone⟩ := @formatted_oneFile crc8Autosar 1 (byteFile 0x2A) (fun _ => 0xFF) (by decide) (by decide)
    (by decide)
  obtain ⟨hfit, -, hlt⟩ := hone.readable (byteFile 0x17) (by decide)
  have hnone : NoMatch (callStep crc8Autosar (formatted fun _ => 0xFF) (.set 1 (byteFile 0x2A))).mem 2
      [firstItem (byteFile 0x2A)] := fun it hit => by
    rw [List.mem_singleton.1 hit, hone.itemId_eq]
    decide
  obtain ⟨-, hdense, -⟩ := twoFiles_spec
  obtain ⟨hfit', hread, hitems, hno⟩ := updated_spec
  have hfirst : Runs.Guarded (callStep crc8Autosar) (MapOk crc8Autosar) (formatted fun _ => 0xFF)
      [.set 1 (byteFile 0x2A), .set 2 (byteFile 0x17)] :=
    ⟨formatted_mapOk _ (by decide) (fits_nil _ (by decide)), hone.dense.mapOk_first (by decide) hnone hfit hlt, trivial⟩
  have hlast : Runs.Guarded (callStep crc8Autosar) (MapOk crc8Autosar) twoFiles [.set 1 (byteFile 0x55)] :=
    ⟨hdense.toTidy.mapOk_set hfit' hread (hitems ▸ hno), trivial⟩
  exact Runs.Guarded.append.2 ⟨hfirst, hlast⟩

private theorem storedTwice_eq : Runs.run (callStep crc8Autosar) (formatted fun _ => 0xFF) storedTwice =
    callStep crc8Autosar twoFiles (.set 1 (byteFile 0x55)) := by
  rw [storedTwice, twoFiles, Runs.run_cons, Runs.run_cons, Runs.run_cons, Runs.run_nil, Runs.run_cons, Runs.run_cons,
    Runs.run_nil]

/-- The page then holds both files behind the bytes of the superseded one, and nothing behind them. -/
theorem storedTwice_spec (hnvs : nvs = Runs.run (callStep crc8Autosar) (formatted fun _ => 0xFF) storedTwice) :
    nvs.mem = setImage crc8Autosar twoImage memoryManager1Offset twoItems 1 (byteFile 0x55) ∧
      Tidy crc8Autosar nvs.mem memoryManager1Offset updatedItems ∧
      Erased nvs.mem (memoryManager1Offset + 28) (memoryManager1Offset + flashFsPageSize) := by
  obtain ⟨hmem, hdense, hfiles⟩ := twoFiles_spec
  obtain ⟨hfit, -, hitems, hno⟩ := updated_spec
  have hun : ¬ Unchanged twoFiles.mem twoItems 1 (byteFile 0x55) := fun hun => by
    have hlookup := hun.lookup
    rw [hfiles] at hlookup
    exact absurd hlookup (by decide)
  have himage : nvs.mem = setImage crc8Autosar twoFiles.mem memoryManager1Offset twoItems 1 (byteFile 0x55) := by
    rw [hnvs, storedTwice_eq]
    exact hdense.toTidy.callStep_set (by decide) (by decide) hun hfit
  have htidy := hdense.toTidy.set (show mmInvalidId ≠ 1 by decide) hfit (hitems ▸ hno)
  have hfree := @FreeTail.setImage crc8Autosar _ _ 1 (byteFile 0x55) _ hdense.free hdense.toPageHolds
  have hend : pageEmpty memoryManager1Offset (twoItems ++ [newItem memoryManager1Offset twoItems (byteFile 0x55)]) =
      memoryManager1Offset + 28 := by decide
  rw [FreeTail, hend] at hfree
  rw [hitems] at htidy
  rw [himage]
  exact ⟨by rw [hmem], htidy, hfree⟩

/-- Removing the second file then uncovers nothing. -/
private theorem storedTwice_invalidateOk
    (hnvs : nvs = Runs.run (callStep crc8Autosar) (formatted fun _ => 0xFF) storedTwice) :
    MapOk crc8Autosar nvs (.invalidate 2) := by
  obtain ⟨hmem, htidy, hfree⟩ := storedTwice_spec hnvs
  refine ⟨htidy.stepOk_iff.2 ?_, fun _ _ => trivial⟩
  have hold : oldItem nvs.mem updatedItems 2 = some (319500, 8) := by
    rw [hmem]
    decide +kernel
  have hkept : keptItems nvs.mem updatedItems 2 = [(319508, 8)] := by
    rw [hmem]
    decide +kernel
  intro it hit _
  obtain rfl : (319500, 8) = it := Option.some.inj (hold.symm.trans hit)
  rw [hkept]
  refine noItem_of_erased (e := memoryManager1Offset + 28) (hfree.congr ?_) fun q h1 h2 hout => ?_
  · exact (zeroItem_agreeOutside _ _).agree (Or.inr (by decide))
  · have hstart : memoryManager1Offset + qwordLen = 319492 := rfl
    have hend : memoryManager1Offset + 28 = 319516 := rfl
    have hlast : q < 319508 ∨ 319516 ≤ q := hout (319508, 8) (List.mem_cons_self ..)
    have hstale : ∀ k < 16,
        mmItemAt crc8Autosar (zeroItem (setImage crc8Autosar twoImage memoryManager1Offset twoItems 1 (byteFile 0x55))
          (319500, 8)) (319492 + k) = none := by
      decide +kernel
    rw [hmem]
    obtain ⟨k, rfl⟩ := Nat.exists_eq_add_of_le (hstart ▸ h1)
    exact hstale k (by omega)

/-- Two files are stored, the first one is superseded and the second one removed. -/
theorem store_refines_map_one :
    GetsLast crc8Autosar
      (Runs.run (Logged.step crc8Autosar) ⟨formatted fun _ => 0xFF, []⟩ (storedTwice ++ [.invalidate 2])) := by
  have hguard : Runs.Guarded (callStep crc8Autosar) (MapOk crc8Autosar) (formatted fun _ => 0xFF)
      (storedTwice ++ [.invalidate 2]) :=
    Runs.Guarded.append.2 ⟨storedTwice_mapOk, storedTwice_invalidateOk rfl, trivial⟩
  exact store_refines_map crc8Autosar (fun _ => 0xFF) _ (Runs.Guarded.of_image (s := ⟨formatted fun _ => 0xFF, []⟩)
    Logged.nvs (fun _ _ => rfl) (fun _ _ hok => hok) hguard)

/-- A file that reads as an item of another identifier. -/
def embedded (crc : List UInt8 → UInt8) : MmFile :=
  ⟨newBytes crc 2 (byteFile 0x55), by rw [newBytes_length]; decide⟩

private theorem embedded_length (crc : List UInt8 → UInt8) : (embedded crc).bytes.length = 8 := rfl

/-- When the file is superseded, the scan enters it and finds the item. -/
private theorem OneFile.embedded_found (h : OneFile crc f 1 (embedded crc)) :
    let L := [(memoryManager1Offset + 11, 8), (memoryManager1Offset + 19, 8)]
    let image := setImage crc f memoryManager1Offset [firstItem (embedded crc)] 1 (byteFile 0x2A)
    Tidy crc image memoryManager1Offset L ∧ itemFiles image L = [(2, [0x55]), (1, [0x2A])] := by
  intro L image
  have hsup : Superseded crc image 1 (embedded crc) (byteFile 0x2A) :=
    h.superseded (byteFile 0x2A) (by rw [embedded_length]; decide)
  have hstale : bytesAt image (memoryManager1Offset + 11) (itemHeaderSz + (byteFile 0x55).bytes.length) =
      newBytes crc 2 (byteFile 0x55) := hsup.stale
  have hitem : bytesAt image (memoryManager1Offset + 19) (itemHeaderSz + (byteFile 0x2A).bytes.length) =
      newBytes crc 1 (byteFile 0x2A) := hsup.item
  obtain ⟨hat, hid, hfile⟩ := hsup.active.read_newBytes (Nat.lt_add_of_pos_right (by decide)) (by decide) hitem
  obtain ⟨hat', hid', hfile'⟩ := hsup.active.read_newBytes (Nat.lt_add_of_pos_right (by decide)) (by decide) hstale
  obtain ⟨hfirst, hsecond⟩ := newBytes_id hstale
  have hno : NoItem crc image memoryManager1Offset L := by
    refine noItem_of_erased hsup.free fun q h1 h2 hout => ?_
    have h11 : q < memoryManager1Offset + 11 ∨ memoryManager1Offset + 19 ≤ q := hout _ (List.mem_cons_self ..)
    have h19 : q < memoryManager1Offset + 19 ∨ memoryManager1Offset + 27 ≤ q :=
      hout _ (List.mem_cons_of_mem _ (List.mem_cons_self ..))
    have h27 : q < memoryManager1Offset + 27 := h2
    -- among the zeros over the header
    exact mmItemAt_before hsup.header (by rw [hfirst]; decide) (by rw [hsecond]; decide) h1 (by omega)
  have hfiles : itemFiles image L = [(2, [0x55]), (1, [0x2A])] := by
    exact List.cons_eq_cons.2 ⟨Prod.ext hid' hfile', congrArg (fun e => [e]) (Prod.ext hid hfile)⟩
  have hholds : PageHolds crc image memoryManager1Offset L := by
    refine ⟨hsup.active, Resync.Tiling.layout ⟨by decide, ?_, by decide, hno⟩, by decide⟩
    exact List.forall_mem_cons.2 ⟨hat', List.forall_mem_singleton.2 hat⟩
  have hids : L.map (itemId image) = [2, 1] := by rw [map_itemId, hfiles]; rfl
  refine ⟨⟨hholds, ?_, fun it hit => ?_⟩, hfiles⟩
  · rw [hids]
    decide
  · have hmem := List.mem_map_of_mem (f := itemId image) hit
    rw [hids] at hmem
    intro hinvalid
    rw [hinvalid] at hmem
    exact absurd hmem (by decide)

/-- Whatever the checksum, a file that reads as an item becomes one when it is superseded: `mm_get` then returns a file
for an identifier that was never set. -/
theorem not_gets_last_embedded :
    ¬ ∃ crc, ∀ f calls, GetsLast crc (Runs.run (Logged.step crc) ⟨formatted f, []⟩ calls) := by
  rintro ⟨crc, h⟩
  have hlen : (embedded crc).bytes.length = 8 := embedded_length crc
  obtain ⟨-, hone⟩ := @formatted_oneFile crc 1 (embedded crc) (fun _ => 0xFF) (by decide) (by omega) (by omega)
  obtain ⟨hfit, -⟩ := hone.readable (byteFile 0x2A) (by rw [hlen]; decide)
  obtain ⟨htidy, hfiles⟩ := hone.embedded_found
  have hget := h (fun _ => 0xFF) [.set 1 (embedded crc), .set 1 (byteFile 0x2A)]
  rw [Runs.run_cons, Runs.run_cons, Runs.run_nil] at hget
  have hnone : (mmGet crc _ 2 1).1 = none := hget.of_none (by
    rw [Logged.step_log, lastAccepted_concat, if_neg (by simp [Accepted]), Logged.step_log, lastAccepted_concat,
      if_neg (by simp [Accepted])]
    rfl) 1
  rw [Logged.step_nvs, Logged.step_nvs] at hnone
  have hun : ¬ Unchanged _ _ 1 (byteFile 0x2A) := hone.not_unchanged (by rw [hlen]; decide)
  have hmem := hone.dense.toTidy.callStep_set (by decide) (by decide) hun hfit
  rw [← hmem] at htidy hfiles
  have hsome : (mmGet crc (callStep crc (callStep crc (formatted fun _ => 0xFF) (.set 1 (embedded crc)))
      (.set 1 (byteFile 0x2A))) 2 1).1 = some ([0x55], UInt16.ofNat [(0x55 : UInt8)].length) := by
    refine htidy.mmGet_some ?_ (by decide) (by decide)
    rw [fileMap, htidy.mmFiles_eq, hfiles]
    rfl
  rw [hnone] at hsome
  exact absurd hsome (by simp)

end TiMcu.FlashFs
