import TiMcu.FlashFs.Find

/-!
# One call on a tidy page

A page is tidy when no two of its items carry the same identifier and none carries the reserved one.  Where at most
one item carries the identifier (`Single`), a call can be read off the items: what `mm_get` returns
(`Single.mmGet_eq`), which operations `mm_set` carries out (`Single.mmSet_writes`, `setOps`) and what they leave on a
tidy page (`Tidy.set`), and the same for `mm_invalidate` (`Tidy.zero`).

What a call leaves is again tidy provided that nothing outside the items it keeps reads as an item; this is a condition
on stale bytes (the file of a superseded item keeps its bytes, only its header is zeroed) and appears as a hypothesis
`NoItem` about the image.
-/

namespace TiMcu.FlashFs

open NorFlash

variable {crc : List UInt8 → UInt8} {f g : Mem} {s : Nat} {id i : UInt16} {file : MmFile} {nvs : Nvs} {out : MmFound}
  {A B L L' : List (Nat × Nat)}

/-- The active page holds the items `L`, at most one an identifier and none with the reserved identifier. -/
structure Tidy (crc : List UInt8 → UInt8) (f : Mem) (s : Nat) (L : List (Nat × Nat)) : Prop
    extends PageHolds crc f s L where
  unique : (L.map (itemId f)).Nodup
  valid : ∀ it ∈ L, itemId f it ≠ mmInvalidId

/-- The identifiers and files of a list of items. -/
def itemFiles (f : Mem) (L : List (Nat × Nat)) : List (UInt16 × List UInt8) :=
  L.map fun it => (itemId f it, itemFile f it)

/-- The identifiers and files a scan of the active page enumerates. -/
def mmFiles (crc : List UInt8 → UInt8) (f : Mem) : List (UInt16 × List UInt8) := itemFiles f (mmItems crc f)

/-- The item with the identifier. -/
def oldItem (f : Mem) (L : List (Nat × Nat)) (id : UInt16) : Option (Nat × Nat) :=
  L.find? fun it => itemId f it = id

/-- The items with another identifier. -/
def keptItems (f : Mem) (L : List (Nat × Nat)) (id : UInt16) : List (Nat × Nat) :=
  L.filter fun it => itemId f it ≠ id

/-! ### The item with an identifier -/

theorem NoMatch.oldItem_eq (h : NoMatch f id L) : oldItem f L id = none := by
  rw [oldItem, List.find?_eq_none]
  intro it hit
  simpa using h it hit

theorem NoMatch.keptItems_eq (h : NoMatch f id L) : keptItems f L id = L := by
  rw [keptItems, List.filter_eq_self]
  intro it hit
  simpa using h it hit

/-- Either no item carries the identifier or exactly one does. -/
def AtMostOne (f : Mem) (id : UInt16) (L : List (Nat × Nat)) : Prop :=
  NoMatch f id L ∨ ∃ A it B, L = A ++ it :: B ∧ NoMatch f id A ∧ itemId f it = id ∧ NoMatch f id B

theorem NoMatch.count_eq (h : NoMatch f id L) : (L.map (itemId f)).count id = 0 :=
  List.count_eq_zero.2 (noMatch_iff.1 h)

/-- Either no item carries the identifier or there is a first one. -/
theorem first_match (f : Mem) (id : UInt16) (L : List (Nat × Nat)) :
    NoMatch f id L ∨ ∃ A it B, L = A ++ it :: B ∧ NoMatch f id A ∧ itemId f it = id := by
  induction L with
  | nil => exact Or.inl (by simp [NoMatch])
  | cons x L ih =>
    by_cases hx : itemId f x = id
    · exact Or.inr ⟨[], x, L, rfl, by simp [NoMatch], hx⟩
    · rcases ih with hno | ⟨A, it, B, rfl, hA, hit⟩
      · left
        intro it hit
        rcases List.mem_cons.1 hit with rfl | hit
        · exact hx
        · exact hno it hit
      · right
        refine ⟨x :: A, it, B, rfl, fun y hy => ?_, hit⟩
        rcases List.mem_cons.1 hy with rfl | hy
        · exact hx
        · exact hA y hy

theorem atMostOne_iff : AtMostOne f id L ↔ (L.map (itemId f)).count id ≤ 1 := by
  constructor
  · rintro (hno | ⟨A, it, B, rfl, hA, hit, hB⟩)
    · rw [hno.count_eq]
      exact Nat.zero_le 1
    · simp [hA.count_eq, hB.count_eq, hit]
  · intro hcount
    rcases first_match f id L with hno | ⟨A, it, M, rfl, hA, hit⟩
    · exact Or.inl hno
    rcases first_match f id M with hM | ⟨B, it', C, rfl, hB, hit'⟩
    · exact Or.inr ⟨A, it, M, rfl, hA, hit, hM⟩
    · -- there would be two
      simp [hA.count_eq, hB.count_eq, hit, hit'] at hcount

theorem match_cases (hu : (L.map (itemId f)).Nodup) (id : UInt16) : AtMostOne f id L :=
  atMostOne_iff.2 (List.nodup_iff_count_le_one.1 hu id)

theorem oldItem_split {it : Nat × Nat} (hA : NoMatch f id A) (hit : itemId f it = id) :
    oldItem f (A ++ it :: B) id = some it := by
  have hnone : List.find? (fun it => decide (itemId f it = id)) A = none := hA.oldItem_eq
  rw [oldItem, List.find?_append, hnone]
  simp [hit]

theorem keptItems_split {it : Nat × Nat} (hA : NoMatch f id A) (hit : itemId f it = id) (hB : NoMatch f id B) :
    keptItems f (A ++ it :: B) id = A ++ B := by
  have h1 := hA.keptItems_eq
  have h2 := hB.keptItems_eq
  unfold keptItems at h1 h2 ⊢
  rw [List.filter_append, List.filter_cons, h1, h2]
  simp [hit]

/-- The active page holds the items `L`, at most one with the identifier. -/
structure Single (crc : List UInt8 → UInt8) (f : Mem) (s : Nat) (L : List (Nat × Nat)) (id : UInt16) : Prop
    extends PageHolds crc f s L where
  atMostOne : AtMostOne f id L

theorem Tidy.single (h : Tidy crc f s L) (id : UInt16) : Single crc f s L id :=
  ⟨h.toPageHolds, match_cases h.unique id⟩

/-- The lookup of an identifier that at most one item carries. -/
theorem Single.mmFindField_eq (h : Single crc nvs.mem s L id) :
    mmFindField crc nvs id out =
      ((oldItem nvs.mem L id).isSome, nvs, foundOut s L ((oldItem nvs.mem L id).map Prod.fst)) := by
  rcases h.atMostOne with hno | ⟨A, it, B, rfl, hA, hit, hB⟩
  · rw [mmFindField_none h.toPageHolds hno, hno.oldItem_eq]
    rfl
  · rw [mmFindField_one h.toPageHolds hA hit hB, oldItem_split hA hit]
    rfl

theorem oldItem_mem {it : Nat × Nat} (h : oldItem f L id = some it) : it ∈ L ∧ itemId f it = id := by
  have := List.find?_some h
  exact ⟨List.mem_of_find?_eq_some h, by simpa using this⟩

/-- The files as an association list hold the file of the item with the identifier. -/
theorem lookup_itemFiles (f : Mem) (L : List (Nat × Nat)) (id : UInt16) :
    (itemFiles f L).lookup id = (oldItem f L id).map (itemFile f) := by
  induction L with
  | nil => rfl
  | cons it L ih =>
    unfold oldItem at ih ⊢
    simp only [itemFiles, List.map_cons, List.lookup_cons, List.find?_cons] at ih ⊢
    by_cases hid : itemId f it = id
    · simp [hid]
    · have : (id == itemId f it) = false := by simpa using Ne.symm hid
      simp only [this, hid, decide_false]
      exact ih

theorem PageHolds.itemFile_length (h : PageHolds crc f s L) {it : Nat × Nat} (hit : it ∈ L) :
    (itemFile f it).length = (mmItem f it.1).length.toNat := by
  have := h.item_length hit
  rw [itemFile, bytesAt_length]
  omega

theorem PageHolds.itemFile_eq (h : PageHolds crc f s L) {it : Nat × Nat} (hit : it ∈ L) :
    itemFile f it = bytesAt f (it.1 + itemHeaderSz) (mmItem f it.1).length.toNat := by
  rw [← h.itemFile_length hit, itemFile, bytesAt_length]

/-! ### Reading -/

/-- What `mm_get` returns for an identifier that at most one item carries. -/
theorem Single.mmGet_eq (h : Single crc nvs.mem s L id) (hid : mmInvalidId ≠ id) {maxValueLen : UInt16}
    (hmax : maxValueLen ≠ 0) :
    mmGet crc nvs id maxValueLen =
      ((itemFiles nvs.mem L).lookup id >>= fun v =>
        if maxValueLen.toNat < v.length then none else some (v, UInt16.ofNat v.length), nvs) := by
  rw [mmGet, if_neg (by simp [hid, hmax]), h.mmFindField_eq, lookup_itemFiles]
  cases hold : oldItem nvs.mem L id with
  | none => rfl
  | some it =>
    have hmem := (oldItem_mem hold).1
    have hlen := h.itemFile_length hmem
    simp only [Option.isSome_some, Option.map_some, foundOut, Option.getD_some, Option.bind_eq_bind,
      Option.bind_some, hlen]
    rw [← h.itemFile_eq hmem]
    by_cases hlt : maxValueLen < (mmItem nvs.mem it.1).length
    · rw [if_pos hlt, if_pos (UInt16.lt_iff_toNat_lt.1 hlt)]
    · rw [if_neg hlt, if_neg (fun hc => hlt (UInt16.lt_iff_toNat_lt.2 hc)), UInt16.ofNat_toNat]

/-! ### Writing -/

/-- The bytes of a new item. -/
def newBytes (crc : List UInt8 → UInt8) (id : UInt16) (file : MmFile) : List UInt8 :=
  (newHeader crc id file).bytes ++ file.bytes

theorem newBytes_length : (newBytes crc id file).length = itemHeaderSz + file.bytes.length := by
  simp [newBytes]

/-- The operations of `mm_set` that write a file. -/
def setOps (crc : List UInt8 → UInt8) (f : Mem) (s : Nat) (L : List (Nat × Nat)) (id : UInt16) (file : MmFile) :
    List Op :=
  [.program (pageEmpty s L) (newHeader crc id file).bytes, .program (pageEmpty s L + itemHeaderSz) file.bytes] ++
    ((oldItem f L id).map fun it => Op.program it.1 (List.replicate itemHeaderSz 0)).toList

/-- What holds of the two writes of the new item and of that over the old header holds of all. -/
theorem forall_mem_setOps {P : Op → Prop} (hheader : P (.program (pageEmpty s L) (newHeader crc id file).bytes))
    (hfile : P (.program (pageEmpty s L + itemHeaderSz) file.bytes))
    (hold : ∀ it ∈ L, P (.program it.1 (List.replicate itemHeaderSz 0))) : ∀ op ∈ setOps crc f s L id file, P op := by
  intro op hop
  rcases List.mem_append.1 hop with hop | hop
  · simp only [List.mem_cons, List.not_mem_nil, or_false] at hop
    rcases hop with rfl | rfl
    · exact hheader
    · exact hfile
  · simp only [Option.mem_toList, Option.map_eq_some_iff] at hop
    obtain ⟨it, hit, rfl⟩ := hop
    exact hold it (oldItem_mem hit).1

/-- The image `mm_set` leaves when it writes a file: the new item is programmed behind the last one, and the header of
the item it supersedes is zeroed. -/
def setImage (crc : List UInt8 → UInt8) (f : Mem) (s : Nat) (L : List (Nat × Nat)) (id : UInt16) (file : MmFile) : Mem :=
  match oldItem f L id with
  | none => program f (pageEmpty s L) (newBytes crc id file)
  | some it => program (program f (pageEmpty s L) (newBytes crc id file)) it.1 (List.replicate itemHeaderSz 0)

theorem replay_setOps : replay f (setOps crc f s L id file) = setImage crc f s L id file := by
  unfold setOps setImage newBytes
  rw [← program_append]
  cases oldItem f L id <;> rfl

/-- The file is stored already. -/
def Unchanged (f : Mem) (L : List (Nat × Nat)) (id : UInt16) (file : MmFile) : Prop :=
  ∃ it, oldItem f L id = some it ∧ itemFile f it = file.bytes

/-- The space left in the page. -/
def remaining (s : Nat) (L : List (Nat × Nat)) : Nat := s + flashFsPageSize - pageEmpty s L

/-- The new item fits behind the last one. -/
def Fits (s : Nat) (L : List (Nat × Nat)) (file : MmFile) : Prop :=
  itemHeaderSz + file.bytes.length ≤ remaining s L

private theorem PageHolds.sameFile_iff (h : PageHolds crc f s L) {it : Nat × Nat} (hit : it ∈ L) :
    sameFile f (some it.1) file = true ↔ itemFile f it = file.bytes := by
  have hlen := h.itemFile_length hit
  have heq := h.itemFile_eq hit
  simp only [sameFile, decide_eq_true_eq]
  constructor
  · rintro ⟨h1, h2⟩
    rw [heq, h1, h2]
  · intro hfile
    have h1 : (mmItem f it.1).length.toNat = file.bytes.length := by rw [← hlen, hfile]
    exact ⟨h1, by rw [← h1, ← heq, hfile]⟩

theorem PageHolds.remaining_eq (h : PageHolds crc f s L) : pageEmpty s L + remaining s L = s + flashFsPageSize := by
  have := h.empty_le
  unfold remaining
  omega

/-- A file that is stored already is not written again. -/
theorem Single.mmSet_unchanged (h : Single crc nvs.mem s L id) (hid : mmInvalidId ≠ id) (hlen : file.bytes.length ≠ 0)
    (hun : Unchanged nvs.mem L id file) : mmSet crc nvs id file = (true, nvs) := by
  obtain ⟨it, hold, hfile⟩ := hun
  have hsame := (h.sameFile_iff (oldItem_mem hold).1).2 hfile
  rw [mmSet, if_neg (by simp [hid, hlen]), h.mmFindField_eq, hold]
  simp only [Option.isSome_some, Option.map_some, foundOut, hsame, and_self, ↓reduceIte]

theorem Single.mmSet_reaches (h : Single crc nvs.mem s L id) (hid : mmInvalidId ≠ id) (hlen : file.bytes.length ≠ 0)
    (hun : ¬ Unchanged nvs.mem L id file) :
    mmSet crc nvs id file =
      if remaining s L < file.bytes.length then (false, nvs)
      else mmSetWrites crc nvs id file (foundOut s L ((oldItem nvs.mem L id).map Prod.fst)) := by
  have hsame : ¬ ((oldItem nvs.mem L id).isSome = true ∧
      sameFile nvs.mem ((oldItem nvs.mem L id).map Prod.fst) file = true) := by
    cases hold : oldItem nvs.mem L id with
    | none => simp
    | some it =>
      rintro ⟨-, hsame⟩
      exact hun ⟨it, hold, (h.sameFile_iff (oldItem_mem hold).1).1 hsame⟩
  rw [mmSet, if_neg (by simp [hid, hlen]), h.mmFindField_eq]
  simp only [foundOut, hsame, ↓reduceIte]
  rfl

/-- A file longer than the space left is refused. -/
theorem Single.mmSet_refused (h : Single crc nvs.mem s L id) (hid : mmInvalidId ≠ id) (hlen : file.bytes.length ≠ 0)
    (hun : ¬ Unchanged nvs.mem L id file) (hrem : remaining s L < file.bytes.length) :
    mmSet crc nvs id file = (false, nvs) := by
  rw [h.mmSet_reaches hid hlen hun, if_pos hrem]

/-- A file that fits is written. -/
theorem Single.mmSet_writes (h : Single crc nvs.mem s L id) (hid : mmInvalidId ≠ id) (hlen : file.bytes.length ≠ 0)
    (hun : ¬ Unchanged nvs.mem L id file) (hfit : Fits s L file) :
    mmSet crc nvs id file = (true, nvs.applyAll (setOps crc nvs.mem s L id file)) := by
  have hrem := h.remaining_eq
  have hle := h.le_empty
  have h7 : itemHeaderSz = 7 := rfl
  unfold Fits at hfit
  have hhead : InNvs (pageEmpty s L) (pageEmpty s L + (newHeader crc id file).bytes.length) :=
    h.active.inNvs (by omega) (by simp [h7]) (by simp; omega)
  have hfile : InNvs (pageEmpty s L + itemHeaderSz) (pageEmpty s L + itemHeaderSz + file.bytes.length) :=
    h.active.inNvs (by omega) (by omega) (by omega)
  rw [h.mmSet_reaches hid hlen hun, if_neg (by omega), mmSetWrites]
  simp only [foundOut, Option.getD_some]
  rw [mmFlashWrite_eq hhead]
  simp only
  rw [mmFlashWrite_eq hfile]
  unfold setOps
  cases hold : oldItem nvs.mem L id with
  | none => simp [Nvs.applyAll, Nvs.apply]
  | some it =>
    have hmem := (oldItem_mem hold).1
    have hin := h.inside it hmem
    have hrange := h.tiling.range it hmem
    have hsz := h.header_le hmem
    have hzero : InNvs it.1 (it.1 + itemHeaderSz) := h.active.inNvs (by omega) (by omega) (by omega)
    simp only [Option.map_some]
    rw [mmFlashZero_eq hzero (by decide)]
    simp [Nvs.applyAll, Nvs.apply]

/-! ### What a write leaves -/

/-- The item `mm_set` writes. -/
def newItem (s : Nat) (L : List (Nat × Nat)) (file : MmFile) : Nat × Nat :=
  (pageEmpty s L, file.bytes.length + itemHeaderSz)

/-- The scan can find the new item: its bytes can be programmed, and it starts below the bound of the scan. -/
def Readable (crc : List UInt8 → UInt8) (f : Mem) (s : Nat) (L : List (Nat × Nat)) (id : UInt16) (file : MmFile) :
    Prop :=
  Programmable f (pageEmpty s L) (newBytes crc id file) ∧ pageEmpty s L < scanEnd s

instance (f : Mem) (s : Nat) (L : List (Nat × Nat)) (id : UInt16) (file : MmFile) :
    Decidable (Readable crc f s L id file) :=
  inferInstanceAs (Decidable (_ ∧ _))

/-- The items `mm_set` leaves when it writes a file. -/
def setItems (crc : List UInt8 → UInt8) (f : Mem) (s : Nat) (L : List (Nat × Nat)) (id : UInt16) (file : MmFile) :
    List (Nat × Nat) :=
  if Readable crc f s L id file then keptItems f L id ++ [newItem s L file] else keptItems f L id

theorem keptItems_sublist (f : Mem) (L : List (Nat × Nat)) (id : UInt16) : (keptItems f L id).Sublist L :=
  List.filter_sublist

private theorem mem_keptItems {it : Nat × Nat} : it ∈ keptItems f L id ↔ it ∈ L ∧ itemId f it ≠ id := by
  simp [keptItems]

theorem noMatch_keptItems (f : Mem) (L : List (Nat × Nat)) (id : UInt16) : NoMatch f id (keptItems f L id) :=
  fun _ hit => (mem_keptItems.1 hit).2

/-- Two different items of a page do not overlap. -/
theorem PageHolds.disjoint (h : PageHolds crc f s L) {a b : Nat × Nat} (ha : a ∈ L) (hb : b ∈ L) (hab : a ≠ b) :
    a.1 + a.2 ≤ b.1 ∨ b.1 + b.2 ≤ a.1 := by
  have hsymm : Std.Symm fun a b : Nat × Nat => a.1 + a.2 ≤ b.1 ∨ b.1 + b.2 ≤ a.1 := ⟨fun _ _ h => h.symm⟩
  have hor : L.Pairwise fun a b => a.1 + a.2 ≤ b.1 ∨ b.1 + b.2 ≤ a.1 :=
    h.tiling.sep.imp fun {_ _} hsep => Or.inl hsep
  exact hor.forall ha hb hab

/-- Items whose bytes an image keeps hold the same files in it. -/
theorem PageHolds.itemFiles_congr (h : PageHolds crc f s L) (hsub : L'.Sublist L)
    (hkeep : ∀ it ∈ L', Agree f g it.1 (it.1 + it.2)) : itemFiles g L' = itemFiles f L' := by
  apply List.map_congr_left
  intro it hit
  have hsz := h.header_le (hsub.subset hit)
  rw [itemId_congr hsz (hkeep it hit), itemFile_congr hsz (hkeep it hit)]

theorem map_itemId (f : Mem) (L : List (Nat × Nat)) : L.map (itemId f) = (itemFiles f L).map Prod.fst := by
  rw [itemFiles, List.map_map]
  rfl

theorem itemIds_of_files (h : itemFiles g L' = itemFiles f L) : L'.map (itemId g) = L.map (itemId f) := by
  rw [map_itemId, h, ← map_itemId]

/-- A page that holds the files of a tidy page is tidy. -/
theorem Tidy.of_files {p : Nat} (h : Tidy crc f s L) (hg : PageHolds crc g p L')
    (hfiles : itemFiles g L' = itemFiles f L) : Tidy crc g p L' := by
  have hids := itemIds_of_files hfiles
  refine ⟨hg, by rw [hids]; exact h.unique, noMatch_iff.2 ?_⟩
  rw [hids]
  exact noMatch_iff.1 h.valid

/-- An image that keeps some of the items of a tidy page and reads as nothing outside them is tidy. -/
theorem Tidy.keep (h : Tidy crc f s L) (hg : ActivePage g s) (hsub : L'.Sublist L)
    (hkeep : ∀ it ∈ L', Agree f g it.1 (it.1 + it.2)) (hno : NoItem crc g s L') : Tidy crc g s L' := by
  have hid := h.itemId_kept hsub hkeep
  refine ⟨h.sublist hg hsub hkeep hno, ?_, ?_⟩
  · rw [List.map_congr_left hid]
    exact h.unique.sublist (hsub.map _)
  · intro it hit
    rw [hid it hit]
    exact h.valid it (hsub.subset hit)

/-! ### What mm_set leaves -/

theorem setWrites_agreeOutside (hfit : Fits s L file) (h : PageHolds crc f s L) :
    AgreeOutside f (program f (pageEmpty s L) (newBytes crc id file)) (pageEmpty s L) (s + flashFsPageSize) := by
  have hrem := h.remaining_eq
  unfold Fits at hfit
  refine (program_agreeOutside f _ _).mono (Nat.le_refl _) ?_
  rw [newBytes_length]
  omega

private theorem setImage_agreeOutside (hfit : Fits s L file) (h : PageHolds crc f s L) :
    AgreeOutside f (setImage crc f s L id file) (s + qwordLen) (s + flashFsPageSize) := by
  have hwrites : AgreeOutside f (program f (pageEmpty s L) (newBytes crc id file)) (s + qwordLen)
      (s + flashFsPageSize) :=
    (setWrites_agreeOutside hfit h).mono h.le_empty (Nat.le_refl _)
  unfold setImage
  cases hold : oldItem f L id with
  | none => exact hwrites
  | some it =>
    have hmem := (oldItem_mem hold).1
    have hrange := h.tiling.range it hmem
    have hin := h.inside it hmem
    have hsz := h.header_le hmem
    refine hwrites.trans ((program_agreeOutside _ _ _).mono hrange.1 ?_)
    rw [List.length_replicate]
    omega

/-- The items with another identifier keep their bytes. -/
theorem setImage_kept (hfit : Fits s L file) (h : PageHolds crc f s L) {it : Nat × Nat} (hit : it ∈ keptItems f L id) :
    Agree f (setImage crc f s L id file) it.1 (it.1 + it.2) := by
  obtain ⟨hmem, hne⟩ := mem_keptItems.1 hit
  have hwrites : Agree f (program f (pageEmpty s L) (newBytes crc id file)) it.1 (it.1 + it.2) :=
    (setWrites_agreeOutside hfit h).agree (Or.inl (h.item_le_empty hmem))
  unfold setImage
  cases hold : oldItem f L id with
  | none => exact hwrites
  | some o =>
    obtain ⟨homem, hoid⟩ := oldItem_mem hold
    have hsz := h.header_le homem
    have hdis := h.disjoint hmem homem fun hc => hne (by rw [hc, hoid])
    refine hwrites.trans ((program_agreeOutside _ _ _).agree ?_)
    rw [List.length_replicate]
    omega

/-- The bytes of the new item are as written when they can be programmed. -/
theorem setImage_new (h : PageHolds crc f s L) (hp : Programmable f (pageEmpty s L) (newBytes crc id file)) :
    bytesAt (setImage crc f s L id file) (pageEmpty s L) (itemHeaderSz + file.bytes.length) = newBytes crc id file := by
  have hread := bytesAt_program hp
  rw [newBytes_length] at hread
  unfold setImage
  cases hold : oldItem f L id with
  | none => exact hread
  | some o =>
    have hmem := (oldItem_mem hold).1
    have hle := h.item_le_empty hmem
    have hsz := h.header_le hmem
    refine Eq.trans (bytesAt_congr (Agree.symm ?_)) hread
    refine (program_agreeOutside _ _ _).agree (Or.inr ?_)
    rw [List.length_replicate]
    omega

theorem PageHolds.newItem_inside (h : PageHolds crc f s L) (hfit : Fits s L file) :
    (newItem s L file).1 + (newItem s L file).2 ≤ s + flashFsPageSize := by
  have hrem := h.remaining_eq
  unfold Fits at hfit
  unfold newItem
  omega

/-- An item starts with its identifier. -/
theorem newBytes_id {a : Nat} (h : bytesAt g a (itemHeaderSz + file.bytes.length) = newBytes crc id file) :
    g a = LittleEndian.lo id ∧ g (a + 1) = LittleEndian.hi id := by
  have hlen : 1 < (newBytes crc id file).length := by
    rw [newBytes_length]
    exact Nat.lt_add_right _ (by decide)
  exact ⟨apply_of_bytesAt_eq h (Nat.lt_of_succ_lt hlen), apply_of_bytesAt_eq h hlen⟩

/-- An image with the bytes of an item reads it. -/
theorem ActivePage.read_newBytes (hg : ActivePage g s) {q : Nat} (hs : s < q)
    (hin : q + (file.bytes.length + itemHeaderSz) ≤ s + flashFsPageSize)
    (hbytes : bytesAt g q (itemHeaderSz + file.bytes.length) = newBytes crc id file) :
    mmItemAt crc g q = some (file.bytes.length + itemHeaderSz) ∧
      itemId g (q, file.bytes.length + itemHeaderSz) = id ∧
      itemFile g (q, file.bytes.length + itemHeaderSz) = file.bytes := by
  rw [bytesAt_add, newBytes] at hbytes
  obtain ⟨hhead, hfile⟩ := List.append_inj hbytes (by simp)
  refine ⟨mmItemAt_new hg hs (by omega) hhead hfile, ?_, ?_⟩
  · rw [itemId, mmItem_of_bytes hhead]
    rfl
  · rw [itemFile, Nat.add_sub_cancel]
    exact hfile

/-- An image with the bytes of the new item reads it. -/
theorem PageHolds.newItem_read (h : PageHolds crc f s L) (hfit : Fits s L file) (hg : ActivePage g s)
    (hbytes : bytesAt g (pageEmpty s L) (itemHeaderSz + file.bytes.length) = newBytes crc id file) :
    mmItemAt crc g (newItem s L file).1 = some (newItem s L file).2 ∧ itemId g (newItem s L file) = id ∧
      itemFile g (newItem s L file) = file.bytes := by
  have hlt : s < pageEmpty s L := Nat.lt_of_lt_of_le (Nat.lt_add_of_pos_right (by decide)) h.le_empty
  exact hg.read_newBytes hlt (h.newItem_inside hfit) hbytes

theorem setImage_active (h : PageHolds crc f s L) (hfit : Fits s L file) : ActivePage (setImage crc f s L id file) s :=
  h.active_of_agree (setImage_agreeOutside hfit h)

theorem setImage_newItem (h : PageHolds crc f s L) (hfit : Fits s L file)
    (hp : Programmable f (pageEmpty s L) (newBytes crc id file)) :
    mmItemAt crc (setImage crc f s L id file) (newItem s L file).1 = some (newItem s L file).2 ∧
      itemId (setImage crc f s L id file) (newItem s L file) = id ∧
      itemFile (setImage crc f s L id file) (newItem s L file) = file.bytes :=
  h.newItem_read hfit (setImage_active h hfit) (setImage_new h hp)

/-- A file that fits is written, and the page holds the kept items and the new one when nothing else reads as an
item. -/
theorem PageHolds.set (h : PageHolds crc f s L) (hfit : Fits s L file)
    (hno : NoItem crc (setImage crc f s L id file) s (setItems crc f s L id file)) :
    PageHolds crc (setImage crc f s L id file) s (setItems crc f s L id file) := by
  have hkeep : ∀ it ∈ keptItems f L id, Agree f (setImage crc f s L id file) it.1 (it.1 + it.2) := fun it hit =>
    setImage_kept hfit h hit
  have hactive : ActivePage (setImage crc f s L id file) s := setImage_active h hfit
  unfold setItems at hno ⊢
  by_cases hread : Readable crc f s L id file
  · rw [if_pos hread] at hno ⊢
    obtain ⟨hat, -, -⟩ := setImage_newItem h hfit hread.1
    refine h.update hactive (keptItems_sublist f L id) hkeep ?_ (List.pairwise_singleton _ _) hno
    intro it hit
    rw [List.mem_singleton.1 hit]
    exact ⟨Nat.le_refl _, hread.2, h.newItem_inside hfit, hat⟩
  · rw [if_neg hread] at hno ⊢
    exact h.sublist hactive (keptItems_sublist f L id) hkeep hno

/-- The identifiers after a write. -/
theorem PageHolds.set_ids (h : PageHolds crc f s L) (hfit : Fits s L file) :
    (setItems crc f s L id file).map (itemId (setImage crc f s L id file)) =
      (keptItems f L id).map (itemId f) ++ if Readable crc f s L id file then [id] else [] := by
  have hkept : (keptItems f L id).map (itemId (setImage crc f s L id file)) = (keptItems f L id).map (itemId f) :=
    List.map_congr_left (h.itemId_kept (keptItems_sublist f L id) fun it hit => setImage_kept hfit h hit)
  unfold setItems
  by_cases hread : Readable crc f s L id file
  · rw [if_pos hread, if_pos hread, List.map_append, List.map_singleton, hkept,
      (setImage_newItem h hfit hread.1).2.1]
  · rw [if_neg hread, if_neg hread, hkept, List.append_nil]

/-- A write adds its own identifier only. -/
theorem PageHolds.set_noMatch (h : PageHolds crc f s L) (hfit : Fits s L file) (hi : i ≠ id) (hno : NoMatch f i L) :
    NoMatch (setImage crc f s L id file) i (setItems crc f s L id file) := by
  have hkept : i ∉ (keptItems f L id).map (itemId f) :=
    noMatch_iff.1 fun it hit => hno it ((keptItems_sublist f L id).subset hit)
  rw [noMatch_iff, h.set_ids hfit, List.mem_append]
  rintro (hmem | hmem)
  · exact hkept hmem
  · split at hmem
    · exact hi (List.mem_singleton.1 hmem)
    · cases hmem

/-- A file that fits is written, and the page is tidy again, when nothing else reads as an item. -/
theorem Tidy.set (h : Tidy crc f s L) (hid : mmInvalidId ≠ id) (hfit : Fits s L file)
    (hno : NoItem crc (setImage crc f s L id file) s (setItems crc f s L id file)) :
    Tidy crc (setImage crc f s L id file) s (setItems crc f s L id file) := by
  refine ⟨h.toPageHolds.set hfit hno, ?_, h.set_noMatch hfit hid h.valid⟩
  rw [h.set_ids hfit, List.nodup_append]
  refine ⟨h.unique.sublist ((keptItems_sublist f L id).map _), by split <;> simp, ?_⟩
  intro i hi j hj hij
  have hj' : j = id := by
    split at hj
    · exact List.mem_singleton.1 hj
    · cases hj
  rw [hij, hj'] at hi
  exact noMatch_iff.1 (noMatch_keptItems f L id) hi

/-- The files after a write. -/
theorem Tidy.set_files (h : Tidy crc f s L) (hfit : Fits s L file) (hread : Readable crc f s L id file) :
    itemFiles (setImage crc f s L id file) (setItems crc f s L id file) =
      itemFiles f (keptItems f L id) ++ [(id, file.bytes)] := by
  obtain ⟨-, hnew, hfile⟩ := setImage_newItem h.toPageHolds hfit hread.1
  rw [setItems, if_pos hread, itemFiles, List.map_append, List.map_singleton, hnew, hfile]
  congr 1
  exact h.itemFiles_congr (keptItems_sublist f L id) fun it hit => setImage_kept hfit h.toPageHolds hit

/-! ### Removing -/

/-- What `mm_invalidate` does. -/
theorem Single.mmInvalidate_eq (h : Single crc nvs.mem s L id) :
    mmInvalidate crc nvs id =
      match oldItem nvs.mem L id with
      | none => (false, nvs)
      | some it =>
        if it.2 ≤ maxFlashZeroSize then (true, nvs.apply (.program it.1 (List.replicate it.2 0))) else (false, nvs) := by
  rw [mmInvalidate, h.mmFindField_eq]
  cases hold : oldItem nvs.mem L id with
  | none => rfl
  | some it =>
    have hmem := (oldItem_mem hold).1
    simp only [Option.isSome_some, Option.map_some, foundOut, Option.getD_some]
    rw [h.item_length hmem]
    by_cases hle : it.2 ≤ maxFlashZeroSize
    · rw [if_pos hle, mmFlashZero_eq (h.item_inNvs hmem) hle]
    · rw [if_neg hle, mmFlashZero_of_gt (by omega)]

/-- The items with another identifier keep their bytes when an item is zeroed. -/
theorem zeroItem_kept (h : PageHolds crc f s L) {o it : Nat × Nat} (hold : oldItem f L id = some o)
    (hit : it ∈ keptItems f L id) : Agree f (zeroItem f o) it.1 (it.1 + it.2) := by
  obtain ⟨homem, hoid⟩ := oldItem_mem hold
  obtain ⟨hmem, hne⟩ := mem_keptItems.1 hit
  have hdis := h.disjoint hmem homem fun hc => hne (by rw [hc, hoid])
  exact (zeroItem_agreeOutside f o).agree hdis

/-- A zeroed item is gone, and the page is tidy again, when nothing else reads as an item. -/
theorem Tidy.zero (h : Tidy crc f s L) {o : Nat × Nat} (hold : oldItem f L id = some o)
    (hno : NoItem crc (zeroItem f o) s (keptItems f L id)) :
    Tidy crc (zeroItem f o) s (keptItems f L id) ∧
      itemFiles (zeroItem f o) (keptItems f L id) = itemFiles f (keptItems f L id) := by
  have hkeep : ∀ it ∈ keptItems f L id, Agree f (zeroItem f o) it.1 (it.1 + it.2) := fun it hit =>
    zeroItem_kept h.toPageHolds hold hit
  have hactive := h.zeroItem_active (oldItem_mem hold).1
  exact ⟨h.keep hactive (keptItems_sublist f L id) hkeep hno, h.itemFiles_congr (keptItems_sublist f L id) hkeep⟩

end TiMcu.FlashFs
