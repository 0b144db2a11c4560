import TiMcu.FlashFs.FileMap

/-!
# A power cut during mm_set

`mm_set` writes the header, the file, and zeros over the header of the superseded item.  Between the second and the
third write two items carry the identifier, and the next lookup zeroes the earlier one completely
(`mmFindField_two`), unless that item is longer than `mm_flash_zero` accepts: then every lookup fails.

`CutSafe` says that after a cut at any place `mm_get` returns the old or the new file and every other identifier keeps
its file; `CutOk` is the condition under which that holds on a tidy page (`Tidy.cutSafe`).
-/

namespace TiMcu.FlashFs

open NorFlash

variable {crc : List UInt8 → UInt8} {f g : Mem} {s : Nat} {id i maxValueLen : UInt16} {file : MmFile} {nvs : Nvs}
  {A B C L : List (Nat × Nat)}

/-! ### What mm_get returns on any page -/

/-- A file in a buffer of a given length. -/
def intoBuffer (v : List UInt8) (maxValueLen : UInt16) : Option (List UInt8 × UInt16) :=
  if maxValueLen.toNat < v.length then none else some (v, UInt16.ofNat v.length)

private theorem mmGet_of_found {nvs' : Nvs} {it : Nat × Nat} (hid : mmInvalidId ≠ id) (hmax : maxValueLen ≠ 0)
    (hfind : mmFindField crc nvs id ⟨none, none, 0⟩ = (true, nvs', foundOut s L (some it.1)))
    (hlen : itemHeaderSz + (mmItem nvs'.mem it.1).length.toNat = it.2) :
    (mmGet crc nvs id maxValueLen).1 = intoBuffer (itemFile nvs'.mem it) maxValueLen := by
  have hfile : itemFile nvs'.mem it = bytesAt nvs'.mem (it.1 + itemHeaderSz) (mmItem nvs'.mem it.1).length.toNat := by
    rw [itemFile, ← hlen, Nat.add_sub_cancel_left]
  rw [mmGet, if_neg (by simp [hid, hmax]), hfind]
  show (if maxValueLen < (mmItem nvs'.mem it.1).length then (none, nvs')
    else (some (bytesAt nvs'.mem (it.1 + itemHeaderSz) (mmItem nvs'.mem it.1).length.toNat,
      (mmItem nvs'.mem it.1).length), nvs')).1 = _
  rw [intoBuffer, hfile, bytesAt_length]
  by_cases hlt : maxValueLen < (mmItem nvs'.mem it.1).length
  · rw [if_pos hlt, if_pos (UInt16.lt_iff_toNat_lt.1 hlt)]
  · rw [if_neg hlt, if_neg (fun hc => hlt (UInt16.lt_iff_toNat_lt.2 hc)), UInt16.ofNat_toNat]

/-- Exactly one item carries the identifier. -/
theorem PageHolds.mmGet_one {it : Nat × Nat} (h : PageHolds crc nvs.mem s (A ++ it :: B)) (hA : NoMatch nvs.mem id A)
    (hit : itemId nvs.mem it = id) (hB : NoMatch nvs.mem id B) (hid : mmInvalidId ≠ id) (hmax : maxValueLen ≠ 0) :
    (mmGet crc nvs id maxValueLen).1 = intoBuffer (itemFile nvs.mem it) maxValueLen :=
  mmGet_of_found hid hmax (mmFindField_one h hA hit hB) (h.item_length (by simp))

/-- Two items carry the identifier: the file of the later one is returned. -/
private theorem PageHolds.mmGet_two {a b : Nat × Nat} (h : PageHolds crc nvs.mem s (A ++ a :: B ++ b :: C))
    (hA : NoMatch nvs.mem id A) (ha : itemId nvs.mem a = id) (hB : NoMatch nvs.mem id B) (hb : itemId nvs.mem b = id)
    (hC : NoMatch nvs.mem id C) (hle : a.2 ≤ maxFlashZeroSize) (hid : mmInvalidId ≠ id) (hmax : maxValueLen ≠ 0) :
    (mmGet crc nvs id maxValueLen).1 = intoBuffer (itemFile nvs.mem b) maxValueLen := by
  have hmemb : b ∈ A ++ a :: B ++ b :: C := by simp
  have hsep : a.1 + a.2 ≤ b.1 := by
    have hpair := h.tiling.sep
    rw [List.pairwise_append] at hpair
    exact hpair.2.2 a (by simp) b (by simp)
  have hagree : Agree nvs.mem (zeroItem nvs.mem a) b.1 (b.1 + b.2) :=
    (zeroItem_agreeOutside nvs.mem a).agree (Or.inr hsep)
  have hsz := h.header_le hmemb
  rw [itemFile_congr hsz hagree]
  refine mmGet_of_found hid hmax (mmFindField_two h hA ha hB hb hC hle) ?_
  have hitem : mmItem (zeroItem nvs.mem a) b.1 = mmItem nvs.mem b.1 :=
    (mmItem_congr (bytesAt_congr (hagree.mono (Nat.le_refl _) (by omega)))).symm
  show itemHeaderSz + (mmItem (zeroItem nvs.mem a) b.1).length.toNat = b.2
  rw [hitem]
  exact h.item_length hmemb

/-- Two items carry the identifier and the earlier one cannot be zeroed: nothing is returned. -/
private theorem PageHolds.mmGet_two_of_gt {a b : Nat × Nat} (h : PageHolds crc nvs.mem s (A ++ a :: B ++ b :: C))
    (hA : NoMatch nvs.mem id A) (ha : itemId nvs.mem a = id) (hB : NoMatch nvs.mem id B) (hb : itemId nvs.mem b = id)
    (hgt : maxFlashZeroSize < a.2) : (mmGet crc nvs id maxValueLen).1 = none := by
  by_cases hbad : mmInvalidId = id ∨ maxValueLen = 0
  · exact mmGet_badParams hbad
  · rw [mmGet, if_neg hbad, mmFindField_two_of_gt h hA ha hB hb hgt]

/-! ### The cut -/

/-- The image with the header of the new item only. -/
def headerImage (crc : List UInt8 → UInt8) (f : Mem) (s : Nat) (L : List (Nat × Nat)) (id : UInt16) (file : MmFile) :
    Mem :=
  program f (pageEmpty s L) (newHeader crc id file).bytes

/-- The image with the new item and the one it supersedes. -/
def bothImage (crc : List UInt8 → UInt8) (f : Mem) (s : Nat) (L : List (Nat × Nat)) (id : UInt16) (file : MmFile) :
    Mem :=
  program f (pageEmpty s L) (newBytes crc id file)

/-- With a buffer for both files `mm_get` returns the old or the new one from the image `g` that a cut after `k` writes
leaves; nothing only when there was no old one and the new one is not written completely. -/
def CutValue (crc : List UInt8 → UInt8) (f g : Mem) (id : UInt16) (file : MmFile) (k : Nat) : Prop :=
  ∀ maxValueLen : UInt16, file.bytes.length ≤ maxValueLen.toNat →
    (∀ v, fileMap crc f id = some v → v.length ≤ maxValueLen.toNat) →
    ((mmGet crc (Nvs.ofMem g) id maxValueLen).1 = (mmGet crc (Nvs.ofMem f) id maxValueLen).1 ∧
        (mmGet crc (Nvs.ofMem f) id maxValueLen).1 ≠ none) ∨
      (mmGet crc (Nvs.ofMem g) id maxValueLen).1 = some (file.bytes, UInt16.ofNat file.bytes.length) ∨
      ((mmGet crc (Nvs.ofMem g) id maxValueLen).1 = none ∧ (mmGet crc (Nvs.ofMem f) id maxValueLen).1 = none ∧ k < 2)

/-- Every other identifier keeps what `mm_get` returns. -/
def CutOthers (crc : List UInt8 → UInt8) (f g : Mem) (id : UInt16) : Prop :=
  ∀ i maxValueLen : UInt16, i ≠ id →
    (mmGet crc (Nvs.ofMem g) i maxValueLen).1 = (mmGet crc (Nvs.ofMem f) i maxValueLen).1

/-- An accepted call of `mm_set` is atomic with respect to cuts. -/
def CutSafe (crc : List UInt8 → UInt8) (f : Mem) (id : UInt16) (file : MmFile) : Prop :=
  (mmSet crc (Nvs.ofMem f) id file).1 = true → ∀ k,
    CutValue crc f (replay f ((mmSet crc (Nvs.ofMem f) id file).2.ops.take k)) id file k ∧
      CutOthers crc f (replay f ((mmSet crc (Nvs.ofMem f) id file).2.ops.take k)) id

/-- The condition for a cut: the file is not written, or it fits, can be found, and neither the header alone nor the
file nor the zeros uncover an item; the superseded item can be zeroed. -/
def CutOk (crc : List UInt8 → UInt8) (f : Mem) (s : Nat) (L : List (Nat × Nat)) (id : UInt16) (file : MmFile) : Prop :=
  BadParams id file ∨ Unchanged f L id file ∨ remaining s L < file.bytes.length ∨
    Fits s L file ∧ Readable crc f s L id file ∧ NoItem crc (headerImage crc f s L id file) s L ∧
      NoItem crc (bothImage crc f s L id file) s (L ++ [newItem s L file]) ∧
      NoItem crc (setImage crc f s L id file) s (setItems crc f s L id file) ∧
      ∀ it, oldItem f L id = some it → it.2 ≤ maxFlashZeroSize

/-- The first two writes of `mm_set`. -/
theorem replay_take_two (crc : List UInt8 → UInt8) (f : Mem) (s : Nat) (L : List (Nat × Nat)) (id : UInt16)
    (file : MmFile) : replay f ((setOps crc f s L id file).take 2) = bothImage crc f s L id file := by
  rw [bothImage, newBytes, ← program_append]
  rfl

/-- The images the prefixes of the writes of `mm_set` leave. -/
private theorem replay_take_setOps (crc : List UInt8 → UInt8) (f : Mem) (s : Nat) (L : List (Nat × Nat)) (id : UInt16)
    (file : MmFile) (k : Nat) :
    (k = 0 ∧ replay f ((setOps crc f s L id file).take k) = f) ∨
      (k = 1 ∧ replay f ((setOps crc f s L id file).take k) = headerImage crc f s L id file) ∨
      (2 ≤ k ∧ oldItem f L id ≠ none ∧
        replay f ((setOps crc f s L id file).take k) = bothImage crc f s L id file) ∨
      (2 ≤ k ∧ replay f ((setOps crc f s L id file).take k) = setImage crc f s L id file) := by
  match k with
  | 0 => exact Or.inl ⟨rfl, rfl⟩
  | 1 => exact Or.inr (Or.inl ⟨rfl, rfl⟩)
  | k + 2 =>
    right; right
    cases hold : oldItem f L id with
    | none =>
      right
      rw [← replay_setOps, List.take_of_length_le (by simp [setOps, hold])]
      exact ⟨by omega, rfl⟩
    | some it =>
      cases k with
      | zero =>
        left
        exact ⟨Nat.le_refl 2, by simp, replay_take_two crc f s L id file⟩
      | succ k =>
        right
        rw [← replay_setOps, List.take_of_length_le (by simp [setOps, hold])]
        exact ⟨by omega, rfl⟩

/-- An image with the files of the one before the call. -/
private theorem Tidy.cut_same {s' : Nat} {L' : List (Nat × Nat)} {k : Nat} (h : Tidy crc f s L) (hg : Tidy crc g s' L')
    (hfiles : mmFiles crc g = mmFiles crc f) (hlen : file.bytes.length ≠ 0)
    (hk : k < 2 ∨ fileMap crc f id ≠ none) : CutValue crc f g id file k ∧ CutOthers crc f g id := by
  have hf' : Tidy crc (Nvs.ofMem f).mem s L := h
  have hg' : Tidy crc (Nvs.ofMem g).mem s' L' := hg
  have hmap : ∀ i, fileMap crc g i = fileMap crc f i := fun i => by rw [fileMap, hfiles, fileMap]
  have hsame : ∀ i maxValueLen, (mmGet crc (Nvs.ofMem g) i maxValueLen).1 = (mmGet crc (Nvs.ofMem f) i maxValueLen).1 :=
    fun i => hg'.mmGet_congr hf' (hmap i)
  constructor
  · intro maxValueLen hnew hold
    rw [hsame id maxValueLen]
    cases hval : fileMap crc f id with
    | none =>
      have hnone := hf'.mmGet_none hval maxValueLen
      rcases hk with hk | hk
      · exact Or.inr (Or.inr ⟨hnone, hnone, hk⟩)
      · exact absurd hval hk
    | some v =>
      have hmax : maxValueLen ≠ 0 := by
        rintro rfl
        exact hlen (Nat.le_zero.1 hnew)
      have hsome := hf'.mmGet_some hval hmax (hold v hval)
      rw [hsome]
      exact Or.inl ⟨rfl, by simp⟩
  · exact fun i maxValueLen _ => hsame i maxValueLen

/-- The image with the header only holds the old items. -/
theorem Tidy.headerImage (h : Tidy crc f s L) (hfit : Fits s L file)
    (hno : NoItem crc (headerImage crc f s L id file) s L) :
    Tidy crc (headerImage crc f s L id file) s L ∧ mmFiles crc (headerImage crc f s L id file) = mmFiles crc f := by
  have hrem := h.remaining_eq
  unfold Fits at hfit
  have hagree : AgreeOutside f (FlashFs.headerImage crc f s L id file) (pageEmpty s L)
      (pageEmpty s L + itemHeaderSz) := program_agreeOutside _ _ _
  have hactive := h.active_of_agree (hagree.mono h.le_empty (by omega))
  have hkeep : ∀ it ∈ L, Agree f (FlashFs.headerImage crc f s L id file) it.1 (it.1 + it.2) := fun it hit =>
    hagree.agree (Or.inl (h.item_le_empty hit))
  have htidy := h.keep hactive (List.Sublist.refl L) hkeep hno
  refine ⟨htidy, ?_⟩
  rw [htidy.mmFiles_eq, h.itemFiles_congr (List.Sublist.refl L) hkeep, h.mmFiles_eq]

/-- The image with the old and the new item holds both. -/
theorem PageHolds.bothImage (h : PageHolds crc f s L) (hfit : Fits s L file) (hread : Readable crc f s L id file)
    (hno : NoItem crc (bothImage crc f s L id file) s (L ++ [newItem s L file])) :
    PageHolds crc (bothImage crc f s L id file) s (L ++ [newItem s L file]) ∧
      (∀ it ∈ L, Agree f (bothImage crc f s L id file) it.1 (it.1 + it.2)) ∧
      itemId (bothImage crc f s L id file) (newItem s L file) = id ∧
      itemFile (bothImage crc f s L id file) (newItem s L file) = file.bytes := by
  have hagree : AgreeOutside f (FlashFs.bothImage crc f s L id file) (pageEmpty s L) (s + flashFsPageSize) :=
    setWrites_agreeOutside hfit h
  have hactive := h.active_of_agree (hagree.mono h.le_empty (Nat.le_refl _))
  have hkeep : ∀ it ∈ L, Agree f (FlashFs.bothImage crc f s L id file) it.1 (it.1 + it.2) := fun it hit =>
    hagree.agree (Or.inl (h.item_le_empty hit))
  have hbytes : bytesAt (FlashFs.bothImage crc f s L id file) (pageEmpty s L) (newBytes crc id file).length =
      newBytes crc id file := bytesAt_program hread.1
  rw [newBytes_length] at hbytes
  obtain ⟨hat, hnew⟩ := h.newItem_read hfit hactive hbytes
  refine ⟨h.update hactive (List.Sublist.refl L) hkeep ?_ (List.pairwise_singleton _ _) hno, hkeep, hnew⟩
  intro it hit
  rw [List.mem_singleton.1 hit]
  exact ⟨Nat.le_refl _, hread.2, h.newItem_inside hfit, hat⟩

theorem intoBuffer_of_le {v : List UInt8} (h : v.length ≤ maxValueLen.toNat) :
    intoBuffer v maxValueLen = some (v, UInt16.ofNat v.length) := if_neg (by omega)

/-- A cut between the second and the third write: the lookup zeroes the old item, and the new file is returned. -/
private theorem Tidy.cut_both_value {it : Nat × Nat} {k : Nat} (h : Tidy crc f s L) (hid : mmInvalidId ≠ id)
    (hlen : file.bytes.length ≠ 0) (hfit : Fits s L file) (hread : Readable crc f s L id file)
    (hno : NoItem crc (bothImage crc f s L id file) s (L ++ [newItem s L file])) (hold : oldItem f L id = some it)
    (hle : it.2 ≤ maxFlashZeroSize) : CutValue crc f (bothImage crc f s L id file) id file k := by
  obtain ⟨hboth, hkeep, hnew, hfile⟩ := h.toPageHolds.bothImage hfit hread hno
  have hmem : PageHolds crc (Nvs.ofMem (FlashFs.bothImage crc f s L id file)).mem s (L ++ [newItem s L file]) := hboth
  have hids := h.itemId_kept (List.Sublist.refl L) hkeep
  intro maxValueLen hlen' _
  right; left
  rcases match_cases h.unique id with hnone | ⟨A, a, B, hL, hA, ha, hB⟩
  · rw [hnone.oldItem_eq] at hold
    exact absurd hold (by simp)
  · rw [hL, oldItem_split hA ha] at hold
    obtain rfl : a = it := by simpa using hold
    have hmax : maxValueLen ≠ 0 := by
      rintro rfl
      exact hlen (Nat.le_zero.1 hlen')
    subst hL
    have hA' := hA.congr fun x hx => hids x (by simp [hx])
    have hB' := hB.congr fun x hx => hids x (by simp [hx])
    have ha' := (hids a (by simp)).trans ha
    rw [hmem.mmGet_two hA' ha' hB' hnew (by simp [NoMatch]) hle hid hmax]
    show intoBuffer (itemFile (FlashFs.bothImage crc f s (A ++ a :: B) id file) _) maxValueLen = _
    rw [hfile]
    exact intoBuffer_of_le hlen'

/-- The other identifiers have one item at most, with the file they had. -/
private theorem Tidy.cut_both_others (h : Tidy crc f s L) (hfit : Fits s L file) (hread : Readable crc f s L id file)
    (hno : NoItem crc (bothImage crc f s L id file) s (L ++ [newItem s L file])) :
    CutOthers crc f (bothImage crc f s L id file) id := by
  obtain ⟨hboth, hkeep, hnew, hfile⟩ := h.toPageHolds.bothImage hfit hread hno
  have hfiles : itemFiles (FlashFs.bothImage crc f s L id file) (L ++ [newItem s L file]) =
      itemFiles f L ++ [(id, file.bytes)] := by
    rw [itemFiles, List.map_append, List.map_singleton, hnew, hfile]
    congr 1
    exact h.itemFiles_congr (List.Sublist.refl L) hkeep
  intro i maxValueLen hi
  have hf : Tidy crc (Nvs.ofMem f).mem s L := h
  have hne : (i == id) = false := by simpa using hi
  have hone : Single crc (Nvs.ofMem (FlashFs.bothImage crc f s L id file)).mem s (L ++ [newItem s L file]) i := by
    refine ⟨hboth, atMostOne_iff.2 ?_⟩
    rw [Nvs.ofMem_mem, map_itemId, hfiles, List.map_append, ← map_itemId, List.map_singleton,
      List.count_append, List.count_singleton, beq_eq_false_iff_ne.2 hi.symm]
    exact List.nodup_iff_count_le_one.1 h.unique i
  by_cases hbad : mmInvalidId = i ∨ maxValueLen = 0
  · rw [mmGet_badParams hbad, mmGet_badParams hbad]
  obtain ⟨hiv, hmax⟩ := not_or.1 hbad
  rw [hone.mmGet_eq hiv hmax, (hf.single i).mmGet_eq hiv hmax, Nvs.ofMem_mem, hfiles, List.lookup_append,
    List.lookup_cons, hne, List.lookup_nil, Option.or_none]
  rfl

/-- The image of the completed call. -/
private theorem Tidy.cut_set {k : Nat} (h : Tidy crc f s L) (hid : mmInvalidId ≠ id) (hlen : file.bytes.length ≠ 0)
    (hun : ¬ Unchanged f L id file) (hfit : Fits s L file) (hread : Readable crc f s L id file)
    (hno : NoItem crc (setImage crc f s L id file) s (setItems crc f s L id file)) :
    CutValue crc f (setImage crc f s L id file) id file k ∧ CutOthers crc f (setImage crc f s L id file) id := by
  have hf : Tidy crc (Nvs.ofMem f).mem s L := h
  have hset := h.set hid hfit hno
  have hset' : Tidy crc (Nvs.ofMem (setImage crc f s L id file)).mem s (setItems crc f s L id file) := hset
  have hmap : ∀ i, fileMap crc (setImage crc f s L id file) i = if i = id then some file.bytes else fileMap crc f i := by
    intro i
    have hfiles := hf.mmSet_files (Or.inr (Or.inr (Or.inr ⟨hfit, hno⟩))) (Or.inr (Or.inr (Or.inr hread))) i
    rw [(hf.single _).mmSet_writes hid hlen hun hfit, Nvs.applyAll_mem, Nvs.ofMem_mem, replay_setOps] at hfiles
    exact hfiles
  constructor
  · intro maxValueLen hlen' _
    have hmax : maxValueLen ≠ 0 := by
      rintro rfl
      exact hlen (Nat.le_zero.1 hlen')
    right; left
    refine hset'.mmGet_some ?_ hmax hlen'
    rw [Nvs.ofMem_mem, hmap, if_pos rfl]
  · intro i maxValueLen hi
    refine hset'.mmGet_congr hf ?_ _
    rw [Nvs.ofMem_mem, hmap, if_neg hi, Nvs.ofMem_mem]

/-- On a tidy page a call that meets the condition survives a cut at any place. -/
theorem Tidy.cutSafe (h : Tidy crc f s L) (hok : CutOk crc f s L id file) : CutSafe crc f id file := by
  have hf : Tidy crc (Nvs.ofMem f).mem s L := h
  intro hres k
  by_cases hbad : BadParams id file
  · rw [mmSet_badParams hbad] at hres
    exact absurd hres (by simp)
  obtain ⟨hid, hlen⟩ := not_or.1 hbad
  by_cases hun : Unchanged f L id file
  · rw [(hf.single _).mmSet_unchanged hid hlen hun, Nvs.ofMem_ops, List.take_nil, replay_nil]
    refine h.cut_same h rfl hlen (Or.inr ?_)
    rw [fileMap, h.mmFiles_eq, hun.lookup]
    exact Option.some_ne_none _
  by_cases hrem : remaining s L < file.bytes.length
  · rw [(hf.single _).mmSet_refused hid hlen hun hrem] at hres
    exact absurd hres (by simp)
  rcases hok with hc | hc | hc | ⟨hfit, hread, hheader, hboth, hset, hzero⟩
  · exact absurd hc hbad
  · exact absurd hc hun
  · exact absurd hc hrem
  rw [(hf.single _).mmSet_writes hid hlen hun hfit, Nvs.applyAll_ops, Nvs.ofMem_ops, List.nil_append]
  rcases replay_take_setOps crc f s L id file k with ⟨hk, heq⟩ | ⟨hk, heq⟩ | ⟨-, hold, heq⟩ | ⟨-, heq⟩
  · rw [Nvs.ofMem_mem, heq]
    exact h.cut_same h rfl hlen (Or.inl (by omega))
  · obtain ⟨htidy, hfiles⟩ := h.headerImage hfit hheader
    rw [Nvs.ofMem_mem, heq]
    exact h.cut_same htidy hfiles hlen (Or.inl (by omega))
  · obtain ⟨it, hit⟩ := Option.ne_none_iff_exists'.1 hold
    rw [Nvs.ofMem_mem, heq]
    exact ⟨h.cut_both_value hid hlen hfit hread hboth hit (hzero it hit), h.cut_both_others hfit hread hboth⟩
  · rw [Nvs.ofMem_mem, heq]
    exact h.cut_set hid hlen hun hfit hread hset

/-- In every state of a run whose calls meet their conditions, a call of `mm_set` that meets the condition for cuts is
atomic. -/
theorem mmSet_atomic (crc : List UInt8 → UInt8) (f : Mem) (calls : List Call)
    (hok : Runs.Guarded (callStep crc) (StepOk crc) (formatted f) calls) (id : UInt16) (file : MmFile)
    (hcut : ∀ s, ActivePage (Runs.run (callStep crc) (formatted f) calls).mem s →
      CutOk crc (Runs.run (callStep crc) (formatted f) calls).mem s
        (mmItems crc (Runs.run (callStep crc) (formatted f) calls).mem) id file) :
    CutSafe crc (Runs.run (callStep crc) (formatted f) calls).mem id file := by
  obtain ⟨s, L, h⟩ := run_tidy f calls hok
  have hcall := hcut s h.active
  rw [h.mmItems_eq] at hcall
  exact h.cutSafe hcall

/-- On a page without garbage the new item and the old ones are all that reads as an item. -/
theorem Dense.bothImage (h : Dense crc f s L) : NoItem crc (bothImage crc f s L id file) s (L ++ [newItem s L file]) :=
  h.free.write.noItem (gap_concat h.gap rfl)

/-- A header alone behind two files, for the checksum of the AUTOSAR profile. -/
private theorem twoFiles_header :
    NoItem crc8Autosar (headerImage crc8Autosar twoFiles.mem memoryManager1Offset twoItems 1 (byteFile 0x55))
      memoryManager1Offset twoItems := by
  obtain ⟨hmem, hdense, -⟩ := twoFiles_spec
  have hempty : pageEmpty memoryManager1Offset twoItems = 319508 := by decide
  have hstart : memoryManager1Offset + qwordLen = 319492 := rfl
  have hhead : (newHeader crc8Autosar 1 (byteFile 0x55)).bytes.length = 7 := rfl
  refine noItem_of_erased (e := 319515) (fun x h1 h2 => ?_) fun q h1 h2 hout => ?_
  · -- behind the header everything is erased
    rw [headerImage, program_of_ge (by rw [hempty, hhead]; exact h1)]
    exact hdense.free x (by rw [hempty]; omega) h2
  · have hq := hdense.gap q h1 hout
    have hread : ∀ k < 7, mmItemAt crc8Autosar
        (headerImage crc8Autosar twoImage memoryManager1Offset twoItems 1 (byteFile 0x55)) (319508 + k) = none := by
      decide +kernel
    rw [hempty] at hq
    rw [hmem]
    obtain ⟨k, rfl⟩ := Nat.exists_eq_add_of_le hq
    exact hread k (by omega)

/-- The first of two files is superseded with a cut at any place. -/
theorem mmSet_atomic_update : CutSafe crc8Autosar twoFiles.mem 1 (byteFile 0x55) := by
  obtain ⟨-, hdense, -⟩ := twoFiles_spec
  obtain ⟨hfit, hread, hitems, hset⟩ := updated_spec
  have hstored : Runs.Guarded (callStep crc8Autosar) (StepOk crc8Autosar) (formatted fun _ => 0xFF)
      ([.set 1 (byteFile 0x2A), .set 2 (byteFile 0x17)] ++ [.set 1 (byteFile 0x55)]) :=
    storedTwice_mapOk.imp fun _ _ hok => hok.1
  have hshort : ∀ it ∈ twoItems, it.2 ≤ maxFlashZeroSize := by decide
  have hcut : ∀ s, ActivePage twoFiles.mem s →
      CutOk crc8Autosar twoFiles.mem s (mmItems crc8Autosar twoFiles.mem) 1 (byteFile 0x55) := by
    intro s hs
    rw [hs.unique hdense.active, hdense.mmItems_eq]
    exact Or.inr (Or.inr (Or.inr ⟨hfit, hread, twoFiles_header, hdense.bothImage, hitems ▸ hset,
      fun it hold => hshort it (oldItem_mem hold).1⟩))
  exact mmSet_atomic crc8Autosar (fun _ => 0xFF) [.set 1 (byteFile 0x2A), .set 2 (byteFile 0x17)]
    (Runs.Guarded.append.1 hstored).1 1 (byteFile 0x55) hcut

/-- A file of 250 bytes or more, overwritten on a formatted store with a cut behind the second write: the item with its
header is longer than `mm_flash_zero` accepts, so no file is returned. -/
private theorem longFile_cut (f : Mem) {n : Nat} (hn : n < 2 ^ 16) (hlong : 250 ≤ n) (hshort : n ≤ 1000)
    (hg : g = (callStep crc (formatted f) (.set 1 (zeroFile n hn))).mem) : ¬ CutSafe crc g 1 (byteFile 0x55) := by
  have hid : mmInvalidId ≠ 1 := by decide
  have hlen := zeroFile_length n hn
  have hone : (byteFile 0x55).bytes.length = 1 := rfl
  obtain ⟨-, h⟩ := @formatted_oneFile crc 1 (zeroFile n hn) f hid (by omega) (by omega)
  rw [← hg] at h
  obtain ⟨hfit, hread⟩ := h.readable (byteFile 0x55) (by omega)
  have hun : ¬ Unchanged g [firstItem (zeroFile n hn)] 1 (byteFile 0x55) := h.not_unchanged (by omega)
  have htidy : Tidy crc (Nvs.ofMem g).mem memoryManager1Offset [firstItem (zeroFile n hn)] := h.dense.toTidy
  -- the cut leaves both items in the page
  obtain ⟨hboth, hkeep, hnew, -⟩ := h.dense.toPageHolds.bothImage hfit hread h.dense.bothImage
  have hids := h.dense.itemId_kept (List.Sublist.refl _) hkeep (firstItem (zeroFile n hn)) (by simp)
  rw [h.itemId_eq] at hids
  have hholds : PageHolds crc
      (Nvs.ofMem (FlashFs.bothImage crc g memoryManager1Offset [firstItem (zeroFile n hn)] 1 (byteFile 0x55))).mem
      memoryManager1Offset ([] ++ firstItem (zeroFile n hn) :: [] ++
        newItem memoryManager1Offset [firstItem (zeroFile n hn)] (byteFile 0x55) :: []) := hboth
  have hgt : maxFlashZeroSize < (firstItem (zeroFile n hn)).2 := by
    have hmax : maxFlashZeroSize = 256 := rfl
    unfold firstItem
    omega
  have hnone := @PageHolds.mmGet_two_of_gt crc memoryManager1Offset 1 0xFFFF _ [] [] [] _ _ hholds (by simp [NoMatch])
    hids (by simp [NoMatch]) hnew hgt
  -- before the call the old file is returned
  have hmap : fileMap crc (Nvs.ofMem g).mem 1 = some (zeroFile n hn).bytes := by
    rw [Nvs.ofMem_mem, fileMap, h.dense.mmFiles_eq, lookup_itemFiles, h.oldItem_eq, Option.map_some, h.itemFile_eq]
  have hffff : (0xFFFF : UInt16).toNat = 65535 := rfl
  have hbefore := htidy.mmGet_some hmap (show (0xFFFF : UInt16) ≠ 0 by decide) (by omega)
  intro hsafe
  unfold CutSafe at hsafe
  rw [(htidy.single _).mmSet_writes hid (by decide) hun hfit] at hsafe
  have hvalue := (hsafe rfl 2).1 0xFFFF (by omega) fun v hv => by
    obtain rfl : (zeroFile n hn).bytes = v := Option.some.inj (hmap.symm.trans hv)
    omega
  rw [Nvs.applyAll_ops, Nvs.ofMem_ops, List.nil_append, Nvs.ofMem_mem, replay_take_two, hnone, hbefore] at hvalue
  rcases hvalue with ⟨hc, -⟩ | hc | ⟨-, hc, -⟩
  · exact absurd hc (by simp)
  · exact absurd hc (by simp)
  · exact absurd hc (by simp)

/-- Whatever the checksum, a file of 250 bytes cannot be overwritten safely. -/
theorem not_mmSet_atomic_longFile :
    ¬ ∃ crc, ∀ f calls id file, CutSafe crc (Runs.run (callStep crc) (formatted f) calls).mem id file := by
  rintro ⟨crc, h⟩
  have hsafe := h (fun _ => 0xFF) [.set 1 (zeroFile 250 (by decide))] 1 (byteFile 0x55)
  rw [Runs.run_cons, Runs.run_nil] at hsafe
  exact longFile_cut (fun _ => 0xFF) (by decide) (by decide) (by decide) rfl hsafe

end TiMcu.FlashFs
