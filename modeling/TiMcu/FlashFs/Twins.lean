import TiMcu.FlashFs.Space

/-!
# Two items with one identifier

The next item is programmed where the lookup says the items end, so the page has to be erased from there on.  In a run
with power cuts the page need not be tidy: after a cut between the file and the zeros of a call of `mm_set` two items
carry one identifier.  A page is `Torn` when no identifier has more than two items and the tail is erased.

A lookup of an identifier with two items zeroes the earlier one.  `Torn.settled` says that from then on the call goes
on as on the page without it, so what is known of pages with at most one item of the identifier applies.
-/

namespace TiMcu.FlashFs

open NorFlash

variable {crc : List UInt8 → UInt8} {f g : Mem} {s k : Nat} {id i : UInt16} {file : MmFile} {nvs : Nvs} {out : MmFound}
  {A L L' : List (Nat × Nat)}

/-! ### Two items with one identifier -/

/-- The earlier of two items with the identifier. -/
def twin (f : Mem) (L : List (Nat × Nat)) (id : UInt16) : Option (Nat × Nat) :=
  match L.filter fun it => itemId f it = id with
  | [a, _] => some a
  | _ => none

/-- What a lookup of the identifier writes. -/
def settleOps (f : Mem) (L : List (Nat × Nat)) (id : UInt16) : List Op :=
  match twin f L id with
  | some a => if a.2 ≤ maxFlashZeroSize then [.program a.1 (List.replicate a.2 0)] else []
  | none => []

/-- The image after the lookup. -/
def settledImage (f : Mem) (L : List (Nat × Nat)) (id : UInt16) : Mem := replay f (settleOps f L id)

/-- The items after the lookup. -/
def settledItems (f : Mem) (L : List (Nat × Nat)) (id : UInt16) : List (Nat × Nat) :=
  match twin f L id with
  | some a => if a.2 ≤ maxFlashZeroSize then L.erase a else L
  | none => L

/-- The earlier one is too long to be zeroed, and every lookup of the identifier fails. -/
def Stuck (f : Mem) (L : List (Nat × Nat)) (id : UInt16) : Prop :=
  ∃ a, twin f L id = some a ∧ maxFlashZeroSize < a.2

theorem NoMatch.filter_eq (h : NoMatch f id L) : (L.filter fun it => itemId f it = id) = [] := by
  rw [List.filter_eq_nil_iff]
  intro it hit
  simpa using h it hit

/-- The page around two items with the identifier. -/
structure Twins (f : Mem) (id : UInt16) (L A : List (Nat × Nat)) (a : Nat × Nat) (B : List (Nat × Nat)) (b : Nat × Nat)
    (C : List (Nat × Nat)) : Prop where
  eq : L = A ++ a :: B ++ b :: C
  before : NoMatch f id A
  first : itemId f a = id
  between : NoMatch f id B
  second : itemId f b = id
  behind : NoMatch f id C

theorem Twins.twin_eq {a b : Nat × Nat} {B C : List (Nat × Nat)} (h : Twins f id L A a B b C) :
    twin f L id = some a := by
  have hfilter : (L.filter fun it => itemId f it = id) = [a, b] := by
    rw [h.eq]
    simp [List.filter_append, h.before.filter_eq, h.between.filter_eq, h.behind.filter_eq, h.first, h.second]
  rw [twin, hfilter]

theorem AtMostOne.twin_eq (h : AtMostOne f id L) : twin f L id = none := by
  rcases h with hno | ⟨A, it, B, rfl, hA, hit, hB⟩
  · rw [twin, hno.filter_eq]
  · have hfilter : ((A ++ it :: B).filter fun it => itemId f it = id) = [it] := by
      simp [List.filter_append, hA.filter_eq, hB.filter_eq, hit]
    rw [twin, hfilter]

/-- At most two items carry the identifier. -/
private theorem twin_cases (h : (L.map (itemId f)).count id ≤ 2) :
    AtMostOne f id L ∨ ∃ A a B b C, Twins f id L A a B b C := by
  rcases first_match f id L with hno | ⟨A, a, M, rfl, hA, ha⟩
  · exact Or.inl (Or.inl hno)
  rcases first_match f id M with hM | ⟨B, b, C, rfl, hB, hb⟩
  · exact Or.inl (Or.inr ⟨A, a, M, rfl, hA, ha, hM⟩)
  rcases first_match f id C with hC | ⟨D, d, E, rfl, hD, hd⟩
  · exact Or.inr ⟨A, a, B, b, C, by simp, hA, ha, hB, hb, hC⟩
  · have hcount : ((A ++ a :: (B ++ b :: (D ++ d :: E))).map (itemId f)).count id ≥ 3 := by
      simp [ha, hb, hd]
      omega
    omega

/-! ### The page after the lookup -/

/-- No identifier has more than two items, and the tail of the page is erased. -/
structure Torn (crc : List UInt8 → UInt8) (f : Mem) (s : Nat) (L : List (Nat × Nat)) : Prop
    extends PageHolds crc f s L where
  twins : ∀ id, (L.map (itemId f)).count id ≤ 2
  valid : NoMatch f mmInvalidId L
  free : FreeTail f s L

/-- An image that keeps some of the items, up to the last one, and changes nothing behind them. -/
theorem Torn.keep (h : Torn crc f s L) (hg : ActivePage g s) (hsub : L'.Sublist L)
    (hkeep : ∀ it ∈ L', Agree f g it.1 (it.1 + it.2)) (hno : NoItem crc g s L')
    (hend : pageEmpty s L' = pageEmpty s L) (htail : Agree f g (pageEmpty s L) (s + flashFsPageSize)) :
    Torn crc g s L' := by
  have hid := h.itemId_kept hsub hkeep
  refine ⟨h.sublist hg hsub hkeep hno, fun id => ?_, fun it hit => ?_, ?_⟩
  · rw [List.map_congr_left hid]
    exact Nat.le_trans ((hsub.map (itemId f)).count_le id) (h.twins id)
  · rw [hid it hit]
    exact h.valid it (hsub.subset hit)
  · rw [FreeTail, hend]
    exact h.free.congr htail

variable {a b : Nat × Nat} {B C : List (Nat × Nat)}

private theorem Twins.erase_eq (h : Twins f id L A a B b C) : L.erase a = A ++ B ++ b :: C := by
  have hmem : a ∉ A := fun hmem => h.before a hmem h.first
  rw [h.eq, List.append_assoc, List.erase_append_right _ hmem, List.cons_append, List.erase_cons_head,
    List.append_assoc]

private theorem Twins.pageEmpty_eq (h : Twins f id L A a B b C) (s : Nat) :
    pageEmpty s (A ++ B ++ b :: C) = pageEmpty s L := by
  rw [h.eq]
  simp only [pageEmpty, Resync.finish_append]
  rfl

/-- The earlier item carries the identifier, so it is none of the others. -/
private theorem Twins.not_mem (h : PageHolds crc f s L) (ht : Twins f id L A a B b C) : a ∉ A ++ B ++ b :: C := by
  have hsep := h.tiling.sep
  have hpos := h.header_le (show a ∈ L by simp [ht.eq])
  have h7 : itemHeaderSz = 7 := rfl
  rw [ht.eq, List.append_assoc, List.pairwise_append] at hsep
  intro hmem
  rcases List.mem_append.1 hmem with hmem | hmem
  · rcases List.mem_append.1 hmem with hmem | hmem
    · exact ht.before _ hmem ht.first
    · exact ht.between _ hmem ht.first
  · have hlater := (List.pairwise_cons.1 hsep.2.1).1 _ (List.mem_append_right B hmem)
    omega

theorem Twins.sublist (h : Twins f id L A a B b C) : (A ++ B ++ b :: C).Sublist L := by
  rw [← h.erase_eq]
  exact List.erase_sublist

/-- The other items keep their bytes when the earlier item is zeroed. -/
theorem Twins.kept (h : PageHolds crc f s L) (ht : Twins f id L A a B b C) :
    ∀ it ∈ A ++ B ++ b :: C, Agree f (zeroItem f a) it.1 (it.1 + it.2) := by
  intro it hit
  have hne : it ≠ a := by
    rintro rfl
    exact ht.not_mem h hit
  exact (zeroItem_agreeOutside f a).agree (h.disjoint (ht.sublist.subset hit) (by simp [ht.eq]) hne)

/-- The page with the earlier of two items zeroed. -/
private theorem Torn.zero_twin (h : Torn crc f s L) (ht : Twins f id L A a B b C)
    (hno : NoItem crc (zeroItem f a) s (A ++ B ++ b :: C)) : Torn crc (zeroItem f a) s (A ++ B ++ b :: C) := by
  have hmem : a ∈ L := by simp [ht.eq]
  refine h.keep (h.zeroItem_active hmem) ht.sublist (ht.kept h.toPageHolds) hno (ht.pageEmpty_eq s) ?_
  exact (zeroItem_agreeOutside f a).agree (Or.inr (h.item_le_empty hmem))

/-- Only the later item carries the identifier then. -/
private theorem Twins.zero_split (h : PageHolds crc f s L) (ht : Twins f id L A a B b C) :
    NoMatch (zeroItem f a) id (A ++ B) ∧ itemId (zeroItem f a) b = id ∧ NoMatch (zeroItem f a) id C := by
  have hid := h.itemId_kept ht.sublist (ht.kept h)
  refine ⟨?_, (hid b (by simp)).trans ht.second, ht.behind.congr fun it hit => hid it (by simp [hit])⟩
  intro it hit
  rw [hid it (List.mem_append_left _ hit)]
  rcases List.mem_append.1 hit with hit | hit
  · exact ht.before it hit
  · exact ht.between it hit

/-! ### The lookup -/

/-- What the lookup leaves when no item has to be zeroed, or the earlier one of two can be. -/
private theorem settled_cases (h : (L.map (itemId f)).count id ≤ 2) :
    (AtMostOne f id L ∧ settleOps f L id = [] ∧ settledImage f L id = f ∧ settledItems f L id = L ∧ ¬ Stuck f L id) ∨
      ∃ A a B b C, Twins f id L A a B b C ∧
        (maxFlashZeroSize < a.2 ∧ Stuck f L id ∨
          a.2 ≤ maxFlashZeroSize ∧ settleOps f L id = [.program a.1 (List.replicate a.2 0)] ∧
            settledImage f L id = zeroItem f a ∧ settledItems f L id = A ++ B ++ b :: C ∧ ¬ Stuck f L id) := by
  rcases twin_cases h with hone | ⟨A, a, B, b, C, ht⟩
  · left
    have htwin := hone.twin_eq
    simp [hone, settledImage, settleOps, settledItems, Stuck, htwin]
  · right
    have htwin := ht.twin_eq
    refine ⟨A, a, B, b, C, ht, ?_⟩
    by_cases hle : a.2 ≤ maxFlashZeroSize
    · right
      have hstuck : ¬ Stuck f L id := by
        rintro ⟨a', ha', hgt⟩
        obtain rfl : a = a' := Option.some.inj (htwin.symm.trans ha')
        omega
      refine ⟨hle, ?_, ?_, ?_, hstuck⟩
      · rw [settleOps, htwin]
        exact if_pos hle
      · rw [settledImage, settleOps, htwin]
        simp only [hle, ↓reduceIte]
        rfl
      · rw [settledItems, htwin, ← ht.erase_eq]
        exact if_pos hle
    · left
      exact ⟨by omega, a, htwin, by omega⟩

/-- Where the lookup goes through, the page it leaves holds at most one item with the identifier. -/
theorem Torn.settled (h : Torn crc f s L) (hstuck : ¬ Stuck f L id)
    (hno : NoItem crc (settledImage f L id) s (settledItems f L id)) :
    Torn crc (settledImage f L id) s (settledItems f L id) ∧
      AtMostOne (settledImage f L id) id (settledItems f L id) := by
  rcases settled_cases (h.twins id) with ⟨hone, -, himage, hitems, -⟩ | ⟨A, a, B, b, C, ht, hc⟩
  · rw [himage, hitems]
    exact ⟨h, hone⟩
  · rcases hc with ⟨-, hc⟩ | ⟨-, -, himage, hitems, -⟩
    · exact absurd hc hstuck
    · rw [himage, hitems] at hno ⊢
      obtain ⟨hbefore, hb, hC⟩ := ht.zero_split h.toPageHolds
      exact ⟨h.zero_twin ht hno, Or.inr ⟨A ++ B, b, C, rfl, hbefore, hb, hC⟩⟩

private theorem twin_mem {a : Nat × Nat} (h : twin f L id = some a) : a ∈ L := by
  unfold twin at h
  split at h
  · rename_i a' b hfilter
    obtain rfl : a' = a := Option.some.inj h
    exact (List.mem_filter.1 (by rw [hfilter]; simp : a' ∈ L.filter fun it => itemId f it = id)).1
  · exact absurd h (by simp)

/-- The lookup writes in front of the end of the items only. -/
theorem Torn.settleOps_front (h : Torn crc f s L) (id : UInt16) :
    ∀ op ∈ settleOps f L id, ∃ a bs, op = .program a bs ∧ a + bs.length ≤ pageEmpty s L := by
  unfold settleOps
  cases htwin : twin f L id with
  | none => exact fun op hop => absurd hop (by simp)
  | some a =>
    intro op hop
    dsimp only at hop
    split at hop
    · refine ⟨a.1, _, List.mem_singleton.1 hop, ?_⟩
      rw [List.length_replicate]
      exact h.item_le_empty (twin_mem htwin)
    · exact absurd hop (by simp)

/-- The tail stays erased. -/
theorem Torn.settled_free (h : Torn crc f s L) :
    Erased (settledImage f L id) (pageEmpty s L) (s + flashFsPageSize) :=
  h.free.congr (replay_agree_behind (h.settleOps_front id))

theorem Torn.settledItems_pageEmpty (h : Torn crc f s L) (id : UInt16) :
    pageEmpty s (settledItems f L id) = pageEmpty s L := by
  rcases settled_cases (h.twins id) with ⟨-, -, -, hitems, -⟩ | ⟨A, a, B, b, C, ht, hc⟩
  · rw [hitems]
  · rcases hc with ⟨hgt, -⟩ | ⟨-, -, -, hitems, -⟩
    · rw [settledItems, ht.twin_eq]
      simp only [Nat.not_le.2 hgt, ↓reduceIte]
    · rw [hitems]
      exact ht.pageEmpty_eq s

theorem Torn.single (h : Torn crc f s L) (hone : AtMostOne f id L) : Single crc f s L id := ⟨h.toPageHolds, hone⟩

/-- The lookup goes on as on the page it leaves. -/
theorem Torn.mmFindField_settled (h : Torn crc nvs.mem s L) (hstuck : ¬ Stuck nvs.mem L id)
    (hno : NoItem crc (settledImage nvs.mem L id) s (settledItems nvs.mem L id)) :
    mmFindField crc nvs id out = mmFindField crc (nvs.applyAll (settleOps nvs.mem L id)) id out := by
  rcases settled_cases (h.twins id) with ⟨-, hops, -, -, -⟩ | ⟨A, a, B, b, C, ht, hc⟩
  · rw [hops, Nvs.applyAll_nil]
  · rcases hc with ⟨-, hc⟩ | ⟨hle, hops, himage, hitems, -⟩
    · exact absurd hc hstuck
    · rw [himage, hitems] at hno
      obtain ⟨hbefore, hb, hC⟩ := ht.zero_split h.toPageHolds
      have hzero := (h.zero_twin ht hno).toPageHolds
      have hholds := h.toPageHolds
      have heq := ht.eq
      have hempty := ht.pageEmpty_eq s
      subst heq
      rw [hops, mmFindField_two hholds ht.before ht.first ht.between ht.second ht.behind hle,
        @mmFindField_one crc s id (A ++ B) C (nvs.applyAll [.program a.1 (List.replicate a.2 0)]) out b hzero hbefore hb
          hC]
      simp only [foundOut, hempty]
      rfl

/-- The pointer to the end of the items, wherever the lookup computes it. -/
theorem Torn.mmFindField_empty (h : Torn crc nvs.mem s L) (id : UInt16) :
    (mmFindField crc nvs id ⟨none, none, 0⟩).2.2.empty = none ∨
      (mmFindField crc nvs id ⟨none, none, 0⟩).2.2.empty = some (pageEmpty s L) ∧ ¬ Stuck nvs.mem L id ∧
        (mmFindField crc nvs id ⟨none, none, 0⟩).2.1 = nvs.applyAll (settleOps nvs.mem L id) := by
  rcases settled_cases (h.twins id) with ⟨hone, hops, -, -, hstuck⟩ | ⟨A, a, B, b, C, ht, hc⟩
  · right
    rw [(h.single hone).mmFindField_eq, hops, Nvs.applyAll_nil]
    exact ⟨rfl, hstuck, rfl⟩
  · have hholds := h.toPageHolds
    have heq := ht.eq
    subst heq
    rcases hc with ⟨hgt, -⟩ | ⟨hle, hops, -, -, hstuck⟩
    · left
      rw [mmFindField_two_of_gt hholds ht.before ht.first ht.between ht.second hgt]
    · right
      rw [mmFindField_two hholds ht.before ht.first ht.between ht.second ht.behind hle, hops]
      exact ⟨rfl, hstuck, rfl⟩

/-- A lookup that is stuck fails and leaves the space unset. -/
theorem Torn.mmFindField_stuck (h : Torn crc nvs.mem s L) (hstuck : Stuck nvs.mem L id) (out : MmFound) :
    ∃ item, mmFindField crc nvs id out = (false, nvs, { out with item := item }) := by
  rcases settled_cases (h.twins id) with ⟨-, -, -, -, hc⟩ | ⟨A, a, B, b, C, ht, hc⟩
  · exact absurd hstuck hc
  · have hholds := h.toPageHolds
    have heq := ht.eq
    subst heq
    rcases hc with ⟨hgt, -⟩ | ⟨-, -, -, -, hc⟩
    · exact ⟨_, mmFindField_two_of_gt hholds ht.before ht.first ht.between ht.second hgt⟩
    · exact absurd hstuck hc

end TiMcu.FlashFs
