import Mathlib.Data.UInt
import TiMcu.FlashFs.Nvs

/-!
# Erasing a range of the flash of the STM32

`flash_errase` with `Addr2SectorSize`.  The flash has twelve sectors of three sizes.

`is_arr_pat` and `HAL_FLASHEx_Erase` are not part of the repository and are parameters; what is relied on are `ArrPat`
and `WorkingErase`.
-/

namespace TiMcu.Stm32f4

open FlashFs NorFlash

/-! ### The sectors -/

def norFlashBase : Nat := 0x08000000
def norFlashSize : Nat := 1024 * kBytes
def norFlashEnd : Nat := norFlashBase + norFlashSize

/-- The branches of `Addr2SectorSize`: first address, last address, number and size of a sector. -/
def sectorTable : List (UInt32 × UInt32 × UInt32 × UInt32) :=
  [(0x08000000, 0x08003FFF, 0, 16 * 1024),
    (0x08004000, 0x08007FFF, 1, 16 * 1024),
    (0x08008000, 0x0800BFFF, 2, 16 * 1024),
    (0x0800C000, 0x0800FFFF, 3, 16 * 1024),
    (0x08010000, 0x0801FFFF, 4, 64 * 1024),
    (0x08020000, 0x0803FFFF, 5, 128 * 1024),
    (0x08040000, 0x0805FFFF, 6, 128 * 1024),
    (0x08060000, 0x0807FFFF, 7, 128 * 1024),
    (0x08080000, 0x0809FFFF, 8, 128 * 1024),
    (0x080A0000, 0x080BFFFF, 9, 128 * 1024),
    (0x080C0000, 0x080DFFFF, 10, 128 * 1024),
    (0x080E0000, 0x080FFFFF, 11, 128 * 1024)]

/-- `Addr2SectorSize`: the result, the sector and its size. -/
def addr2SectorSize (addr : UInt32) : Bool × UInt32 × UInt32 :=
  match sectorTable.find? fun r => decide (r.1 ≤ addr) && decide (addr ≤ r.2.1) with
  | some r => (true, r.2.2)
  | none => (false, 12, 0)

/-- Where a sector starts; the flash ends where sector 12 would start. -/
def sectorStart (k : Nat) : Nat :=
  norFlashBase + if k ≤ 4 then 16 * kBytes * k else 128 * kBytes * (k - 4)

/-- A sector has a byte of the range `a ≤ x < b`. -/
def Meets (k a b : Nat) : Prop := sectorStart k < b ∧ a < sectorStart (k + 1)

/-! ### Erasing -/

section

variable (isArrPat : Mem → UInt32 → UInt32 → UInt8 → Bool) (halFlashExErase : Nat → Nat → Mem → Bool × Mem)

/-- `is_arr_pat` tells whether all bytes are the pattern. -/
def ArrPat : Prop := ∀ f addr size pat, 0 < size →
  (isArrPat f addr size pat = true ↔ ∀ x, addr.toNat ≤ x → x < addr.toNat + size.toNat → f x = pat)

/-- `HAL_FLASHEx_Erase` succeeds and erases the sectors from `sector` on, and these only. -/
def WorkingErase : Prop := ∀ sector n f, sector + n ≤ 12 →
  halFlashExErase sector n f = (true, erase f (sectorStart sector) (sectorStart (sector + n) - sectorStart sector))

def isErrased (flash : Mem) (addr size : UInt32) : Bool := isArrPat flash addr size 0xFF

/-- `flash_errase` -/
def flashErrase (flash : Mem) (addr size : UInt32) : Bool × Mem :=
  if isErrased isArrPat flash addr size then (true, flash)
  else
    let r := addr2SectorSize addr
    if r.1 then
      let secCnt := if size ≤ r.2.2 then 1 else 2
      halFlashExErase r.2.1.toNat secCnt flash
    else (false, flash)

end

/-! ### The specification -/

/-- When erasing is reported as done, the range is erased, and no sector that has no byte of the range is changed. -/
structure ErasedExactly (flash : Mem) (addr size : UInt32) (r : Bool × Mem) : Prop where
  erased : r.1 = true → Erased r.2 addr.toNat (addr.toNat + size.toNat)
  kept : r.1 = true → ∀ k < 12, ¬Meets k addr.toNat (addr.toNat + size.toNat) →
    Agree flash r.2 (sectorStart k) (sectorStart (k + 1))

/-- The end of the sector of `addr`, or of the next sector when the size is larger than that sector. -/
def reach (addr size : UInt32) : Nat :=
  let r := addr2SectorSize addr
  sectorStart (r.2.1.toNat + if size ≤ r.2.2 then 1 else 2)

/-! ### The table -/

private theorem sectorTable_spec : ∀ r ∈ sectorTable, r.2.2.1.toNat < 12 ∧ r.1.toNat = sectorStart r.2.2.1.toNat ∧
    r.2.1.toNat + 1 = sectorStart (r.2.2.1.toNat + 1) ∧
    r.1.toNat + r.2.2.2.toNat = sectorStart (r.2.2.1.toNat + 1) := by
  simp only [sectorTable, List.forall_mem_cons, List.not_mem_nil, false_implies, implies_true, and_true]
  decide +kernel

private theorem sectorStart_mono {j k : Nat} (h : j ≤ k) : sectorStart j ≤ sectorStart k := by
  unfold sectorStart kBytes
  split <;> split <;> omega

/-- Every address of the flash is in the sector that is found for it. -/
private theorem addr2SectorSize_spec {addr : UInt32} (hlo : norFlashBase ≤ addr.toNat)
    (hhi : addr.toNat < norFlashEnd) :
    ∃ sector size, addr2SectorSize addr = (true, sector, size) ∧ sector.toNat < 12 ∧
      sectorStart sector.toNat ≤ addr.toNat ∧ addr.toNat < sectorStart (sector.toNat + 1) ∧
      sectorStart sector.toNat + size.toNat = sectorStart (sector.toNat + 1) := by
  unfold addr2SectorSize
  cases hfind : sectorTable.find? fun r => decide (r.1 ≤ addr) && decide (addr ≤ r.2.1) with
  | some r =>
    obtain ⟨hk, hstart, hlast, hsize⟩ := sectorTable_spec r (List.mem_of_find?_eq_some hfind)
    have hin := List.find?_some hfind
    simp only [Bool.and_eq_true, decide_eq_true_eq, UInt32.le_iff_toNat_le] at hin
    exact ⟨r.2.2.1, r.2.2.2, rfl, hk, by omega, by omega, by omega⟩
  | none =>
    exfalso
    rw [List.find?_eq_none] at hfind
    have hall : ∀ r ∈ sectorTable, addr.toNat < r.1.toNat ∨ r.2.1.toNat < addr.toNat := by
      intro r hr
      have hout := hfind r hr
      simp only [Bool.and_eq_true, decide_eq_true_eq, UInt32.le_iff_toNat_le] at hout
      omega
    simp only [sectorTable, List.forall_mem_cons] at hall
    simp only [norFlashBase, norFlashEnd, norFlashSize, kBytes] at hlo hhi
    simp at hall
    omega

/-! ### Which ranges are erased -/

section

variable {isArrPat : Mem → UInt32 → UInt32 → UInt8 → Bool} {halFlashExErase : Nat → Nat → Mem → Bool × Mem}
  {flash : Mem} {addr size : UInt32} {k cnt : Nat}

/-- Sectors from that of `addr` on that all meet the range are erased: no other sector is changed. -/
private theorem kept_of_meets (hmeets : ∀ j, k ≤ j → j < k + cnt → Meets j addr.toNat (addr.toNat + size.toNat))
    {j : Nat}
    (hj : ¬Meets j addr.toNat (addr.toNat + size.toNat)) :
    Agree flash (erase flash (sectorStart k) (sectorStart (k + cnt) - sectorStart k)) (sectorStart j)
      (sectorStart (j + 1)) := by
  have hmono := sectorStart_mono (Nat.le_add_right k cnt)
  apply (erase_agreeOutside flash _ _).agree
  rcases Nat.lt_or_ge j k with hjk | hjk
  · have hle := sectorStart_mono (by omega : j + 1 ≤ k)
    exact .inl hle
  · have hge : k + cnt ≤ j := by
      by_contra hlt
      exact hj (hmeets j hjk (by omega))
    have hle := sectorStart_mono hge
    exact .inr (by omega)

/-- What is erased from a sector that starts before the range. -/
private theorem erased_erase_iff (flash : Mem) (size : UInt32) (hk : sectorStart k ≤ addr.toNat)
    (hr : addr.toNat ≤ sectorStart (k + cnt)) :
    Erased (erase flash (sectorStart k) (sectorStart (k + cnt) - sectorStart k)) addr.toNat
      (addr.toNat + size.toNat) ↔ Erased flash (sectorStart (k + cnt)) (addr.toNat + size.toNat) := by
  constructor
  · intro h x hx hlt
    have hff := h x (by omega) hlt
    rwa [erase, if_neg (by omega)] at hff
  · intro h x hx hlt
    by_cases hin : x < sectorStart (k + cnt)
    · exact if_pos (by omega)
    · rw [erase, if_neg (by omega)]
      exact h x (by omega) hlt

end

section

variable {addr size sector secSize : UInt32} (hnext : addr.toNat < sectorStart (sector.toNat + 1))
  (hspan : sectorStart sector.toNat + secSize.toNat = sectorStart (sector.toNat + 1))

include hnext hspan

/-- The sectors that are counted by the size have bytes of the range. -/
private theorem meets_of_counted (hpos : 0 < size.toNat) (hstart : sectorStart sector.toNat ≤ addr.toNat) {j : Nat}
    (hj : sector.toNat ≤ j) (hlt : j < sector.toNat + if size ≤ secSize then 1 else 2) :
    Meets j addr.toNat (addr.toNat + size.toNat) := by
  rcases Nat.eq_or_lt_of_le hj with rfl | hj
  · exact ⟨by omega, hnext⟩
  · have hlarge : ¬size ≤ secSize := by
      intro hsmall
      rw [if_pos hsmall] at hlt
      omega
    rw [if_neg hlarge] at hlt
    obtain rfl : j = sector.toNat + 1 := by omega
    rw [UInt32.le_iff_toNat_le] at hlarge
    exact ⟨by omega, lt_of_lt_of_le hnext (sectorStart_mono (Nat.le_succ (sector.toNat + 1)))⟩

/-- No more sectors are counted than there are. -/
private theorem counted_le (hpos : 0 < size.toNat) (hstart : sectorStart sector.toNat ≤ addr.toNat)
    (hk : sector.toNat < 12)
    (hhi : addr.toNat + size.toNat ≤ sectorStart 12) : sector.toNat + (if size ≤ secSize then 1 else 2) ≤ 12 := by
  split
  · omega
  · next hlarge =>
    by_contra hover
    have hlast : Meets (sector.toNat + 1) addr.toNat (addr.toNat + size.toNat) :=
      meets_of_counted hnext hspan hpos hstart (Nat.le_succ _) (by rw [if_neg hlarge]; omega)
    have hge := sectorStart_mono (by omega : 12 ≤ sector.toNat + 1)
    have hbelow := hlast.1
    omega

end

/-- A range is erased exactly when the bytes of it that are behind the sector of `addr`, or behind the next sector when
the size is larger than that sector, are erased already. -/
theorem flashErrase_erasedExactly_iff (isArrPat : Mem → UInt32 → UInt32 → UInt8 → Bool)
    (halFlashExErase : Nat → Nat → Mem → Bool × Mem) (hpat : ArrPat isArrPat) (hhal : WorkingErase halFlashExErase)
    (flash : Mem) (addr size : UInt32) (hsize : 1 ≤ size) (hlo : norFlashBase ≤ addr.toNat)
    (hhi : addr.toNat + size.toNat ≤ norFlashEnd) :
    ErasedExactly flash addr size (flashErrase isArrPat halFlashExErase flash addr size) ↔
      Erased flash (reach addr size) (addr.toNat + size.toNat) := by
  have hpos : 0 < size.toNat := UInt32.le_iff_toNat_le.1 hsize
  obtain ⟨sector, secSize, htable, hk, hstart, hnext, hspan⟩ := addr2SectorSize_spec hlo (by omega)
  have hend : norFlashEnd = sectorStart 12 := by decide +kernel
  have hreach : reach addr size = sectorStart (sector.toNat + if size ≤ secSize then 1 else 2) := by
    rw [reach, htable]
  have hle : addr.toNat ≤ reach addr size := by
    rw [hreach]
    exact le_trans (le_of_lt hnext) (sectorStart_mono (by split <;> omega))
  have hpat' := hpat flash addr size 0xFF (UInt32.lt_iff_toNat_lt.2 hpos)
  rw [flashErrase]
  by_cases herr : isErrased isArrPat flash addr size = true
  · -- nothing has to be erased
    have herased : Erased flash addr.toNat (addr.toNat + size.toNat) := hpat'.1 herr
    rw [if_pos herr]
    exact ⟨fun _ => herased.mono hle (le_refl _), fun _ => ⟨fun _ => herased, fun _ _ _ _ _ _ _ => rfl⟩⟩
  · have hmeets : ∀ j, sector.toNat ≤ j → j < sector.toNat + (if size ≤ secSize then 1 else 2) →
        Meets j addr.toNat (addr.toNat + size.toNat) := fun j => meets_of_counted hnext hspan hpos hstart
    have hfits := counted_le hnext hspan hpos hstart hk (hend ▸ hhi)
    rw [if_neg herr, htable, hreach]
    dsimp only
    rw [if_pos rfl, hhal _ _ _ hfits]
    have hiff := erased_erase_iff flash size hstart (hreach ▸ hle)
    exact ⟨fun h => hiff.1 (h.erased rfl), fun h => ⟨fun _ => hiff.2 h, fun _ j _ hj => kept_of_meets hmeets hj⟩⟩

/-- A model of the two functions that are not part of the repository. -/
def arrPat (f : Mem) (addr size : UInt32) (pat : UInt8) : Bool := bytesAt f addr.toNat size.toNat |>.all (· == pat)

def eraseSectors (sector n : Nat) (f : Mem) : Bool × Mem :=
  (true, erase f (sectorStart sector) (sectorStart (sector + n) - sectorStart sector))

private theorem arrPat_spec : ArrPat arrPat := by
  intro f addr size pat _
  simp only [arrPat, bytesAt, List.all_map, List.all_eq_true, List.mem_range'_1, Function.comp_apply, beq_iff_eq]
  exact ⟨fun h x h1 h2 => h x ⟨h1, h2⟩, fun h x hx => h x hx.1 hx.2⟩

theorem flashErrase_erasedExactly_iff_page :
    ErasedExactly (fun _ => 0) 0x08040000 0x20000 (flashErrase arrPat eraseSectors (fun _ => 0) 0x08040000 0x20000) ↔
      Erased (fun _ => 0) (reach 0x08040000 0x20000) ((0x08040000 : UInt32).toNat + (0x20000 : UInt32).toNat) :=
  flashErrase_erasedExactly_iff arrPat eraseSectors arrPat_spec (fun _ _ _ _ => rfl) (fun _ => 0) 0x08040000 0x20000
    (by decide) (by decide) (by decide)

/-- Two bytes across the border of two sectors: the second one stays as it is. -/
theorem flashErrase_border :
    ¬ErasedExactly (fun _ => 0) 0x08003FFF 2 (flashErrase arrPat eraseSectors (fun _ => 0) 0x08003FFF 2) := by
  intro h
  have hrun : (flashErrase arrPat eraseSectors (fun _ => 0) 0x08003FFF 2).1 = true := by decide +kernel
  have herased := h.erased hrun 0x08004000 (by decide) (by decide)
  exact absurd herased (by decide +kernel)

end TiMcu.Stm32f4
