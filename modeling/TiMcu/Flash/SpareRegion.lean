import Mathlib.Algebra.GroupWithZero.Nat
import Mathlib.Order.Bounds.Basic
import TiMcu.FlashFs.Nvs
import TiMcu.Lib.Checked

/-!
# The search for a spare region

`flash_find_spare_region` with `is_flash_spare` and `flash_scan` of the flash driver.  Addresses and sizes have 32 bits,
and the end of the range that is scanned may wrap around.

A read outside of the flash is `none`.  `flash_scan` also computes a percentage, which is not looked at here.
-/

namespace TiMcu.Flash

open Checked FlashFs NorFlash

/-! ### The driver -/

def isFlashAddr (flashAddr : UInt32) : Bool := flashAddr.toNat < norFlashEnd

/-- A read through a pointer. -/
def load (flash : Mem) (addr : UInt32) : Option UInt8 :=
  if addr.toNat < norFlashEnd then some (flash addr.toNat) else none

/-- The loop of `flash_scan`; `stopped` is the `break`. -/
structure ScanLoop where
  addr : UInt32
  spare : UInt32
  busy : UInt32
  res : Bool
  stopped : Bool

def ScanLoop.more (base size : UInt32) (s : ScanLoop) : Option Bool :=
  some (!s.stopped && decide (s.addr < base + size))

def ScanLoop.round (flash : Mem) (s : ScanLoop) : Option ScanLoop :=
  if isFlashAddr s.addr then
    (load flash s.addr).map fun byte =>
      if byte = 0xFF then { s with res := true, spare := s.spare + 1, addr := s.addr + 1 }
      else { s with res := true, busy := s.busy + 1, addr := s.addr + 1 }
  else some { s with res := false, stopped := true }

/-- `flash_scan`: the result, `spare` and `busy`. -/
def flashScan (fuel : Nat) (flash : Mem) (base size : UInt32) : Option (Bool × UInt32 × UInt32) :=
  (loop (ScanLoop.more base size) (ScanLoop.round flash) fuel ⟨base, 0, 0, true, false⟩).map fun s =>
    (s.res, s.spare, s.busy)

def isFlashSpare (fuel : Nat) (flash : Mem) (flashAddr size : UInt32) : Option Bool :=
  (flashScan fuel flash flashAddr size).map fun r => decide (size = r.2.1)

/-- The loop of `flash_find_spare_region`; it ends with `res` by `break`. -/
structure FindLoop where
  flashAddr : UInt32
  res : Bool
  outAddr : UInt32

def FindLoop.more (s : FindLoop) : Option Bool := some (!s.res && decide (s.flashAddr.toNat < norFlashEnd))

def FindLoop.round (fuel : Nat) (flash : Mem) (size : UInt32) (s : FindLoop) : Option FindLoop :=
  (isFlashSpare fuel flash s.flashAddr size).map fun res =>
    if res then { s with res := true, outAddr := s.flashAddr }
    else { s with res := false, flashAddr := s.flashAddr + 1 }

/-- `flash_find_spare_region`: the result and `*out_addr`. -/
def flashFindSpareRegion (fuel : Nat) (flash : Mem) (outAddr size : UInt32) : Option (Bool × UInt32) :=
  (loop FindLoop.more (FindLoop.round fuel flash size) fuel ⟨UInt32.ofNat norFlashBase, false, outAddr⟩).map fun s =>
    (s.res, s.outAddr)

/-! ### The specification -/

/-- All bytes of the region are inside the flash and spare. -/
def Spare (flash : Mem) (size : UInt32) (a : Nat) : Prop :=
  ∀ x, a ≤ x → x < a + size.toNat → x < norFlashEnd ∧ flash x = 0xFF

/-- The search is exact. -/
structure SearchExact (flash : Mem) (size outAddr : UInt32) (res : Bool) (out : UInt32) : Prop where
  found : res = true → IsLeast {a | Spare flash size a} out.toNat
  missing : res = false → (∀ a, ¬Spare flash size a) ∧ out = outAddr

/-! ### The scan -/

private theorem norFlashEnd_eq : norFlashEnd = 360448 := rfl

private theorem toNat_next {x : UInt32} (h : x.toNat + 1 < 2 ^ 32) : (x + 1).toNat = x.toNat + 1 := by
  rw [UInt32.toNat_add, show (1 : UInt32).toNat = 1 from rfl, Nat.mod_eq_of_lt h]

section

variable {flash : Mem} {base size : UInt32} {fuel : Nat}

private theorem erased_succ {a b : Nat} (h : a ≤ b) : Erased flash a (b + 1) ↔ Erased flash a b ∧ flash b = 0xFF := by
  constructor
  · intro he
    exact ⟨he.mono (le_refl a) (Nat.le_succ b), he b h (Nat.lt_succ_self b)⟩
  · rintro ⟨he, hb⟩ x hx hlt
    rcases Nat.lt_succ_iff_lt_or_eq.1 hlt with hlt | rfl
    · exact he x hx hlt
    · exact hb

/-- What the scan has seen: no more bytes are spare than were looked at, and as many only if all are. -/
structure ScanLoop.Scanned (flash : Mem) (base size : UInt32) (s : ScanLoop) : Prop where
  le : base.toNat ≤ s.addr.toNat
  inside : s.addr.toNat ≤ norFlashEnd
  spare_le : s.spare.toNat ≤ s.addr.toNat - base.toNat
  spare_iff : s.spare.toNat = s.addr.toNat - base.toNat ↔ Erased flash base.toNat s.addr.toNat
  within : s.addr.toNat ≤ (base + size).toNat ∨ s.addr = base
  stopped : s.stopped = true → s.addr.toNat = norFlashEnd ∧ s.addr < base + size

/-- One more byte. -/
theorem ScanLoop.Scanned.next {s s' : ScanLoop} (h : s.Scanned flash base size) (hin : s.addr.toNat < norFlashEnd)
    (hlt : s.addr.toNat < (base + size).toNat) (haddr : s'.addr = s.addr + 1) (hstopped : s'.stopped = false)
    (hspare : s'.spare.toNat = s.spare.toNat + if flash s.addr.toNat = 0xFF then 1 else 0) :
    s'.Scanned flash base size := by
  have hend := norFlashEnd_eq
  have hle := h.le
  have hsp := h.spare_le
  have hnext : s'.addr.toNat = s.addr.toNat + 1 := by
    rw [haddr]
    exact toNat_next (by omega)
  have hmost : s'.spare.toNat ≤ s.spare.toNat + 1 := by
    rw [hspare]
    split <;> omega
  refine ⟨by omega, by omega, by omega, ?_, .inl (by omega), fun hs => absurd hs (by simp [hstopped])⟩
  rw [hnext, erased_succ hle, ← h.spare_iff, hspare]
  split
  · next hff =>
    rw [and_iff_left hff]
    omega
  · next hff =>
    rw [and_iff_right_of_imp fun hbyte => absurd hbyte hff]
    exact iff_of_false (by omega) hff

theorem ScanLoop.Scanned.round {s : ScanLoop} (h : s.Scanned flash base size) (hmore : s.more base size = some true) :
    ∃ s', s.round flash = some s' ∧ s'.Scanned flash base size ∧
      norFlashEnd - s'.addr.toNat + (if s'.stopped then 0 else 1) <
        norFlashEnd - s.addr.toNat + (if s.stopped then 0 else 1) := by
  have hend := norFlashEnd_eq
  simp only [ScanLoop.more, Option.some.injEq, Bool.and_eq_true, Bool.not_eq_true', decide_eq_true_eq] at hmore
  obtain ⟨hrun, hlt⟩ := hmore
  have hlt' := UInt32.lt_iff_toNat_lt.1 hlt
  have hin := h.inside
  unfold ScanLoop.round
  by_cases haddr : s.addr.toNat < norFlashEnd
  · have hflash : isFlashAddr s.addr = true := by simpa [isFlashAddr] using haddr
    have hload : load flash s.addr = some (flash s.addr.toNat) := if_pos haddr
    have hnext : (s.addr + 1).toNat = s.addr.toNat + 1 := toNat_next (by omega)
    have hsp := h.spare_le
    rw [if_pos hflash, hload, Option.map_some]
    refine ⟨_, rfl, ?_, ?_⟩
    · split
      · next hff =>
        refine h.next haddr hlt' rfl hrun ?_
        rw [if_pos hff]
        exact toNat_next (by omega)
      · next hff =>
        refine h.next haddr hlt' rfl hrun ?_
        rw [if_neg hff]
        rfl
    · split
      all_goals
        dsimp only
        rw [hrun, hnext]
        simp only [Bool.false_eq_true, if_false]
        omega
  · have hflash : isFlashAddr s.addr = false := by simpa [isFlashAddr] using haddr
    rw [hflash]
    refine ⟨{ s with res := false, stopped := true }, rfl, ?_, ?_⟩
    · exact { h with stopped := fun _ => ⟨by dsimp only; omega, hlt⟩ }
    · rw [hrun]
      simp

/-- The end of the range has wrapped around, or it has not. -/
private theorem toNat_rangeEnd (base size : UInt32) :
    (base.toNat + size.toNat < 2 ^ 32 ∧ (base + size).toNat = base.toNat + size.toNat) ∨
      (2 ^ 32 ≤ base.toNat + size.toNat ∧ (base + size).toNat < base.toNat) := by
  have hb := base.toNat_lt
  have hs := size.toNat_lt
  rw [UInt32.toNat_add]
  omega

/-- A range that leaves the flash is not spare. -/
private theorem not_spare_of_lt (hbase : base.toNat ≤ norFlashEnd) (h : norFlashEnd < base.toNat + size.toNat) :
    ¬Spare flash size base.toNat := by
  intro hspare
  exact absurd (hspare norFlashEnd hbase h).1 (Nat.lt_irrefl _)

/-- When the scan ends, all bytes that were asked for are spare just when the region is. -/
private theorem ScanLoop.Scanned.spare_iff_of_end {s : ScanLoop} (h : s.Scanned flash base size)
    (hbase : base.toNat ≤ norFlashEnd) (hmore : s.more base size = some false) :
    size.toNat = s.spare.toNat ↔ Spare flash size base.toNat := by
  have hle := h.le
  have hin := h.inside
  have hsp := h.spare_le
  have hwithin := h.within
  by_cases hstop : s.stopped = true
  · -- the flash ends inside the range
    obtain ⟨hat, hlt⟩ := h.stopped hstop
    rw [UInt32.lt_iff_toNat_lt] at hlt
    have hlong : norFlashEnd < base.toNat + size.toNat := by
      rcases toNat_rangeEnd base size with ⟨-, he⟩ | ⟨-, he⟩ <;> omega
    exact ⟨fun heq => absurd heq (by omega), fun hspare => absurd hspare (not_spare_of_lt hbase hlong)⟩
  · have hdone : (base + size).toNat ≤ s.addr.toNat := by
      rw [← UInt32.le_iff_toNat_le, ← UInt32.not_lt]
      simpa [ScanLoop.more, hstop] using hmore
    rcases toNat_rangeEnd base size with ⟨-, he⟩ | ⟨hwrap, he⟩
    · -- the whole range was scanned
      have hat : s.addr.toNat = base.toNat + size.toNat := by
        rcases hwithin with hwithin | hwithin
        · omega
        · rw [hwithin] at hdone ⊢
          omega
      have hiff := h.spare_iff
      rw [hat, Nat.add_sub_cancel_left] at hiff
      rw [eq_comm, hiff]
      constructor
      · exact fun hspare x hx hlt => ⟨by omega, hspare x hx hlt⟩
      · exact fun hspare x hx hlt => (hspare x hx hlt).2
    · -- the end has wrapped around: nothing was scanned
      have hat : s.addr = base := hwithin.resolve_left (by omega)
      rw [hat, Nat.sub_self] at hsp
      have hend : norFlashEnd < 2 ^ 32 := by decide
      have hlt := base.toNat_lt
      exact ⟨fun heq => absurd heq (by omega), fun hspare => absurd hspare (not_spare_of_lt hbase (by omega))⟩

private theorem isFlashSpare_spec (flash : Mem) (size : UInt32) (hbase : base.toNat < norFlashEnd)
    (hfuel : norFlashEnd + 1 < fuel) :
    ∃ res, isFlashSpare fuel flash base size = some res ∧ (res = true ↔ Spare flash size base.toNat) := by
  have hend := norFlashEnd_eq
  have hstart : ScanLoop.Scanned flash base size ⟨base, 0, 0, true, false⟩ :=
    { le := le_refl _
      inside := le_of_lt hbase
      spare_le := Nat.zero_le _
      spare_iff := by simp [NorFlash.Erased]; omega
      within := .inr rfl
      stopped := fun hs => absurd hs (by simp) }
  have hstep : ∀ s : ScanLoop, s.Scanned flash base size → s.more base size = some false ∨
      s.more base size = some true ∧ ∃ s', s.round flash = some s' ∧ s'.Scanned flash base size ∧
        norFlashEnd - s'.addr.toNat + (if s'.stopped then 0 else 1) <
          norFlashEnd - s.addr.toNat + (if s.stopped then 0 else 1) := by
    intro s hs
    by_cases hmore : s.more base size = some true
    · exact .inr ⟨hmore, hs.round hmore⟩
    · left
      simpa [ScanLoop.more] using hmore
  obtain ⟨s, hrun, hs, hmore⟩ := loop_total (n := fuel) hstep hstart
    (by simp only [Bool.false_eq_true, if_false]; omega)
  refine ⟨decide (size = s.spare), by rw [isFlashSpare, flashScan, hrun]; rfl, ?_⟩
  rw [decide_eq_true_iff, ← UInt32.toNat_inj]
  exact hs.spare_iff_of_end (le_of_lt hbase) hmore

/-! ### The search -/

/-- No region is spare below the address that is next, or the address is that of the first one. -/
structure FindLoop.Searched (flash : Mem) (size outAddr : UInt32) (s : FindLoop) : Prop where
  le : s.flashAddr.toNat ≤ norFlashEnd
  below : ∀ a, a < s.flashAddr.toNat → ¬Spare flash size a
  found : s.res = true → Spare flash size s.flashAddr.toNat ∧ s.outAddr = s.flashAddr
  missing : s.res = false → s.outAddr = outAddr

theorem FindLoop.Searched.round {s : FindLoop} {outAddr : UInt32} (h : s.Searched flash size outAddr)
    (hfuel : norFlashEnd + 1 < fuel) (hmore : s.more = some true) :
    ∃ s', s.round fuel flash size = some s' ∧ s'.Searched flash size outAddr ∧
      norFlashEnd - s'.flashAddr.toNat + (if s'.res then 0 else 1) <
        norFlashEnd - s.flashAddr.toNat + (if s.res then 0 else 1) := by
  have hend := norFlashEnd_eq
  simp only [FindLoop.more, Option.some.injEq, Bool.and_eq_true, Bool.not_eq_true', decide_eq_true_eq] at hmore
  obtain ⟨hrun, hlt⟩ := hmore
  obtain ⟨res, hspare, hiff⟩ := isFlashSpare_spec flash size hlt hfuel
  rw [FindLoop.round, hspare, Option.map_some]
  refine ⟨_, rfl, ?_, ?_⟩
  · cases res with
    | true =>
      exact
        { le := h.le
          below := h.below
          found := fun _ => ⟨hiff.1 rfl, rfl⟩
          missing := fun hres => absurd hres (by simp) }
    | false =>
      have hnext : (s.flashAddr + 1).toNat = s.flashAddr.toNat + 1 := toNat_next (by omega)
      exact
        { le := by simp only [Bool.false_eq_true, if_false]; omega
          below := by
            simp only [Bool.false_eq_true, if_false, hnext]
            intro a ha hsp
            rcases Nat.lt_succ_iff_lt_or_eq.1 ha with ha | rfl
            · exact h.below a ha hsp
            · exact absurd (hiff.2 hsp) (by decide)
          found := fun hres => absurd hres (by simp)
          missing := fun _ => h.missing hrun }
  · cases res with
    | true =>
      simp only [if_true, hrun, Bool.false_eq_true, if_false]
      omega
    | false =>
      have hnext : (s.flashAddr + 1).toNat = s.flashAddr.toNat + 1 := toNat_next (by omega)
      simp only [hrun, Bool.false_eq_true, if_false, hnext]
      omega

/-- The search is exact for every flash and every size; it reads inside the flash only and ends. -/
theorem flashFindSpareRegion_exact (flash : Mem) (outAddr size : UInt32) (fuel : Nat)
    (hfuel : norFlashEnd + 1 < fuel) :
    ∃ res out, flashFindSpareRegion fuel flash outAddr size = some (res, out) ∧
      SearchExact flash size outAddr res out := by
  have hend := norFlashEnd_eq
  have hzero : (UInt32.ofNat norFlashBase).toNat = 0 := rfl
  have hstart : FindLoop.Searched flash size outAddr ⟨UInt32.ofNat norFlashBase, false, outAddr⟩ :=
    { le := Nat.zero_le _
      below := fun a ha => absurd ha (Nat.not_lt_zero a)
      found := fun hres => absurd hres (by simp)
      missing := fun _ => rfl }
  have hstep : ∀ s : FindLoop, s.Searched flash size outAddr → s.more = some false ∨
      s.more = some true ∧ ∃ s', s.round fuel flash size = some s' ∧ s'.Searched flash size outAddr ∧
        norFlashEnd - s'.flashAddr.toNat + (if s'.res then 0 else 1) <
          norFlashEnd - s.flashAddr.toNat + (if s.res then 0 else 1) := by
    intro s hs
    by_cases hmore : s.more = some true
    · exact .inr ⟨hmore, hs.round hfuel hmore⟩
    · left
      simpa [FindLoop.more] using hmore
  obtain ⟨s, hrun, hs, hmore⟩ := loop_total (n := fuel) hstep hstart
    (by simp only [Bool.false_eq_true, if_false, hzero]; omega)
  refine ⟨s.res, s.outAddr, by rw [flashFindSpareRegion, hrun]; rfl, ?_, ?_⟩
  · intro hres
    obtain ⟨hspare, hout⟩ := hs.found hres
    rw [hout]
    refine ⟨hspare, fun a ha => ?_⟩
    by_contra hlt
    exact hs.below a (Nat.lt_of_not_le hlt) ha
  · intro hres
    have hlast : norFlashEnd ≤ s.flashAddr.toNat := by
      simpa [FindLoop.more, hres] using hmore
    refine ⟨fun a hspare => ?_, hs.missing hres⟩
    by_cases ha : a < s.flashAddr.toNat
    · exact hs.below a ha hspare
    · rcases Nat.eq_zero_or_pos size.toNat with h0 | hpos
      · exact hs.below 0 (by omega) fun x _ hlt => absurd hlt (by omega)
      · have hlt := (hspare a (le_refl a) (by omega)).1
        omega

theorem flashFindSpareRegion_exact_blank : ∃ res out,
    flashFindSpareRegion 360450 (fun _ => 0xFF) 7 0xFFFFFFFF = some (res, out) ∧
      SearchExact (fun _ => 0xFF) 0xFFFFFFFF 7 res out :=
  flashFindSpareRegion_exact (fun _ => 0xFF) 7 0xFFFFFFFF 360450 (by decide)

end

end TiMcu.Flash
