import TiMcu.Lib.NorFlash

/-!
# The NVS region and its driver

The last 40 kB of the NOR flash hold the two pages of the file system (32 kB) and the configuration sector, which the
file system must not touch.  `Nvs` is the flash together with the list of the operations that were carried out on it;
the image after a power cut is the replay of a prefix of that list.

`nvsWrite` and `nvsErase` are the vendor's driver: an operation that does not fit in the region is refused, every other
operation is carried out and reported as successful.
-/

namespace TiMcu.FlashFs

open NorFlash

/-! ### Memory layout -/

def kBytes : Nat := 1024
def norFlashBase : Nat := 0x00000000
def norFlashSize : Nat := 352 * kBytes
def flashSectorSize : Nat := 8 * kBytes
def norFlashEnd : Nat := norFlashBase + norFlashSize

def flashFsPageSize : Nat := 2 * flashSectorSize
def nvsSize : Nat := 2 * flashFsPageSize
def nvsFlashStart : Nat := (norFlashEnd - nvsSize) - flashSectorSize

def memoryManager1Offset : Nat := nvsFlashStart
def memoryManager1Length : Nat := flashFsPageSize
def memoryManager2Offset : Nat := nvsFlashStart + flashFsPageSize
def memoryManager2Length : Nat := flashFsPageSize

theorem flashFsPageSize_eq : flashFsPageSize = 16384 := rfl
theorem memoryManager1Offset_eq : memoryManager1Offset = 319488 := rfl
theorem memoryManager2Offset_eq : memoryManager2Offset = 335872 := rfl

/-! ### The driver -/

/-- The flash and the operations carried out on it, oldest first. -/
structure Nvs where
  mem : Mem
  ops : List Op

/-- Carry out one operation. -/
def Nvs.apply (nvs : Nvs) (op : Op) : Nvs := ⟨op.run nvs.mem, nvs.ops ++ [op]⟩

/-- Carry out several operations. -/
def Nvs.applyAll (nvs : Nvs) (ops : List Op) : Nvs := ⟨replay nvs.mem ops, nvs.ops ++ ops⟩

/-- A flash image before any operation. -/
def Nvs.ofMem (f : Mem) : Nvs := ⟨f, []⟩

def nvsWrite (nvs : Nvs) (offset : Nat) (buffer : List UInt8) : Bool × Nvs :=
  if offset + buffer.length ≤ nvsSize then (true, nvs.apply (.program (nvsFlashStart + offset) buffer))
  else (false, nvs)

def nvsErase (nvs : Nvs) (offset size : Nat) : Bool × Nvs :=
  if offset + size ≤ nvsSize then (true, nvs.apply (.erase (nvsFlashStart + offset) size)) else (false, nvs)

def flashNvsWrite (nvs : Nvs) (flashAddr : Nat) (array : List UInt8) : Bool × Nvs :=
  if nvsFlashStart ≤ flashAddr ∧ flashAddr < nvsFlashStart + nvsSize then
    nvsWrite nvs (flashAddr - nvsFlashStart) array
  else (false, nvs)

def flashNvsErase (nvs : Nvs) (addr arrayLen : Nat) : Bool × Nvs :=
  if nvsFlashStart ≤ addr ∧ addr < nvsFlashStart + nvsSize then nvsErase nvs (addr - nvsFlashStart) arrayLen
  else (false, nvs)

def mmFlashWrite (nvs : Nvs) (addressDes : Nat) (addressSrc : List UInt8) : Bool × Nvs :=
  flashNvsWrite nvs addressDes addressSrc

def maxFlashZeroSize : Nat := 256

def mmFlashZero (nvs : Nvs) (address len : Nat) : Bool × Nvs :=
  if len ≤ maxFlashZeroSize then flashNvsWrite nvs address (List.replicate len 0) else (false, nvs)

/-! ### What the driver does -/

@[simp] theorem Nvs.apply_mem (nvs : Nvs) (op : Op) : (nvs.apply op).mem = op.run nvs.mem := rfl
@[simp] theorem Nvs.apply_ops (nvs : Nvs) (op : Op) : (nvs.apply op).ops = nvs.ops ++ [op] := rfl
@[simp] theorem Nvs.applyAll_mem (nvs : Nvs) (ops : List Op) : (nvs.applyAll ops).mem = replay nvs.mem ops := rfl
@[simp] theorem Nvs.applyAll_ops (nvs : Nvs) (ops : List Op) : (nvs.applyAll ops).ops = nvs.ops ++ ops := rfl
@[simp] theorem Nvs.applyAll_nil (nvs : Nvs) : nvs.applyAll [] = nvs := by simp [Nvs.applyAll]

theorem Nvs.apply_applyAll (nvs : Nvs) (op : Op) (ops : List Op) :
    (nvs.apply op).applyAll ops = nvs.applyAll (op :: ops) := by
  simp [Nvs.applyAll, Nvs.apply]

@[simp] theorem Nvs.ofMem_mem (f : Mem) : (Nvs.ofMem f).mem = f := rfl
@[simp] theorem Nvs.ofMem_ops (f : Mem) : (Nvs.ofMem f).ops = [] := rfl

/-- The addresses `a ≤ x < b` belong to the NVS region, and there are any. -/
def InNvs (a b : Nat) : Prop := nvsFlashStart ≤ a ∧ a < nvsFlashStart + nvsSize ∧ b ≤ nvsFlashStart + nvsSize

theorem mmFlashWrite_eq {nvs : Nvs} {a : Nat} {bs : List UInt8} (h : InNvs a (a + bs.length)) :
    mmFlashWrite nvs a bs = (true, nvs.apply (.program a bs)) := by
  obtain ⟨h1, h2, h3⟩ := h
  rw [mmFlashWrite, flashNvsWrite, if_pos ⟨h1, h2⟩, nvsWrite, if_pos (by omega), Nat.add_sub_cancel' h1]

/-- A write that would leave the region is refused. -/
theorem mmFlashWrite_of_gt {nvs : Nvs} {a : Nat} {bs : List UInt8} (h : nvsFlashStart + nvsSize < a + bs.length) :
    mmFlashWrite nvs a bs = (false, nvs) := by
  rw [mmFlashWrite, flashNvsWrite]
  by_cases ha : nvsFlashStart ≤ a ∧ a < nvsFlashStart + nvsSize
  · rw [if_pos ha, nvsWrite, if_neg (by omega)]
  · rw [if_neg ha]

theorem mmFlashZero_eq {nvs : Nvs} {a n : Nat} (h : InNvs a (a + n)) (hn : n ≤ maxFlashZeroSize) :
    mmFlashZero nvs a n = (true, nvs.apply (.program a (List.replicate n 0))) := by
  rw [mmFlashZero, if_pos hn]
  exact mmFlashWrite_eq (by simpa using h)

theorem mmFlashZero_of_gt {nvs : Nvs} {a n : Nat} (hn : maxFlashZeroSize < n) :
    mmFlashZero nvs a n = (false, nvs) := by
  rw [mmFlashZero, if_neg (by omega)]

theorem flashNvsErase_eq {nvs : Nvs} {a n : Nat} (h : InNvs a (a + n)) :
    flashNvsErase nvs a n = (true, nvs.apply (.erase a n)) := by
  obtain ⟨h1, h2, h3⟩ := h
  rw [flashNvsErase, if_pos ⟨h1, h2⟩, nvsErase, if_pos (by omega), Nat.add_sub_cancel' h1]

end TiMcu.FlashFs
