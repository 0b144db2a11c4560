import TiMcu.FlashFs.FileMap
import TiMcu.Lib.Budget

/-!
# Protection against boot loops

`boot_init`, `boot_try_app` and `boot_jump_to_code` of `boot_driver.c`, which talk to each other through three parameters
only.  A build with `HAS_BOOTLOADER` and `HAS_FLASH_FS`.

The parameters are a store that keeps what is saved: `mapAfter`, which the flash file system follows under the
conditions of `store_refines_map`.  `CmdBoot_t` is one byte where the compiler makes enumerations short, and a word
otherwise.
-/

namespace TiMcu.Boot

open FlashFs Budget

/-! ### Data -/

def parIdAppStart : UInt16 := 11
def parIdBootCmd : UInt16 := 12
def parIdBootCnt : UInt16 := 13

def dfltAppStartAddr : UInt32 := 0x0001A000
def appLaynchTry : UInt8 := 5

inductive CmdBoot
  | launchApp
  | launchAppCrc
  | stayOn
  | endef
  deriving DecidableEq, Repr

def CmdBoot.code : CmdBoot → UInt8
  | .launchApp => 0
  | .launchAppCrc => 1
  | .stayOn => 2
  | .endef => 3

/-- A variable of the type `CmdBoot_t`, the low byte first. -/
def CmdBoot.bytes (shortEnums : Bool) (cmd : CmdBoot) : List UInt8 :=
  if shortEnums then [cmd.code] else [cmd.code, 0, 0, 0]

def sizeofCmdBoot (shortEnums : Bool) : Nat := if shortEnums then 1 else 4

theorem CmdBoot.bytes_length (shortEnums : Bool) (cmd : CmdBoot) :
    (cmd.bytes shortEnums).length = sizeofCmdBoot shortEnums := by
  cases shortEnums <;> rfl

/-- A 32-bit variable, the low byte first. -/
def wordBytes (w : UInt32) : List UInt8 := [w.toUInt8, (w >>> 8).toUInt8, (w >>> 16).toUInt8, (w >>> 24).toUInt8]

def wordOf (bytes : List UInt8) : UInt32 :=
  (bytes.getD 0 0).toUInt32 + (bytes.getD 1 0).toUInt32 * 256 + (bytes.getD 2 0).toUInt32 * 65536 +
    (bytes.getD 3 0).toUInt32 * 16777216

/-- The parameters by their identifiers. -/
abbrev Params := UInt16 → Option (List UInt8)

/-- `mm_get` into a variable of the given size; a file that is longer is refused. -/
def Params.mmGet (p : Params) (id : UInt16) (maxValueLen : Nat) : Option (List UInt8) :=
  (p id).filter fun file => decide (file.length ≤ maxValueLen)

/-- `mm_set`; the store keeps the file. -/
def Params.mmSet (p : Params) (id : UInt16) (file : MmFile) : Bool × Params := (true, mapAfter p (.set id file, true))

/-- A variable of one byte as a file. -/
def byteFile (b : UInt8) : MmFile where
  bytes := [b]
  length_lt := by
    rw [List.length_singleton]
    decide

/-- A 32-bit variable as a file. -/
def wordFile (w : UInt32) : MmFile where
  bytes := wordBytes w
  length_lt := by
    rw [show (wordBytes w).length = 4 from rfl]
    decide

/-- The variable after `mm_get` copied a file over its first bytes. -/
def copiedOver (old : List UInt8) : Option (List UInt8) → List UInt8
  | some file => file ++ old.drop file.length
  | none => old

/-- The memory layout of the chip. -/
structure Chip where
  norFlashEnd : UInt32
  ramStart : UInt32
  ramSize : UInt32

def isFlashAddr (chip : Chip) (addr : UInt32) : Bool := addr < chip.norFlashEnd

def isRamAddr (chip : Chip) (addr : UInt32) : Bool :=
  decide (chip.ramStart < addr) && decide (addr ≤ chip.ramStart + chip.ramSize)

/-- How a call ends: in the application, which does not return, or with a result. -/
inductive Ended
  | launched (stackTop resetHandler : UInt32)
  | returned (res : Bool)
  deriving DecidableEq, Repr

/-! ### The boot loader -/

/-- `boot_jump_to_code`; `readAddr32bit` reads the memory. -/
def bootJumpToCode (chip : Chip) (readAddr32bit : UInt32 → UInt32) (p : Params) (appStartAddress : UInt32) :
    Ended × Params :=
  if isFlashAddr chip appStartAddress then
    let stackTop := readAddr32bit appStartAddress
    if isRamAddr chip stackTop then (.launched stackTop (readAddr32bit (appStartAddress + 4)), p)
    else
      -- the command is written as one byte here
      let (res, p) := p.mmSet parIdBootCmd (byteFile CmdBoot.stayOn.code)
      (.returned res, p)
  else (.returned false, p)

section

variable (shortEnums : Bool)

/-- A variable of the type `CmdBoot_t` as a file. -/
def CmdBoot.file (cmd : CmdBoot) : MmFile where
  bytes := cmd.bytes shortEnums
  length_lt := by
    rw [cmd.bytes_length]
    cases shortEnums <;> decide

def bootTryApp (chip : Chip) (readAddr32bit : UInt32 → UInt32) (p : Params) : Ended × Params :=
  -- a file of another length is used all the same: only `res` says so, which is set again below
  let bootCmd := copiedOver (CmdBoot.endef.bytes shortEnums) (p.mmGet parIdBootCmd (sizeofCmdBoot shortEnums))
  if bootCmd = CmdBoot.stayOn.bytes shortEnums then (.returned true, p)
  else if bootCmd = CmdBoot.launchApp.bytes shortEnums then
    match p.mmGet parIdAppStart 4 with
    | some file =>
      if file.length = 4 then bootJumpToCode chip readAddr32bit p (wordOf file) else (.returned false, p)
    | none =>
      let (res, p) := p.mmSet parIdAppStart (wordFile dfltAppStartAddr)
      (.returned res, p)
  else (.returned false, p)

def bootInit (p : Params) : Bool × Params :=
  match p.mmGet parIdBootCnt 1 with
  | some [bootCnt] =>
    if appLaynchTry < bootCnt then p.mmSet parIdBootCmd (CmdBoot.stayOn.file shortEnums)
    else p.mmSet parIdBootCnt (byteFile (bootCnt + 1))
  | _ => p.mmSet parIdBootCnt (byteFile 0)

end

/-! ### Resets -/

/-- What a reset of the unit finds, and what happens to the other parameters until the next reset. -/
structure Reset where
  chip : Chip
  readAddr32bit : UInt32 → UInt32
  meanwhile : Params → Params
  keeps : ∀ p id, id = parIdBootCnt ∨ id = parIdBootCmd → meanwhile p id = p id

variable (shortEnums : Bool)

/-- One reset: `boot_init`, then `boot_try_app`. -/
def boot (p : Params) (r : Reset) : Ended × Params :=
  bootTryApp shortEnums r.chip r.readAddr32bit (bootInit shortEnums p).2

/-- The parameters at the next reset. -/
def nextReset (p : Params) (r : Reset) : Params := r.meanwhile (boot shortEnums p r).2

/-- The reset launches the application. -/
def Launches (p : Params) (r : Reset) : Prop :=
  ∃ stackTop resetHandler, (boot shortEnums p r).1 = .launched stackTop resetHandler

/-- The stored 8-bit counter of launches. -/
def storedCnt (p : Params) : Option UInt8 :=
  match p parIdBootCnt with
  | some [bootCnt] => some bootCnt
  | _ => none

/-- The stored command is to stay in the boot loader. -/
def StaysOn (p : Params) : Prop := p parIdBootCmd = some (CmdBoot.stayOn.bytes shortEnums)

/-- How many resets may still launch the application. -/
def launchesLeft : Option UInt8 → Nat
  | some bootCnt => appLaynchTry.toNat + 1 - bootCnt.toNat
  | none => appLaynchTry.toNat + 2

/-! ### One reset -/

@[simp] theorem Params.mmSet_self (p : Params) (id : UInt16) (file : MmFile) : (p.mmSet id file).2 id = some file.bytes :=
  if_pos rfl

private theorem Params.mmSet_other (p : Params) {id i : UInt16} (h : i ≠ id) (file : MmFile) :
    (p.mmSet id file).2 i = p i :=
  if_neg h

private theorem storedCnt_congr {p q : Params} (h : p parIdBootCnt = q parIdBootCnt) : storedCnt p = storedCnt q := by
  rw [storedCnt, storedCnt, h]

private theorem storedCnt_some {p : Params} {bootCnt : UInt8} (h : storedCnt p = some bootCnt) :
    p parIdBootCnt = some [bootCnt] := by
  unfold storedCnt at h
  split at h
  · next heq =>
    rw [heq, Option.some.inj h]
  · cases h

private theorem mmGet_cnt {p : Params} {bootCnt : UInt8} :
    p.mmGet parIdBootCnt 1 = some [bootCnt] ↔ storedCnt p = some bootCnt := by
  constructor
  · intro h
    rw [storedCnt, (Option.filter_eq_some_iff.1 h).1]
  · intro h
    rw [Params.mmGet, storedCnt_some h]
    rfl

/-- `boot_init` counts the launch, unless the application seems to hang. -/
private theorem bootInit_some {p : Params} {bootCnt : UInt8} (h : storedCnt p = some bootCnt) :
    bootInit shortEnums p = if appLaynchTry < bootCnt then p.mmSet parIdBootCmd (CmdBoot.stayOn.file shortEnums)
      else p.mmSet parIdBootCnt (byteFile (bootCnt + 1)) := by
  rw [bootInit, mmGet_cnt.2 h]

private theorem bootInit_none {p : Params} (h : storedCnt p = none) :
    bootInit shortEnums p = p.mmSet parIdBootCnt (byteFile 0) := by
  unfold bootInit
  split
  · next heq =>
    rw [mmGet_cnt.1 heq] at h
    cases h
  · rfl

private theorem bootJumpToCode_cnt (chip : Chip) (readAddr32bit : UInt32 → UInt32) (p : Params) (addr : UInt32) :
    (bootJumpToCode chip readAddr32bit p addr).2 parIdBootCnt = p parIdBootCnt := by
  have hcmd : parIdBootCnt ≠ parIdBootCmd := by decide
  unfold bootJumpToCode
  split
  · dsimp only
    split
    · rfl
    · exact p.mmSet_other hcmd (byteFile CmdBoot.stayOn.code)
  · rfl

/-- `boot_try_app` leaves the counter alone. -/
private theorem bootTryApp_cnt (chip : Chip) (readAddr32bit : UInt32 → UInt32) (p : Params) :
    (bootTryApp shortEnums chip readAddr32bit p).2 parIdBootCnt = p parIdBootCnt := by
  have hstart : parIdBootCnt ≠ parIdAppStart := by decide
  unfold bootTryApp
  dsimp only
  split
  · rfl
  · split
    · split
      · split
        · exact bootJumpToCode_cnt chip readAddr32bit p _
        · rfl
      · exact p.mmSet_other hstart (wordFile dfltAppStartAddr)
    · rfl

/-- With the command to stay, `boot_try_app` does nothing. -/
private theorem bootTryApp_staysOn {p : Params} (h : StaysOn shortEnums p) (chip : Chip)
    (readAddr32bit : UInt32 → UInt32) :
    bootTryApp shortEnums chip readAddr32bit p = (.returned true, p) := by
  have hget : p.mmGet parIdBootCmd (sizeofCmdBoot shortEnums) = some (CmdBoot.stayOn.bytes shortEnums) := by
    rw [Params.mmGet, h]
    simp [CmdBoot.bytes_length]
  -- the command fills the variable, whichever size it has
  have hcopied : copiedOver (CmdBoot.endef.bytes shortEnums) (some (CmdBoot.stayOn.bytes shortEnums)) =
      CmdBoot.stayOn.bytes shortEnums := by
    cases shortEnums <;> rfl
  rw [bootTryApp]
  dsimp only
  rw [hget, hcopied, if_pos rfl]

/-! ### The counter -/

/-- What a reset makes of the counter. -/
private theorem nextReset_cnt (p : Params) (r : Reset) : storedCnt (nextReset shortEnums p r) =
    match storedCnt p with
    | some bootCnt => if appLaynchTry < bootCnt then some bootCnt else some (bootCnt + 1)
    | none => some 0 := by
  have hboot : nextReset shortEnums p r parIdBootCnt = (bootInit shortEnums p).2 parIdBootCnt := by
    rw [nextReset, r.keeps _ _ (Or.inl rfl), boot, bootTryApp_cnt]
  rw [storedCnt_congr hboot]
  cases hcnt : storedCnt p with
  | none =>
    rw [bootInit_none shortEnums hcnt, storedCnt, Params.mmSet_self]
    rfl
  | some bootCnt =>
    rw [bootInit_some shortEnums hcnt]
    dsimp only
    split
    · have hother : parIdBootCnt ≠ parIdBootCmd := by decide
      rw [storedCnt_congr (p.mmSet_other hother _), hcnt]
    · rw [storedCnt, Params.mmSet_self]
      rfl

/-- The counter is above the limit: the application seems to hang. -/
def Hangs (p : Params) : Prop := ∃ bootCnt, storedCnt p = some bootCnt ∧ appLaynchTry < bootCnt

theorem Hangs.next {p : Params} (h : Hangs p) (r : Reset) : Hangs (nextReset shortEnums p r) := by
  obtain ⟨bootCnt, hcnt, hlt⟩ := h
  refine ⟨bootCnt, ?_, hlt⟩
  rw [nextReset_cnt, hcnt]
  exact if_pos hlt

theorem Hangs.bootInit {p : Params} (h : Hangs p) : StaysOn shortEnums (bootInit shortEnums p).2 := by
  obtain ⟨bootCnt, hcnt, hlt⟩ := h
  rw [StaysOn, bootInit_some shortEnums hcnt, if_pos hlt]
  exact p.mmSet_self _ _

theorem Hangs.boot {p : Params} (h : Hangs p) (r : Reset) :
    boot shortEnums p r = (.returned true, (Boot.bootInit shortEnums p).2) :=
  bootTryApp_staysOn shortEnums (h.bootInit shortEnums) r.chip r.readAddr32bit

private theorem Hangs.nextReset_staysOn {p : Params} (h : Hangs p) (r : Reset) :
    StaysOn shortEnums (nextReset shortEnums p r) := by
  rw [StaysOn, nextReset, r.keeps _ _ (Or.inr rfl), h.boot]
  exact h.bootInit shortEnums

private theorem Hangs.not_launches {p : Params} (h : Hangs p) (r : Reset) : ¬Launches shortEnums p r := by
  rintro ⟨stackTop, resetHandler, hlaunched⟩
  rw [h.boot] at hlaunched
  cases hlaunched

/-! ### The budget of launches -/

private theorem toNat_succ {bootCnt : UInt8} (h : ¬appLaynchTry < bootCnt) :
    (bootCnt + 1).toNat = bootCnt.toNat + 1 ∧ bootCnt.toNat ≤ appLaynchTry.toNat := by
  have hle : bootCnt.toNat ≤ appLaynchTry.toNat := UInt8.le_iff_toNat_le.1 (UInt8.not_lt.1 h)
  have hlim : appLaynchTry.toNat = 5 := rfl
  refine ⟨?_, hle⟩
  rw [UInt8.toNat_add, UInt8.toNat_one]
  omega

private theorem launchesLeft_le (cnt : Option UInt8) : launchesLeft cnt ≤ appLaynchTry.toNat + 2 := by
  cases cnt with
  | none => exact le_refl _
  | some bootCnt =>
    rw [launchesLeft]
    omega

private theorem launchesLeft_next (p : Params) (r : Reset) :
    launchesLeft (storedCnt (nextReset shortEnums p r)) ≤ launchesLeft (storedCnt p) ∧
      (¬Hangs p → launchesLeft (storedCnt (nextReset shortEnums p r)) < launchesLeft (storedCnt p)) := by
  rw [nextReset_cnt]
  cases hcnt : storedCnt p with
  | none => exact ⟨by decide, fun _ => by decide⟩
  | some bootCnt =>
    dsimp only
    -- above the limit the counter stays
    by_cases hlt : appLaynchTry < bootCnt
    · rw [if_pos hlt]
      exact ⟨le_refl _, fun hnot => absurd ⟨bootCnt, hcnt, hlt⟩ hnot⟩
    · obtain ⟨hsucc, hmax⟩ := toNat_succ hlt
      rw [if_neg hlt, launchesLeft, launchesLeft, hsucc]
      omega

/-- For every content of the store and every sequence of resets: the application is launched at most
`APP_LAYNCH_TRY + 2` times, the counter is incremented up to `APP_LAYNCH_TRY + 1` only, and from the first reset on
that finds it above `APP_LAYNCH_TRY`, the command is to stay and nothing is launched. -/
theorem boot_loop_protected (resets : ℕ → Reset) (p : Params) :
    {n | Launches shortEnums (states (nextReset shortEnums) p resets n) (resets n)}.encard ≤ appLaynchTry.toNat + 2 ∧
    (∀ n bootCnt, storedCnt (states (nextReset shortEnums) p resets n) = some bootCnt →
      ∃ next, storedCnt (states (nextReset shortEnums) p resets (n + 1)) = some next ∧
        (next = bootCnt ∨ next.toNat = bootCnt.toNat + 1 ∧ next.toNat ≤ appLaynchTry.toNat + 1)) ∧
    ∀ n bootCnt, storedCnt (states (nextReset shortEnums) p resets n) = some bootCnt → appLaynchTry < bootCnt →
      ∀ m, n ≤ m →
        StaysOn shortEnums (bootInit shortEnums (states (nextReset shortEnums) p resets m)).2 ∧
        StaysOn shortEnums (states (nextReset shortEnums) p resets (m + 1)) ∧
        ¬Launches shortEnums (states (nextReset shortEnums) p resets m) (resets m) := by
  refine ⟨?_, ?_, ?_⟩
  -- each launch takes one from the budget of the counter
  · have hhits : {n | Launches shortEnums (states (nextReset shortEnums) p resets n) (resets n)}.encard ≤
        launchesLeft (storedCnt p) := by
      apply encard_hits_le fun q => launchesLeft (storedCnt q)
      · intro q r
        exact (launchesLeft_next shortEnums q r).1
      · intro q r hlaunch
        exact (launchesLeft_next shortEnums q r).2 fun hangs => hangs.not_launches shortEnums r hlaunch
    exact hhits.trans (by exact_mod_cast launchesLeft_le (storedCnt p))
  · intro n bootCnt hcnt
    rw [states_succ, nextReset_cnt, hcnt]
    dsimp only
    split
    · exact ⟨bootCnt, rfl, Or.inl rfl⟩
    · next hle =>
      obtain ⟨hsucc, hmax⟩ := toNat_succ hle
      exact ⟨bootCnt + 1, rfl, Or.inr ⟨hsucc, by omega⟩⟩
  · intro n bootCnt hcnt hlt m hnm
    have hangs : Hangs (states (nextReset shortEnums) p resets m) :=
      states_stays (fun q r hq => hq.next shortEnums r) hnm ⟨bootCnt, hcnt, hlt⟩
    exact ⟨hangs.bootInit shortEnums, hangs.nextReset_staysOn shortEnums (resets m),
      hangs.not_launches shortEnums (resets m)⟩

end TiMcu.Boot
