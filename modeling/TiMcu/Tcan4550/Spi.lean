import TiMcu.Lib.Dialog
import TiMcu.Tcan4550.Mram

/-!
# Register operations over SPI

The register operations of the CAN controller, `tcan4550_mram_cfg` and `tcan4550_protected_registers_unlock` as programs
of SPI transfers, each of which may fail.

A transfer is given by what it means to the controller: the byte order of addresses and words, which functions outside
of the repository reverse, is left out.  Of a word that is read the answer says what is in the variable afterwards, also
when the transfer failed.  Delays are left out.
-/

namespace TiMcu.Tcan4550

open Dialog

/-! ### Transfers -/

def opCodeRead : BitVec 8 := 0x41
def opCodeWrite : BitVec 8 := 0x61

/-- A call of `spi_write` or `spi_read` with four bytes. -/
inductive Transfer
  | header (opCode : BitVec 8) (address : BitVec 16) (words : BitVec 8)
  | burst (word : BitVec 32)
  | read
  deriving DecidableEq, Repr

structure Answer where
  ok : Bool
  word : BitVec 32
  deriving DecidableEq, Repr

abbrev Bus := Dialog Transfer Answer

def sendSpiHeader (opCode : BitVec 8) (address : BitVec 16) (words : BitVec 8) : Bus Bool := do
  let r ← question (.header opCode address words)
  pure r.ok

def sendSpiBurst (word : BitVec 32) : Bus Bool := do
  let r ← question (.burst word)
  pure r.ok

def spiRead : Bus (Bool × BitVec 32) := do
  let r ← question .read
  pure (r.ok, r.word)

def chipSelect : Bool → Bool
  | true => true
  | false => true

/-- The macro `TCAN4550_CHIP_SELECT`: `res` is set three times. -/
def withChipSelect {α : Type} (callBack : Bus (Bool × α)) : Bus (Bool × α) := do
  let _res := chipSelect true
  let (_res, a) ← callBack
  pure (chipSelect false, a)

/-! ### Registers -/

def readRegProc (address : BitVec 16) : Bus (Bool × BitVec 32) := do
  let res ← sendSpiHeader opCodeRead address 1
  let (ok, readReg) ← spiRead
  pure (ok && res, readReg)

/-- `tcan4550_read_reg`: the result and `*out_reg`; a pointer that is NULL is refused. -/
def readReg (address : BitVec 16) : Bus (Bool × BitVec 32) := withChipSelect (readRegProc address)

def writeRegProc (address : BitVec 16) (regVal : BitVec 32) : Bus (Bool × Unit) := do
  let res ← sendSpiHeader opCodeWrite address 1
  let ok ← sendSpiBurst regVal
  pure (ok && res, ())

def writeReg (address : BitVec 16) (regVal : BitVec 32) : Bus Bool := do
  let (res, _) ← withChipSelect (writeRegProc address regVal)
  pure res

def writeVerifyReg (address : BitVec 16) (regVal : BitVec 32) : Bus Bool := do
  let (_res, _) ← withChipSelect (writeRegProc address regVal)
  let (res, readReg) ← withChipSelect (readRegProc address)
  pure (if readReg = regVal then true else res)

/-! ### The message memory -/

def StdIdFiltCfg.word (r : StdIdFiltCfg) : BitVec 32 := r.rsvd ++ r.lss ++ r.flssa
def ExtIdFiltCfg.word (r : ExtIdFiltCfg) : BitVec 32 := r.rsvd ++ r.lse ++ r.flsea
def RxFifo0Cfg.word (r : RxFifo0Cfg) : BitVec 32 := r.f0om ++ r.f0wm ++ 0#1 ++ r.f0s ++ r.f0sa
def RxFifo1Cfg.word (r : RxFifo1Cfg) : BitVec 32 := r.f10m ++ r.f1wm ++ 0#1 ++ r.f1s ++ r.f1sa
def RxBufCfg.word (r : RxBufCfg) : BitVec 32 := 0#16 ++ r.rbsa
def TxEventFifoCfg.word (r : TxEventFifoCfg) : BitVec 32 := 0#2 ++ r.efwm ++ 0#2 ++ r.efs ++ r.efsa
def TxBufCfg.word (r : TxBufCfg) : BitVec 32 := 0#1 ++ r.tfqm ++ r.tfqs ++ 0#2 ++ r.ndtb ++ r.txBufStartAddr

/-- `old` is the variable before its fields are set. -/
def RxBufFifoElemSzCfg.word (old : BitVec 32) (r : RxBufFifoElemSzCfg) : BitVec 32 :=
  old.extractLsb' 11 21 ++ r.rbds ++ old.extractLsb' 7 1 ++ r.f1ds ++ old.extractLsb' 3 1 ++ r.f0ds

def TxBufElmSzCfg.word (r : TxBufElmSzCfg) : BitVec 32 := 0#29 ++ r.txBuffDataSize

def addrMcanCccr : BitVec 16 := 0x1018
def addrMcanSidfc : BitVec 16 := 0x1084
def addrMcanXidfc : BitVec 16 := 0x1088
def addrMcanRxf0c : BitVec 16 := 0x10A0
def addrMcanRxbc : BitVec 16 := 0x10AC
def addrMcanRxf1c : BitVec 16 := 0x10B0
def addrMcanRxesc : BitVec 16 := 0x10BC
def addrMcanTxbc : BitVec 16 := 0x10C0
def addrMcanTxesc : BitVec 16 := 0x10C8
def addrMcanTxefc : BitVec 16 := 0x10F0

/-- Writes one after the other, each with `res = tcan4550_write_reg(...) && res`. -/
def writeRegs : Bool → List (BitVec 16 × BitVec 32) → Bus Bool
  | res, [] => pure res
  | res, (address, regVal) :: regs => do
    let ok ← writeReg address regVal
    writeRegs (ok && res) regs

section

variable (uint8Limiter : BitVec 8 → BitVec 8 → BitVec 8) (cfg : MramConfig)

/-- The registers of the sections, and the address behind them; no result of a write changes them. -/
def mramLayout (oldSid : StdIdFiltCfg) (oldXid : ExtIdFiltCfg) (m : Mcan) : Mcan × BitVec 16 :=
  let (m, startAddress) := mramSidCfg cfg oldSid m 0
  let (m, startAddress) := mramXidCfg cfg oldXid m startAddress
  let (m, startAddress) := mramFifo0Cfg cfg m startAddress
  let (m, startAddress) := mramFifo1Cfg cfg m startAddress
  let (m, startAddress) := mramRxBuffCfg cfg m startAddress
  let (m, startAddress) := mramTxEventFifoCfg uint8Limiter cfg m startAddress
  mramTxBuffCfg uint8Limiter cfg m startAddress

/-- The writes of the sections. -/
def sectionRegs (m : Mcan) : List (BitVec 16 × BitVec 32) :=
  [(addrMcanSidfc, m.sidfc.word), (addrMcanXidfc, m.xidfc.word), (addrMcanRxf0c, m.rxf0c.word),
    (addrMcanRxf1c, m.rxf1c.word), (addrMcanRxbc, m.rxbc.word), (addrMcanTxefc, m.txefc.word),
    (addrMcanTxbc, m.txbc.word)]

/-- The writes of the element sizes. -/
def elementSizeRegs (oldRxesc : BitVec 32) : List (BitVec 16 × BitVec 32) :=
  [(addrMcanRxesc, RxBufFifoElemSzCfg.word oldRxesc ⟨cfg.rx0ElementSize, cfg.rx1ElementSize, cfg.rxBufElementSize⟩),
    (addrMcanTxesc, TxBufElmSzCfg.word ⟨cfg.txBufferElementSize⟩)]

/-- `tcan4550_mram_cfg` with its transfers. -/
def mramCfgBus (oldSid : StdIdFiltCfg) (oldXid : ExtIdFiltCfg) (oldRxesc : BitVec 32) (m : Mcan) : Bus Bool := do
  let (m, startAddress) := mramLayout uint8Limiter cfg oldSid oldXid m
  let res ← writeRegs true (sectionRegs m)
  let res := if addrMram + mramSz < startAddress.setWidth 32 - 1 then false else res
  if res then writeRegs res (elementSizeRegs cfg oldRxesc) else pure res

end

/-! ### The protected registers -/

structure CcCtrl where
  init : BitVec 1
  cce : BitVec 1
  rom : BitVec 1
  csa : BitVec 1
  csr : BitVec 1
  rest : BitVec 27
  deriving DecidableEq, Repr

def CcCtrl.word (r : CcCtrl) : BitVec 32 := r.rest ++ r.csr ++ r.csa ++ r.rom ++ r.cce ++ r.init

def CcCtrl.ofWord (w : BitVec 32) : CcCtrl where
  init := w.extractLsb' 0 1
  cce := w.extractLsb' 1 1
  rom := w.extractLsb' 2 1
  csa := w.extractLsb' 3 1
  csr := w.extractLsb' 4 1
  rest := w.extractLsb' 5 27

/-- Both bits are set. -/
def CcCtrl.Unlocked (r : CcCtrl) : Prop := r.cce = 1 ∧ r.init = 1

instance (r : CcCtrl) : Decidable r.Unlocked := inferInstanceAs (Decidable (_ ∧ _))

/-- `is_tcan4550_protected_reg_unlock`: the result and `*reg`. -/
def isProtectedRegUnlock (reg : CcCtrl) : Bus (Bool × CcCtrl) := do
  let (res, word) ← readReg addrMcanCccr
  if res then
    let ctrReg := CcCtrl.ofWord word
    pure (decide ctrReg.Unlocked, ctrReg)
  else pure (false, reg)

/-- The loop of `tcan4550_protected_registers_unlock` with that many attempts left. -/
def unlockLoop : Nat → CcCtrl → Bool → Bus Bool
  | 0, _, res => pure res
  | n + 1, ctrReg, _ => do
    let ctrReg := { ctrReg with cce := 1, init := 1 }
    let res ← writeReg addrMcanCccr ctrReg.word
    if res then
      let (res, ctrReg) ← isProtectedRegUnlock ctrReg
      if res then pure true else unlockLoop n ctrReg res
    else unlockLoop n ctrReg res

def protectedRegistersUnlock : Bus Bool := do
  -- the result of this check is set again below before it is looked at
  let (_res, ctrReg) ← isProtectedRegUnlock (CcCtrl.ofWord 0)
  unlockLoop 10 { ctrReg with csa := 0, csr := 0 } false

/-! ### The specification -/

/-- All transfers of a log succeeded. -/
def AllOk (log : List (Transfer × Answer)) : Prop := ∀ x ∈ log, x.2.ok = true

/-- The transfers of the last attempt succeeded, and the register that it read back shows both bits. -/
structure LastAttemptOk (log : List (Transfer × Answer)) : Prop where
  ok : AllOk (log.drop (log.length - 4))
  unlocked : ∃ x ∈ log.getLast?, (CcCtrl.ofWord x.2.word).Unlocked

variable (ω : Nat → Answer)

/-- `true` is returned only when all transfers succeeded; `res` is the returned value in the result. -/
def Reports {α : Type} (res : α → Bool) (p : Bus α) : Prop :=
  res (run stream ω p).result = true → AllOk (run stream ω p).log

/-- `true` is returned only when, besides, the value read back is the one that was written. -/
def VerifyReports (address : BitVec 16) (regVal : BitVec 32) : Prop :=
  (run stream ω (writeVerifyReg address regVal)).result = true →
    AllOk (run stream ω (writeVerifyReg address regVal)).log ∧
      ∃ x ∈ (run stream ω (writeVerifyReg address regVal)).log.getLast?, x.2.word = regVal

def UnlockReports : Prop :=
  (run stream ω protectedRegistersUnlock).result = true → LastAttemptOk (run stream ω protectedRegistersUnlock).log

/-- The first `n` transfers succeed. -/
def FirstOk (n : Nat) : Prop := ∀ k < n, (ω k).ok = true

/-- The register that the attempt with the answers from `ω k` on reads back shows both bits. -/
def Shows (k : Nat) : Prop := (CcCtrl.ofWord (ω (k + 3)).word).Unlocked

/-- The first attempt that shows both bits, if one of the first `n` does, has no transfer that failed. -/
def FirstShownOk (n : Nat) : Prop :=
  ∀ i < n, Shows ω (4 * i) → (∀ j < i, ¬Shows ω (4 * j)) → ∀ k < 4, (ω (4 * i + k)).ok = true

instance (k : Nat) : Decidable (Shows ω k) := inferInstanceAs (Decidable (CcCtrl.Unlocked _))

/-! ### Registers with a sequence of answers -/

private theorem readReg_run (address : BitVec 16) : run stream ω (readReg address) =
    ⟨(true, (ω 1).word), later ω 2, [(.header opCodeRead address 1, ω 0), (.read, ω 1)]⟩ := by
  simp [readReg, withChipSelect, readRegProc, sendSpiHeader, spiRead, chipSelect, stream]

private theorem writeReg_run (address : BitVec 16) (regVal : BitVec 32) : run stream ω (writeReg address regVal) =
    ⟨true, later ω 2, [(.header opCodeWrite address 1, ω 0), (.burst regVal, ω 1)]⟩ := by
  simp [writeReg, withChipSelect, writeRegProc, sendSpiHeader, sendSpiBurst, chipSelect, stream]

private theorem writeVerifyReg_run (address : BitVec 16) (regVal : BitVec 32) :
    run stream ω (writeVerifyReg address regVal) =
    ⟨true, later ω 4, [(.header opCodeWrite address 1, ω 0), (.burst regVal, ω 1),
      (.header opCodeRead address 1, ω 2), (.read, ω 3)]⟩ := by
  simp [writeVerifyReg, withChipSelect, writeRegProc, readRegProc, sendSpiHeader, sendSpiBurst, spiRead, chipSelect,
    stream]

/-- Writes one after the other do not look at their transfers. -/
private theorem writeRegs_run (res : Bool) (regs : List (BitVec 16 × BitVec 32)) :
    ∃ log, run stream ω (writeRegs res regs) = ⟨res, later ω (2 * regs.length), log⟩ ∧
      log.map Prod.snd = first ω (2 * regs.length) := by
  induction regs generalizing ω res with
  | nil => exact ⟨[], by simp [writeRegs], rfl⟩
  | cons r regs ih =>
    obtain ⟨log, hrun, hlog⟩ := ih (later ω 2) (true && res)
    have hlen : 2 * (r :: regs).length = 2 + 2 * regs.length := by
      rw [List.length_cons]
      omega
    refine ⟨(.header opCodeWrite r.1 1, ω 0) :: (.burst r.2, ω 1) :: log, ?_, ?_⟩
    · rw [writeRegs, run_bind, writeReg_run]
      dsimp only
      rw [hrun, later_later, hlen]
      simp
    · rw [hlen, first_add, ← hlog]
      rfl

private theorem allOk_iff {log : List (Transfer × Answer)} {n : Nat} (h : log.map Prod.snd = first ω n) :
    AllOk log ↔ FirstOk ω n := by
  have hall : (∀ r ∈ log.map Prod.snd, r.ok = true) ↔ AllOk log := List.forall_mem_map
  rw [← hall, h]
  exact forall_mem_first

section

variable {uint8Limiter : BitVec 8 → BitVec 8 → BitVec 8}
  (hlimiter : ∀ val max, (uint8Limiter val max).toNat = min val.toNat max.toNat) (cfg : MramConfig)
  (oldSid : StdIdFiltCfg) (oldXid : ExtIdFiltCfg) (m : Mcan)

/-- The registers are those that are programmed when no transfer fails. -/
private theorem mramLayout_eq :
    mramLayout uint8Limiter cfg oldSid oldXid m = behindTxBuf uint8Limiter cfg oldSid oldXid m := rfl

include hlimiter in
/-- The check behind the sections refuses nothing. -/
private theorem mramLayout_fits :
    ¬addrMram + mramSz < (mramLayout uint8Limiter cfg oldSid oldXid m).2.setWidth 32 - 1 := by
  intro hover
  have htrue := (mramCfg_spec hlimiter cfg oldSid oldXid m).1
  rw [mramLayout_eq] at hover
  rw [mramCfg_eq, if_pos hover] at htrue
  exact absurd htrue (by simp)

include hlimiter in
private theorem mramCfgBus_run (oldRxesc : BitVec 32) :
    ∃ log, run stream ω (mramCfgBus uint8Limiter cfg oldSid oldXid oldRxesc m) = ⟨true, later ω 18, log⟩ ∧
      log.map Prod.snd = first ω 18 := by
  obtain ⟨log, hrun, hlog⟩ := writeRegs_run ω true (sectionRegs (mramLayout uint8Limiter cfg oldSid oldXid m).1)
  obtain ⟨log', hrun', hlog'⟩ := writeRegs_run (later ω 14) true (elementSizeRegs cfg oldRxesc)
  have hfits := mramLayout_fits hlimiter cfg oldSid oldXid m
  refine ⟨log ++ log', ?_, ?_⟩
  · rw [mramCfgBus]
    dsimp only
    rw [run_bind, hrun]
    dsimp only
    have hstate : later ω (2 * (sectionRegs (mramLayout uint8Limiter cfg oldSid oldXid m).1).length) = later ω 14 := rfl
    rw [if_neg hfits, if_pos rfl, hstate, hrun']
    simp [elementSizeRegs]
  · rw [List.map_append, hlog, hlog']
    exact (first_add ω 14 4).symm

end

/-! ### The attempts to unlock -/

private theorem isProtectedRegUnlock_run (reg : CcCtrl) : run stream ω (isProtectedRegUnlock reg) =
    ⟨(decide (CcCtrl.ofWord (ω 1).word).Unlocked, CcCtrl.ofWord (ω 1).word), later ω 2,
      [(.header opCodeRead addrMcanCccr 1, ω 0), (.read, ω 1)]⟩ := by
  rw [isProtectedRegUnlock, run_bind, readReg_run]
  simp

/-- One attempt. -/
private theorem unlockLoop_succ (n : Nat) (ctrReg : CcCtrl) (res : Bool) :
    ∃ (next : CcCtrl) (front : List (Transfer × Answer)), front.map Prod.snd = first ω 4 ∧
      run stream ω (unlockLoop (n + 1) ctrReg res) =
        if Shows ω 0 then ⟨true, later ω 4, front⟩
        else
          let o := run stream (later ω 4) (unlockLoop n next false)
          ⟨o.result, o.state, front ++ o.log⟩ := by
  let set := { ctrReg with cce := 1, init := 1 }
  refine ⟨CcCtrl.ofWord (ω 3).word, [(.header opCodeWrite addrMcanCccr 1, ω 0), (.burst set.word, ω 1),
    (.header opCodeRead addrMcanCccr 1, ω 2), (.read, ω 3)], rfl, ?_⟩
  rw [unlockLoop]
  dsimp only
  rw [run_bind, writeReg_run]
  dsimp only
  rw [if_pos rfl, run_bind, isProtectedRegUnlock_run]
  dsimp only
  by_cases hshows : Shows ω 0
  · have hword : (CcCtrl.ofWord (later ω 2 1).word).Unlocked := hshows
    rw [if_pos hshows, decide_eq_true hword, if_pos rfl]
    simp [set]
  · have hword : ¬(CcCtrl.ofWord (later ω 2 1).word).Unlocked := hshows
    rw [if_neg hshows, decide_eq_false hword, if_neg (by decide), later_later]
    rfl

/-- What is wanted of the first attempts, without the first one. -/
private theorem firstShownOk_succ (n : Nat) : FirstShownOk ω (n + 1) ↔
    if Shows ω 0 then FirstOk ω 4 else FirstShownOk (later ω 4) n := by
  have hlater : ∀ i, Shows (later ω 4) (4 * i) ↔ Shows ω (4 * (i + 1)) := by
    intro i
    rw [Shows, Shows, later_apply, show 4 + (4 * i + 3) = 4 * (i + 1) + 3 by omega]
  split
  · next hshows =>
    constructor
    · intro h k hk
      have := h 0 (Nat.succ_pos n) hshows (fun j hj => absurd hj (Nat.not_lt_zero j)) k hk
      rwa [Nat.mul_zero, Nat.zero_add] at this
    · intro h i hi hi' hfirst k hk
      rcases Nat.eq_zero_or_pos i with rfl | hpos
      · rw [Nat.mul_zero, Nat.zero_add]
        exact h k hk
      · exact absurd hshows (hfirst 0 hpos)
  · next hshows =>
    constructor
    · intro h i hi hi' hfirst k hk
      rw [later_apply, show 4 + (4 * i + k) = 4 * (i + 1) + k by omega]
      refine h (i + 1) (by omega) ((hlater i).1 hi') ?_ k hk
      intro j hj
      rcases j with _ | j
      · exact hshows
      · exact fun hj' => hfirst j (by omega) ((hlater j).2 hj')
    · intro h i hi hi' hfirst k hk
      rcases i with _ | i
      · exact absurd hi' hshows
      · have hfirst' : ∀ j < i, ¬Shows (later ω 4) (4 * j) := fun j hj hj' =>
          hfirst (j + 1) (by omega) ((hlater j).1 hj')
        have hok := h i (by omega) ((hlater i).2 hi') hfirst' k hk
        rwa [later_apply, show 4 + (4 * i + k) = 4 * (i + 1) + k by omega] at hok

/-- Behind other transfers the last attempt is the same. -/
private theorem lastAttemptOk_append {front log : List (Transfer × Answer)} (h : 4 ≤ log.length) :
    LastAttemptOk (front ++ log) ↔ LastAttemptOk log := by
  have hdrop : (front ++ log).drop ((front ++ log).length - 4) = log.drop (log.length - 4) := by
    rw [List.length_append, Nat.add_sub_assoc h, List.drop_length_add_append]
  have hlast : (front ++ log).getLast? = log.getLast? := by
    rw [List.getLast?_append_of_ne_nil]
    rintro rfl
    exact absurd h (by decide)
  constructor
  · rintro ⟨hok, hunlocked⟩
    rw [hdrop] at hok
    rw [hlast] at hunlocked
    exact ⟨hok, hunlocked⟩
  · rintro ⟨hok, hunlocked⟩
    rw [← hdrop] at hok
    rw [← hlast] at hunlocked
    exact ⟨hok, hunlocked⟩

/-- A single attempt that shows both bits. -/
private theorem lastAttemptOk_four {front : List (Transfer × Answer)} (hfront : front.map Prod.snd = first ω 4)
    (hshows : Shows ω 0) : LastAttemptOk front ↔ AllOk front := by
  have hlen : front.length = 4 := by
    have hlength := congrArg List.length hfront
    simpa [first] using hlength
  have hlast : (front.map Prod.snd).getLast? = some (ω 3) := by
    rw [hfront]
    rfl
  rw [List.getLast?_map, Option.map_eq_some_iff] at hlast
  obtain ⟨x, hx, hword⟩ := hlast
  have hdrop : front.drop (front.length - 4) = front := by
    rw [hlen]
    rfl
  constructor
  · rintro ⟨hok, -⟩
    rwa [hdrop] at hok
  · intro hok
    exact ⟨by rwa [hdrop], x, hx, by rw [hword]; exact hshows⟩

/-- The attempts report failures of transfers exactly when the first one that shows both bits has none. -/
private theorem unlockLoop_spec (n : Nat) (ctrReg : CcCtrl) :
    let o := run stream ω (unlockLoop n ctrReg false)
    (o.result = true → 4 ≤ o.log.length) ∧ ((o.result = true → LastAttemptOk o.log) ↔ FirstShownOk ω n) := by
  induction n generalizing ω ctrReg with
  | zero =>
    refine ⟨fun h => absurd h (by simp [unlockLoop]), fun _ i hi => absurd hi (Nat.not_lt_zero i), ?_⟩
    exact fun _ h => absurd h (by simp [unlockLoop])
  | succ n ih =>
    obtain ⟨next, front, hfront, hrun⟩ := unlockLoop_succ ω n ctrReg false
    have hlen : front.length = 4 := by
      have hlength := congrArg List.length hfront
      simpa [first] using hlength
    rw [firstShownOk_succ, hrun]
    split
    · next hshows =>
      refine ⟨fun _ => le_of_eq hlen.symm, ?_⟩
      rw [← allOk_iff ω hfront, ← lastAttemptOk_four ω hfront hshows]
      exact ⟨fun h => h rfl, fun h _ => h⟩
    · next hshows =>
      obtain ⟨hlong, hiff⟩ := ih (later ω 4) next
      dsimp only
      refine ⟨fun h => by rw [List.length_append]; have := hlong h; omega, ?_⟩
      rw [← hiff]
      constructor
      · exact fun h htrue => (lastAttemptOk_append (hlong htrue)).1 (h htrue)
      · exact fun h htrue => (lastAttemptOk_append (hlong htrue)).2 (h htrue)

/-- The check before the loop. -/
private theorem protectedRegistersUnlock_run :
    ∃ (ctrReg : CcCtrl) (front : List (Transfer × Answer)), run stream ω protectedRegistersUnlock =
      let o := run stream (later ω 2) (unlockLoop 10 ctrReg false)
      ⟨o.result, o.state, front ++ o.log⟩ := by
  refine ⟨{ CcCtrl.ofWord (ω 1).word with csa := 0, csr := 0 },
    [(.header opCodeRead addrMcanCccr 1, ω 0), (.read, ω 1)], ?_⟩
  rw [protectedRegistersUnlock, run_bind, isProtectedRegUnlock_run]

private theorem unlockReports_iff : UnlockReports ω ↔ FirstShownOk (later ω 2) 10 := by
  obtain ⟨ctrReg, front, hrun⟩ := protectedRegistersUnlock_run ω
  obtain ⟨hlong, hiff⟩ := unlockLoop_spec (later ω 2) 10 ctrReg
  rw [← hiff, UnlockReports, hrun]
  constructor
  · exact fun h htrue => (lastAttemptOk_append (hlong htrue)).1 (h htrue)
  · exact fun h htrue => (lastAttemptOk_append (hlong htrue)).2 (h htrue)

/-! ### When failures are reported -/

/-- A program that returns `true` whatever is answered reports failures only when there are none. -/
private theorem reports_iff {α : Type} {res : α → Bool} {p : Bus α} {n : Nat}
    (hres : res (run stream ω p).result = true)
    (hlog : (run stream ω p).log.map Prod.snd = first ω n) : Reports ω res p ↔ FirstOk ω n := by
  rw [← allOk_iff ω hlog]
  exact ⟨fun h => h hres, fun h _ => h⟩

/-- The operations on registers and the configuration report failures exactly when all their transfers succeed, the
verified write when besides the register reads back as written, and the unlocking when no transfer fails in the first
attempt that shows both bits. -/
theorem reportsFailures_iff (uint8Limiter : BitVec 8 → BitVec 8 → BitVec 8)
    (hlimiter : ∀ val max, (uint8Limiter val max).toNat = min val.toNat max.toNat) (ω : Nat → Answer)
    (address : BitVec 16) (regVal : BitVec 32) (cfg : MramConfig) (oldSid : StdIdFiltCfg) (oldXid : ExtIdFiltCfg)
    (oldRxesc : BitVec 32) (m : Mcan) :
    (Reports ω Prod.fst (readReg address) ↔ FirstOk ω 2) ∧
    (Reports ω id (writeReg address regVal) ↔ FirstOk ω 2) ∧
    (Reports ω id (mramCfgBus uint8Limiter cfg oldSid oldXid oldRxesc m) ↔ FirstOk ω 18) ∧
    (VerifyReports ω address regVal ↔ FirstOk ω 4 ∧ (ω 3).word = regVal) ∧
    (UnlockReports ω ↔ FirstShownOk (later ω 2) 10) := by
  refine ⟨reports_iff ω ?_ ?_, reports_iff ω ?_ ?_, ?_, ?_, unlockReports_iff ω⟩
  · rw [readReg_run]
  · rw [readReg_run]
    rfl
  · rw [writeReg_run]
    rfl
  · rw [writeReg_run]
    rfl
  · obtain ⟨log, hrun, hlog⟩ := mramCfgBus_run ω hlimiter cfg oldSid oldXid m oldRxesc
    exact reports_iff ω (by rw [hrun]; rfl) (by rw [hrun]; exact hlog)
  · have hlog : (run stream ω (writeVerifyReg address regVal)).log.map Prod.snd = first ω 4 := by
      rw [writeVerifyReg_run]
      rfl
    rw [← allOk_iff ω hlog, VerifyReports, writeVerifyReg_run]
    simp

/-- With a controller that always answers, and with both bits set. -/
theorem reportsFailures_iff_answering :
    (Reports (fun _ => ⟨true, 3⟩) Prod.fst (readReg 0x1018) ↔ FirstOk (fun _ => ⟨true, 3⟩) 2) ∧
    (Reports (fun _ => ⟨true, 3⟩) id (writeReg 0x1018 3) ↔ FirstOk (fun _ => ⟨true, 3⟩) 2) ∧
    (Reports (fun _ => ⟨true, 3⟩) id (mramCfgBus cutAt (initConfig 1) ⟨0, 0, 0⟩ ⟨0, 0, 0⟩ 0 resetMcan) ↔
      FirstOk (fun _ => ⟨true, 3⟩) 18) ∧
    (VerifyReports (fun _ => ⟨true, 3⟩) 0x1018 3 ↔ FirstOk (fun _ => ⟨true, 3⟩) 4 ∧ (3 : BitVec 32) = 3) ∧
    (UnlockReports (fun _ => ⟨true, 3⟩) ↔ FirstShownOk (later (fun _ => ⟨true, 3⟩) 2) 10) :=
  reportsFailures_iff cutAt toNat_cutAt (fun _ => ⟨true, 3⟩) 0x1018 3 (initConfig 1) ⟨0, 0, 0⟩ ⟨0, 0, 0⟩ 0 resetMcan

/-- A register is read although no transfer succeeded. -/
theorem readReg_silent : ¬Reports (fun _ => ⟨false, 0⟩) Prod.fst (readReg 0x1018) := by
  intro h
  rw [Reports, readReg_run] at h
  exact absurd (h rfl _ List.mem_cons_self) (by decide)

end TiMcu.Tcan4550
