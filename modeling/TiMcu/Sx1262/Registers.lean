import Mathlib.Algebra.GroupWithZero.Nat
import TiMcu.Sx1262.Chip

/-!
# The registers of the radio

Each setting of the radio is a word in one, two or eight registers of the chip, the senior byte first.  The registers
hold a record of settings: what a setter was given is what the getter returns, until the same setter is called again
(`settings_read`).
-/

namespace TiMcu.Sx1262

open Dialog

/-! ### Words -/

private theorem join16_toNat (msb lsb : UInt8) : (join16 msb lsb).toNat = msb.toNat * 256 + lsb.toNat := by
  have hmsb := msb.toNat_lt
  have hlsb : lsb.toNat < 2 ^ 8 := lsb.toNat_lt
  have hor := Nat.shiftLeft_add_eq_or_of_lt hlsb msb.toNat
  rw [Nat.shiftLeft_eq] at hor
  simp only [join16, UInt16.toNat_or, UInt16.toNat_shiftLeft, UInt8.toNat_toUInt16, Nat.shiftLeft_eq]
  rw [show UInt16.toNat 8 % 16 = 8 from rfl, Nat.mod_eq_of_lt (by omega), ← hor]

theorem join16_hi16_lo16 (w : UInt16) : join16 (hi16 w) (lo16 w) = w := by
  apply UInt16.toNat_inj.1
  have hw := w.toNat_lt
  rw [join16_toNat, hi16, lo16, UInt16.toNat_toUInt8, UInt16.toNat_toUInt8, UInt16.toNat_shiftRight,
    Nat.shiftRight_eq_div_pow, show UInt16.toNat 8 % 16 = 8 from rfl]
  omega

private theorem join64_concat (bytes : List UInt8) (b : UInt8) (h : (join64 bytes).toNat < 2 ^ 56) :
    (join64 (bytes ++ [b])).toNat = (join64 bytes).toNat * 256 + b.toNat := by
  have hb : b.toNat < 2 ^ 8 := b.toNat_lt
  have hor := Nat.shiftLeft_add_eq_or_of_lt hb (join64 bytes).toNat
  rw [Nat.shiftLeft_eq] at hor
  have hstep : join64 (bytes ++ [b]) = (join64 bytes <<< 8) ||| b.toUInt64 := by simp [join64]
  rw [hstep, UInt64.toNat_or, UInt64.toNat_shiftLeft, UInt8.toNat_toUInt64, Nat.shiftLeft_eq,
    show UInt64.toNat 8 % 64 = 8 from rfl, Nat.mod_eq_of_lt (by omega), ← hor]

/-- The first bytes of a word are its senior part. -/
private theorem join64_take (w : UInt64) {k : Nat} (hk : k ≤ 8) :
    (join64 ((bytes64 w).take k)).toNat = w.toNat / 2 ^ (8 * (8 - k)) := by
  have hw := w.toNat_lt
  induction k with
  | zero => exact (Nat.div_eq_of_lt hw).symm
  | succ k ih =>
    have hlt : k < (bytes64 w).length := by
      rw [bytes64, List.length_map, List.length_range]
      omega
    have hbyte : (bytes64 w)[k] = (w >>> UInt64.ofNat (8 * (7 - k))).toUInt8 := by simp [bytes64]
    have hshift : (UInt64.ofNat (8 * (7 - k))).toNat % 64 = 8 * (7 - k) := by
      rw [UInt64.toNat_ofNat']
      omega
    have hpow : 2 ^ (8 * (8 - k)) = 2 ^ (8 * (7 - k)) * 256 := by
      rw [show 8 * (8 - k) = 8 * (7 - k) + 8 by omega, Nat.pow_add]
    have hih := ih (by omega)
    rw [hpow, ← Nat.div_div_eq_div_mul] at hih
    rw [List.take_succ_eq_append_getElem hlt, join64_concat, hih, hbyte, UInt64.toNat_toUInt8, UInt64.toNat_shiftRight,
      hshift, Nat.shiftRight_eq_div_pow, show 8 - (k + 1) = 7 - k by omega]
    · exact Nat.div_add_mod' _ _
    · rw [hih]
      have hle := Nat.div_le_self w.toNat (2 ^ (8 * (7 - k)))
      omega

private theorem join64_bytes64 (w : UInt64) : join64 (bytes64 w) = w := by
  apply UInt64.toNat_inj.1
  have h := join64_take w (Nat.le_refl 8)
  rwa [List.take_of_length_le (by simp [bytes64]), Nat.sub_self, Nat.mul_zero, Nat.pow_zero, Nat.div_one] at h

/-! ### One register after the other -/

/-- The registers after writes one after the other. -/
def storeRegs (regs : UInt16 → UInt8) : List (UInt16 × UInt8) → UInt16 → UInt8
  | [] => regs
  | (regAddr, regVal) :: writes => storeRegs (Function.update regs regAddr regVal) writes

private theorem storeRegs_of_notMem {regs : UInt16 → UInt8} {writes : List (UInt16 × UInt8)} {a : UInt16}
    (h : a ∉ writes.map Prod.fst) : storeRegs regs writes a = regs a := by
  induction writes generalizing regs with
  | nil => rfl
  | cons w writes ih =>
    rw [List.map_cons, List.mem_cons, not_or] at h
    rw [storeRegs, ih h.2, Function.update_of_ne h.1]

/-- Different registers hold what was written into them. -/
private theorem map_storeRegs {regs : UInt16 → UInt8} {addrs : List UInt16} {bytes : List UInt8} (hnodup : addrs.Nodup)
    (hlen : addrs.length = bytes.length) : addrs.map (storeRegs regs (addrs.zip bytes)) = bytes := by
  induction addrs generalizing regs bytes with
  | nil => exact (List.length_eq_zero_iff.1 hlen.symm).symm
  | cons a addrs ih =>
    cases bytes with
    | nil => exact absurd hlen (Nat.succ_ne_zero _)
    | cons b bytes =>
      have hlen' : addrs.length = bytes.length := Nat.succ.inj hlen
      obtain ⟨ha, hnodup'⟩ := List.nodup_cons.1 hnodup
      have hfst : a ∉ (addrs.zip bytes).map Prod.fst := by
        rw [List.map_fst_zip (Nat.le_of_eq hlen')]
        exact ha
      rw [List.zip_cons_cons, List.map_cons, storeRegs, storeRegs_of_notMem hfst, Function.update_self, ih hnodup' hlen']

section

variable (c : Chip) (s : State)

private theorem onChip_writeReg (regAddr : UInt16) (regVal : UInt8) :
    onChip (writeReg regAddr regVal).prog c s = (true, s, { c with regs := Function.update c.regs regAddr regVal }) := by
  have hlen : [hi16 regAddr, lo16 regAddr, regVal].length + 1 < 2 * fifoSize := show 3 + 1 < 2 * fifoSize by decide
  have hexec : c.exec opcodeWriteRegister [hi16 regAddr, lo16 regAddr, regVal] =
      { c with regs := Function.update c.regs (Chip.word (hi16 regAddr) (lo16 regAddr)) regVal } := rfl
  rw [writeReg, onChip_command c s _ hlen, hexec, Chip.word, join16_hi16_lo16]

private theorem onChip_writeRegs (writes : List (UInt16 × UInt8)) :
    onChip (writeRegs writes).prog c s = (true, s, { c with regs := storeRegs c.regs writes }) := by
  induction writes generalizing c with
  | nil => rfl
  | cons w writes ih =>
    simp only [writeRegs, Quiet.prog_bind, Quiet.prog_pure, onChip_bind, onChip_pure, onChip_writeReg, ih, storeRegs,
      Bool.and_self]

theorem onChip_readReg (regAddr : UInt16) (regVal : UInt8) :
    ∃ reply, onChip (readReg regAddr regVal) c s = ((true, c.regs regAddr), s, { c with reply := reply }) := by
  have hexec : c.exec opcodeReadRegister [hi16 regAddr, lo16 regAddr] =
      { c with reply := fun i => if i = 1 then c.regs (Chip.word (hi16 regAddr) (lo16 regAddr)) else c.status } := rfl
  rw [Chip.word, join16_hi16_lo16] at hexec
  refine ⟨fun i => if i = 1 then c.regs regAddr else c.status, ?_⟩
  rw [readReg, onChip_withChipSelect, readRegProc]
  simp only [onChip_bind, onChip_askBoard, onChip_pure, Chip.answer, hexec, if_true, Bool.and_self]

private theorem onChip_readRegs (addrs : List UInt16) :
    ∃ reply, onChip (readRegs addrs).prog c s = ((true, addrs.map c.regs), s, { c with reply := reply }) := by
  induction addrs generalizing c with
  | nil => exact ⟨c.reply, rfl⟩
  | cons a addrs ih =>
    obtain ⟨reply, hread⟩ := onChip_readReg c s a 0
    obtain ⟨reply', hrest⟩ := ih { c with reply := reply }
    refine ⟨reply', ?_⟩
    simp only [readRegs, Quiet.prog_bind, Quiet.prog_pure, Quiet.prog_readReg, onChip_bind, onChip_pure, hread, hrest,
      Bool.and_self, List.map_cons]

/-! ### The settings -/

/-- What the registers of the chip are for. -/
structure Settings where
  syncWord : UInt64
  loraSyncWord : UInt16
  crcPoly : UInt16
  crcSeed : UInt16
  rxGain : UInt8
  txModulation : UInt8
  txClampConfig : UInt8

/-- A call of a setter. -/
inductive Setting
  | syncWord (w : UInt64)
  | loraSyncWord (w : UInt16)
  | crcPoly (w : UInt16)
  | crcSeed (w : UInt16)
  | rxGain (b : UInt8)
  | txModulation (b : UInt8)
  | txClampConfig (b : UInt8)

def Setting.set : Setting → Quiet Bool
  | .syncWord w => setSyncWord w
  | .loraSyncWord w => setLoraSyncWord w
  | .crcPoly w => setCrcPoly w
  | .crcSeed w => setCrcSeed w
  | .rxGain b => setRxGain b
  | .txModulation b => setTxModulation b
  | .txClampConfig b => setTxClampConfig b

/-- What the setter is for. -/
def Setting.apply (x : Setting) (v : Settings) : Settings :=
  match x with
  | .syncWord w => { v with syncWord := w }
  | .loraSyncWord w => { v with loraSyncWord := w }
  | .crcPoly w => { v with crcPoly := w }
  | .crcSeed w => { v with crcSeed := w }
  | .rxGain b => { v with rxGain := b }
  | .txModulation b => { v with txModulation := b }
  | .txClampConfig b => { v with txClampConfig := b }

/-- The getters one after the other, with whether all of them succeeded. -/
def readSettings : Quiet (Bool × Settings) := do
  let (res1, syncWord) ← getSyncWord
  let (res2, loraSyncWord) ← getLoraSyncWord
  let (res3, crcPoly) ← getCrcPoly
  let (res4, crcSeed) ← getCrcSeed
  let (res5, rxGain) ← getRxGain 0
  let (res6, txModulation) ← getTxModulation 0
  let (res7, txClampConfig) ← getTxClampConfig 0
  pure (res1 && res2 && res3 && res4 && res5 && res6 && res7,
    { syncWord, loraSyncWord, crcPoly, crcSeed, rxGain, txModulation, txClampConfig })

/-- The registers of a setting. -/
inductive Register
  | syncWord | loraSyncWord | crcPoly | crcSeed | rxGain | txModulation | txClampConfig
  deriving DecidableEq, Repr

/-- The senior byte comes first. -/
def Register.addrs : Register → List UInt16
  | .syncWord => addrSyncWords
  | .loraSyncWord => [addrLoraSyncWordMsb, addrLoraSyncWordLsb]
  | .crcPoly => [addrCrcPolynomialMsb, addrCrcPolynomialLsb]
  | .crcSeed => [addrCrcInitMsb, addrCrcInitLsb]
  | .rxGain => [addrRxGain]
  | .txModulation => [addrTxModulation]
  | .txClampConfig => [addrTxClampConfig]

def Memory.bytes (m : Memory) (r : Register) : List UInt8 := r.addrs.map m.regs

def joinWord (bytes : List UInt8) : UInt16 := join16 (bytes.getD 0 0) (bytes.getD 1 0)

/-- What is in the registers. -/
def Memory.settings (m : Memory) : Settings where
  syncWord := join64 (m.bytes .syncWord)
  loraSyncWord := joinWord (m.bytes .loraSyncWord)
  crcPoly := joinWord (m.bytes .crcPoly)
  crcSeed := joinWord (m.bytes .crcSeed)
  rxGain := (m.bytes .rxGain).headD 0
  txModulation := (m.bytes .txModulation).headD 0
  txClampConfig := (m.bytes .txClampConfig).headD 0

def Setting.register : Setting → Register
  | .syncWord _ => .syncWord
  | .loraSyncWord _ => .loraSyncWord
  | .crcPoly _ => .crcPoly
  | .crcSeed _ => .crcSeed
  | .rxGain _ => .rxGain
  | .txModulation _ => .txModulation
  | .txClampConfig _ => .txClampConfig

/-- What is written into the registers. -/
def Setting.bytes : Setting → List UInt8
  | .syncWord w => bytes64 w
  | .loraSyncWord w | .crcPoly w | .crcSeed w => [hi16 w, lo16 w]
  | .rxGain b | .txModulation b | .txClampConfig b => [b]

private theorem Setting.length_bytes (x : Setting) : x.register.addrs.length = x.bytes.length := by
  cases x with
  | syncWord w => simp [Setting.register, Register.addrs, addrSyncWords, Setting.bytes, bytes64]
  | _ => rfl

private theorem Register.nodup_addrs (r : Register) : r.addrs.Nodup := by
  cases r <;> decide

/-- No register belongs to two settings. -/
private theorem Register.disjoint_addrs {r r' : Register} (h : r ≠ r') : ∀ a ∈ r.addrs, a ∉ r'.addrs := by
  have hall : r.addrs.all (fun a => !r'.addrs.contains a) = true := by
    cases r <;> cases r' <;> first | exact absurd rfl h | rfl
  intro a ha hmem
  have hnone := List.all_eq_true.1 hall a ha
  rw [List.contains_iff_mem.2 hmem] at hnone
  cases hnone

/-- The registers after a setter. -/
def Memory.write (m : Memory) (x : Setting) : Memory :=
  { m with regs := storeRegs m.regs (x.register.addrs.zip x.bytes) }

def Chip.write (c : Chip) (x : Setting) : Chip := { c with toMemory := c.toMemory.write x }

private theorem bytes_write (m : Memory) (x : Setting) (r : Register) :
    (m.write x).bytes r = if r = x.register then x.bytes else m.bytes r := by
  split
  · next h =>
    rw [h]
    exact map_storeRegs x.register.nodup_addrs x.length_bytes
  · next h =>
    refine List.map_congr_left fun a ha => storeRegs_of_notMem ?_
    rw [List.map_fst_zip (Nat.le_of_eq x.length_bytes)]
    exact Register.disjoint_addrs h a ha

/-- A setter changes its own setting and no other. -/
theorem settings_write (m : Memory) (x : Setting) : (m.write x).settings = x.apply m.settings := by
  cases x <;>
    simp [Memory.settings, bytes_write, Setting.register, Setting.apply, Setting.bytes, joinWord, join16_hi16_lo16,
      join64_bytes64]

theorem onChip_set (x : Setting) : onChip x.set.prog c s = (true, s, c.write x) := by
  cases x with
  | syncWord w | loraSyncWord w | crcPoly w | crcSeed w => exact onChip_writeRegs c s _
  | rxGain b | txModulation b | txClampConfig b => exact onChip_writeReg c s _ b

/-! ### Reading back -/

private theorem onChip_getWord (msb lsb : UInt16) :
    ∃ reply, onChip (getWord msb lsb).prog c s =
      ((true, join16 (c.regs msb) (c.regs lsb)), s, { c with reply := reply }) := by
  obtain ⟨reply, hlsb⟩ := onChip_readReg c s lsb 0
  obtain ⟨reply', hmsb⟩ := onChip_readReg { c with reply := reply } s msb 0
  refine ⟨reply', ?_⟩
  simp only [getWord, Quiet.prog_bind, Quiet.prog_pure, Quiet.prog_readReg, onChip_bind, onChip_pure, hlsb, hmsb,
    Bool.and_self]

theorem onChip_getSyncWord :
    ∃ reply, onChip getSyncWord.prog c s = ((true, c.settings.syncWord), s, { c with reply := reply }) := by
  obtain ⟨reply, hregs⟩ := onChip_readRegs c s addrSyncWords
  refine ⟨reply, ?_⟩
  simp only [getSyncWord, Quiet.prog_bind, Quiet.prog_pure, onChip_bind, onChip_pure, hregs]
  rfl

private theorem onChip_readSettings :
    ∃ reply, onChip readSettings.prog c s = ((true, c.settings), s, { c with reply := reply }) := by
  obtain ⟨r1, h1⟩ := onChip_getSyncWord c s
  obtain ⟨r2, h2⟩ := onChip_getWord { c with reply := r1 } s addrLoraSyncWordMsb addrLoraSyncWordLsb
  obtain ⟨r3, h3⟩ := onChip_getWord { c with reply := r2 } s addrCrcPolynomialMsb addrCrcPolynomialLsb
  obtain ⟨r4, h4⟩ := onChip_getWord { c with reply := r3 } s addrCrcInitMsb addrCrcInitLsb
  obtain ⟨r5, h5⟩ := onChip_readReg { c with reply := r4 } s addrRxGain 0
  obtain ⟨r6, h6⟩ := onChip_readReg { c with reply := r5 } s addrTxModulation 0
  obtain ⟨r7, h7⟩ := onChip_readReg { c with reply := r6 } s addrTxClampConfig 0
  refine ⟨r7, ?_⟩
  simp only [readSettings, getLoraSyncWord, getCrcPoly, getCrcSeed, getRxGain, getTxModulation, getTxClampConfig,
    Quiet.prog_bind, Quiet.prog_pure, Quiet.prog_readReg, onChip_bind, onChip_pure, h1, h2, h3, h4, h5, h6, h7,
    Bool.and_self]
  rfl

/-- The setters one after the other, with whether all of them succeeded. -/
def setAll (xs : List Setting) : Quiet Bool := allOf (xs.map Setting.set)

private theorem onChip_setAll (xs : List Setting) : onChip (setAll xs).prog c s = (true, s, xs.foldl Chip.write c) := by
  induction xs generalizing c with
  | nil => rfl
  | cons x xs ih =>
    have hrest := ih (c.write x)
    rw [setAll] at hrest ⊢
    simp only [List.map_cons, allOf, Quiet.prog_bind, Quiet.prog_pure, onChip_bind, onChip_pure, onChip_set, hrest,
      Bool.and_self, List.foldl_cons]

/-- With a chip to which every transfer succeeds, all calls succeed whatever is set in whatever order, and the getters
return what was set last. -/
theorem settings_read (xs : List Setting) :
    (onChip (setAll xs).prog c s).1 = true ∧
      (onChip (do let _ ← setAll xs; readSettings : Quiet _).prog c s).1 =
        (true, xs.foldl (fun v x => x.apply v) c.settings) := by
  have hsettings : (xs.foldl Chip.write c).settings = xs.foldl (fun v x => x.apply v) c.settings := by
    induction xs generalizing c with
    | nil => rfl
    | cons x xs ih =>
      rw [List.foldl_cons, List.foldl_cons, ih, ← settings_write]
      rfl
  rw [Quiet.prog_bind, onChip_bind, onChip_setAll]
  obtain ⟨reply, hread⟩ := onChip_readSettings (xs.foldl Chip.write c) s
  refine ⟨rfl, ?_⟩
  dsimp only
  rw [hread, hsettings]

end

end TiMcu.Sx1262
