import Mathlib.Data.BitVec
import TiMcu.Lib.Placement

/-!
# The message memory of the CAN controller

`tcan4550_mram_cfg` and the functions it calls, with all writes over SPI succeeding.  The sections of the message memory
are laid out by one running address.

A register is a union of a word with its fields; here it is its fields.  Variables that are not initialised are
parameters.  `uint8_limiter` is a parameter as well.
-/

namespace TiMcu.Tcan4550

open Placement

/-! ### Data -/

def addrMram : BitVec 32 := 0x8000
def mramSz : BitVec 32 := 2048
def maxNumStdIdFil : Nat := 128
def maxNumExtIdFil : Nat := 64
def maxNumRxFifo0El : Nat := 64
def fifoOpModeOverwrite : BitVec 1 := 1

structure MramConfig where
  sidNumElements : BitVec 8
  xidNumElements : BitVec 7
  rx0NumElements : BitVec 7
  rx0ElementSize : BitVec 3
  rx1NumElements : BitVec 7
  rx1ElementSize : BitVec 3
  rxBufNumElements : BitVec 7
  rxBufElementSize : BitVec 3
  txEventFifoNumElements : BitVec 6
  txBufferNumElements : BitVec 6
  txBufferElementSize : BitVec 3

structure StdIdFiltCfg where
  flssa : BitVec 16
  lss : BitVec 8
  rsvd : BitVec 8

structure ExtIdFiltCfg where
  flsea : BitVec 16
  lse : BitVec 7
  rsvd : BitVec 9

structure RxFifo0Cfg where
  f0sa : BitVec 16
  f0s : BitVec 7
  f0wm : BitVec 7
  f0om : BitVec 1

structure RxFifo1Cfg where
  f1sa : BitVec 16
  f1s : BitVec 7
  f1wm : BitVec 7
  f10m : BitVec 1

structure RxBufCfg where
  rbsa : BitVec 16

structure TxEventFifoCfg where
  efsa : BitVec 16
  efs : BitVec 6
  efwm : BitVec 6

structure TxBufCfg where
  txBufStartAddr : BitVec 16
  ndtb : BitVec 6
  tfqs : BitVec 6
  tfqm : BitVec 1

structure RxBufFifoElemSzCfg where
  f0ds : BitVec 3
  f1ds : BitVec 3
  rbds : BitVec 3

structure TxBufElmSzCfg where
  txBuffDataSize : BitVec 3

/-- The registers of the controller that describe the message memory. -/
structure Mcan where
  sidfc : StdIdFiltCfg
  xidfc : ExtIdFiltCfg
  rxf0c : RxFifo0Cfg
  rxf1c : RxFifo1Cfg
  rxbc : RxBufCfg
  txefc : TxEventFifoCfg
  txbc : TxBufCfg
  rxesc : RxBufFifoElemSzCfg
  txesc : TxBufElmSzCfg

/-! ### Programming the sections -/

/-- The number of data bytes of an element size. -/
def txrxesc2dataBytes (code : BitVec 8) : BitVec 8 :=
  [8, 12, 16, 20, 24, 32, 48, 64].getD (code &&& 7).toNat 0

/-- A number of elements that is cut at a limit. -/
def limited {w : Nat} (max : Nat) (n : BitVec w) : BitVec w := if max < n.toNat then BitVec.ofNat w max else n

section

variable (uint8Limiter : BitVec 8 → BitVec 8 → BitVec 8) (cfg : MramConfig)

/-- The filters of 11-bit identifiers; `old` is the variable before it is set. -/
def mramSidCfg (old : StdIdFiltCfg) (m : Mcan) (startAddress : BitVec 16) : Mcan × BitVec 16 :=
  let lss := limited maxNumStdIdFil cfg.sidNumElements
  ({ m with sidfc := { old with lss := lss, flssa := startAddress } }, startAddress + 4 * lss.setWidth 16)

/-- The filters of 29-bit identifiers; `old` is the variable before it is set. -/
def mramXidCfg (old : ExtIdFiltCfg) (m : Mcan) (startAddress : BitVec 16) : Mcan × BitVec 16 :=
  let lse := limited maxNumExtIdFil cfg.xidNumElements
  let flsea := if 0 < lse then startAddress else old.flsea
  ({ m with xidfc := { old with lse := lse, flsea := flsea } }, startAddress + 8 * lse.setWidth 16)

def mramFifo0Cfg (m : Mcan) (startAddress : BitVec 16) : Mcan × BitVec 16 :=
  let f0s := limited maxNumRxFifo0El cfg.rx0NumElements
  let rxFifo0Cfg : RxFifo0Cfg :=
    if 0 < f0s then ⟨startAddress, f0s, 0, fifoOpModeOverwrite⟩ else ⟨0, f0s, 0, 0⟩
  -- the number of elements stands inside the argument of the conversion
  ({ m with rxf0c := rxFifo0Cfg }, startAddress +
    (txrxesc2dataBytes ((cfg.rx0ElementSize.setWidth 8 + 8) * f0s.setWidth 8)).setWidth 16)

def mramFifo1Cfg (m : Mcan) (startAddress : BitVec 16) : Mcan × BitVec 16 :=
  let f1s := limited 64 cfg.rx1NumElements
  let f1sa := if 0 < f1s then startAddress else 0
  ({ m with rxf1c := ⟨f1sa, f1s, 0, 0⟩ }, startAddress +
    (txrxesc2dataBytes ((cfg.rx1ElementSize.setWidth 8 + 8) * f1s.setWidth 8)).setWidth 16)

def mramRxBuffCfg (m : Mcan) (startAddress : BitVec 16) : Mcan × BitVec 16 :=
  let val := limited 64 cfg.rxBufNumElements
  let rbsa := if 0 < val then startAddress else 0
  ({ m with rxbc := ⟨rbsa⟩ }, startAddress +
    ((txrxesc2dataBytes (cfg.rxBufElementSize.setWidth 8)).setWidth 16 + 8) * val.setWidth 16)

def mramTxEventFifoCfg (m : Mcan) (startAddress : BitVec 16) : Mcan × BitVec 16 :=
  let efs := (uint8Limiter (cfg.txEventFifoNumElements.setWidth 8) 32).setWidth 6
  let efsa := if 0 < efs then startAddress else 0
  ({ m with txefc := ⟨efsa, efs, 0⟩ }, startAddress + 8 * efs.setWidth 16)

def mramTxBuffCfg (m : Mcan) (startAddress : BitVec 16) : Mcan × BitVec 16 :=
  let tfqs := (uint8Limiter (cfg.txBufferNumElements.setWidth 8) 32).setWidth 6
  let txBufStartAddr := if 0 < tfqs then startAddress else 0
  ({ m with txbc := ⟨txBufStartAddr, 0, tfqs, 0⟩ }, startAddress +
    ((txrxesc2dataBytes (cfg.txBufferElementSize.setWidth 8)).setWidth 16 + 8) * tfqs.setWidth 16)

/-- `tcan4550_mram_cfg`. -/
def mramCfg (oldSid : StdIdFiltCfg) (oldXid : ExtIdFiltCfg) (m : Mcan) : Bool × Mcan :=
  let (m, startAddress) := mramSidCfg cfg oldSid m 0
  let (m, startAddress) := mramXidCfg cfg oldXid m startAddress
  let (m, startAddress) := mramFifo0Cfg cfg m startAddress
  let (m, startAddress) := mramFifo1Cfg cfg m startAddress
  let (m, startAddress) := mramRxBuffCfg cfg m startAddress
  let (m, startAddress) := mramTxEventFifoCfg uint8Limiter cfg m startAddress
  let (m, startAddress) := mramTxBuffCfg uint8Limiter cfg m startAddress
  if addrMram + mramSz < startAddress.setWidth 32 - 1 then (false, m)
  else
    (true, { m with
      rxesc := ⟨cfg.rx0ElementSize, cfg.rx1ElementSize, cfg.rxBufElementSize⟩
      txesc := ⟨cfg.txBufferElementSize⟩ })

end

/-! ### The sections -/

/-- The number of data bytes of the elements of a section. -/
def dataBytes (size : BitVec 3) : Nat := (txrxesc2dataBytes (size.setWidth 8)).toNat

/-- The sections that the registers describe, each as long as its elements need.  The number of receive buffers is in no
register. -/
def sections (cfg : MramConfig) (m : Mcan) : List Span :=
  [⟨m.sidfc.flssa.toNat, 4 * m.sidfc.lss.toNat⟩,
    ⟨m.xidfc.flsea.toNat, 8 * m.xidfc.lse.toNat⟩,
    ⟨m.rxf0c.f0sa.toNat, (8 + dataBytes cfg.rx0ElementSize) * m.rxf0c.f0s.toNat⟩,
    ⟨m.rxf1c.f1sa.toNat, (8 + dataBytes cfg.rx1ElementSize) * m.rxf1c.f1s.toNat⟩,
    ⟨m.rxbc.rbsa.toNat, (8 + dataBytes cfg.rxBufElementSize) * (limited 64 cfg.rxBufNumElements).toNat⟩,
    ⟨m.txefc.efsa.toNat, 8 * m.txefc.efs.toNat⟩,
    ⟨m.txbc.txBufStartAddr.toNat, (8 + dataBytes cfg.txBufferElementSize) * m.txbc.tfqs.toNat⟩]

/-- What is wanted of a result: sections that are reported as set up do not overlap and are inside the memory, and
sections that do not fit are refused. -/
structure LayoutOk (cfg : MramConfig) (res : Bool) (m : Mcan) : Prop where
  disjoint : res = true → (sections cfg m).Pairwise Apart
  inside : res = true → ∀ a ∈ sections cfg m, ∀ x, a.Has x → x < mramSz.toNat
  refused : mramSz.toNat < ((sections cfg m).map Span.len).sum → res = false

namespace MramConfig

variable (cfg : MramConfig)

/-! The numbers of elements that are programmed. -/

def sids : Nat := min cfg.sidNumElements.toNat maxNumStdIdFil
def xids : Nat := min cfg.xidNumElements.toNat maxNumExtIdFil
def rx0s : Nat := min cfg.rx0NumElements.toNat maxNumRxFifo0El
def rx1s : Nat := min cfg.rx1NumElements.toNat 64
def rxBufs : Nat := min cfg.rxBufNumElements.toNat 64
def txEvents : Nat := min cfg.txEventFifoNumElements.toNat 32
def txBufs : Nat := min cfg.txBufferNumElements.toNat 32

/-- The bytes of the filters. -/
def filterLen : Nat := 4 * cfg.sids + 8 * cfg.xids

def rx0Len : Nat := (8 + dataBytes cfg.rx0ElementSize) * cfg.rx0s
def rx1Len : Nat := (8 + dataBytes cfg.rx1ElementSize) * cfg.rx1s
def rxBufLen : Nat := (8 + dataBytes cfg.rxBufElementSize) * cfg.rxBufs
def txEventLen : Nat := 8 * cfg.txEvents
def txBufLen : Nat := (8 + dataBytes cfg.txBufferElementSize) * cfg.txBufs

/-- The bytes of the sections behind the two receive FIFOs. -/
def behindLen : Nat := cfg.rxBufLen + cfg.txEventLen + cfg.txBufLen

/-- The bytes that are skipped for the receive FIFOs without elements. -/
def skipped : Nat :=
  if 0 < cfg.rx0s then 0
  else if 0 < cfg.rx1s then 8
  else if 0 < cfg.behindLen then 16
  else 0

/-- The configurations that are laid out well. -/
structure Fits : Prop where
  /-- Nothing but filters goes with receive FIFO 1. -/
  fifo1 : 0 < cfg.rx1s → cfg.rx0s = 0 ∧ cfg.behindLen = 0
  /-- With receive FIFO 0, nothing comes behind it, or it has one element, or two of 20 bytes. -/
  fifo0 : 0 < cfg.rx0s → cfg.behindLen = 0 ∨ cfg.rx0s = 1 ∨ cfg.rx0s = 2 ∧ cfg.rx0ElementSize = 3
  room : cfg.filterLen + cfg.rx0Len + cfg.rx1Len + cfg.behindLen + cfg.skipped ≤ mramSz.toNat

end MramConfig

/-! ### The advance of the receive FIFOs -/

/-- How far the address is advanced for a receive FIFO. -/
def fifoAdvance (size : BitVec 3) (n : BitVec 7) : Nat :=
  (txrxesc2dataBytes ((size.setWidth 8 + 8) * n.setWidth 8)).toNat

/-- The advance never covers a receive FIFO with elements; with the eight bytes of an empty FIFO behind it, it covers
one element, or two of 20 bytes, to the byte. -/
private theorem fifoAdvance_spec : ∀ size : BitVec 3, ∀ n : BitVec 7, n.toNat ≤ 64 →
    if 0 < n.toNat then fifoAdvance size n + 8 ≤ (8 + dataBytes size) * n.toNat ∧
      ((8 + dataBytes size) * n.toNat = fifoAdvance size n + 8 ↔ n.toNat = 1 ∨ n.toNat = 2 ∧ size = 3)
    else fifoAdvance size n = 8 := by
  decide +kernel

theorem dataBytes_le : ∀ size : BitVec 3, dataBytes size ≤ 64 := by decide

private theorem toNat_limited {w max : Nat} (hmax : max < 2 ^ w) (n : BitVec w) :
    (limited max n).toNat = min n.toNat max := by
  unfold limited
  split
  · next hlt =>
    rw [BitVec.toNat_ofNat, Nat.mod_eq_of_lt hmax, Nat.min_eq_right hlt.le]
  · next hle => exact (Nat.min_eq_left (Nat.not_lt.1 hle)).symm

/-! ### The running address -/

theorem toNat_advance {a b : BitVec 16} {x y : Nat} (ha : a.toNat = x) (hb : b.toNat = y) (h : x + y < 2 ^ 16) :
    (a + b).toNat = x + y := by
  rw [BitVec.toNat_add, ha, hb, Nat.mod_eq_of_lt h]

theorem toNat_elements {k n : BitVec 16} {x y : Nat} (hk : k.toNat = x) (hn : n.toNat = y) (h : x * y < 2 ^ 16) :
    (k * n).toNat = x * y := by
  rw [BitVec.toNat_mul, hk, hn, Nat.mod_eq_of_lt h]

theorem toNat_widened {w : Nat} (hw : w ≤ 16) (n : BitVec w) : (n.setWidth 16).toNat = n.toNat :=
  BitVec.toNat_setWidth_of_le hw

private theorem toNat_elementSize (size : BitVec 3) :
    ((txrxesc2dataBytes (size.setWidth 8)).setWidth 16 + 8).toNat = 8 + dataBytes size := by
  have hle := dataBytes_le size
  have hwide : ((txrxesc2dataBytes (size.setWidth 8)).setWidth 16).toNat = dataBytes size := toNat_widened (by decide) _
  rw [toNat_advance hwide rfl (by change dataBytes size + 8 < 2 ^ 16; omega), Nat.add_comm]
  rfl

/-- The start of a section is the running address when the section has elements. -/
private theorem toNat_start {w : Nat} {n : BitVec w} {s old : BitVec 16} {x k : Nat} (hs : s.toNat = x)
    (hpos : 0 < k * n.toNat) : (if 0 < n then s else old).toNat = x := by
  have hzero : (0 : BitVec w).toNat = 0 := BitVec.toNat_zero
  have hn : 0 < n := by
    rw [BitVec.lt_def, hzero]
    exact Nat.pos_of_mul_pos_left hpos
  rw [if_pos hn, hs]

/-! ### One function after the other -/

section

variable (cfg : MramConfig) (m : Mcan) {s : BitVec 16} {x : Nat}

private theorem mramSidCfg_spec (old : StdIdFiltCfg) (hs : s.toNat = x) (hx : x + 4 * cfg.sids < 2 ^ 16) :
    Alike ⟨(mramSidCfg cfg old m s).1.sidfc.flssa.toNat, 4 * (mramSidCfg cfg old m s).1.sidfc.lss.toNat⟩
      ⟨x, 4 * cfg.sids⟩ ∧ (mramSidCfg cfg old m s).2.toNat = x + 4 * cfg.sids := by
  have hn : (limited maxNumStdIdFil cfg.sidNumElements).toNat = cfg.sids := toNat_limited (by decide) _
  have hwide : ((limited maxNumStdIdFil cfg.sidNumElements).setWidth 16).toNat = cfg.sids :=
    (toNat_widened (by decide) _).trans hn
  have hlen : ((4 : BitVec 16) * (limited maxNumStdIdFil cfg.sidNumElements).setWidth 16).toNat = 4 * cfg.sids :=
    toNat_elements rfl hwide (by omega)
  exact ⟨⟨congrArg (4 * ·) hn, fun _ => hs⟩, toNat_advance hs hlen hx⟩

private theorem mramXidCfg_spec (old : ExtIdFiltCfg) (hs : s.toNat = x) (hx : x + 8 * cfg.xids < 2 ^ 16) :
    Alike ⟨(mramXidCfg cfg old m s).1.xidfc.flsea.toNat, 8 * (mramXidCfg cfg old m s).1.xidfc.lse.toNat⟩
      ⟨x, 8 * cfg.xids⟩ ∧ (mramXidCfg cfg old m s).2.toNat = x + 8 * cfg.xids := by
  have hn : (limited maxNumExtIdFil cfg.xidNumElements).toNat = cfg.xids := toNat_limited (by decide) _
  have hwide : ((limited maxNumExtIdFil cfg.xidNumElements).setWidth 16).toNat = cfg.xids :=
    (toNat_widened (by decide) _).trans hn
  have hlen : ((8 : BitVec 16) * (limited maxNumExtIdFil cfg.xidNumElements).setWidth 16).toNat = 8 * cfg.xids :=
    toNat_elements rfl hwide (by omega)
  exact ⟨⟨congrArg (8 * ·) hn, fun hpos => toNat_start hs hpos⟩, toNat_advance hs hlen hx⟩

private theorem mramFifo0Cfg_spec (hs : s.toNat = x)
    (hx : x + fifoAdvance cfg.rx0ElementSize (limited maxNumRxFifo0El cfg.rx0NumElements) < 2 ^ 16) :
    Alike ⟨(mramFifo0Cfg cfg m s).1.rxf0c.f0sa.toNat,
        (8 + dataBytes cfg.rx0ElementSize) * (mramFifo0Cfg cfg m s).1.rxf0c.f0s.toNat⟩ ⟨x, cfg.rx0Len⟩ ∧
      (mramFifo0Cfg cfg m s).2.toNat =
        x + fifoAdvance cfg.rx0ElementSize (limited maxNumRxFifo0El cfg.rx0NumElements) := by
  have hn : (limited maxNumRxFifo0El cfg.rx0NumElements).toNat = cfg.rx0s := toNat_limited (by decide) _
  have hregs : (mramFifo0Cfg cfg m s).1.rxf0c.f0s = limited maxNumRxFifo0El cfg.rx0NumElements ∧
      (mramFifo0Cfg cfg m s).1.rxf0c.f0sa = if 0 < limited maxNumRxFifo0El cfg.rx0NumElements then s else 0 := by
    unfold mramFifo0Cfg
    dsimp only
    split <;> exact ⟨rfl, rfl⟩
  rw [hregs.1, hregs.2]
  exact ⟨⟨congrArg ((8 + dataBytes cfg.rx0ElementSize) * ·) hn, fun hpos => toNat_start hs hpos⟩,
    toNat_advance hs (toNat_widened (by decide) _) hx⟩

private theorem mramFifo1Cfg_spec (hs : s.toNat = x)
    (hx : x + fifoAdvance cfg.rx1ElementSize (limited 64 cfg.rx1NumElements) < 2 ^ 16) :
    Alike ⟨(mramFifo1Cfg cfg m s).1.rxf1c.f1sa.toNat,
        (8 + dataBytes cfg.rx1ElementSize) * (mramFifo1Cfg cfg m s).1.rxf1c.f1s.toNat⟩ ⟨x, cfg.rx1Len⟩ ∧
      (mramFifo1Cfg cfg m s).2.toNat = x + fifoAdvance cfg.rx1ElementSize (limited 64 cfg.rx1NumElements) := by
  have hn : (limited 64 cfg.rx1NumElements).toNat = cfg.rx1s := toNat_limited (by decide) _
  exact ⟨⟨congrArg ((8 + dataBytes cfg.rx1ElementSize) * ·) hn, fun hpos => toNat_start hs hpos⟩,
    toNat_advance hs (toNat_widened (by decide) _) hx⟩

private theorem mramRxBuffCfg_spec (hs : s.toNat = x) (hx : x + cfg.rxBufLen < 2 ^ 16) :
    Alike ⟨(mramRxBuffCfg cfg m s).1.rxbc.rbsa.toNat,
        (8 + dataBytes cfg.rxBufElementSize) * (limited 64 cfg.rxBufNumElements).toNat⟩ ⟨x, cfg.rxBufLen⟩ ∧
      (mramRxBuffCfg cfg m s).2.toNat = x + cfg.rxBufLen := by
  have hn : (limited 64 cfg.rxBufNumElements).toNat = cfg.rxBufs := toNat_limited (by decide) _
  have hwide : ((limited 64 cfg.rxBufNumElements).setWidth 16).toNat = cfg.rxBufs :=
    (toNat_widened (by decide) _).trans hn
  have hlen := toNat_elements (toNat_elementSize cfg.rxBufElementSize) hwide
    (lt_of_le_of_lt (Nat.le_add_left _ _) hx)
  exact ⟨⟨congrArg ((8 + dataBytes cfg.rxBufElementSize) * ·) hn, fun hpos => toNat_start hs hpos⟩,
    toNat_advance hs hlen hx⟩

variable {uint8Limiter : BitVec 8 → BitVec 8 → BitVec 8} 
  (hlimiter : ∀ val max, (uint8Limiter val max).toNat = min val.toNat max.toNat)

include hlimiter in
theorem toNat_limiter (n : BitVec 6) :
    ((uint8Limiter (n.setWidth 8) 32).setWidth 6).toNat = min n.toNat 32 := by
  have hn := n.isLt
  have hwide : (n.setWidth 8).toNat = n.toNat := BitVec.toNat_setWidth_of_le (by decide)
  have hmax : (32 : BitVec 8).toNat = 32 := rfl
  rw [BitVec.toNat_setWidth, hlimiter, hwide, hmax]
  omega

include hlimiter in
private theorem mramTxEventFifoCfg_spec (hs : s.toNat = x) (hx : x + cfg.txEventLen < 2 ^ 16) :
    Alike ⟨(mramTxEventFifoCfg uint8Limiter cfg m s).1.txefc.efsa.toNat,
        8 * (mramTxEventFifoCfg uint8Limiter cfg m s).1.txefc.efs.toNat⟩ ⟨x, cfg.txEventLen⟩ ∧
      (mramTxEventFifoCfg uint8Limiter cfg m s).2.toNat = x + cfg.txEventLen := by
  have hn : ((uint8Limiter (cfg.txEventFifoNumElements.setWidth 8) 32).setWidth 6).toNat = cfg.txEvents :=
    toNat_limiter hlimiter _
  have hwide : (((uint8Limiter (cfg.txEventFifoNumElements.setWidth 8) 32).setWidth 6).setWidth 16).toNat =
      cfg.txEvents := (toNat_widened (by decide) _).trans hn
  have hlen := toNat_elements (k := (8 : BitVec 16)) rfl hwide (lt_of_le_of_lt (Nat.le_add_left _ _) hx)
  exact ⟨⟨congrArg (8 * ·) hn, fun hpos => toNat_start hs hpos⟩, toNat_advance hs hlen hx⟩

include hlimiter in
private theorem mramTxBuffCfg_spec (hs : s.toNat = x) (hx : x + cfg.txBufLen < 2 ^ 16) :
    Alike ⟨(mramTxBuffCfg uint8Limiter cfg m s).1.txbc.txBufStartAddr.toNat,
        (8 + dataBytes cfg.txBufferElementSize) * (mramTxBuffCfg uint8Limiter cfg m s).1.txbc.tfqs.toNat⟩
        ⟨x, cfg.txBufLen⟩ ∧
      (mramTxBuffCfg uint8Limiter cfg m s).2.toNat = x + cfg.txBufLen := by
  have hn : ((uint8Limiter (cfg.txBufferNumElements.setWidth 8) 32).setWidth 6).toNat = cfg.txBufs :=
    toNat_limiter hlimiter _
  have hwide : (((uint8Limiter (cfg.txBufferNumElements.setWidth 8) 32).setWidth 6).setWidth 16).toNat =
      cfg.txBufs := (toNat_widened (by decide) _).trans hn
  have hlen := toNat_elements (toNat_elementSize cfg.txBufferElementSize) hwide
    (lt_of_le_of_lt (Nat.le_add_left _ _) hx)
  exact ⟨⟨congrArg ((8 + dataBytes cfg.txBufferElementSize) * ·) hn, fun hpos => toNat_start hs hpos⟩,
    toNat_advance hs hlen hx⟩

end

/-! ### The layout -/

namespace MramConfig

variable (cfg : MramConfig)

def rx0Advance : Nat := fifoAdvance cfg.rx0ElementSize (limited maxNumRxFifo0El cfg.rx0NumElements)
def rx1Advance : Nat := fifoAdvance cfg.rx1ElementSize (limited 64 cfg.rx1NumElements)

/-- The sections with their advances. -/
def slots : List Slot :=
  [⟨4 * cfg.sids, 4 * cfg.sids⟩, ⟨8 * cfg.xids, 8 * cfg.xids⟩, ⟨cfg.rx0Len, cfg.rx0Advance⟩,
    ⟨cfg.rx1Len, cfg.rx1Advance⟩, ⟨cfg.rxBufLen, cfg.rxBufLen⟩, ⟨cfg.txEventLen, cfg.txEventLen⟩,
    ⟨cfg.txBufLen, cfg.txBufLen⟩]

private theorem elementsLen_le (size : BitVec 3) {n k : Nat} (hn : n ≤ k) : (8 + dataBytes size) * n ≤ 72 * k :=
  Nat.mul_le_mul (Nat.add_le_add_left (dataBytes_le size) 8) hn

private theorem advance_bounds (size : BitVec 3) (n : BitVec 7) : 8 ≤ fifoAdvance size n ∧ fifoAdvance size n ≤ 64 := by
  have htable : ∀ code : BitVec 8, 8 ≤ (txrxesc2dataBytes code).toNat ∧ (txrxesc2dataBytes code).toNat ≤ 64 := by
    decide +kernel
  exact htable _

private theorem txBufLen_le : cfg.txBufLen ≤ 2304 := elementsLen_le cfg.txBufferElementSize (Nat.min_le_right _ 32)

private theorem rxBufLen_le : cfg.rxBufLen ≤ 4608 := elementsLen_le cfg.rxBufElementSize (Nat.min_le_right _ 64)

private theorem txEventLen_le : cfg.txEventLen ≤ 256 := Nat.mul_le_mul_left 8 (Nat.min_le_right _ 32)

private theorem filters_le : 4 * cfg.sids ≤ 512 ∧ 8 * cfg.xids ≤ 512 :=
  ⟨Nat.mul_le_mul_left 4 (Nat.min_le_right _ 128), Nat.mul_le_mul_left 8 (Nat.min_le_right _ 64)⟩

end MramConfig

section

variable {uint8Limiter : BitVec 8 → BitVec 8 → BitVec 8}
  (hlimiter : ∀ val max, (uint8Limiter val max).toNat = min val.toNat max.toNat)
  (cfg : MramConfig) (oldSid : StdIdFiltCfg) (oldXid : ExtIdFiltCfg) (m : Mcan)

/-! The registers and the running address behind the sections. -/

def behindSid : Mcan × BitVec 16 := mramSidCfg cfg oldSid m 0
def behindXid : Mcan × BitVec 16 := mramXidCfg cfg oldXid (behindSid cfg oldSid m).1 (behindSid cfg oldSid m).2
def behindRx0 : Mcan × BitVec 16 :=
  mramFifo0Cfg cfg (behindXid cfg oldSid oldXid m).1 (behindXid cfg oldSid oldXid m).2
def behindRx1 : Mcan × BitVec 16 :=
  mramFifo1Cfg cfg (behindRx0 cfg oldSid oldXid m).1 (behindRx0 cfg oldSid oldXid m).2
def behindRxBuf : Mcan × BitVec 16 :=
  mramRxBuffCfg cfg (behindRx1 cfg oldSid oldXid m).1 (behindRx1 cfg oldSid oldXid m).2

variable (uint8Limiter) in
def behindTxEvent : Mcan × BitVec 16 :=
  mramTxEventFifoCfg uint8Limiter cfg (behindRxBuf cfg oldSid oldXid m).1 (behindRxBuf cfg oldSid oldXid m).2

variable (uint8Limiter) in
def behindTxBuf : Mcan × BitVec 16 :=
  mramTxBuffCfg uint8Limiter cfg (behindTxEvent uint8Limiter cfg oldSid oldXid m).1
    (behindTxEvent uint8Limiter cfg oldSid oldXid m).2

theorem mramCfg_eq : mramCfg uint8Limiter cfg oldSid oldXid m =
    if addrMram + mramSz < (behindTxBuf uint8Limiter cfg oldSid oldXid m).2.setWidth 32 - 1 then
      (false, (behindTxBuf uint8Limiter cfg oldSid oldXid m).1)
    else
      (true, { (behindTxBuf uint8Limiter cfg oldSid oldXid m).1 with
        rxesc := ⟨cfg.rx0ElementSize, cfg.rx1ElementSize, cfg.rxBufElementSize⟩
        txesc := ⟨cfg.txBufferElementSize⟩ }) := rfl

include hlimiter in
/-- The registers describe the layout from address 0 on, and the check at the end never refuses it. -/
theorem mramCfg_spec : (mramCfg uint8Limiter cfg oldSid oldXid m).1 = true ∧
    List.Forall₂ Alike (sections cfg (mramCfg uint8Limiter cfg oldSid oldXid m).2) (place 0 cfg.slots) := by
  obtain ⟨hsids, hxids⟩ := cfg.filters_le
  obtain ⟨hmin0, hmax0⟩ : 8 ≤ cfg.rx0Advance ∧ cfg.rx0Advance ≤ 64 := MramConfig.advance_bounds _ _
  obtain ⟨hmin1, hmax1⟩ : 8 ≤ cfg.rx1Advance ∧ cfg.rx1Advance ≤ 64 := MramConfig.advance_bounds _ _
  have hbuf := cfg.rxBufLen_le
  have hevent := cfg.txEventLen_le
  have htx := cfg.txBufLen_le
  have h0 : (0 : BitVec 16).toNat = 0 := rfl
  obtain ⟨hsid, h1⟩ := mramSidCfg_spec cfg m oldSid h0 (by omega)
  obtain ⟨hxid, h2⟩ := mramXidCfg_spec cfg (behindSid cfg oldSid m).1 oldXid h1 (by omega)
  obtain ⟨hrx0, h3⟩ := mramFifo0Cfg_spec cfg (behindXid cfg oldSid oldXid m).1 h2
    (show _ + cfg.rx0Advance < 2 ^ 16 by omega)
  change _ = _ + cfg.rx0Advance at h3
  obtain ⟨hrx1, h4⟩ := mramFifo1Cfg_spec cfg (behindRx0 cfg oldSid oldXid m).1 h3
    (show _ + cfg.rx1Advance < 2 ^ 16 by omega)
  change _ = _ + cfg.rx1Advance at h4
  obtain ⟨hrxBuf, h5⟩ := mramRxBuffCfg_spec cfg (behindRx1 cfg oldSid oldXid m).1 h4 (by omega)
  obtain ⟨htxEvent, h6⟩ := mramTxEventFifoCfg_spec cfg (behindRxBuf cfg oldSid oldXid m).1 hlimiter h5 (by omega)
  obtain ⟨htxBuf, h7⟩ := mramTxBuffCfg_spec cfg (behindTxEvent uint8Limiter cfg oldSid oldXid m).1 hlimiter h6
    (by omega)
  have hcheck : ¬addrMram + mramSz < (behindTxBuf uint8Limiter cfg oldSid oldXid m).2.setWidth 32 - 1 := by
    change (behindTxBuf uint8Limiter cfg oldSid oldXid m).2.toNat = _ at h7
    have hwide : ((behindTxBuf uint8Limiter cfg oldSid oldXid m).2.setWidth 32).toNat =
        (behindTxBuf uint8Limiter cfg oldSid oldXid m).2.toNat := BitVec.toNat_setWidth_of_le (by decide)
    have hlimit : (addrMram + mramSz).toNat = 34816 := rfl
    have hone : (1 : BitVec 32).toNat = 1 := rfl
    rw [BitVec.lt_def, BitVec.toNat_sub, hwide, hlimit, hone, h7]
    omega
  rw [mramCfg_eq, if_neg hcheck]
  refine ⟨rfl, ?_⟩
  exact .cons hsid (.cons hxid (.cons hrx0 (.cons hrx1 (.cons hrxBuf (.cons htxEvent (.cons htxBuf .nil))))))

end

namespace MramConfig

variable (cfg : MramConfig)

private theorem fifo_facts (size : BitVec 3) (numElements : BitVec 7) {max n : Nat} (hmax : max ≤ 64)
    (hn : min numElements.toNat max = n) :
    (n = 0 ∧ (8 + dataBytes size) * n = 0 ∧ fifoAdvance size (limited max numElements) = 8) ∨
    (0 < n ∧ fifoAdvance size (limited max numElements) + 8 ≤ (8 + dataBytes size) * n ∧
      ((8 + dataBytes size) * n = fifoAdvance size (limited max numElements) + 8 ↔ n = 1 ∨ n = 2 ∧ size = 3)) := by
  have hn : (limited max numElements).toNat = n := (toNat_limited (by omega) _).trans hn
  have hle : n ≤ 64 := by omega
  have hspec := fifoAdvance_spec size (limited max numElements) (hn ▸ hle)
  rw [hn] at hspec
  split at hspec
  · next hpos => exact Or.inr ⟨hpos, hspec⟩
  · next hzero =>
    have hnone : n = 0 := Nat.eq_zero_of_not_pos hzero
    exact Or.inl ⟨hnone, by rw [hnone, Nat.mul_zero], hspec⟩

private theorem rx0_facts : (cfg.rx0s = 0 ∧ cfg.rx0Len = 0 ∧ cfg.rx0Advance = 8) ∨
    (0 < cfg.rx0s ∧ cfg.rx0Advance + 8 ≤ cfg.rx0Len ∧
      (cfg.rx0Len = cfg.rx0Advance + 8 ↔ cfg.rx0s = 1 ∨ cfg.rx0s = 2 ∧ cfg.rx0ElementSize = 3)) :=
  fifo_facts cfg.rx0ElementSize cfg.rx0NumElements (by decide) rfl

private theorem rx1_facts : (cfg.rx1s = 0 ∧ cfg.rx1Len = 0 ∧ cfg.rx1Advance = 8) ∨
    (0 < cfg.rx1s ∧ cfg.rx1Advance + 8 ≤ cfg.rx1Len) :=
  (fifo_facts cfg.rx1ElementSize cfg.rx1NumElements (le_refl 64) rfl).imp_right fun h => ⟨h.1, h.2.1⟩

/-- Only the receive FIFOs can reach into what follows. -/
private theorem separated_slots_iff : Separated cfg.slots ↔
    (0 < cfg.rx0Len → (0 < cfg.rx1Len → cfg.rx0Len ≤ cfg.rx0Advance) ∧
      (cfg.rx1Len = 0 → 0 < cfg.behindLen → cfg.rx0Len ≤ cfg.rx0Advance + cfg.rx1Advance)) ∧
    (0 < cfg.rx1Len → 0 < cfg.behindLen → cfg.rx1Len ≤ cfg.rx1Advance) := by
  have hbehind : [cfg.rxBufLen, cfg.txEventLen, cfg.txBufLen].sum = cfg.behindLen := by
    simp [behindLen, Nat.add_assoc]
  have hgap := gap_exact [cfg.rxBufLen, cfg.txEventLen, cfg.txBufLen]
  have hexact := separated_exact [cfg.rxBufLen, cfg.txEventLen, cfg.txBufLen]
  rw [hbehind] at hgap
  have hslots : cfg.slots = ⟨4 * cfg.sids, 4 * cfg.sids⟩ :: ⟨8 * cfg.xids, 8 * cfg.xids⟩ ::
      ⟨cfg.rx0Len, cfg.rx0Advance⟩ :: ⟨cfg.rx1Len, cfg.rx1Advance⟩ ::
      [cfg.rxBufLen, cfg.txEventLen, cfg.txBufLen].map fun n => ⟨n, n⟩ := rfl
  rw [hslots, separated_cons_of_le (Nat.le_refl _), separated_cons_of_le (Nat.le_refl _), Separated, Separated, gap,
    hgap, and_iff_left hexact]
  by_cases hrx1 : 0 < cfg.rx1Len
  · by_cases hpos : 0 < cfg.behindLen <;> simp [hrx1, hpos, hrx1.ne']
  · by_cases hpos : 0 < cfg.behindLen <;> simp [hpos, Nat.eq_zero_of_not_pos hrx1]

private theorem inside_slots_iff : (∀ b ∈ place 0 cfg.slots, 0 < b.len → b.start + b.len ≤ mramSz.toNat) ↔
    (0 < cfg.rx0Len → cfg.filterLen + cfg.rx0Len ≤ mramSz.toNat) ∧
    (0 < cfg.rx1Len → cfg.filterLen + cfg.rx0Advance + cfg.rx1Len ≤ mramSz.toNat) ∧
    (0 < cfg.behindLen → cfg.filterLen + cfg.rx0Advance + cfg.rx1Advance + cfg.behindLen ≤ mramSz.toNat) := by
  have hsize : mramSz.toNat = 2048 := rfl
  obtain ⟨hsids, hxids⟩ := cfg.filters_le
  simp only [slots, place, List.forall_mem_cons, List.not_mem_nil, false_implies, implies_true, and_true, filterLen,
    behindLen]
  omega

private theorem slots_sum : ((place 0 cfg.slots).map Span.len).sum =
    cfg.filterLen + cfg.rx0Len + cfg.rx1Len + cfg.behindLen := by
  simp only [slots, place, List.map_cons, List.map_nil, List.sum_cons, List.sum_nil, filterLen, behindLen]
  omega

/-- The condition, in the terms of the layout. -/
private theorem fits_iff : cfg.Fits ↔ Separated cfg.slots ∧
    (∀ b ∈ place 0 cfg.slots, 0 < b.len → b.start + b.len ≤ mramSz.toNat) ∧
    ((place 0 cfg.slots).map Span.len).sum ≤ mramSz.toNat := by
  rw [separated_slots_iff, inside_slots_iff, slots_sum]
  rcases cfg.rx0_facts with ⟨hn0, hlen0, hadv0⟩ | ⟨hpos0, hle0, heq0⟩
  · rcases cfg.rx1_facts with ⟨hn1, hlen1, hadv1⟩ | ⟨hpos1, hle1⟩
    · -- both receive FIFOs are empty
      have hskipped : cfg.skipped = if 0 < cfg.behindLen then 16 else 0 := by simp [skipped, hn0, hn1]
      constructor
      · rintro ⟨-, -, hroom⟩
        rw [hskipped] at hroom
        refine ⟨by omega, ?_⟩
        split at hroom <;> omega
      · rintro ⟨-, hinside, hsum⟩
        refine ⟨fun h => absurd h (by omega), fun h => absurd h (by omega), ?_⟩
        rw [hskipped]
        split <;> omega
    · have hskipped : cfg.skipped = 8 := by simp [skipped, hn0, hpos1]
      constructor
      · rintro ⟨hfifo1, -, hroom⟩
        have hbehind := (hfifo1 hpos1).2
        omega
      · rintro ⟨hsep, hinside, hsum⟩
        refine ⟨fun _ => ⟨hn0, by omega⟩, fun h => absurd h (by omega), ?_⟩
        omega
  · have hskipped : cfg.skipped = 0 := if_pos hpos0
    rcases cfg.rx1_facts with ⟨hn1, hlen1, hadv1⟩ | ⟨hpos1, hle1⟩
    · constructor
      · rintro ⟨-, hfifo0, hroom⟩
        rcases hfifo0 hpos0 with hbehind | hfew
        · omega
        · have hexact := heq0.2 hfew
          omega
      · rintro ⟨hsep, hinside, hsum⟩
        refine ⟨fun h => absurd h (by omega), fun _ => ?_, by omega⟩
        by_cases hbehind : cfg.behindLen = 0
        · exact Or.inl hbehind
        · exact Or.inr (heq0.1 (by omega))
    · -- receive FIFO 1 starts inside receive FIFO 0
      constructor
      · rintro ⟨hfifo1, -, -⟩
        exact absurd (hfifo1 hpos1).1 hpos0.ne'
      · rintro ⟨hsep, -, -⟩
        omega

end MramConfig

/-- The result is a good layout exactly for the configurations that fit. -/
theorem mramCfg_ok_iff {uint8Limiter : BitVec 8 → BitVec 8 → BitVec 8}
    (hlimiter : ∀ val max, (uint8Limiter val max).toNat = min val.toNat max.toNat) (cfg : MramConfig)
    (oldSid : StdIdFiltCfg) (oldXid : ExtIdFiltCfg) (m : Mcan) :
    LayoutOk cfg (mramCfg uint8Limiter cfg oldSid oldXid m).1 (mramCfg uint8Limiter cfg oldSid oldXid m).2 ↔
      cfg.Fits := by
  obtain ⟨hres, halike⟩ := mramCfg_spec hlimiter cfg oldSid oldXid m
  rw [cfg.fits_iff, ← pairwise_apart_iff 0, ← pairwise_congr halike, ← inside_congr halike, ← lens_congr halike]
  constructor
  · intro h
    refine ⟨h.disjoint hres, h.inside hres, ?_⟩
    by_contra hlong
    rw [h.refused (Nat.not_le.1 hlong)] at hres
    cases hres
  · rintro ⟨hdisjoint, hinside, hsum⟩
    exact ⟨fun _ => hdisjoint, fun _ => hinside, fun hlong => absurd hsum (Nat.not_le.2 hlong)⟩

/-! ### Two configurations -/

def cutAt (val max : BitVec 8) : BitVec 8 := if max < val then max else val

theorem toNat_cutAt (val max : BitVec 8) : (cutAt val max).toNat = min val.toNat max.toNat := by
  unfold cutAt
  split
  · next hlt => exact (Nat.min_eq_right (BitVec.lt_def.1 hlt).le).symm
  · next hle => exact (Nat.min_eq_left (Nat.not_lt.1 fun h => hle (BitVec.lt_def.2 h))).symm

/-- The registers after a reset. -/
def resetMcan : Mcan :=
  ⟨⟨0, 0, 0⟩, ⟨0, 0, 0⟩, ⟨0, 0, 0, 0⟩, ⟨0, 0, 0, 0⟩, ⟨0⟩, ⟨0, 0, 0⟩, ⟨0, 0, 0, 0⟩, ⟨0, 0, 0⟩, ⟨0⟩⟩

/-- The configuration of `tcan4550_init`, with another number of elements in receive FIFO 0. -/
def initConfig (rx0NumElements : BitVec 7) : MramConfig where
  sidNumElements := 1
  xidNumElements := 1
  rx0NumElements := rx0NumElements
  rx0ElementSize := 0
  rx1NumElements := 0
  rx1ElementSize := 0
  rxBufNumElements := 0
  rxBufElementSize := 7
  txEventFifoNumElements := 0
  txBufferNumElements := 2
  txBufferElementSize := 0

/-- With one element in receive FIFO 0, the layout is good. -/
theorem oneElement_layoutOk :
    LayoutOk (initConfig 1) (mramCfg cutAt (initConfig 1) ⟨0, 0, 0⟩ ⟨0, 0, 0⟩ resetMcan).1
      (mramCfg cutAt (initConfig 1) ⟨0, 0, 0⟩ ⟨0, 0, 0⟩ resetMcan).2 := by
  apply (mramCfg_ok_iff toNat_cutAt (initConfig 1) ⟨0, 0, 0⟩ ⟨0, 0, 0⟩ resetMcan).2
  exact ⟨fun h => absurd h (by decide), fun _ => Or.inr (Or.inl (by decide)), by decide⟩

/-- With the five elements that `tcan4550_init` asks for, the transmit buffers are inside receive FIFO 0. -/
theorem not_fiveElements_layoutOk :
    ¬LayoutOk (initConfig 5) (mramCfg cutAt (initConfig 5) ⟨0, 0, 0⟩ ⟨0, 0, 0⟩ resetMcan).1
      (mramCfg cutAt (initConfig 5) ⟨0, 0, 0⟩ ⟨0, 0, 0⟩ resetMcan).2 := by
  intro h
  have hsections : sections (initConfig 5) (mramCfg cutAt (initConfig 5) ⟨0, 0, 0⟩ ⟨0, 0, 0⟩ resetMcan).2 =
      [⟨0, 4⟩, ⟨4, 8⟩, ⟨12, 80⟩, ⟨0, 0⟩, ⟨0, 0⟩, ⟨0, 0⟩, ⟨28, 32⟩] := by decide
  have hdisjoint := h.disjoint (by decide)
  rw [hsections] at hdisjoint
  have hrx0 := (List.pairwise_cons.1 (List.pairwise_cons.1 (List.pairwise_cons.1 hdisjoint).2).2).1
  exact hrx0 ⟨28, 32⟩ (by decide) 28 ⟨by decide, by decide⟩ ⟨by decide, by decide⟩

end TiMcu.Tcan4550
