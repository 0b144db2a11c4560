import TiMcu.Lib.Amid
import TiMcu.Lib.Ring
import TiMcu.Tcan4550.Frames

/-!
# The controller on the bus

What the controller does, as its manual describes it: words that are written to `TXBAR`, `RXF0A` and the interrupt
register act on it, everything else is memory.  Of the transmit buffers only the first one is requested, and the bus
carries data frames of the classic format.

Between two transfers a requested frame can be sent, and frames of others are stored in Rx FIFO 0.  `fair` and `timely`
are what the driver needs of that: it waits for nothing before it fills the transmit buffer, and reads an element that
must not be stored over meanwhile.

Of the frames that wait in the FIFO the driver sees the number and what stands in memory.  `loaded`, `asked`, `sentOut`
and `acked` record what happened.
-/

namespace TiMcu.Tcan4550

open Dialog Ring

/-! ### Frames -/

/-- A frame on the bus; `head` has the identifier and the flags beside it. -/
structure CanFrame where
  head : BitVec 32
  dlc : BitVec 4
  data : List UInt8
  deriving DecidableEq, Repr

/-- The number of data bytes that are sent for a data length code. -/
def dataLen (dlc : BitVec 4) : Nat := min (dlc2bytes (dlc.setWidth 8)).toNat 8

/-- A data frame with one to eight bytes, as many as its code says. -/
def CanFrame.Classic (f : CanFrame) : Prop :=
  f.data ≠ [] ∧ f.data.length ≤ 8 ∧ (dlc2bytes (f.dlc.setWidth 8)).toNat = f.data.length

instance (f : CanFrame) : Decidable f.Classic := inferInstanceAs (Decidable (_ ∧ _ ∧ _))

/-! ### Words in memory -/

/-- Words stored one after the other. -/
def storeWords (mem : Nat → BitVec 32) (a : Nat) : List (BitVec 32) → Nat → BitVec 32
  | [] => mem
  | w :: ws => storeWords (Function.update mem a w) (a + 4) ws

def wordOfBytes (b : Nat → UInt8) (k : Nat) : BitVec 32 :=
  (b (4 * k + 3)).toBitVec ++ (b (4 * k + 2)).toBitVec ++ (b (4 * k + 1)).toBitVec ++ (b (4 * k)).toBitVec

def byteAt (mem : Nat → BitVec 32) (a i : Nat) : UInt8 :=
  UInt8.ofBitVec ((mem (a + 4 * (i / 4))).extractLsb' (8 * (i % 4)) 8)

/-- The words of an element in Rx FIFO 0; `mark` has what the controller notes beside the length, and `pad` the bytes
behind the data. -/
def CanFrame.words (f : CanFrame) (mark : BitVec 32) (pad : List UInt8) : List (BitVec 32) :=
  f.head :: (mark.extractLsb' 22 10 ++ 0#2 ++ f.dlc ++ mark.extractLsb' 0 16) ::
    (List.range ((f.data.length + 3) / 4)).map (wordOfBytes fun i => (f.data ++ pad).getD i 0)

/-- The frame that an element in a transmit buffer stands for. -/
def frameAt (mem : Nat → BitVec 32) (a : Nat) : CanFrame where
  head := mem a
  dlc := (mem (a + 4)).extractLsb' 16 4
  data := (List.range (dataLen ((mem (a + 4)).extractLsb' 16 4))).map (byteAt mem (a + 8))

/-! ### The sections -/

/-- The registers that describe Rx FIFO 0 and the transmit buffers. -/
structure Registers where
  rxf0c : BitVec 32
  rxesc : BitVec 32
  txbc : BitVec 32
  txesc : BitVec 32
  deriving DecidableEq

namespace Registers

variable (r : Registers)

/-- The number of elements of the FIFO. -/
def count : Nat := (r.rxf0c.extractLsb' 16 7).toNat

def fifoStart : Nat := addrMram.toNat + (r.rxf0c.extractLsb' 0 16).toNat
def fifoSize : Nat := dataBytes (r.rxesc.extractLsb' 0 3)
def slotStart (k : Nat) : Nat := r.fifoStart + (8 + r.fifoSize) * k
def txStart : Nat := addrMram.toNat + (TxBufCfg.ofWord r.txbc).txBufStartAddr.toNat
def txSize : Nat := dataBytes (TxBufElmSzCfg.ofWord r.txesc).txBuffDataSize

/-- The element of the FIFO has no byte in common with the first transmit buffer. -/
def Apart (k : Nat) : Prop :=
  r.slotStart k + (8 + r.fifoSize) ≤ r.txStart ∨ r.txStart + (8 + r.txSize) ≤ r.slotStart k

instance (k : Nat) : Decidable (r.Apart k) := inferInstanceAs (Decidable (_ ∨ _))

/-- There is a FIFO and a transmit buffer, both inside the message memory. -/
structure Inside : Prop where
  some : 0 < r.count
  count : r.count ≤ 64
  fifo : r.fifoStart + (8 + r.fifoSize) * r.count ≤ addrMram.toNat + mramSz.toNat
  bufs : 0 < (TxBufCfg.ofWord r.txbc).bufs
  tx : r.txStart + (8 + r.txSize) ≤ addrMram.toNat + mramSz.toNat

end Registers

/-! ### The controller -/

/-- `address` is that of the next word of the transfer that goes on. -/
structure Controller where
  mem : Nat → BitVec 32
  opCode : BitVec 8
  address : BitVec 16
  getIndex : Nat
  waiting : List CanFrame
  pending : Bool
  loaded : Bool
  asked : List CanFrame
  sentOut : List CanFrame
  acked : List CanFrame

inductive BusEvent
  | transmit
  | receive (frame : CanFrame) (mark : BitVec 32) (pad : List UInt8)

namespace Controller

variable (c : Controller)

def registers : Registers where
  rxf0c := c.mem addrMcanRxf0c.toNat
  rxesc := c.mem addrMcanRxesc.toNat
  txbc := c.mem addrMcanTxbc.toNat
  txesc := c.mem addrMcanTxesc.toNat

/-- The slot of an element that waits in the FIFO. -/
def slot (i : Nat) : Nat := Ring.slot c.registers.count c.getIndex i

def fill : Nat := c.waiting.length

/-- The frames that were received. -/
def taken : List CanFrame := c.acked ++ c.waiting

/-- The status of Rx FIFO 0: fill level, get index, put index and whether it is full. -/
def status : BitVec 32 :=
  BitVec.ofNat 32 (c.fill + 0x100 * c.getIndex + 0x10000 * c.slot c.fill +
    0x1000000 * if c.fill = c.registers.count then 1 else 0)

/-- The word that is read at an address. -/
def wordAt (a : BitVec 16) : BitVec 32 := if a = addrMcanRxf0s then c.status else c.mem a.toNat

/-- The elements up to that index are given back. -/
def acknowledge (index : Nat) : Controller :=
  let n := c.registers.count
  let k := (index + n - c.getIndex) % n + 1
  if index < n ∧ k ≤ c.fill then
    { c with
      getIndex := Ring.slot n index 1
      acked := c.acked ++ c.waiting.take k
      waiting := c.waiting.drop k }
  else c

/-- The address is in the first transmit buffer. -/
def InTx (a : Nat) : Prop := c.registers.txStart ≤ a ∧ a < c.registers.txStart + (8 + c.registers.txSize)

instance (a : Nat) : Decidable (c.InTx a) := inferInstanceAs (Decidable (_ ∧ _))

/-- The next word of a write. -/
def store (word : BitVec 32) : Controller :=
  let next := { c with address := c.address + 4 }
  if c.address = addrMcanRxf0a then next.acknowledge (word.toNat % 64)
  else if c.address = addrMcanTxbar then
    if word.getLsbD 0 then
      { next with pending := true, asked := c.asked ++ [frameAt c.mem c.registers.txStart] }
    else next
  else if c.address = addrMcanIr then
    { next with mem := Function.update c.mem c.address.toNat (c.mem c.address.toNat &&& ~~~word) }
  else
    { next with
      mem := Function.update c.mem c.address.toNat word
      loaded := c.loaded || decide (c.InTx c.address.toNat) }

/-- All transfers succeed. -/
def answer : Transfer → Answer × Controller
  | .header opCode address _ => (⟨true, 0⟩, { c with opCode := opCode, address := address })
  | .burst word => (⟨true, 0⟩, if c.opCode = opCodeWrite then c.store word else c)
  | .read => (⟨true, c.wordAt c.address⟩, { c with address := c.address + 4 })

/-- Bits of the interrupt register are set. -/
def raise (mem : Nat → BitVec 32) (bits : BitVec 32) : Nat → BitVec 32 :=
  Function.update mem addrMcanIr.toNat (mem addrMcanIr.toNat ||| bits)

/-- A frame is stored behind the others.  A FIFO that is full gives up its oldest element, or loses the frame. -/
def receive (f : CanFrame) (mark : BitVec 32) (pad : List UInt8) : Controller :=
  let n := c.registers.count
  let stored := storeWords c.mem (c.registers.slotStart (c.slot c.fill)) (f.words mark pad)
  if c.fill < n then { c with mem := raise stored 1, waiting := c.waiting ++ [f] }
  else if c.registers.rxf0c.getLsbD 31 then
    { c with mem := raise stored 1, getIndex := Ring.slot n c.getIndex 1, waiting := c.waiting.tail ++ [f] }
  else { c with mem := raise c.mem 8 }

def happen : BusEvent → Controller
  | .transmit =>
    if c.pending then
      { c with
        mem := raise c.mem 0x200
        pending := false
        loaded := false
        sentOut := c.sentOut ++ [frameAt c.mem c.registers.txStart] }
    else c
  | .receive f mark pad => c.receive f mark pad

/-- Frames are received while the FIFO has room, and not into a transmit buffer that holds a frame. -/
def fair : BusEvent → Bool
  | .transmit => c.pending
  | .receive f _ _ =>
    decide (c.fill < c.registers.count) && decide f.Classic &&
      (!c.loaded || decide (c.registers.Apart (c.slot c.fill)))

/-- The first transmit buffer is filled when nothing is to be sent from it, and when no frame waits there. -/
def timely : Transfer → Bool
  | .burst _ =>
    !(c.opCode = opCodeWrite && decide (c.InTx c.address.toNat)) ||
      (!c.pending && decide (∀ i < c.fill, c.registers.Apart (c.slot i)))
  | _ => true

end Controller

/-- The controller between the transfers of its driver. -/
def controller : Live Transfer Answer Controller BusEvent where
  answer := Controller.answer
  happen := Controller.happen
  fair := Controller.fair
  timely := Controller.timely

end TiMcu.Tcan4550
