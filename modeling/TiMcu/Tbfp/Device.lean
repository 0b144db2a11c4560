import Mathlib.Logic.Function.Basic
import TiMcu.Lib.Buffer
import TiMcu.Lib.Crc24
import TiMcu.Tbfp.Send

/-!
# The device

The tables of the firmware that take part in receiving: the receiving half of `TbfpProtocol`, the table `Rtcm3Protocol`,
and behind them the transmitting half of `TbfpProtocol` with the radio, the queue of the LoRa interface and the UARTs.

What is not part of the repository, or acts outside of these tables, is a field of `Env`; it acts on `world`.  The
commands of the shell are among it, with one exception: `sxp` polls the radio, and what the radio hands up goes to the
parser of `IF_SX1262` while the frame that carries the command is still being processed.  `polls` allows for such
commands; where it is not given there are none.

`Device.log`, `Device.unfed`, `Transmitter.uart` and the fields `stored` record what the functions do.  No function
reads them.
-/

namespace TiMcu.Tbfp

open NorFlash LittleEndian

/-! ### Constants -/

def tbfpIndexRetx : Nat := 1
def tbfpIndexLen : Nat := 4
def tbfpSizeId : Nat := 1
def frameIdCmd : UInt8 := 0x44
def frameIdPing : UInt8 := 0x50
def frameIdTunnel : UInt8 := 0x54
def frameIdPong : UInt8 := 0x90
def frameIdRtcm3 : UInt8 := 0xD3
def sx1262MaxPayloadSize : Nat := sx1262MaxFrameSize - tbfpSizeOverhead - tbfpSizeId
def maxLoraPayloadSize : Nat := sx1262MaxPayloadSize - 3
def rtcm3Preamble : UInt8 := 0xD3
def rtcm3HeaderSize : Nat := 3
def rtcm3Crc24Size : Nat := 3
def rtcm3Overhead : Nat := rtcm3Crc24Size + rtcm3HeaderSize
def rtcm3RxMaxPayloadSize : Nat := 1030
def rtcm3RxMaxFrameSize : Nat := rtcm3RxMaxPayloadSize + rtcm3Overhead
def uartNumZedF9p : Nat := 1

/-! ### The receiving halves -/

inductive RxState
  | waitPreamble | waitLen | waitSerialNum | waitRetxCnt | waitPayload | waitCrc | waitUndef | rxDone | waitInit
  deriving DecidableEq, Repr

/-- The fields of `TbfpProtocol_t` for the flow control. -/
structure FlowControl where
  lostRxFrames : UInt32 := 0
  flowTornCnt : UInt16 := 0
  prevSNum : UInt16 := 0
  conFlow : UInt32 := 0
  maxConFlow : UInt32 := 0
  deriving DecidableEq, Repr

/-- `stored` are the indices of the stores into `rx_frame`, the newest first. -/
structure TbfpParser where
  rxState : RxState := .waitPreamble
  readCrc8 : UInt8 := 0
  expPayloadLen : UInt16 := 0
  loadLen : Nat := 0
  sNum : UInt16 := 0
  rxFrame : Mem := fun _ => 0
  fixFrame : Mem := fun _ => 0
  stored : List Nat := []

/-- The receiving half of `TbfpProtocol_t`. -/
structure TbfpReceiver where
  rxByte : UInt32 := 0
  rxPktCnt : UInt32 := 0
  lenErrCnt : UInt32 := 0
  crcErrCnt : UInt32 := 0
  errCnt : UInt32 := 0
  lackFrameInData : UInt32 := 0
  flow : FlowControl := {}
  parser : TbfpParser := {}

/-- The entries of `lost_pkt_cnt` and `forwarding` at `IF_CNT` are what stands behind the two arrays. -/
structure Rtcm3Protocol where
  rxPktCnt : UInt32 := 0
  lostPktCnt : Interfaces → UInt32 := fun _ => 0
  uartLostPktCnt : UInt32 := 0
  crcErrCnt : UInt32 := 0
  loadLen : Nat := 0
  errCnt : UInt32 := 0
  rxByte : UInt32 := 0
  expLen : UInt16 := 0
  readCrc : UInt32 := 0
  rxState : RxState := .waitPreamble
  jumboFrameCnt : UInt32 := 0
  rxFrame : Mem := fun _ => 0
  fixFrame : Mem := fun _ => 0
  interface : Interfaces := .lora
  forwarding : Interfaces → Bool := fun _ => false
  stored : List Nat := []

/-! ### The transmitting half -/

structure LoRaIf where
  fifo : List UInt8 := []
  flush : Bool := false
  txOkCnt : UInt32 := 0
  txErrCnt : UInt32 := 0
  errCnt : UInt32 := 0
  ovflErrCnt : UInt32 := 0
  deriving DecidableEq, Repr

/-- The parts that send, with the transmitting half of the table `TbfpProtocol`.  `uart` is what was handed to the
UARTs, the newest first. -/
structure Transmitter (W : Type) where
  tbfp : Interfaces → TbfpProtocol
  errTxCnt : Interfaces → UInt32
  trace : Interfaces → List Obs
  radio : Sx1262
  now : Nat
  loRa : LoRaIf
  sendErrCnt : UInt32
  world : W
  uart : List (Nat × List UInt8)

/-! ### The device -/

/-- The bytes of the `fix_frame` of a parser from index `lo` up to `hi`. -/
structure Region where
  slot : Interfaces
  lo : Nat
  hi : Nat
  deriving DecidableEq, Repr

/-- An entry of the log. -/
inductive Seen
  /-- the parser of that entry of the table completed a frame with the right checksum -/
  | accepted (slot : Interfaces) (frame : List UInt8)
  /-- the flow control of the interface was asked about a well-formed frame -/
  | received (interface : Interfaces) (snum : UInt16)
  /-- the payload of the frame was handed to its handler -/
  | handed (interface : Interfaces) (snum : UInt16)
  /-- a handler needs that many bytes of a payload of `len` bytes -/
  | read (need len : Nat)
  /-- a store into `fix_frame`, while the bytes of `unfed` were still to be fed to a parser -/
  | fixed (region : Region) (unfed : List Region)
  /-- the radio handed up that payload while a command of a frame ran -/
  | polled (rxPayload : List UInt8)
  /-- the RTCM3 parser of that entry of the table completed a frame with the right checksum -/
  | rtcm3 (interface : Interfaces) (frame : List UInt8)
  /-- the forwarding flag of the interface was read -/
  | flag (interface : Interfaces)
  /-- an RTCM3 frame was passed to `tbfp_send` -/
  | passed (interface : Interfaces) (frame : List UInt8)
  /-- the depth of nested calls of `tbfp_proc` was used up -/
  | tooDeep
  deriving DecidableEq, Repr

/-- `unfed` are the bytes that the running calls of `tbfp_proc` have still to feed to a parser. -/
structure Device (W : Type) where
  tx : Transmitter W
  tbfp : Interfaces → TbfpReceiver
  rtcm3 : Interfaces → Rtcm3Protocol
  unfed : List Region
  log : List Seen

/-- An array that is fed to a parser: one outside of the tables, a part of a `fix_frame` or a `tx_frame`. -/
inductive Source
  | bytes (array : List UInt8)
  | fixFrame (slot : Interfaces) (offset : Nat)
  | txFrame (slot : Interfaces)

/-- What the repository does not contain, and what acts outside of the device. -/
structure Env (W : Type) (polls : Bool := false) where
  crc8SaeJ1850Calc : List UInt8 → UInt8
  calcCrc24Q : List UInt8 → UInt32
  calcCrc24Q_lt : ∀ bytes, (calcCrc24Q bytes).toNat < 2 ^ 24
  reverseByteOrderUint24 : UInt32 → UInt32
  reverseByteOrderUint24_join24 : ∀ a b c, reverseByteOrderUint24 (join24 a b c) = join24 c b a
  fifoPushArray : List UInt8 → List UInt8 → Bool × List UInt8
  fifoPullArray : List UInt8 → Nat → Bool × List UInt8 × List UInt8
  /-- the commands of the call to the radio chip succeed -/
  spi : W → Bool × W
  uartSend : Nat → List UInt8 → W → Bool × W
  printMem : List UInt8 → W → Bool × W
  /-- a command; what it does to the tables themselves, other than by `radioPolled`, is left out -/
  processShellCmd : List UInt8 → W → Bool × W
  /-- the payloads that the radio hands up while the command runs -/
  radioPolled : List UInt8 → W → List (List UInt8)
  radioPolled_nil : polls = false → ∀ line w, radioPolled line w = []
  /-- the bytes of `TbfPingFrame_t` -/
  sizeofPingFrame : Nat
  /-- what a ping carries behind its id -/
  pingRest : W → List UInt8
  pingRest_length : ∀ w, (pingRest w).length + 1 = sizeofPingFrame
  sizeofPingFrame_lt : sizeofPingFrame < 256
  /-- the distance of the link is worked out from a ping and stored -/
  updateLink : List UInt8 → W → Bool × W

/-- The checksum of RTCM3, for runs on fixed inputs. -/
def crc24Q (bytes : List UInt8) : UInt32 := Crc24.crc24 0x1864CFB 0 bytes

/-- An outside where no call fails. -/
def Env.idle {W : Type} (updateLink : List UInt8 → W → W) : Env W where
  crc8SaeJ1850Calc := crc8SaeJ1850
  calcCrc24Q := crc24Q
  calcCrc24Q_lt := Crc24.crc24_lt _ _
  reverseByteOrderUint24 w := join24 (w >>> 16).toUInt8 (w >>> 8).toUInt8 w.toUInt8
  reverseByteOrderUint24_join24 a b c := by simp
  fifoPushArray fifo array := (true, fifo ++ array)
  fifoPullArray fifo size := (true, fifo.take size, fifo.drop size)
  spi w := (true, w)
  uartSend _ _ w := (true, w)
  printMem _ w := (true, w)
  processShellCmd _ w := (true, w)
  radioPolled _ _ := []
  radioPolled_nil _ _ _ := rfl
  sizeofPingFrame := 33
  pingRest _ := List.replicate 32 0
  pingRest_length _ := rfl
  sizeofPingFrame_lt := by decide
  updateLink ping w := (true, updateLink ping w)

/-- The outside for runs on fixed inputs: there is nothing to remember. -/
def Env.bench : Env Unit := Env.idle fun _ w => w

variable {W : Type}

/-! ### Access -/

def Device.setTbfp (d : Device W) (slot : Interfaces) (r : TbfpReceiver) : Device W :=
  { d with tbfp := Function.update d.tbfp slot r }

def Device.setRtcm3 (d : Device W) (interface : Interfaces) (r : Rtcm3Protocol) : Device W :=
  { d with rtcm3 := Function.update d.rtcm3 interface r }

def Device.setTx (d : Device W) (tx : Transmitter W) : Device W := { d with tx := tx }

def Device.note (d : Device W) (x : Seen) : Device W := { d with log := x :: d.log }

/-- The interface to which an entry of the table was set up. -/
def Device.interface (d : Device W) (slot : Interfaces) : Interfaces := (d.tx.tbfp slot).interface

def Device.preambleVal (d : Device W) (slot : Interfaces) : UInt8 := (d.tx.tbfp slot).preambleVal

/-- One byte of an array. -/
def Device.byteAt (d : Device W) (src : Source) (i : Nat) : UInt8 :=
  match src with
  | .bytes array => array.getD i 0
  | .fixFrame slot offset => (d.tbfp slot).parser.fixFrame (offset + i)
  | .txFrame slot => (d.tx.tbfp slot).txFrame.bytes.getD i 0

/-- The bytes of an array from index `i` on, as far as they are in a `fix_frame`. -/
def Source.rest (src : Source) (i len : Nat) : List Region :=
  match src with
  | .fixFrame slot offset => [⟨slot, offset + i, offset + len⟩]
  | _ => []

/-- One entry of the table with the radio and the clock. -/
def Transmitter.node (t : Transmitter W) (slot : Interfaces) : Node where
  tbfp := t.tbfp slot
  radio := t.radio
  now := t.now
  trace := t.trace slot

def Transmitter.setNode (t : Transmitter W) (slot : Interfaces) (n : Node) : Transmitter W :=
  { t with
    tbfp := Function.update t.tbfp slot n.tbfp
    radio := n.radio
    trace := Function.update t.trace slot n.trace }

/-- An array of bytes in a buffer. -/
def Payload.at (f : Mem) (index : Nat) (len : UInt16) : Payload where
  bytes := bytesAt f index len.toNat
  length_lt := by
    have := len.toNat_lt
    rw [bytesAt_length]
    omega

@[simp] theorem Device.setTbfp_self (d : Device W) (slot : Interfaces) (r : TbfpReceiver) :
    (d.setTbfp slot r).tbfp slot = r := Function.update_self ..

theorem Device.setTbfp_of_ne (d : Device W) {slot s : Interfaces} (r : TbfpReceiver) (h : s ≠ slot) :
    (d.setTbfp slot r).tbfp s = d.tbfp s := Function.update_of_ne h ..

@[simp] theorem Device.setRtcm3_self (d : Device W) (interface : Interfaces) (p : Rtcm3Protocol) :
    (d.setRtcm3 interface p).rtcm3 interface = p := Function.update_self ..

theorem Device.setRtcm3_of_ne (d : Device W) {interface s : Interfaces} (p : Rtcm3Protocol) (h : s ≠ interface) :
    (d.setRtcm3 interface p).rtcm3 s = d.rtcm3 s := Function.update_of_ne h ..

end TiMcu.Tbfp
