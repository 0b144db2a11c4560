import TiMcu.Lib.Buffer
import TiMcu.Lib.LittleEndian

/-!
# The UBX parser

`ubx_proc_byte` takes the bytes of the GNSS receiver one at a time, loads a frame into `rx_frame` and, when the checksum
matches, hands a copy to `ubx_proc_frame`.

The handlers of the frame classes other than ACK and the statistics of the classes act outside the parser, on `world`.
`Receiver.seen` records which bytes of `rx_frame` are stored and which are read for the length, the checksums and the copy,
the newest entry first.  No function reads it.
-/

namespace TiMcu.Ubx

open NorFlash LittleEndian

/-! ### Constants -/

def ubxSyn0 : UInt8 := 0xB5
def ubxSyn1 : UInt8 := 0x62
def ubxIndexCls : Nat := 2
def ubxIndexId : Nat := 3
def ubxIndexLen : Nat := 4
def ubxRxFrameSize : Nat := 100
def ubxLenSize : Nat := 2
def ubxHeaderSize : Nat := ubxLenSize + 4
def ubxClaAck : UInt8 := 0x05
def ubxAckAck : UInt8 := 0x01

/-! ### Data -/

inductive UbxState
  | waitSyc0 | waitSyc1 | waitClass | waitId | waitLen | waitPayload | waitCrc | rxDone
  deriving DecidableEq, Repr

structure UbloxProtocol where
  rxTimeStamp : UInt32 := 0
  rxPktCnt : UInt32 := 0
  crcErrCnt : UInt32 := 0
  loadLen : Nat := 0
  expLen : UInt16 := 0
  readCrc : UInt16 := 0
  ackCnt : UInt32 := 0
  ack : Bool := false
  rxState : UbxState := .waitSyc0
  rxFrame : Mem := fun _ => 0
  fixFrame : Mem := fun _ => 0
  unprocFrame : Bool := false

/-- A use of `rx_frame`: a byte is stored at an index, or the bytes `lo ≤ x < hi` are read. -/
inductive Touch
  | wrote (index : Nat)
  | read (lo hi : Nat)
  deriving DecidableEq, Repr

structure Receiver (W : Type) where
  proto : UbloxProtocol
  now : UInt32
  world : W
  seen : List Touch

/-- What the frame classes do outside the parser. -/
structure UbxEnv (W : Type) where
  updateStat : UInt8 → W → W
  procClass : Mem → UInt16 → W → Bool × W

variable {W : Type} (env : UbxEnv W)

/-! ### The functions -/

def ubxResetRx (u : Receiver W) : Receiver W :=
  { u with proto.loadLen := 0, proto.expLen := 0, proto.rxState := .waitSyc0 }

/-- A byte is stored in `rx_frame`. -/
def Receiver.put (u : Receiver W) (index : Nat) (rxByte : UInt8) : Receiver W :=
  { u with proto.rxFrame := Buffer.store u.proto.rxFrame index rxByte, seen := .wrote index :: u.seen }

/-- The bytes `lo ≤ x < hi` of `rx_frame` are read. -/
def Receiver.reads (u : Receiver W) (lo hi : Nat) : Receiver W := { u with seen := .read lo hi :: u.seen }

def ubxCalcCrc16 (array : List UInt8) : UInt16 :=
  let (crcA, crcB) := array.foldl (fun (a, b) byte => (a + byte, b + (a + byte))) ((0, 0) : UInt8 × UInt8)
  (crcB.toUInt16 <<< 8) ||| crcA.toUInt16

def procUbloxWaitSync0 (u : Receiver W) (rxByte : UInt8) : Bool × Receiver W :=
  if ubxSyn0 = rxByte then (true, { u.put 0 rxByte with proto.rxState := .waitSyc1, proto.loadLen := 1 })
  else (false, ubxResetRx u)

def procUbloxWaitSync1 (u : Receiver W) (rxByte : UInt8) : Bool × Receiver W :=
  if ubxSyn1 = rxByte then (true, { u.put 1 rxByte with proto.rxState := .waitClass, proto.loadLen := 2 })
  else (false, ubxResetRx u)

def procUbloxWaitClass (u : Receiver W) (rxByte : UInt8) : Bool × Receiver W :=
  (true, { u.put 2 rxByte with proto.rxState := .waitId, proto.loadLen := 3 })

def procUbloxWaitId (u : Receiver W) (rxByte : UInt8) : Bool × Receiver W :=
  (true, { u.put 3 rxByte with proto.rxState := .waitLen, proto.loadLen := 4 })

def procUbloxWaitLen (u : Receiver W) (rxByte : UInt8) : Bool × Receiver W :=
  if u.proto.loadLen = 4 then (true, { u.put 4 rxByte with proto.rxState := .waitLen, proto.loadLen := 5 })
  else if u.proto.loadLen = 5 then
    let u := (u.put 5 rxByte).reads ubxIndexLen (ubxIndexLen + ubxLenSize)
    let expLen := join (u.proto.rxFrame ubxIndexLen) (u.proto.rxFrame (ubxIndexLen + 1))
    let u := { u with proto.loadLen := 6, proto.expLen := expLen, proto.rxState := .waitPayload }
    if ubxRxFrameSize < expLen.toNat then (true, ubxResetRx u) else (true, u)
  else (false, ubxResetRx u)

/-- The byte goes behind the loaded ones. -/
def Receiver.load (u : Receiver W) (rxByte : UInt8) (rxState : UbxState) : Receiver W :=
  { u.put u.proto.loadLen rxByte with proto.loadLen := u.proto.loadLen + 1, proto.rxState := rxState }

def procUbloxWaitPayload (u : Receiver W) (rxByte : UInt8) : Bool × Receiver W :=
  if u.proto.loadLen < ubxHeaderSize + u.proto.expLen.toNat - 1 then (true, u.load rxByte .waitPayload)
  else if u.proto.loadLen = ubxHeaderSize + u.proto.expLen.toNat - 1 then (true, u.load rxByte .waitCrc)
  else (false, ubxResetRx u)

def ubxProcAckFrame (u : Receiver W) : Bool × Receiver W :=
  if u.proto.fixFrame ubxIndexId = ubxAckAck then
    (true, { u with proto.ackCnt := u.proto.ackCnt + 1, proto.ack := true })
  else (false, u)

/-- The handler of the class of the frame. -/
def ubxProcClass (u : Receiver W) : Bool × Receiver W :=
  if u.proto.fixFrame ubxIndexCls = ubxClaAck then ubxProcAckFrame u
  else
    ((env.procClass u.proto.fixFrame u.proto.expLen u.world).1,
      { u with world := (env.procClass u.proto.fixFrame u.proto.expLen u.world).2 })

def ubxProcFrame (u : Receiver W) : Bool × Receiver W :=
  let (res, u) := ubxProcClass env { u with world := env.updateStat (u.proto.fixFrame ubxIndexCls) u.world }
  (res, ubxResetRx { u with proto.fixFrame := fun _ => 0 })

/-- The 16-bit index of the first byte of the checksum. -/
def UbloxProtocol.crcIndex (p : UbloxProtocol) : Nat := (UInt16.ofNat ubxHeaderSize + p.expLen).toNat

/-- The number of bytes under the checksum. -/
def UbloxProtocol.crcLen (p : UbloxProtocol) : Nat := (p.expLen + 4).toNat

/-- The checksum that the loaded frame carries. -/
def UbloxProtocol.carriedCrc (p : UbloxProtocol) : UInt16 := join (p.rxFrame p.crcIndex) (p.rxFrame (p.crcIndex + 1))

/-- The checksum of the loaded frame. -/
def UbloxProtocol.calcCrc (p : UbloxProtocol) : UInt16 := ubxCalcCrc16 (bytesAt p.rxFrame 2 p.crcLen)

/-- Both checksums are taken. -/
def Receiver.takeCrc (u : Receiver W) : Receiver W :=
  { (u.reads u.proto.crcIndex (u.proto.crcIndex + ubxLenSize)).reads 2 (2 + u.proto.crcLen) with
    proto.readCrc := u.proto.carriedCrc }

/-- The loaded frame is kept. -/
def Receiver.takeFrame (u : Receiver W) : Receiver W :=
  { u.reads 0 ubxRxFrameSize with
    proto.rxState := .rxDone
    proto.rxPktCnt := u.proto.rxPktCnt + 1
    proto.fixFrame := Buffer.copy u.proto.fixFrame u.proto.rxFrame ubxRxFrameSize
    proto.unprocFrame := true
    proto.rxTimeStamp := u.now }

/-- The checksum is complete. -/
def ubxCheckCrc (u : Receiver W) : Bool × Receiver W :=
  if u.proto.calcCrc = u.proto.carriedCrc then (true, ubxResetRx (ubxProcFrame env u.takeCrc.takeFrame).2)
  else (false, ubxResetRx { u.takeCrc with proto.crcErrCnt := u.proto.crcErrCnt + 1 })

def procUbloxWaitCrc (u : Receiver W) (rxByte : UInt8) : Bool × Receiver W :=
  if u.proto.loadLen = u.proto.crcIndex then (true, u.load rxByte .waitCrc)
  else if u.proto.loadLen = u.proto.crcIndex + 1 then ubxCheckCrc env (u.load rxByte .waitCrc)
  else (false, ubxResetRx u)

def ubxProcByte (u : Receiver W) (rxByte : UInt8) : Bool × Receiver W :=
  match u.proto.rxState with
  | .waitSyc0 => procUbloxWaitSync0 u rxByte
  | .waitSyc1 => procUbloxWaitSync1 u rxByte
  | .waitClass => procUbloxWaitClass u rxByte
  | .waitId => procUbloxWaitId u rxByte
  | .waitLen => procUbloxWaitLen u rxByte
  | .waitPayload => procUbloxWaitPayload u rxByte
  | .waitCrc => procUbloxWaitCrc env u rxByte
  | .rxDone => (false, ubxResetRx u)

/-- After `ublox_protocol_init`. -/
def Receiver.init (now : UInt32) (world : W) : Receiver W := { proto := {}, now := now, world := world, seen := [] }

end TiMcu.Ubx
