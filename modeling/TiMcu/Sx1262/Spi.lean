import TiMcu.Lib.Dialog

/-!
# Transfers of the radio driver

What `sx1262_drv.c` asks of the board, and the two functions that everything else goes through: `sx1262_send_opcode` and
`sx1262_read_reg`, both inside of the macro `SX1262_CHIP_SELECT`.

The time that the driver spends waiting is left out: whether the busy line falls in time is one question.  Of an array
that is read the answer says what is in it afterwards, also when the transfer failed.
-/

namespace TiMcu.Sx1262

open Dialog

/-! ### The board -/

inductive Pin
  | ss | rst | int | busy
  deriving DecidableEq, Repr

inductive Call
  /-- `sx1262_wait_on_busy` -/
  | waitOnBusy (timeOutMs : Nat)
  /-- `sx1262_chip_select` -/
  | chipSelect (state : Bool)
  /-- `spi_write` -/
  | write (array : List UInt8)
  /-- `spi_read` -/
  | read (len : Nat)
  /-- `gpio_set_state` -/
  | gpioSet (pin : Pin) (state : Bool)
  /-- `gpio_read` -/
  | gpioRead (pin : Pin)
  /-- `get_time_ms32` -/
  | getTimeMs32
  /-- `mm_get` into a variable of that size -/
  | mmGet (id : UInt16) (size : Nat)
  /-- `param_set` -/
  | paramSet (id : UInt16) (val : UInt8)
  deriving DecidableEq, Repr

/-- `num` is a level, a time or the length of a file. -/
structure Answer where
  ok : Bool := true
  bytes : Nat → UInt8 := fun _ => 0
  num : UInt32 := 0

abbrev Bus := Dialog Call Answer

/-! ### What the driver keeps -/

def sx1262MaxFrameSize : Nat := 252

/-- `TxFrame` is what is in the array up to `tx_frame_len`. -/
structure ReTxFsm where
  retxCntMax : UInt8 := 0
  retxCnt : UInt8 := 0
  txFrame : List UInt8 := []

structure LoRaModulationParams where
  bandWidth : UInt8 := 0
  spreadingFactor : UInt8 := 0
  codingRate : UInt8 := 0
  lowDataRateOptimization : UInt8 := 0

structure LoRaPacketParam where
  preambleLength : UInt16 := 0
  headerType : UInt8 := 0
  payloadLength : UInt8 := 0
  crcType : UInt8 := 0
  invertIq : UInt8 := 0

structure PaketStat where
  nbPktReceived : UInt16 := 0
  nbPktCrcError : UInt16 := 0
  nbPktHeaderErr : UInt16 := 0

structure IrqCnt where
  total : UInt16 := 0
  txDone : UInt16 := 0
  rxDone : UInt16 := 0
  preambleDetected : UInt16 := 0
  syncwordValid : UInt16 := 0
  headerValid : UInt16 := 0
  headerErr : UInt16 := 0
  crcErr : UInt16 := 0
  cadDone : UInt16 := 0
  cadDetected : UInt16 := 0
  timeout : UInt16 := 0

/-- The static variables of `sx1262_proc_chip_mode`. -/
structure HangOn where
  prevChipMode : UInt8 := 0
  chipModeRc : UInt32 := 0
  chipModeXosc : UInt32 := 0
  chipModeFs : UInt32 := 0
  chipModeTx : UInt32 := 0

/-- `Sx1262_t`. -/
structure Instance where
  setSyncWord : UInt64 := 0
  getSyncWord : UInt64 := 0
  processingError : UInt32 := 0
  rfFrequencyHz : UInt32 := 0
  txDoneTimeStampMs : UInt32 := 0
  busyCnt : UInt32 := 0
  checkConnectivity : Bool := false
  syncRssi : Bool := false
  randNum : UInt32 := 0
  loraSyncWordSet : UInt16 := 0
  crcInit : UInt16 := 0
  crcPoly : UInt16 := 0
  opError : UInt16 := 0
  irqStat : UInt16 := 0
  status : UInt8 := 0
  devStatus : UInt8 := 0
  rxPayloadLen : UInt8 := 0
  rxBufferPointer : UInt8 := 0
  rxStatus : UInt8 := 0
  rssiSync : UInt8 := 0
  rssiAvg : UInt8 := 0
  wireInt : UInt8 := 0
  wireRst : UInt8 := 0
  wireNss : UInt8 := 0
  wireBusy : UInt8 := 0
  rssiPkt : Int8 := 0
  snrPkt : UInt8 := 0
  signalRssiPkt : Int8 := 0
  outputPower : Int8 := 0
  rssiInst : Int8 := 0
  txDone : Bool := false
  txMute : Bool := false
  syncReg : Bool := false
  rxDoneCnt : UInt32 := 0
  rxSizeMax : UInt8 := 0
  txSizeMax : UInt8 := 0
  txDoneCnt : UInt32 := 0
  reTxFsm : ReTxFsm := {}
  lora : PaketStat := {}
  irqCnt : IrqCnt := {}
  loraModParams : LoRaModulationParams := {}
  packetType : UInt8 := 0
  packetParam : LoRaPacketParam := {}
  packetParamType : UInt8 := 0

/-- The variables of the driver: `Sx1262Instance`, the static variables of its functions, `LoRaInterface.tx_done_cnt`,
`LoRaInterface.err_cnt` and whether the task of the radio is on. -/
structure State where
  radio : Instance := {}
  callCnt : UInt8 := 0
  hangOn : HangOn := {}
  loraTxDoneCnt : UInt32 := 0
  loraTaskOn : Bool := true

abbrev Driver := StateT State Bus

def modifyRadio (f : Instance → Instance) : Driver Unit := modify fun s => { s with radio := f s.radio }

def askBoard (call : Call) : Driver Answer := StateT.lift (question call)

/-! ### Under chip select -/

/-- The macro `SX1262_CHIP_SELECT`; `untouched` are the outputs of a call that is not made. -/
def withChipSelect {α : Type} (untouched : α) (callBack : Driver (Bool × α)) : Driver (Bool × α) := do
  let busy ← askBoard (.waitOnBusy 100)
  if busy.ok then
    let selected ← askBoard (.chipSelect true)
    let res ← if selected.ok then callBack else pure (false, untouched)
    let _ ← askBoard (.chipSelect false)
    pure res
  else
    modifyRadio fun r => { r with busyCnt := r.busyCnt + 1 }
    pure (false, untouched)

def fifoSize : Nat := 256

/-- An array after the first `len` bytes of it were read. -/
def overwrite (rxArray : Nat → UInt8) (len : Nat) (bytes : Nat → UInt8) : Nat → UInt8 :=
  fun i => if i < len then bytes i else rxArray i

/-- `sx1262_send_opcode_proc`; the result and the receive array. -/
def sendOpcodeProc (opCode : UInt8) (txArray : List UInt8) (rxArray : Nat → UInt8) (rxArrayLen : Nat) :
    Driver (Bool × (Nat → UInt8)) := do
  if txArray.length + 1 < 2 * fifoSize then
    let w ← askBoard (.write (opCode :: txArray))
    if 0 < rxArrayLen then
      let r ← askBoard (.read rxArrayLen)
      pure (r.ok && w.ok, overwrite rxArray rxArrayLen r.bytes)
    else pure (w.ok, rxArray)
  else pure (false, rxArray)

def sendOpcode (opCode : UInt8) (txArray : List UInt8) (rxArray : Nat → UInt8) (rxArrayLen : Nat) :
    Driver (Bool × (Nat → UInt8)) :=
  withChipSelect rxArray (sendOpcodeProc opCode txArray rxArray rxArrayLen)

theorem sendOpcodeProc_write {opCode : UInt8} {txArray : List UInt8} (h : txArray.length + 1 < 2 * fifoSize)
    (rxArray : Nat → UInt8) :
    sendOpcodeProc opCode txArray rxArray 0 =
      askBoard (.write (opCode :: txArray)) >>= fun w => pure (w.ok, rxArray) := by
  simp [sendOpcodeProc, h]

theorem sendOpcodeProc_read {opCode : UInt8} {txArray : List UInt8} (h : txArray.length + 1 < 2 * fifoSize)
    (rxArray : Nat → UInt8) {rxArrayLen : Nat} (hlen : 0 < rxArrayLen) :
    sendOpcodeProc opCode txArray rxArray rxArrayLen =
      askBoard (.write (opCode :: txArray)) >>= fun w =>
        askBoard (.read rxArrayLen) >>= fun r =>
          pure (r.ok && w.ok, overwrite rxArray rxArrayLen r.bytes) := by
  simp [sendOpcodeProc, h, hlen]

/-! ### Registers -/

def opcodeReadRegister : UInt8 := 0x1D

def hi16 (w : UInt16) : UInt8 := (w >>> 8).toUInt8
def lo16 (w : UInt16) : UInt8 := w.toUInt8

/-- `sx1262_read_reg_proc`: a byte comes before the register. -/
def readRegProc (regAddr : UInt16) : Driver (Bool × UInt8) := do
  let w ← askBoard (.write [opcodeReadRegister, hi16 regAddr, lo16 regAddr])
  let r ← askBoard (.read 2)
  pure (r.ok && w.ok, r.bytes 1)

/-- `sx1262_read_reg`; `regVal` is the variable before. -/
def readReg (regAddr : UInt16) (regVal : UInt8) : Driver (Bool × UInt8) := withChipSelect regVal (readRegProc regAddr)

end TiMcu.Sx1262
