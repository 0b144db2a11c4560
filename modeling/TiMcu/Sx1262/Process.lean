import TiMcu.Sx1262.Commands

/-!
# The process of the radio

`sx1262_init` and `sx1262_process`.  What is above the driver (the parsers, the retransmission machine and the queue of
the LoRa interface) runs inside of a call of `sx1262_process` and may use the radio; it is a dialog of its own, whose
questions are the functions of the driver that it calls.
-/

namespace TiMcu.Sx1262

open Dialog

/-! ### Above the driver -/

inductive Request
  | startTx (txBuf : List UInt8) (timeoutS : UInt32)
  | startRetx (array : List UInt8) (tryCnt : UInt8)
  | isRetxIdle
  | startRx (timeoutS : UInt32)
  | setModulation (modulation : UInt16)
  | init

/-- A part of the firmware that uses the radio. -/
abbrev Client := Dialog Request Bool

/-- What `sx1262_process` calls; `is_arr_pat` is not part of the repository. -/
structure Layers where
  isArrPat : List UInt8 → UInt8 → Bool := fun array patt => array.all (· == patt)
  loraProcPayload : List UInt8 → Client Bool := fun _ => pure true
  tbfpRetxTxDone : Client Bool := pure true
  loraTransmitFromQueue : UInt32 → UInt32 → Client Bool := fun _ _ => pure true

/-! ### Parameters -/

def parIdLoraFreq : UInt16 := 2
def parIdLoraSf : UInt16 := 3
def parIdLoraCr : UInt16 := 4
def parIdLoraBw : UInt16 := 5
def parIdPreambleLength : UInt16 := 6
def parIdPayloadLength : UInt16 := 7
def parIdCrcType : UInt16 := 8
def parIdLoraHeaderType : UInt16 := 9
def parIdIqSetup : UInt16 := 10
def parIdLoraOutPower : UInt16 := 16
def parIdPacketType : UInt16 := 28
def parIdLoraSyncWord : UInt16 := 29
def parIdLowDataRate : UInt16 := 30
def parIdLoraCrcPoly : UInt16 := 31
def parIdLoraCrcInit : UInt16 := 32
def parIdRetxCnt : UInt16 := 38
def parIdTxMute : UInt16 := 47

def dfltFreqMhz : UInt32 := 868950000
def dfltLoraBw : UInt8 := 4
def dfltSf : UInt8 := 7
def dfltLoraCr : UInt8 := 4
def dfltPreambleLen : UInt16 := 8
def dfltSyncWord : UInt64 := 0x1122334444332211
def dfltLoraSyncWord : UInt16 := 0x1424
def dfltCrcInit : UInt16 := 0x1D0F
def dfltCrcPoly : UInt16 := 0x1021
def retxTryCntDflt : UInt8 := 1
def busyCntLimit : UInt32 := 1000

/-- A use of the macro `LOAD_PARAM`: what is done with the bytes of the file, or without a file of that length. -/
structure Param where
  parId : UInt16
  size : Nat
  set : Option (Nat → UInt8) → Instance → Instance
  txDone_set : ∀ file r, (set file r).txDone = r.txDone := by exact fun _ _ => rfl

def byteOr (dflt : UInt8) (file : Option (Nat → UInt8)) : UInt8 := file.elim dflt fun bytes => bytes 0
def halfOr (dflt : UInt16) (file : Option (Nat → UInt8)) : UInt16 := file.elim dflt fun bytes => join16 (bytes 1) (bytes 0)
def wordOr (dflt : UInt32) (file : Option (Nat → UInt8)) : UInt32 :=
  file.elim dflt fun bytes => [3, 2, 1, 0].foldl (fun w i => (w <<< 8) ||| (bytes i).toUInt32) 0

/-- The parameters in the order in which they are loaded. -/
def params : List Param :=
  [{ parId := parIdLoraCr, size := 1, set := fun f r => { r with loraModParams.codingRate := byteOr dfltLoraCr f } },
    { parId := parIdLoraBw, size := 1, set := fun f r => { r with loraModParams.bandWidth := byteOr dfltLoraBw f } },
    { parId := parIdLoraSf, size := 1, set := fun f r => { r with loraModParams.spreadingFactor := byteOr dfltSf f } },
    { parId := parIdLoraSyncWord, size := 2, set := fun f r => { r with loraSyncWordSet := halfOr dfltLoraSyncWord f } },
    { parId := parIdLoraHeaderType, size := 1, set := fun f r => { r with packetParam.headerType := byteOr 0 f } },
    { parId := parIdRetxCnt, size := 1, set := fun f r => { r with reTxFsm.retxCntMax := byteOr retxTryCntDflt f } },
    { parId := parIdLoraCrcInit, size := 2, set := fun f r => { r with crcInit := halfOr dfltCrcInit f } },
    { parId := parIdLoraCrcPoly, size := 2, set := fun f r => { r with crcPoly := halfOr dfltCrcPoly f } },
    { parId := parIdTxMute, size := 1, set := fun f r => { r with txMute := byteOr 0 f != 0 } },
    { parId := parIdLowDataRate, size := 1,
      set := fun f r => { r with loraModParams.lowDataRateOptimization := byteOr 0 f } },
    { parId := parIdPayloadLength, size := 1, set := fun f r => { r with packetParam.payloadLength := byteOr 255 f } },
    { parId := parIdPacketType, size := 1, set := fun f r => { r with packetParamType := byteOr packetTypeLora f } },
    { parId := parIdCrcType, size := 1, set := fun f r => { r with packetParam.crcType := byteOr 1 f } },
    { parId := parIdPreambleLength, size := 2,
      set := fun f r => { r with packetParam.preambleLength := halfOr dfltPreambleLen f } },
    { parId := parIdIqSetup, size := 1, set := fun f r => { r with packetParam.invertIq := byteOr 0 f } },
    { parId := parIdLoraFreq, size := 4, set := fun f r => { r with rfFrequencyHz := wordOr dfltFreqMhz f } },
    { parId := parIdLoraOutPower, size := 1,
      set := fun f r => { r with outputPower := f.elim dfltOutPower fun bytes => (bytes 0).toInt8 } }]

/-- A file counts only with the length of its parameter. -/
def Param.load (p : Param) : Quiet Bool := do
  let file ← Quiet.ask (.mmGet p.parId p.size)
  let found := file.ok && file.num == UInt32.ofNat p.size
  Quiet.modifyRadio (p.set (if found then some file.bytes else none)) (p.txDone_set _)
  pure found

/-- The calls `res = call && res` one after the other. -/
def allOf : List (Quiet Bool) → Quiet Bool
  | [] => pure true
  | call :: calls => do
    let ok ← call
    let res ← allOf calls
    pure (ok && res)

/-- `sx1262_load_params`; `mm_get` is asked for the files. -/
def loadParams : Quiet Bool := do
  Quiet.modifyRadio fun r => { r with setSyncWord := dfltSyncWord }
  allOf (params.map Param.load)

/-! ### `sx1262_init` -/

def reset : Quiet Unit := do
  let _ ← Quiet.ask (.gpioSet .rst true)
  let _ ← Quiet.ask (.gpioSet .rst false)
  let _ ← Quiet.ask (.gpioSet .rst true)

def setTxClampConfigWorkarround : Quiet Bool := do
  let (res, txClampConfig) ← getTxClampConfig 0
  if res then setTxClampConfig (txClampConfig ||| 0x1E) else pure false

def iqrMainInt : UInt16 := 0x7F

/-- The configuration of `sx1262_init` once the chip is there.  The result of `sx1262_set_standby` takes the place of the
results before it. -/
def configure : Quiet Bool := do
  let r ← Quiet.radio
  let _ ← allOf
    [wakeup, setPacketType r.packetParamType, setRfFrequency r.rfFrequencyHz, setRegulatorMode 0, clearFifo,
      setBufferBaseAddr txBaseAddress rxBaseAddress, clearDevError, setPacketType r.packetParamType]
  let res ← allOf
    [setStandby stdbyXosc, setModulationParams, setPacketParams r.packetParamType r.packetParam,
      setDioIrqParams iqrMainInt iqrMainInt iqrMainInt iqrMainInt, setDio2AsRfSwitchCtrl 1, setCrcPoly r.crcPoly,
      setCrcSeed r.crcInit, Sx1262.setSyncWord r.setSyncWord, setLoraSyncWord r.loraSyncWordSet,
      startRx rxContinuousMode, confTx r.outputPower]
  Quiet.modifyRadio fun r => { r with syncReg := true }
  let ok ← startRx rxContinuousMode
  pure (ok && res)

/-- The start of `sx1262_init`. -/
def start : Driver Unit := do
  modify fun s => { s with radio := if s.callCnt = 0 then {} else s.radio }
  modifyRadio fun r => { r with checkConnectivity := true, txMute := false }
  retxInit
  modify fun s => { s with callCnt := 1 }
  modifyRadio fun r => { r with syncRssi := true, txDone := true }

/-- `sx1262_init` up to the configuration. -/
def prepare : Driver Bool := do
  start
  let _ ← loadParams
  let _ ← setTxClampConfigWorkarround
  let _ ← askBoard (.gpioSet .ss true)
  let _ ← askBoard (.gpioSet .ss true)
  let _ ← askBoard (.gpioSet .rst true)
  reset
  let busy ← askBoard (.waitOnBusy 10000)
  if busy.ok then isExist else pure false

def init : Driver Bool := do
  let res ← if ← prepare then configure else pure false
  if !res then modify fun s => { s with loraTaskOn := false }
  pure res

/-- `sx1262_set_modulation`: the parameters are stored, and the radio is set up again when all three were. -/
def setModulation (modulation : UInt16) : Driver Bool := do
  let nibble (i : UInt16) : UInt8 := ((modulation >>> (4 * i)) &&& 0xF).toUInt8
  let save (valid : Bool) (parId : UInt16) (val : UInt8) : Driver Bool :=
    if valid then do
      let saved ← askBoard (.paramSet parId val)
      pure saved.ok
    else pure false
  let ok0 ← save (isValidSpreadingFactor (nibble 0)) parIdLoraSf (nibble 0)
  let ok1 ← save (isValidBandwidth (nibble 1)) parIdLoraBw (nibble 1)
  let ok2 ← save (isValidCodingRate (nibble 2)) parIdLoraCr (nibble 2)
  if ok0 && ok1 && ok2 then init else pure false

/-! ### `sx1262_process` -/

def Request.serve : Request → Driver Bool
  | .startTx txBuf timeoutS => Sx1262.startTx txBuf timeoutS
  | .startRetx array tryCnt => Sx1262.startRetx array tryCnt
  | .isRetxIdle => Sx1262.isRetxIdle
  | .startRx timeoutS => Sx1262.startRx timeoutS
  | .setModulation modulation => Sx1262.setModulation modulation
  | .init => Sx1262.init

def serve {α : Type} : Client α → Driver α
  | .done a => pure a
  | .ask request next => do
    let res ← request.serve
    serve (next res)

def isConnected : Quiet Bool := do
  let (_, _, status) ← getPacketType
  Quiet.modifyRadio fun r => { r with devStatus := status.getD r.devStatus }
  let (res, readSyncWord) ← getSyncWord
  let r ← Quiet.radio
  pure (r.setSyncWord == readSyncWord && res)

/-- The number of bits that are set among the lowest ten. -/
def countSetBits (word : UInt16) : UInt16 :=
  ((List.range 10).map fun i => (word >>> UInt16.ofNat i) &&& 1).foldl (· + ·) 0

/-- The counters of `sx1262_proc_irq_status`; `HeaderErr` has none. -/
def IrqCnt.count (c : IrqCnt) (word : UInt16) : IrqCnt :=
  let bit (i : UInt16) : UInt16 := (word >>> i) &&& 1
  { c with
    total := c.total + countSetBits word
    txDone := c.txDone + bit 0
    rxDone := c.rxDone + bit 1
    preambleDetected := c.preambleDetected + bit 2
    syncwordValid := c.syncwordValid + bit 3
    headerValid := c.headerValid + bit 4
    crcErr := c.crcErr + bit 6
    cadDone := c.cadDone + bit 7
    cadDetected := c.cadDetected + bit 8
    timeout := c.timeout + bit 9 }

def procIrqStatus (irqStatus : UInt16) : Quiet Bool := do
  Quiet.modifyRadio fun r => { r with irqCnt := r.irqCnt.count irqStatus }
  clearIrq 0xFFFF

/-- A counter of `sx1262_proc_chip_mode` for a mode in which the chip is not to stay. -/
def stay (chipMode prevChipMode : UInt8) (cnt : UInt32) : UInt32 := if prevChipMode = chipMode then cnt + 1 else 0

/-- The new values of the static variables, and whether the chip hangs on. -/
def HangOn.note (h : HangOn) (chipMode : UInt8) : HangOn × Bool :=
  let again (cnt limit : UInt32) : UInt32 × Bool :=
    let cnt := stay chipMode h.prevChipMode cnt
    if limit < cnt then (0, true) else (cnt, false)
  let h' := { h with prevChipMode := chipMode }
  if chipMode = chpModeStbyRc then
    ({ h' with chipModeRc := (again h.chipModeRc 40).1 }, (again h.chipModeRc 40).2)
  else if chipMode = chpModeStbyXosc then
    ({ h' with chipModeXosc := (again h.chipModeXosc 100).1 }, (again h.chipModeXosc 100).2)
  else if chipMode = chpModeFs then
    ({ h' with chipModeFs := (again h.chipModeFs 100000).1 }, (again h.chipModeFs 100000).2)
  else if chipMode = chpModeTx then
    ({ h' with chipModeTx := (again h.chipModeTx 1000).1 }, (again h.chipModeTx 1000).2)
  else (h', false)

/-- The radio receives. -/
def procChpModeRx : Driver Unit := do
  modifyRadio fun r => { r with txDone := true }
  let (res, rssiInst) ← getRssiInst
  if res then modifyRadio fun r => { r with rssiInst := rssiInst }

/-- `sx1262_proc_chip_mode`.  Nothing that it calls reads the static variables. -/
def procChipMode (chipMode : UInt8) : Driver Unit := do
  let s ← get
  modify fun s => { s with hangOn := (s.hangOn.note chipMode).1 }
  if (s.hangOn.note chipMode).2 then
    let _ ← init
  else if chipMode = chpModeRx then
    procChpModeRx

def syncRssi : Quiet Unit := do
  let (res, rssiPkt, snrPkt, signalRssiPkt) ← getPacketStatus
  if res then
    Quiet.modifyRadio fun r => { r with
      rxStatus := 0
      rssiSync := 0
      rssiAvg := 0
      rssiPkt := rssiPkt
      snrPkt := snrPkt
      signalRssiPkt := signalRssiPkt }

section

variable (layers : Layers)

/-- `sx1262_proc_data_aval` up to the call of `lora_proc_payload`: what is handed up, if anything is. -/
def takePayload : Driver (Option (List UInt8)) := do
  modifyRadio fun r => { r with rxDoneCnt := r.rxDoneCnt + 1 }
  let (res, rxPayload) ← getRxPayload allZero
  let bytes := (List.range 255).map rxPayload
  if res && !layers.isArrPat bytes 0 then
    let _ ← clearFifo
    modifyRadio fun r => { r with rxSizeMax := max r.rxSizeMax 255 }
    pure (some bytes)
  else pure none

def procDataAval : Driver Unit := do
  match ← takePayload layers with
  | some rxPayload => let _ ← serve (layers.loraProcPayload rxPayload)
  | none => pure ()

/-- The end of a transmission. -/
def procTxDone : Driver Unit := do
  modifyRadio fun r => { r with txDone := true }
  let time ← askBoard .getTimeMs32
  modifyRadio fun r => { r with txDoneTimeStampMs := time.num }
  let _ ← serve layers.tbfpRetxTxDone
  modify fun s => { s with radio.txDoneCnt := s.radio.txDoneCnt + 1, loraTxDoneCnt := s.loraTxDoneCnt + 1 }
  let _ ← startRx rxContinuousMode

/-- The `switch` over the status of the command. -/
def procCommandStatus (commandStatus : UInt8) : Driver Unit := do
  if commandStatus = comStatDataAvail then
    procDataAval layers
    let _ ← startRx rxContinuousMode
  else if commandStatus = comStatComProcErr then
    modifyRadio fun r => { r with processingError := r.processingError + 1 }
  else if commandStatus = comStatComTxDone then
    procTxDone layers

def pollStatus : Driver Bool := do
  let (res, byte) ← getStatus
  let res ← if res then do
      modifyRadio fun r => { r with devStatus := byte }
      procCommandStatus layers (Status.commandStatus byte)
      let s ← get
      procChipMode (Status.chipMode s.radio.devStatus)
      resetStats
    else pure false
  if (← get).radio.syncRssi then syncRssi
  pure res

def readWire (pin : Pin) : Quiet UInt8 := do
  let level ← Quiet.ask (.gpioRead pin)
  pure level.num.toUInt8

def syncRegisters : Quiet Bool := do
  let (res, rxPayloadLen, rxBufferPointer) ← getRxbuffStatus
  if res then Quiet.modifyRadio fun r => { r with rxPayloadLen := rxPayloadLen, rxBufferPointer := rxBufferPointer }
  let (res, lora) ← getStatistic
  if res then Quiet.modifyRadio fun r => { r with lora := lora }
  let (res, opError) ← getDevErr
  if res then Quiet.modifyRadio fun r => { r with opError := opError }
  let (res, irqStat) ← getIrqStatus
  if res then
    Quiet.modifyRadio fun r => { r with irqStat := irqStat }
    let _ ← procIrqStatus irqStat
  let (res, syncWord) ← Sx1262.getSyncWord
  if res then Quiet.modifyRadio fun r => { r with getSyncWord := syncWord }
  let wireInt ← readWire .int
  let wireBusy ← readWire .busy
  let wireNss ← readWire .ss
  let wireRst ← readWire .rst
  Quiet.modifyRadio fun r => { r with wireInt := wireInt, wireBusy := wireBusy, wireNss := wireNss, wireRst := wireRst }
  let (res, packetType, status) ← getPacketType
  Quiet.modifyRadio fun r => { r with devStatus := status.getD r.devStatus }
  if res then Quiet.modifyRadio fun r => { r with packetType := packetType }
  let (res, randNum) ← getRand
  if res then Quiet.modifyRadio fun r => { r with randNum := randNum }
  pure res

def process : Driver Bool := do
  let res ← if (← get).radio.checkConnectivity then isConnected else pure true
  if res then
    if busyCntLimit < (← get).radio.busyCnt then
      modifyRadio fun r => { r with busyCnt := 0 }
      let _ ← init
    let time ← askBoard .getTimeMs32
    let _ ← serve (layers.loraTransmitFromQueue time.num (← get).radio.txDoneTimeStampMs)
    let res ← pollStatus layers
    if (← get).radio.syncReg then syncRegisters else pure res
  else init

end

end TiMcu.Sx1262
