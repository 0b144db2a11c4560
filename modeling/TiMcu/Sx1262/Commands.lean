import TiMcu.Sx1262.Quiet

/-!
# Commands of the radio

The functions of `sx1262_drv.c` and `sx1262_registers.c` that send one command or set one register.

Left out: what depends on floating point besides the frequency, the GFSK modem, and what is only printed.
-/

namespace TiMcu.Sx1262

/-! ### Constants -/

def opcodeWriteRegister : UInt8 := 0x0D
def opcodeResetStats : UInt8 := 0x00
def opcodeClearIrqStatus : UInt8 := 0x02
def opcodeClearDeviceErrors : UInt8 := 0x07
def opcodeSetDioIrqParams : UInt8 := 0x08
def opcodeWriteBuffer : UInt8 := 0x0E
def opcodeGetStats : UInt8 := 0x10
def opcodeGetPacketType : UInt8 := 0x11
def opcodeGetIrqStatus : UInt8 := 0x12
def opcodeGetRxBufferStatus : UInt8 := 0x13
def opcodeGetPacketStatus : UInt8 := 0x14
def opcodeGetRssiinst : UInt8 := 0x15
def opcodeGetDeviceErrors : UInt8 := 0x17
def opcodeReadBuffer : UInt8 := 0x1E
def opcodeSetStandby : UInt8 := 0x80
def opcodeSetRfFrequency : UInt8 := 0x86
def opcodeSetPacketType : UInt8 := 0x8A
def opcodeSetModulationParams : UInt8 := 0x8B
def opcodeSetPacketParams : UInt8 := 0x8C
def opcodeSetTxParams : UInt8 := 0x8E
def opcodeSetBufferBaseAddr : UInt8 := 0x8F
def opcodeSetPaConfig : UInt8 := 0x95
def opcodeSetRegulatorMode : UInt8 := 0x96
def opcodeSetDio2AsRfswitch : UInt8 := 0x9D

def txBaseAddress : UInt8 := 0
def rxBaseAddress : UInt8 := 0
def rxContinuousMode : UInt32 := 0xFFFFFF
def txSingleMode : UInt32 := 0
def rxgainBoosted : UInt8 := 0x96
def dfltOutPower : Int8 := 14
def packetTypeLora : UInt8 := 1
def packetTypeNone : UInt8 := 0x0F
def loraBw500 : UInt8 := 6
def stdbyRc : UInt8 := 0
def stdbyXosc : UInt8 := 1
def stdbyUnfed : UInt8 := 2
def freqDiv : Nat := 33554432

def addrCrcInitMsb : UInt16 := 0x06BC
def addrCrcInitLsb : UInt16 := 0x06BD
def addrCrcPolynomialMsb : UInt16 := 0x06BE
def addrCrcPolynomialLsb : UInt16 := 0x06BF
def addrSyncWord0 : UInt16 := 0x06C0
def addrLoraSyncWordMsb : UInt16 := 0x0740
def addrLoraSyncWordLsb : UInt16 := 0x0741
def addrRandNumGen0 : UInt16 := 0x0819
def addrTxModulation : UInt16 := 0x0889
def addrRxGain : UInt16 := 0x08AC
def addrTxClampConfig : UInt16 := 0x08D8

def allFF : Nat → UInt8 := fun _ => 0xFF
def allZero : Nat → UInt8 := fun _ => 0

/-- The bytes of a time-out, from the senior one to the junior one. -/
def timeoutBytes (timeoutS : UInt32) : List UInt8 :=
  [(timeoutS >>> 16).toUInt8, (timeoutS >>> 8).toUInt8, timeoutS.toUInt8]

/-! ### Registers of several bytes -/

/-- A command that reads nothing. -/
def command (opCode : UInt8) (txArray : List UInt8) (h : opCode ≠ opcodeSetTx := by decide) : Quiet Bool := do
  let (res, _) ← Quiet.sendOpcode opCode txArray allZero 0 h
  pure res

/-- A command whose second received byte is kept as the status. -/
def query (opCode : UInt8) (txArray : List UInt8) (rxArray : Nat → UInt8) (rxArrayLen : Nat)
    (h : opCode ≠ opcodeSetTx := by decide) : Quiet (Bool × (Nat → UInt8)) := do
  let (res, rxArray) ← Quiet.sendOpcode opCode txArray rxArray rxArrayLen h
  if res then Quiet.modifyRadio fun r => { r with status := rxArray 1 }
  pure (res, rxArray)

def writeReg (regAddr : UInt16) (regVal : UInt8) : Quiet Bool :=
  command opcodeWriteRegister [hi16 regAddr, lo16 regAddr, regVal]

/-- Writes one after the other, each with `res = sx1262_write_reg(...) && res`. -/
def writeRegs : List (UInt16 × UInt8) → Quiet Bool
  | [] => pure true
  | (regAddr, regVal) :: regs => do
    let ok ← writeReg regAddr regVal
    let res ← writeRegs regs
    pure (ok && res)

/-- Reads one after the other, each with `res = sx1262_read_reg(...) && res`; the variables are zero before. -/
def readRegs : List UInt16 → Quiet (Bool × List UInt8)
  | [] => pure (true, [])
  | regAddr :: regs => do
    let (ok, regVal) ← Quiet.readReg regAddr 0
    let (res, regVals) ← readRegs regs
    pure (ok && res, regVal :: regVals)

def join16 (msb lsb : UInt8) : UInt16 := (msb.toUInt16 <<< 8) ||| lsb.toUInt16

def addrSyncWords : List UInt16 := (List.range 8).map fun i => addrSyncWord0 + UInt16.ofNat i

/-- The bytes of a word, from the senior one to the junior one. -/
def bytes64 (w : UInt64) : List UInt8 := (List.range 8).map fun i => (w >>> UInt64.ofNat (8 * (7 - i))).toUInt8

def join64 (bytes : List UInt8) : UInt64 := bytes.foldl (fun w b => (w <<< 8) ||| b.toUInt64) 0

def setSyncWord (syncWord : UInt64) : Quiet Bool := writeRegs (addrSyncWords.zip (bytes64 syncWord))

def getSyncWord : Quiet (Bool × UInt64) := do
  let (res, bytes) ← readRegs addrSyncWords
  pure (res, join64 bytes)

/-- Two registers with a word, the senior byte first. -/
def setWord (msb lsb : UInt16) (word : UInt16) : Quiet Bool := writeRegs [(msb, hi16 word), (lsb, lo16 word)]

/-- The junior byte is read first. -/
def getWord (msb lsb : UInt16) : Quiet (Bool × UInt16) := do
  let (res1, junior) ← Quiet.readReg lsb 0
  let (res2, senior) ← Quiet.readReg msb 0
  pure (res2 && res1, join16 senior junior)

def setLoraSyncWord (syncWord : UInt16) : Quiet Bool := setWord addrLoraSyncWordMsb addrLoraSyncWordLsb syncWord
def getLoraSyncWord : Quiet (Bool × UInt16) := getWord addrLoraSyncWordMsb addrLoraSyncWordLsb
def setCrcPoly (polynomial : UInt16) : Quiet Bool := setWord addrCrcPolynomialMsb addrCrcPolynomialLsb polynomial
def getCrcPoly : Quiet (Bool × UInt16) := getWord addrCrcPolynomialMsb addrCrcPolynomialLsb
def setCrcSeed (seed : UInt16) : Quiet Bool := setWord addrCrcInitMsb addrCrcInitLsb seed
def getCrcSeed : Quiet (Bool × UInt16) := getWord addrCrcInitMsb addrCrcInitLsb

/-- `sx1262_get_rand`: the register with the lowest address is the junior byte. -/
def getRand : Quiet (Bool × UInt32) := do
  let (res, bytes) ← readRegs ((List.range 4).map fun i => addrRandNumGen0 + UInt16.ofNat i)
  pure (res, bytes.foldr (fun b w => (w <<< 8) ||| b.toUInt32) 0)

def setRxGain (rxGain : UInt8) : Quiet Bool := writeReg addrRxGain rxGain
def getRxGain (rxGain : UInt8) : Quiet (Bool × UInt8) := Quiet.readReg addrRxGain rxGain
def setTxModulation (txModulation : UInt8) : Quiet Bool := writeReg addrTxModulation txModulation
def getTxModulation (txModulation : UInt8) : Quiet (Bool × UInt8) := Quiet.readReg addrTxModulation txModulation
def setTxClampConfig (txClampConfig : UInt8) : Quiet Bool := writeReg addrTxClampConfig txClampConfig
def getTxClampConfig (txClampConfig : UInt8) : Quiet (Bool × UInt8) := Quiet.readReg addrTxClampConfig txClampConfig

/-- `check_sync_word`. -/
def checkSyncWord (syncWord : UInt64) : Quiet Bool := do
  if ← setSyncWord syncWord then
    let (res, readSyncWord) ← getSyncWord
    pure (if res then syncWord == readSyncWord else false)
  else pure false

def isExist : Quiet Bool := checkSyncWord 0x0012345678abcdef

/-! ### Status -/

/-- `sx1262_get_status`; `*out_status` is written also when the command failed. -/
def getStatus : Quiet (Bool × UInt8) := do
  let (res, rxArray) ← Quiet.sendOpcode opcodeGetStatus [0] allFF 2
  pure (res, rxArray 1)

def chpModeStbyRc : UInt8 := 2
def chpModeStbyXosc : UInt8 := 3
def chpModeFs : UInt8 := 4
def chpModeTx : UInt8 := 6
def comStatDataAvail : UInt8 := 2
def comStatComProcErr : UInt8 := 4

def getStandby : Quiet UInt8 := do
  let (res, byte) ← getStatus
  pure (if res then
    if Status.chipMode byte = chpModeStbyRc then stdbyRc
    else if Status.chipMode byte = chpModeStbyXosc then stdbyXosc
    else stdbyUnfed
  else stdbyUnfed)

/-- `sx1262_get_irq_status`; the two bytes are not reversed. -/
def getIrqStatus : Quiet (Bool × UInt16) := do
  let (res, rxArray) ← query opcodeGetIrqStatus [] allFF 4
  pure (res, join16 (rxArray 3) (rxArray 2))

def getDevErr : Quiet (Bool × UInt16) := do
  let (res, rxArray) ← query opcodeGetDeviceErrors [] allZero 4
  pure (res, if res then join16 (rxArray 2) (rxArray 3) else 0)

/-- `sx1262_get_packet_type`; the result, the packet type, and the status if it was read. -/
def getPacketType : Quiet (Bool × UInt8 × Option UInt8) := do
  let (res, rxArray) ← Quiet.sendOpcode opcodeGetPacketType [] allFF 2
  pure (if res then (true, rxArray 1, some (rxArray 0)) else (false, packetTypeNone, none))

/-- `-x / 2` in `int`, as an `int8_t`. -/
def minusHalf (x : UInt8) : Int8 := Int8.ofInt (-(x.toNat / 2 : Nat))

/-- `sx1262_get_packet_status`: `RssiPkt`, `SnrPkt` and `SignalRssiPkt`; the other outputs are not written. -/
def getPacketStatus : Quiet (Bool × Int8 × UInt8 × Int8) := do
  let (res, rxArray) ← query opcodeGetPacketStatus [] allFF 5
  pure (res, if res then (minusHalf (rxArray 2), rxArray 3 / 4, minusHalf (rxArray 4)) else (0, 0, 0))

def getRssiInst : Quiet (Bool × Int8) := do
  let (res, rxArray) ← query opcodeGetRssiinst [] allFF 3
  pure (res, if res then minusHalf (rxArray 2) else 0)

/-- `sx1262_get_statistic`, what goes to `lora`. -/
def getStatistic : Quiet (Bool × PaketStat) := do
  let (res, rxArray) ← query opcodeGetStats [] allFF 16
  pure (res, if res then
    { nbPktReceived := join16 (rxArray 2) (rxArray 3)
      nbPktCrcError := join16 (rxArray 4) (rxArray 5)
      nbPktHeaderErr := join16 (rxArray 6) (rxArray 7) }
  else {})

/-! ### Settings -/

def setRegulatorMode (regModeParam : UInt8) : Quiet Bool := command opcodeSetRegulatorMode [regModeParam]

/-- The code of a frequency, for the crystal of 32 MHz: for it the quotients of `sx1262_set_rf_frequency` round to the
same whole number. -/
def frfCode (rfFrequencyHz : UInt32) : UInt32 := UInt32.ofNat (rfFrequencyHz.toNat * freqDiv / 32000000)

def setRfFrequency (rfFrequencyHz : UInt32) : Quiet Bool :=
  let code := frfCode rfFrequencyHz
  command opcodeSetRfFrequency
    [(code >>> 24).toUInt8, (code >>> 16).toUInt8, (code >>> 8).toUInt8, code.toUInt8]

def setBufferBaseAddr (txBaseAddr rxBaseAddr : UInt8) : Quiet Bool :=
  command opcodeSetBufferBaseAddr [txBaseAddr, rxBaseAddr]

def isPowerValid (power : Int8) : Bool := decide (-7 ≤ power) && decide (power ≤ 22)

def setTxParams (power : Int8) (rampTime : UInt8) : Quiet Bool :=
  command opcodeSetTxParams [(if isPowerValid power then power else dfltOutPower).toUInt8, rampTime]

def setDio2AsRfSwitchCtrl (mode : UInt8) : Quiet Bool := command opcodeSetDio2AsRfswitch [mode]

/-- `sx1262_set_packet_params` without the GFSK modem. -/
def setPacketParams (packetType : UInt8) (packParam : LoRaPacketParam) : Quiet Bool :=
  if packetType = packetTypeLora then
    command opcodeSetPacketParams
      [hi16 packParam.preambleLength, lo16 packParam.preambleLength, packParam.headerType, packParam.payloadLength,
        packParam.crcType, packParam.invertIq]
  else pure false

def resetStats : Quiet Bool := command opcodeResetStats (List.replicate 6 0)

/-- `sx1262_set_standby`; what is read back is only printed. -/
def setStandby (stdbyConfig : UInt8) : Quiet Bool := do
  let res ← command opcodeSetStandby [stdbyConfig]
  let _ ← getStandby
  pure res

def setPacketType (packetType : UInt8) : Quiet Bool := do
  if ← setStandby stdbyRc then command opcodeSetPacketType [packetType] else pure false

/-- `sx1262_set_dio_irq_params`: the words go out in the order of the elements of `u16`. -/
def setDioIrqParams (irqMask dio1Mask dio2Mask dio3Mask : UInt16) : Quiet Bool :=
  command opcodeSetDioIrqParams
    [hi16 dio3Mask, lo16 dio3Mask, hi16 dio2Mask, lo16 dio2Mask, hi16 dio1Mask, lo16 dio1Mask, hi16 irqMask,
      lo16 irqMask]

def clearDevError : Quiet Bool := do
  let (res, _) ← query opcodeClearDeviceErrors [0, 0] allZero 3
  pure res

def clearIrq (clearIrqParam : UInt16) : Quiet Bool :=
  command opcodeClearIrqStatus [hi16 clearIrqParam, lo16 clearIrqParam]

def txSize : Nat := 256

/-- `sx1262_clear_fifo`: the offset and the buffer, all zero. -/
def clearFifo : Quiet Bool := command opcodeWriteBuffer (List.replicate (txSize + 1) 0)

def isValidSpreadingFactor (spreadingFactor : UInt8) : Bool := spreadingFactor ∈ [5, 6, 7, 8, 9, 10, 11, 12]
def isValidCodingRate (codingRate : UInt8) : Bool := codingRate ∈ [1, 2, 3, 4]
def isValidBandwidth (bandWidth : UInt8) : Bool := bandWidth ∈ [0, 8, 9, 10, 1, 2, 3, 4, 5, 6]

def setModulationQualityWorkaround (bandWidth : UInt8) : Quiet Bool := do
  let (res, txModulation) ← getTxModulation 0
  if res then
    setTxModulation (if bandWidth = loraBw500 then txModulation &&& 0xFB else txModulation ||| 0x04)
  else pure false

def setLoraModulationParams (modParams : LoRaModulationParams) : Quiet Bool := do
  let res1 := isValidBandwidth modParams.bandWidth
  let res ← if res1 then setModulationQualityWorkaround modParams.bandWidth else pure false
  if res1 && isValidCodingRate modParams.codingRate && isValidSpreadingFactor modParams.spreadingFactor then
    command opcodeSetModulationParams
      [modParams.spreadingFactor, modParams.bandWidth, modParams.codingRate, modParams.lowDataRateOptimization, 0, 0, 0,
        0]
  else pure res

/-- `sx1262_set_modulation_params` without the GFSK modem. -/
def setModulationParams : Quiet Bool := do
  let r ← Quiet.radio
  if r.packetParamType = packetTypeLora then setLoraModulationParams r.loraModParams else pure false

def setPaConfig (paDutyCycle hpMax deviceSel paLut : UInt8) : Quiet Bool :=
  command opcodeSetPaConfig [paDutyCycle, hpMax, deviceSel, paLut]

/-- `calc_power_param`: the result, `pa_duty_cycle` and `hp_max`. -/
def calcPowerParam (outputPowerDbm : UInt8) : Bool × UInt8 × UInt8 :=
  if outputPowerDbm = 22 then (true, 4, 7)
  else if outputPowerDbm = 20 then (true, 3, 5)
  else if outputPowerDbm = 17 then (true, 2, 3)
  else if outputPowerDbm = 14 then (true, 2, 2)
  else (false, 4, 7)

def setRamp3400us : UInt8 := 7

def confTx (outputPowerDbm : Int8) : Quiet Bool := do
  let outputPowerDbm := if isPowerValid outputPowerDbm then outputPowerDbm else dfltOutPower
  let (res, paDutyCycle, hpMax) := calcPowerParam outputPowerDbm.toUInt8
  let ok1 ← setPaConfig paDutyCycle hpMax 0 1
  let ok2 ← setTxParams outputPowerDbm setRamp3400us
  let ok3 ← setBufferBaseAddr txBaseAddress rxBaseAddress
  pure (ok3 && (ok2 && (ok1 && res)))

def wakeup : Quiet Bool := do
  let (res, _) ← getStatus
  let ok ← setStandby stdbyRc
  pure (ok && res)

/-! ### The data buffer -/

def writeBuffer (offset : UInt8) (payload : List UInt8) : Quiet Bool :=
  if payload.length ≤ fifoSize then command opcodeWriteBuffer (offset :: payload) else pure false

def setPayload (payload : List UInt8) : Quiet Bool := writeBuffer txBaseAddress payload

def getPrevCircular (addr : UInt8) : UInt8 :=
  let prev (val : UInt8) := if 0 < val then val - 1 else 255
  prev (prev addr)

/-- `sx1262_get_rxbuff_status`: the result, the length and the start of what was received. -/
def getRxbuffStatus : Quiet (Bool × UInt8 × UInt8) := do
  let (res, rxArray) ← query opcodeGetRxBufferStatus [] allFF 4
  pure (res, if res then (rxArray 2, getPrevCircular (rxArray 3)) else (0, 0))

/-- `sx1262_read_buffer`; `outPayload` is the array before.  Its bytes are taken from the third byte received on. -/
def readBuffer (offset : UInt8) (outPayload : Nat → UInt8) (payloadLen : Nat) : Quiet (Bool × (Nat → UInt8)) := do
  if payloadLen ≤ fifoSize then
    let (res, rxArray) ← Quiet.sendOpcode opcodeReadBuffer [offset] allFF payloadLen
    pure (res, if res then overwrite outPayload payloadLen fun i => rxArray (3 + i) else outPayload)
  else pure (false, outPayload)

/-- `sx1262_get_rx_payload` with room for 256 bytes: always 255 bytes are read. -/
def getRxPayload (outPayload : Nat → UInt8) : Quiet (Bool × (Nat → UInt8)) := do
  let (_, _, rxStartBufferPointer) ← getRxbuffStatus
  readBuffer rxStartBufferPointer outPayload 255

/-! ### Receiving and sending -/

def startRx (timeoutS : UInt32) : Quiet Bool := do
  let ok1 ← clearFifo
  let ok2 ← setBufferBaseAddr txBaseAddress rxBaseAddress
  let ok3 ← setRxGain rxgainBoosted
  let ok4 ← command opcodeSetRx (timeoutBytes timeoutS)
  pure (ok4 && (ok3 && (ok2 && ok1)))

def setTx (timeoutS : UInt32) : Driver Bool := do
  let (res, _) ← Sx1262.sendOpcode opcodeSetTx (timeoutBytes timeoutS) allZero 0
  pure res

/-- The first part of `sx1262_start_tx`: the frame goes to the data buffer. -/
def loadFrame (txBuf : List UInt8) : Quiet Bool := do
  if 0 < txBuf.length ∧ txBuf.length ≤ sx1262MaxFrameSize then
    let ok1 ← clearFifo
    let ok2 ← setBufferBaseAddr txBaseAddress rxBaseAddress
    let ok3 ← setPayload txBuf
    pure (ok3 && (ok2 && ok1))
  else pure false

def startTx (txBuf : List UInt8) (timeoutS : UInt32) : Driver Bool := do
  let s ← get
  if s.radio.txMute then pure false
  else if s.radio.txDone then
    modifyRadio fun r => { r with txDone := false }
    if ← loadFrame txBuf then
      let res ← setTx timeoutS
      if res then modifyRadio fun r => { r with txSizeMax := max r.txSizeMax (UInt8.ofNat txBuf.length) }
      pure res
    else pure false
  else pure false

/-! ### `sx1262_re_tx.c` -/

def retxInit : Quiet Unit := Quiet.modifyRadio fun r => { r with reTxFsm := { r.reTxFsm with retxCnt := 0, txFrame := [] } }

def retxProc : Driver Bool := do
  let s ← get
  if s.radio.txDone ∧ 0 < s.radio.reTxFsm.retxCnt then
    modifyRadio fun r => { r with reTxFsm := { r.reTxFsm with retxCnt := r.reTxFsm.retxCnt - 1 } }
    startTx s.radio.reTxFsm.txFrame txSingleMode
  else pure false

def startRetx (array : List UInt8) (tryCnt : UInt8) : Driver Bool := do
  if array.length < sx1262MaxFrameSize then
    modifyRadio fun r => { r with reTxFsm := { r.reTxFsm with retxCnt := tryCnt, txFrame := array } }
    retxProc
  else pure false

def isRetxIdle : Driver Bool := do
  let s ← get
  pure (s.radio.txDone && s.radio.reTxFsm.retxCnt == 0)

end TiMcu.Sx1262
