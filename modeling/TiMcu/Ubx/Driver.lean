import TiMcu.Ubx.Parser

/-!
# Sending UBX messages

`ubx_send_message` builds a message in a static array, clears the acknowledgement flag and hands the message to the UART.
-/

namespace TiMcu.Ubx

open NorFlash LittleEndian

variable {W : Type}

/-- A message to be sent, or a packet that was received. -/
structure UbxPacket where
  cls : UInt8
  id : UInt8
  payload : List UInt8
  deriving DecidableEq, Repr

def UbxPacket.len (m : UbxPacket) : UInt16 := UInt16.ofNat m.payload.length

/-- The receiver, the static `tx_array` and the bytes that went to the UART. -/
structure UbxDriver (W : Type) where
  receiver : Receiver W
  txArray : Mem
  txPktCnt : UInt32
  line : List UInt8

/-- The driver at rest. -/
def UbxDriver.init (now : UInt32) (world : W) : UbxDriver W where
  receiver := Receiver.init now world
  txArray := fun _ => 0
  txPktCnt := 0
  line := []

/-- The header and the payload in `tx_array`. -/
def fillTxArray (txArray : Mem) (m : UbxPacket) : Mem :=
  let txArray := Buffer.write txArray 0 [ubxSyn0, ubxSyn1, m.cls, m.id, lo m.len, hi m.len]
  if 0 < m.len.toNat then Buffer.write txArray ubxHeaderSize m.payload else txArray

/-- The message is complete in `tx_array`, and the flag is cleared. -/
def UbxDriver.compose (d : UbxDriver W) (m : UbxPacket) : UbxDriver W :=
  let txArray := fillTxArray d.txArray m
  let crc16 := ubxCalcCrc16 (bytesAt txArray 2 (m.len + 4).toNat)
  { d with
    receiver.proto.ack := false
    txArray := Buffer.write txArray (ubxHeaderSize + m.len.toNat) [lo crc16, hi crc16] }

/-- The first bytes of `tx_array` go to the UART, which takes them or not. -/
def UbxDriver.transmit (uartSend : Bool) (d : UbxDriver W) (len : UInt16) : Bool × UbxDriver W :=
  let txArrayLen := (len + UInt16.ofNat ubxHeaderSize + 2).toNat
  if uartSend then
    (true, { d with line := d.line ++ bytesAt d.txArray 0 txArrayLen, txPktCnt := d.txPktCnt + 1 })
  else (false, d)

def ubxSendMessage (uartSend : Bool) (d : UbxDriver W) (m : UbxPacket) : Bool × UbxDriver W :=
  (d.compose m).transmit uartSend m.len

end TiMcu.Ubx
