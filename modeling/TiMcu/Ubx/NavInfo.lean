import TiMcu.Lib.Fetch
import TiMcu.Lib.LittleEndian
import TiMcu.Ubx.Driver
import TiMcu.Ubx.Stat

/-!
# The handlers of the UBX messages

`ubx_proc_frame` hands the frame in `fix_frame` to the handler of its class and id, which copies a structure from the
payload and keeps some of its fields in `NavInfo`.  The handlers are programs that read `fix_frame`; what they copy lies
in the payload or behind it.

The fields of `NavInfo` that are doubles hold a multiple of an integer of the message; this integer is kept here.
-/

namespace TiMcu.Ubx

open NorFlash LittleEndian

/-! ### Constants -/

def ubxIndexPayload : Nat := 6

def ubxClaNav : UInt8 := 0x01
def ubxClaCfg : UInt8 := 0x06
def ubxClaMga : UInt8 := 0x13
def ubxClaSec : UInt8 := 0x27

def ubxIdNavPosecef : UInt8 := 0x01
def ubxIdNavPosllh : UInt8 := 0x02
def ubxIdNavAtt : UInt8 := 0x05
def ubxIdNavPvt : UInt8 := 0x07
def ubxIdNavVelned : UInt8 := 0x12
def ubxIdNavHpposllh : UInt8 := 0x14
def ubxIdNavTimeutc : UInt8 := 0x21
def ubxIdNavSvin : UInt8 := 0x3b
def ubxIdCfgNmea : UInt8 := 0x17
def ubxIdCfgTmode3 : UInt8 := 0x71
def ubxIdCfgGetVal : UInt8 := 0x8B
def ubxIdMgaIni : UInt8 := 0x40
def ubxIdSecUniqid : UInt8 := 0x03

/-! ### The variables of the application -/

/-- `struct tm` -/
structure DateTime where
  tmSec : Int := 0
  tmMin : Int := 0
  tmHour : Int := 0
  tmMday : Int := 0
  tmMon : Int := 0
  tmYear : Int := 0

/-- In units of `1e-7` degrees. -/
structure GnssCoordinate where
  latitude : Int32 := 0
  longitude : Int32 := 0

structure Wgs84Coordinate where
  xCm : Int32 := 0
  yCm : Int32 := 0
  zCm : Int32 := 0
  accCm : Int32 := 0

/-- `heading` and `accuracy_course` are in units of `1e-5` degrees. -/
structure GnssVelocity where
  velocityNorth : Int32 := 0
  velocityEast : Int32 := 0
  velocityDown : Int32 := 0
  speed : UInt32 := 0
  speedGround : UInt32 := 0
  heading : Int32 := 0
  accuracySpeed : UInt32 := 0
  accuracyCourse : UInt32 := 0

structure NavInfo where
  dateTime : DateTime := {}
  coordinate : GnssCoordinate := {}
  wgs84Coordinate : Wgs84Coordinate := {}
  velocity : GnssVelocity := {}
  id : Fin 5 → UInt8 := fun _ => 0
  hmsl : Int32 := 0
  hAcc : UInt32 := 0
  vAcc : UInt32 := 0
  surveyInMeanPositionAccMm : UInt32 := 0
  surveyInObservationTime : UInt32 := 0
  roll : Int32 := 0
  pitch : Int32 := 0
  heading : Int32 := 0
  accRoll : UInt32 := 0
  accPitch : UInt32 := 0
  accHeading : UInt32 := 0
  baseRxMode : UInt8 := 0
  fixedPosAccMm : UInt32 := 0
  svinMinDurS : UInt32 := 0
  fixType : UInt8 := 0

/-! ### The copied structures -/

/-- The numbers of a structure by their offsets. -/
structure Fields where
  u1 : Nat → UInt8
  u2 : Nat → UInt16
  u4 : Nat → UInt32
  i4 : Nat → Int32

/-- The numbers in the copied bytes. -/
def fieldsOf (data : List UInt8) : Fields :=
  let byte i := data.getD i 0
  let word i := join32 (byte i) (byte (i + 1)) (byte (i + 2)) (byte (i + 3))
  { u1 := byte, u2 := fun i => join (byte i) (byte (i + 1)), u4 := word, i4 := fun i => (word i).toInt32 }

structure NavPosEcef where
  ecefX : Int32
  ecefY : Int32
  ecefZ : Int32
  pAcc : UInt32

def sizeofNavPosEcef : Nat := 20

def NavPosEcef.read (data : Fields) : NavPosEcef := ⟨data.i4 4, data.i4 8, data.i4 12, data.u4 16⟩

structure NavPosllh where
  lon : Int32
  lat : Int32
  hMSL : Int32
  hAcc : UInt32
  vAcc : UInt32

def sizeofNavPosllh : Nat := 28

def NavPosllh.read (data : Fields) : NavPosllh :=
  ⟨data.i4 4, data.i4 8, data.i4 16, data.u4 20, data.u4 24⟩

structure NavHpPosllh where
  lon : Int32
  lat : Int32
  hMSL : Int32
  hAcc : UInt32
  vAcc : UInt32

def sizeofNavHpPosllh : Nat := 36

/-- The compiler puts a byte in front of `reserved0`, so `iTOW` is at 4 as in the message. -/
def NavHpPosllh.read (data : Fields) : NavHpPosllh :=
  ⟨data.i4 8, data.i4 12, data.i4 20, data.u4 28, data.u4 32⟩

structure NavTimeUtc where
  year : UInt16
  month : UInt8
  day : UInt8
  hour : UInt8
  min : UInt8
  sec : UInt8

def sizeofNavTimeUtc : Nat := 20

def NavTimeUtc.read (data : Fields) : NavTimeUtc :=
  ⟨data.u2 12, data.u1 14, data.u1 15, data.u1 16, data.u1 17, data.u1 18⟩

structure NavSvin where
  dur : UInt32
  meanAcc : UInt32

def sizeofNavSvin : Nat := 40

def NavSvin.read (data : Fields) : NavSvin := ⟨data.u4 8, data.u4 28⟩

structure NavPvt where
  year : UInt16
  month : UInt8
  day : UInt8
  hour : UInt8
  min : UInt8
  sec : UInt8
  fixType : UInt8
  lon : Int32
  lat : Int32

def sizeofNavPvt : Nat := 92

def NavPvt.read (data : Fields) : NavPvt :=
  ⟨data.u2 4, data.u1 6, data.u1 7, data.u1 8, data.u1 9, data.u1 10, data.u1 20, data.i4 24, data.i4 28⟩

structure NavVelNed where
  velNorth : Int32
  velEast : Int32
  velDown : Int32
  speed : UInt32
  speedGround : UInt32
  heading : Int32
  speedAcc : UInt32
  courseAcc : UInt32

def sizeofNavVelNed : Nat := 36

def NavVelNed.read (data : Fields) : NavVelNed :=
  ⟨data.i4 4, data.i4 8, data.i4 12, data.u4 16, data.u4 20, data.i4 24, data.u4 28, data.u4 32⟩

structure UbxCfgTmode3Data where
  version : UInt8
  mode : UInt8
  fixedPosAcc : UInt32
  svinMinDurS : UInt32
  svinAccLimit : UInt32

def sizeofUbxCfgTmode3Data : Nat := 40

def UbxCfgTmode3Data.read (data : Fields) : UbxCfgTmode3Data :=
  ⟨data.u1 0, data.u1 2, data.u4 20, data.u4 24, data.u4 28⟩

structure MgaIniPosXyz where
  ecefX : Int32
  ecefY : Int32
  ecefZ : Int32
  posAcc : UInt32

def sizeofMgaIniPosXyz : Nat := 20

def MgaIniPosXyz.read (data : Fields) : MgaIniPosXyz := ⟨data.i4 4, data.i4 8, data.i4 12, data.u4 16⟩

def sizeofSecUniqId : Nat := 9

def sizeofCfgNmea : Nat := 4

def sizeofCfgValGetHeader : Nat := 4

/-! ### Handlers with a bound on the length -/

/-- `memcpy(&data, &frame[start], size)` -/
def copyFields (start size : Nat) : Fetch Fields := do
  let data ← Fetch.bytes start size
  pure (fieldsOf data)

def copyPayload (size : Nat) : Fetch Fields := copyFields ubxIndexPayload size

/-- A payload that is long enough is copied, and its fields are kept. -/
def procBounded (bound size : Nat) (len : UInt16) (nav : NavInfo) (keep : Fields → NavInfo) :
    Fetch (Bool × NavInfo) :=
  if bound ≤ len.toNat then do
    let data ← copyPayload size
    pure (true, keep data)
  else pure (false, nav)

def ubxProcNavPosllhFrame (len : UInt16) (nav : NavInfo) : Fetch (Bool × NavInfo) :=
  procBounded 28 sizeofNavPosllh len nav fun payload =>
    let data := NavPosllh.read payload
    { nav with
      coordinate := ⟨data.lat, data.lon⟩
      hAcc := data.hAcc
      vAcc := data.vAcc
      hmsl := data.hMSL }

def ubxProcNavHpposllhFrame (len : UInt16) (nav : NavInfo) : Fetch (Bool × NavInfo) :=
  procBounded 36 sizeofNavHpPosllh len nav fun payload =>
    let data := NavHpPosllh.read payload
    { nav with
      coordinate := ⟨data.lat, data.lon⟩
      hAcc := data.hAcc
      vAcc := data.vAcc
      hmsl := data.hMSL }

def ubxProcNavPosecefFrame (len : UInt16) (nav : NavInfo) : Fetch (Bool × NavInfo) :=
  procBounded 20 sizeofNavPosEcef len nav fun payload =>
    let data := NavPosEcef.read payload
    { nav with wgs84Coordinate := ⟨data.ecefX, data.ecefY, data.ecefZ, data.pAcc.toInt32⟩ }

def ubxProcNavTimeutcFrame (len : UInt16) (nav : NavInfo) : Fetch (Bool × NavInfo) :=
  procBounded 20 sizeofNavTimeUtc len nav fun payload =>
    let data := NavTimeUtc.read payload
    { nav with
      dateTime :=
        { tmHour := data.hour.toNat, tmMin := data.min.toNat, tmSec := data.sec.toNat,
          tmMday := data.day.toNat, tmMon := (data.month.toNat : Int) - 1, tmYear := data.year.toNat } }

def ubxProcNavSvinFrame (len : UInt16) (nav : NavInfo) : Fetch (Bool × NavInfo) :=
  procBounded 40 sizeofNavSvin len nav fun payload =>
    let data := NavSvin.read payload
    { nav with surveyInMeanPositionAccMm := data.meanAcc / 10, surveyInObservationTime := data.dur }

def ubxProcNavPvtFrame (len : UInt16) (nav : NavInfo) : Fetch (Bool × NavInfo) :=
  procBounded 92 sizeofNavPvt len nav fun payload =>
    let data := NavPvt.read payload
    { nav with
      fixType := data.fixType
      coordinate := ⟨data.lat, data.lon⟩
      dateTime :=
        { tmHour := data.hour.toNat, tmMday := data.day.toNat, tmMon := (data.month.toNat : Int) - 1,
          tmMin := data.min.toNat, tmSec := data.sec.toNat, tmYear := data.year.toNat } }

def ubxProcNavVelnedFrame (len : UInt16) (nav : NavInfo) : Fetch (Bool × NavInfo) :=
  procBounded 36 sizeofNavVelNed len nav fun payload =>
    let data := NavVelNed.read payload
    { nav with
      velocity :=
        { speedGround := data.speedGround, velocityNorth := data.velNorth, velocityEast := data.velEast,
          velocityDown := data.velDown, heading := data.heading, speed := data.speed,
          accuracySpeed := data.speedAcc, accuracyCourse := data.courseAcc } }

def ubxProcSecUniqidFrame (len : UInt16) (nav : NavInfo) : Fetch (Bool × NavInfo) :=
  procBounded 9 sizeofSecUniqId len nav fun payload => { nav with id := fun k => payload.u1 (4 + k) }

/-- `z_cm` gets `ecefY`. -/
def NavInfo.keepMgaIni (nav : NavInfo) (payload : Fields) : NavInfo :=
  let data := MgaIniPosXyz.read payload
  { nav with wgs84Coordinate := ⟨data.ecefX, data.ecefY, data.ecefY, data.posAcc.toInt32⟩ }

def ubxProcMgaIniFrame (len : UInt16) (nav : NavInfo) : Fetch (Bool × NavInfo) :=
  procBounded 20 sizeofMgaIniPosXyz len nav nav.keepMgaIni

/-! ### Handlers without one -/

/-- Each of the six numbers is copied on its own. -/
def NavInfo.keepAtt (nav : NavInfo) (roll pitch heading accRoll accPitch accHeading : Fields) : NavInfo :=
  { nav with
    roll := roll.i4 0
    pitch := pitch.i4 0
    heading := heading.i4 0
    accRoll := accRoll.u4 0
    accPitch := accPitch.u4 0
    accHeading := accHeading.u4 0 }

def ubxProcNavAttFrame (nav : NavInfo) : Fetch (Bool × NavInfo) := do
  let version ← Fetch.fetch (ubxIndexPayload + 4)
  if version = 0 then do
    let roll ← copyFields (ubxIndexPayload + 8) 4
    let pitch ← copyFields (ubxIndexPayload + 12) 4
    let heading ← copyFields (ubxIndexPayload + 16) 4
    let accRoll ← copyFields (ubxIndexPayload + 20) 4
    let accPitch ← copyFields (ubxIndexPayload + 24) 4
    let accHeading ← copyFields (ubxIndexPayload + 28) 4
    pure (true, nav.keepAtt roll pitch heading accRoll accPitch accHeading)
  else pure (false, nav)

def ubxKeyLen2bytes (code : UInt8) : Nat :=
  match code with
  | 1 | 2 => 1
  | 3 => 2
  | 4 => 4
  | 5 => 8
  | _ => 0

/-- `keyId.size`, the bits 28 to 30 of the key. -/
def keySize (word : UInt32) : UInt8 := ((word >>> 28) &&& 7).toUInt8

variable (reverseByteOrderArray : List UInt8 → Bool)

/-- The bytes of the value are reversed in place. -/
def ubxConfigDataParse (keys : Nat) : Fetch Bool := do
  let key ← copyFields keys 4
  let value ← Fetch.bytes (keys + 4) (ubxKeyLen2bytes (keySize (key.u4 0)))
  pure (reverseByteOrderArray value)

def ubxCfgNmeaParse : Fetch Bool := do
  let _ ← copyPayload sizeofCfgNmea
  pure false

def ubxCfgValgetParse : Fetch Bool := do
  let header ← copyPayload sizeofCfgValGetHeader
  if header.u1 0 = 1 then ubxConfigDataParse reverseByteOrderArray (ubxIndexPayload + 4) else pure false

/-- `fixedPosAcc_mm` gets `svinAccLimit`. -/
def NavInfo.keepTmode3 (nav : NavInfo) (payload : Fields) : NavInfo :=
  let data := UbxCfgTmode3Data.read payload
  { nav with
    baseRxMode := data.mode
    fixedPosAccMm := data.svinAccLimit / 10
    svinMinDurS := data.svinMinDurS }

def ubxCfgTmode3Parse (nav : NavInfo) : Fetch (Bool × NavInfo) := do
  let payload ← copyPayload sizeofUbxCfgTmode3Data
  if (UbxCfgTmode3Data.read payload).version = 0 then pure (true, nav.keepTmode3 payload) else pure (false, nav)

/-! ### The frame -/

/-- `NavInfo` is kept. -/
def keepNav (nav : NavInfo) (parse : Fetch Bool) : Fetch (Bool × NavInfo) := do
  let res ← parse
  pure (res, nav)

def ubxProcNavFrame (len : UInt16) (nav : NavInfo) : Fetch (Bool × NavInfo) := do
  let id ← Fetch.fetch ubxIndexId
  if id = ubxIdNavVelned then ubxProcNavVelnedFrame len nav
  else if id = ubxIdNavTimeutc then ubxProcNavTimeutcFrame len nav
  else if id = ubxIdNavPosecef then ubxProcNavPosecefFrame len nav
  else if id = ubxIdNavPosllh then ubxProcNavPosllhFrame len nav
  else if id = ubxIdNavHpposllh then ubxProcNavHpposllhFrame len nav
  else if id = ubxIdNavAtt then ubxProcNavAttFrame nav
  else if id = ubxIdNavPvt then ubxProcNavPvtFrame len nav
  else if id = ubxIdNavSvin then ubxProcNavSvinFrame len nav
  else pure (false, nav)

def ubxProcCfgFrame (nav : NavInfo) : Fetch (Bool × NavInfo) := do
  let id ← Fetch.fetch ubxIndexId
  if id = ubxIdCfgNmea then keepNav nav ubxCfgNmeaParse
  else if id = ubxIdCfgGetVal then keepNav nav (ubxCfgValgetParse reverseByteOrderArray)
  else if id = ubxIdCfgTmode3 then ubxCfgTmode3Parse nav
  else pure (false, nav)

def ubxProcMgaFrame (len : UInt16) (nav : NavInfo) : Fetch (Bool × NavInfo) := do
  let id ← Fetch.fetch ubxIndexId
  if id = ubxIdMgaIni then ubxProcMgaIniFrame len nav else pure (false, nav)

def ubxProcSecFrame (len : UInt16) (nav : NavInfo) : Fetch (Bool × NavInfo) := do
  let id ← Fetch.fetch ubxIndexId
  if id = ubxIdSecUniqid then ubxProcSecUniqidFrame len nav else pure (false, nav)

/-- The switch of `ubx_proc_frame`; the other classes, ACK among them, keep `NavInfo`. -/
def procFrameFetch (len : UInt16) (nav : NavInfo) : Fetch (Bool × NavInfo) := do
  let inClass ← Fetch.fetch ubxIndexCls
  if inClass = ubxClaNav then ubxProcNavFrame len nav
  else if inClass = ubxClaCfg then ubxProcCfgFrame reverseByteOrderArray nav
  else if inClass = ubxClaMga then ubxProcMgaFrame len nav
  else if inClass = ubxClaSec then ubxProcSecFrame len nav
  else pure (false, nav)

/-- What the frames change outside the parser: the statistics of the classes and `NavInfo`. -/
structure UbxWorld where
  tableRxClass : List StatClass := tableRxClass
  navInfo : NavInfo := {}

def ubxEnv : UbxEnv UbxWorld where
  updateStat cls w := { w with tableRxClass := (ubxUpdateStat w.tableRxClass cls).2 }
  procClass fixFrame expLen w :=
    let r := (procFrameFetch reverseByteOrderArray expLen w.navInfo).run fixFrame
    (r.1, { w with navInfo := r.2 })

end TiMcu.Ubx
