import TiMcu.Ubx.Loaded
import TiMcu.Ubx.NavInfo

/-!
# NavInfo comes from the payload

`documented` says, for each message that has a handler, from which field of the message each field of `NavInfo` comes: the
table of the message structures.  A packet is handled well (`DataOk`) when `ubx_proc_frame` reads nothing behind its
payload, keeps `NavInfo` when the payload is too short for the structure and otherwise takes every field as documented.

The handlers that compare the length with the size of their structure do so, except that UBX-MGA-INI takes `ecefY` for z.
The four without such a test read behind a short payload, and UBX-CFG-TMODE3 takes the accuracy limit of the survey-in for
the accuracy of the fixed position (`dataOk_iff`).
-/

namespace TiMcu.Ubx

open NorFlash LittleEndian

/-! ### The fields of NavInfo -/

/-- The numbers in `NavInfo`. -/
inductive NavField
  | tmSec | tmMin | tmHour | tmMday | tmMon | tmYear
  | latitude | longitude
  | xCm | yCm | zCm | accCm
  | velocityNorth | velocityEast | velocityDown | speed | speedGround | velocityHeading | accuracySpeed | accuracyCourse
  | id (k : Fin 5)
  | hmsl | hAcc | vAcc
  | surveyInMeanPositionAccMm | surveyInObservationTime
  | roll | pitch | heading | accRoll | accPitch | accHeading
  | baseRxMode | fixedPosAccMm | svinMinDurS | fixType

def NavInfo.get (nav : NavInfo) : NavField → Int
  | .tmSec => nav.dateTime.tmSec
  | .tmMin => nav.dateTime.tmMin
  | .tmHour => nav.dateTime.tmHour
  | .tmMday => nav.dateTime.tmMday
  | .tmMon => nav.dateTime.tmMon
  | .tmYear => nav.dateTime.tmYear
  | .latitude => nav.coordinate.latitude.toInt
  | .longitude => nav.coordinate.longitude.toInt
  | .xCm => nav.wgs84Coordinate.xCm.toInt
  | .yCm => nav.wgs84Coordinate.yCm.toInt
  | .zCm => nav.wgs84Coordinate.zCm.toInt
  | .accCm => nav.wgs84Coordinate.accCm.toInt
  | .velocityNorth => nav.velocity.velocityNorth.toInt
  | .velocityEast => nav.velocity.velocityEast.toInt
  | .velocityDown => nav.velocity.velocityDown.toInt
  | .speed => nav.velocity.speed.toNat
  | .speedGround => nav.velocity.speedGround.toNat
  | .velocityHeading => nav.velocity.heading.toInt
  | .accuracySpeed => nav.velocity.accuracySpeed.toNat
  | .accuracyCourse => nav.velocity.accuracyCourse.toNat
  | .id k => (nav.id k).toNat
  | .hmsl => nav.hmsl.toInt
  | .hAcc => nav.hAcc.toNat
  | .vAcc => nav.vAcc.toNat
  | .surveyInMeanPositionAccMm => nav.surveyInMeanPositionAccMm.toNat
  | .surveyInObservationTime => nav.surveyInObservationTime.toNat
  | .roll => nav.roll.toInt
  | .pitch => nav.pitch.toInt
  | .heading => nav.heading.toInt
  | .accRoll => nav.accRoll.toNat
  | .accPitch => nav.accPitch.toNat
  | .accHeading => nav.accHeading.toNat
  | .baseRxMode => nav.baseRxMode.toNat
  | .fixedPosAccMm => nav.fixedPosAccMm.toNat
  | .svinMinDurS => nav.svinMinDurS.toNat
  | .fixType => nav.fixType.toNat

/-! ### The messages -/

/-- The messages that have a handler. -/
inductive Message
  | posecef | posllh | att | pvt | velned | hpposllh | timeutc | svin | nmea | getVal | tmode3 | mgaIni | secUniqid
  deriving DecidableEq

def message (cls id : UInt8) : Option Message :=
  if cls = ubxClaNav then
    if id = ubxIdNavVelned then some .velned
    else if id = ubxIdNavTimeutc then some .timeutc
    else if id = ubxIdNavPosecef then some .posecef
    else if id = ubxIdNavPosllh then some .posllh
    else if id = ubxIdNavHpposllh then some .hpposllh
    else if id = ubxIdNavAtt then some .att
    else if id = ubxIdNavPvt then some .pvt
    else if id = ubxIdNavSvin then some .svin
    else none
  else if cls = ubxClaCfg then
    if id = ubxIdCfgNmea then some .nmea
    else if id = ubxIdCfgGetVal then some .getVal
    else if id = ubxIdCfgTmode3 then some .tmode3
    else none
  else if cls = ubxClaMga then if id = ubxIdMgaIni then some .mgaIni else none
  else if cls = ubxClaSec then if id = ubxIdSecUniqid then some .secUniqid else none
  else none

/-- The size of the message structure. -/
def Message.size : Message → Nat
  | .posecef => 20
  | .posllh => 28
  | .att => 32
  | .pvt => 92
  | .velned => 36
  | .hpposllh => 36
  | .timeutc => 20
  | .svin => 40
  | .nmea => 4
  | .getVal => 4
  | .tmode3 => 40
  | .mgaIni => 20
  | .secUniqid => 9

/-- A type of the fields of a message. -/
inductive FieldType
  | u1 | u2 | u4 | i4

def FieldType.width : FieldType → Nat
  | .u1 => 1
  | .u2 => 2
  | .u4 | .i4 => 4

/-- The number in a field of the payload. -/
def FieldType.value (payload : Fields) (offset : Nat) : FieldType → Int
  | .u1 => (payload.u1 offset).toNat
  | .u2 => (payload.u2 offset).toNat
  | .u4 => (payload.u4 offset).toNat
  | .i4 => (payload.i4 offset).toInt

/-- A field of a message, and how its number is converted. -/
structure Source where
  offset : Nat
  type : FieldType
  convert : Int → Int := id

def Source.value (src : Source) (payload : Fields) : Int := src.convert (src.type.value payload src.offset)

/-- The conversion to `int32_t`. -/
@[irreducible] def toInt32 (n : Int) : Int := n.bmod (2 ^ 32)

/-- The field of the message from which a field of `NavInfo` comes. -/
def documented : Message → NavField → Option Source
  | .posecef, .xCm => some { offset := 4, type := .i4 }
  | .posecef, .yCm => some { offset := 8, type := .i4 }
  | .posecef, .zCm => some { offset := 12, type := .i4 }
  | .posecef, .accCm => some { offset := 16, type := .u4, convert := toInt32 }
  | .posllh, .longitude => some { offset := 4, type := .i4 }
  | .posllh, .latitude => some { offset := 8, type := .i4 }
  | .posllh, .hmsl => some { offset := 16, type := .i4 }
  | .posllh, .hAcc => some { offset := 20, type := .u4 }
  | .posllh, .vAcc => some { offset := 24, type := .u4 }
  | .att, .roll => some { offset := 8, type := .i4 }
  | .att, .pitch => some { offset := 12, type := .i4 }
  | .att, .heading => some { offset := 16, type := .i4 }
  | .att, .accRoll => some { offset := 20, type := .u4 }
  | .att, .accPitch => some { offset := 24, type := .u4 }
  | .att, .accHeading => some { offset := 28, type := .u4 }
  | .pvt, .tmYear => some { offset := 4, type := .u2 }
  | .pvt, .tmMon => some { offset := 6, type := .u1, convert := fun month => month - 1 }
  | .pvt, .tmMday => some { offset := 7, type := .u1 }
  | .pvt, .tmHour => some { offset := 8, type := .u1 }
  | .pvt, .tmMin => some { offset := 9, type := .u1 }
  | .pvt, .tmSec => some { offset := 10, type := .u1 }
  | .pvt, .fixType => some { offset := 20, type := .u1 }
  | .pvt, .longitude => some { offset := 24, type := .i4 }
  | .pvt, .latitude => some { offset := 28, type := .i4 }
  | .velned, .velocityNorth => some { offset := 4, type := .i4 }
  | .velned, .velocityEast => some { offset := 8, type := .i4 }
  | .velned, .velocityDown => some { offset := 12, type := .i4 }
  | .velned, .speed => some { offset := 16, type := .u4 }
  | .velned, .speedGround => some { offset := 20, type := .u4 }
  | .velned, .velocityHeading => some { offset := 24, type := .i4 }
  | .velned, .accuracySpeed => some { offset := 28, type := .u4 }
  | .velned, .accuracyCourse => some { offset := 32, type := .u4 }
  | .hpposllh, .longitude => some { offset := 8, type := .i4 }
  | .hpposllh, .latitude => some { offset := 12, type := .i4 }
  | .hpposllh, .hmsl => some { offset := 20, type := .i4 }
  | .hpposllh, .hAcc => some { offset := 28, type := .u4 }
  | .hpposllh, .vAcc => some { offset := 32, type := .u4 }
  | .timeutc, .tmYear => some { offset := 12, type := .u2 }
  | .timeutc, .tmMon => some { offset := 14, type := .u1, convert := fun month => month - 1 }
  | .timeutc, .tmMday => some { offset := 15, type := .u1 }
  | .timeutc, .tmHour => some { offset := 16, type := .u1 }
  | .timeutc, .tmMin => some { offset := 17, type := .u1 }
  | .timeutc, .tmSec => some { offset := 18, type := .u1 }
  | .svin, .surveyInObservationTime => some { offset := 8, type := .u4 }
  | .svin, .surveyInMeanPositionAccMm => some { offset := 28, type := .u4, convert := fun acc => acc / 10 }
  | .tmode3, .baseRxMode => some { offset := 2, type := .u1 }
  | .tmode3, .fixedPosAccMm => some { offset := 20, type := .u4, convert := fun acc => acc / 10 }
  | .tmode3, .svinMinDurS => some { offset := 24, type := .u4 }
  | .mgaIni, .xCm => some { offset := 4, type := .i4 }
  | .mgaIni, .yCm => some { offset := 8, type := .i4 }
  | .mgaIni, .zCm => some { offset := 12, type := .i4 }
  | .mgaIni, .accCm => some { offset := 16, type := .u4, convert := toInt32 }
  | .secUniqid, .id k => some { offset := 4 + k, type := .u1 }
  | _, _ => none

/-- The version of the message is one that its handler knows; the other handlers do not look at it. -/
def Message.known (payload : Fields) : Message → Bool
  | .att => payload.u1 4 = 0
  | .tmode3 => payload.u1 0 = 0
  | _ => true

/-- The number that a field of `NavInfo` has when the message is taken. -/
def Message.taken (msg : Message) (payload : Fields) (nav : NavInfo) (field : NavField) : Int :=
  match documented msg field with
  | some src => src.value payload
  | none => nav.get field

/-- The number that a field of `NavInfo` has after the message. -/
def Message.expected (msg : Message) (payload : Fields) (nav : NavInfo) (field : NavField) : Int :=
  if msg.known payload then msg.taken payload nav field else nav.get field

/-- Every field lies inside its message structure. -/
private theorem documented_inside {msg : Message} {field : NavField} {src : Source}
    (h : documented msg field = some src) :
    src.offset + src.type.width ≤ msg.size := by
  unfold documented at h
  split at h <;> cases h <;> simp only [FieldType.width, Message.size] <;> omega

/-! ### What a handler does -/

/-- The handler of a message reads no byte behind the payload, keeps `NavInfo` when the payload is too short, and
otherwise takes every field as documented. -/
structure HandlerOk (msg : Message) (frame : Mem) (payload : List UInt8) (nav : NavInfo)
    (handler : Fetch (Bool × NavInfo)) : Prop where
  inside : Fetch.Below frame (ubxIndexPayload + payload.length) handler
  unchanged : payload.length < msg.size → (handler.run frame).2 = nav
  fields : msg.size ≤ payload.length →
    ∀ field, (handler.run frame).2.get field = msg.expected (fieldsOf payload) nav field

variable {msg : Message} {frame : Mem} {payload : List UInt8} {nav : NavInfo} {len : UInt16}

private theorem getD_take {n i : Nat} (h : i < n) : (payload.take n).getD i 0 = payload.getD i 0 := by
  rw [List.getD_eq_getElem?_getD, List.getD_eq_getElem?_getD, List.getElem?_take_of_lt h]

private theorem u1_take {n i : Nat} (h : i < n) :
    (fieldsOf (payload.take n)).u1 i = (fieldsOf payload).u1 i := getD_take h

private theorem u4_take {n i : Nat} (h : i + 4 ≤ n) : (fieldsOf (payload.take n)).u4 i = (fieldsOf payload).u4 i := by
  simp only [fieldsOf]
  rw [getD_take (by omega), getD_take (by omega), getD_take (by omega), getD_take (by omega)]

private theorem i4_take {n i : Nat} (h : i + 4 ≤ n) : (fieldsOf (payload.take n)).i4 i = (fieldsOf payload).i4 i :=
  congrArg UInt32.toInt32 (u4_take h)

/-- A field is not changed by what stands behind it. -/
private theorem Source.value_take {src : Source} {n : Nat} (h : src.offset + src.type.width ≤ n) :
    src.value (fieldsOf (payload.take n)) = src.value (fieldsOf payload) := by
  unfold Source.value
  congr 1
  cases htype : src.type with
  | u1 =>
    rw [htype, FieldType.width] at h
    rw [FieldType.value, FieldType.value, u1_take (by omega)]
  | u2 =>
    rw [htype, FieldType.width] at h
    simp only [FieldType.value, fieldsOf]
    rw [getD_take (by omega), getD_take (by omega)]
  | u4 =>
    rw [htype, FieldType.width] at h
    rw [FieldType.value, FieldType.value, u4_take h]
  | i4 =>
    rw [htype, FieldType.width] at h
    rw [FieldType.value, FieldType.value, i4_take h]

/-- A message is taken from the structure that its handler copies. -/
private theorem taken_take (field : NavField) :
    msg.taken (fieldsOf (payload.take msg.size)) nav field = msg.taken (fieldsOf payload) nav field := by
  unfold Message.taken
  cases hdoc : documented msg field with
  | none => rfl
  | some src => exact Source.value_take (documented_inside hdoc)

/-- A structure is copied from the front of the payload. -/
private theorem bytesAt_payload {n : Nat} (hframe : bytesAt frame ubxIndexPayload payload.length = payload)
    (h : n ≤ payload.length) : bytesAt frame ubxIndexPayload n = payload.take n := by
  rw [← take_bytesAt h, hframe]

@[simp] theorem run_copyFields (start size : Nat) :
    (copyFields start size).run frame = fieldsOf (bytesAt frame start size) := by
  simp only [copyFields, Fetch.run_bind, Fetch.run_bytes, Fetch.run_pure]

private theorem below_copyFields {n start size : Nat} :
    Fetch.Below frame n (copyFields start size) ↔ size = 0 ∨ start + size ≤ n := by
  simp only [copyFields, Fetch.below_bind, Fetch.below_bytes, Fetch.below_pure, and_true]

/-- A handler with the right bound on the length has only its fields to get wrong. -/
private theorem handlerOk_bounded {keep : Fields → NavInfo}
    (hframe : bytesAt frame ubxIndexPayload payload.length = payload)
    (hlen : len.toNat = payload.length) :
    HandlerOk msg frame payload nav (procBounded msg.size msg.size len nav keep) ↔
      (msg.size ≤ payload.length → ∀ field,
        (keep (fieldsOf (payload.take msg.size))).get field = msg.expected (fieldsOf payload) nav field) := by
  unfold procBounded
  rw [hlen]
  by_cases h : msg.size ≤ payload.length
  · rw [if_pos h]
    have hrun : (do let data ← copyPayload msg.size; pure (true, keep data) : Fetch (Bool × NavInfo)).run frame =
        (true, keep (fieldsOf (payload.take msg.size))) := by
      simp only [copyPayload, Fetch.run_bind, run_copyFields, Fetch.run_pure, bytesAt_payload hframe h]
    constructor
    · intro hok _ field
      rw [← hok.fields h field, hrun]
    · intro hfields
      refine ⟨?_, fun hlt => absurd hlt (by omega), fun _ field => ?_⟩
      · rw [Fetch.below_bind, copyPayload, below_copyFields]
        exact ⟨.inr (by omega), Fetch.below_pure _⟩
      · rw [hrun]
        exact hfields h field
  · rw [if_neg h]
    exact ⟨fun _ hle => absurd hle h, fun _ => ⟨Fetch.below_pure _, fun _ => rfl, fun hle => absurd hle h⟩⟩

/-- It gets none wrong when it keeps what is documented of the structure that it copies. -/
private theorem handlerOk_of_documented {keep : Fields → NavInfo}
    (hframe : bytesAt frame ubxIndexPayload payload.length = payload) (hlen : len.toNat = payload.length)
    (hknown : msg.known (fieldsOf payload) = true)
    (hkeep : ∀ data field, (keep data).get field = msg.taken data nav field) :
    HandlerOk msg frame payload nav (procBounded msg.size msg.size len nav keep) := by
  rw [handlerOk_bounded hframe hlen]
  intro _ field
  rw [hkeep, taken_take, Message.expected, if_pos hknown]

private theorem toInt_toInt32 (x : UInt32) : x.toInt32.toInt = toInt32 x.toNat := by
  rw [toInt32]
  exact BitVec.toInt_eq_toNat_bmod x.toBitVec

/-! ### The handlers with a bound on the length -/

private theorem keepMgaIni_zCm (nav : NavInfo) (data : Fields) :
    (nav.keepMgaIni data).get .zCm = (data.i4 8).toInt := rfl

private theorem mgaIni_taken_zCm (nav : NavInfo) (data : Fields) :
    Message.mgaIni.taken data nav .zCm = (data.i4 12).toInt := rfl

private theorem keepMgaIni_of_ne {data : Fields} {field : NavField} (h : field ≠ .zCm) :
    (nav.keepMgaIni data).get field = Message.mgaIni.taken data nav field := by
  cases field with
  | zCm => exact absurd rfl h
  | accCm => exact toInt_toInt32 (data.u4 16)
  | _ => rfl

section

variable (hframe : bytesAt frame ubxIndexPayload payload.length = payload) (hlen : len.toNat = payload.length)

include hframe hlen

private theorem posecef_ok : HandlerOk .posecef frame payload nav (ubxProcNavPosecefFrame len nav) :=
  handlerOk_of_documented hframe hlen rfl fun data field => by
    cases field with
    | accCm => exact toInt_toInt32 (data.u4 16)
    | _ => rfl

private theorem posllh_ok : HandlerOk .posllh frame payload nav (ubxProcNavPosllhFrame len nav) :=
  handlerOk_of_documented hframe hlen rfl fun data field => by cases field <;> rfl

private theorem hpposllh_ok : HandlerOk .hpposllh frame payload nav (ubxProcNavHpposllhFrame len nav) :=
  handlerOk_of_documented hframe hlen rfl fun data field => by cases field <;> rfl

private theorem timeutc_ok : HandlerOk .timeutc frame payload nav (ubxProcNavTimeutcFrame len nav) :=
  handlerOk_of_documented hframe hlen rfl fun data field => by cases field <;> rfl

private theorem svin_ok : HandlerOk .svin frame payload nav (ubxProcNavSvinFrame len nav) :=
  handlerOk_of_documented hframe hlen rfl fun data field => by cases field <;> rfl

private theorem pvt_ok : HandlerOk .pvt frame payload nav (ubxProcNavPvtFrame len nav) :=
  handlerOk_of_documented hframe hlen rfl fun data field => by cases field <;> rfl

private theorem velned_ok : HandlerOk .velned frame payload nav (ubxProcNavVelnedFrame len nav) :=
  handlerOk_of_documented hframe hlen rfl fun data field => by cases field <;> rfl

private theorem secUniqid_ok : HandlerOk .secUniqid frame payload nav (ubxProcSecUniqidFrame len nav) :=
  handlerOk_of_documented hframe hlen rfl fun data field => by cases field <;> rfl

/-- `z_cm` is right when y and z are the same. -/
private theorem mgaIni_ok_iff : HandlerOk .mgaIni frame payload nav (ubxProcMgaIniFrame len nav) ↔
    (Message.mgaIni.size ≤ payload.length → (fieldsOf payload).i4 8 = (fieldsOf payload).i4 12) := by
  refine Iff.trans (handlerOk_bounded hframe hlen) (forall_congr' fun hsize => ?_)
  have hexpected : ∀ data field, Message.mgaIni.expected data nav field = Message.mgaIni.taken data nav field :=
    fun _ _ => if_pos rfl
  have hy : (fieldsOf (payload.take Message.mgaIni.size)).i4 8 = (fieldsOf payload).i4 8 := i4_take (by decide)
  constructor
  · intro h
    have hfield := h .zCm
    rw [keepMgaIni_zCm, hexpected, mgaIni_taken_zCm, hy] at hfield
    exact Int32.toInt_inj.1 hfield
  · intro h field
    rw [hexpected]
    by_cases hfield : field = .zCm
    · rw [hfield, keepMgaIni_zCm, mgaIni_taken_zCm, hy, h]
    · rw [keepMgaIni_of_ne hfield, taken_take]

end

/-! ### The handlers without one -/

/-- A byte of the payload. -/
private theorem frame_byte (hframe : bytesAt frame ubxIndexPayload payload.length = payload) {i : Nat}
    (h : i < payload.length) :
    frame (ubxIndexPayload + i) = payload.getD i 0 := by
  rw [← Buffer.getD_bytesAt (f := frame) (a := ubxIndexPayload) h, hframe]

/-- A number that is copied on its own. -/
private theorem u4_bytesAt (hframe : bytesAt frame ubxIndexPayload payload.length = payload) {i : Nat}
    (h : i + 4 ≤ payload.length) :
    (fieldsOf (bytesAt frame (ubxIndexPayload + i) 4)).u4 0 = (fieldsOf payload).u4 i := by
  have hbyte : ∀ k < 4, (bytesAt frame (ubxIndexPayload + i) 4).getD k 0 = payload.getD (i + k) 0 := by
    intro k hk
    rw [Buffer.getD_bytesAt hk, Nat.add_assoc, frame_byte hframe (by omega)]
  simp only [fieldsOf]
  rw [hbyte 0 (by omega), hbyte (0 + 1) (by omega), hbyte (0 + 2) (by omega), hbyte (0 + 3) (by omega), Nat.add_zero]

private theorem i4_bytesAt (hframe : bytesAt frame ubxIndexPayload payload.length = payload) {i : Nat}
    (h : i + 4 ≤ payload.length) :
    (fieldsOf (bytesAt frame (ubxIndexPayload + i) 4)).i4 0 = (fieldsOf payload).i4 i :=
  congrArg UInt32.toInt32 (u4_bytesAt hframe h)

private theorem keepAtt_get {data roll pitch heading accRoll accPitch accHeading : Fields}
    (hroll : roll.i4 0 = data.i4 8)
    (hpitch : pitch.i4 0 = data.i4 12) (hheading : heading.i4 0 = data.i4 16) (haccRoll : accRoll.u4 0 = data.u4 20)
    (haccPitch : accPitch.u4 0 = data.u4 24) (haccHeading : accHeading.u4 0 = data.u4 28) (field : NavField) :
    (nav.keepAtt roll pitch heading accRoll accPitch accHeading).get field = Message.att.taken data nav field := by
  cases field with
  | roll => exact congrArg Int32.toInt hroll
  | pitch => exact congrArg Int32.toInt hpitch
  | heading => exact congrArg Int32.toInt hheading
  | accRoll => exact congrArg (fun x : UInt32 => (x.toNat : Int)) haccRoll
  | accPitch => exact congrArg (fun x : UInt32 => (x.toNat : Int)) haccPitch
  | accHeading => exact congrArg (fun x : UInt32 => (x.toNat : Int)) haccHeading
  | _ => rfl

/-- UBX-NAV-ATT: the version is always read, and the six numbers if it is 0. -/
private theorem att_ok_iff (hframe : bytesAt frame ubxIndexPayload payload.length = payload) :
    HandlerOk .att frame payload nav (ubxProcNavAttFrame nav) ↔
      4 < payload.length ∧ ((fieldsOf payload).u1 4 = 0 → Message.att.size ≤ payload.length) := by
  have hsize : Message.att.size = 32 := rfl
  have hbelow : Fetch.Below frame (ubxIndexPayload + payload.length) (ubxProcNavAttFrame nav) ↔
      4 < payload.length ∧ (frame (ubxIndexPayload + 4) = 0 → Message.att.size ≤ payload.length) := by
    simp only [ubxProcNavAttFrame, Fetch.below_bind, Fetch.below_ite, Fetch.below_fetch, below_copyFields,
      Fetch.below_pure, implies_true, and_true]
    simp only [Fetch.run_fetch]
    rw [hsize]
    exact and_congr (by omega) (forall_congr' fun _ => by omega)
  have hversion : 4 < payload.length → frame (ubxIndexPayload + 4) = (fieldsOf payload).u1 4 := frame_byte hframe
  constructor
  · intro hok
    obtain ⟨hlen, hlong⟩ := hbelow.1 hok.inside
    exact ⟨hlen, by rwa [hversion hlen] at hlong⟩
  · rintro ⟨hlen, hlong⟩
    have hrun : (ubxProcNavAttFrame nav).run frame = if (fieldsOf payload).u1 4 = 0 then
        (true, nav.keepAtt (fieldsOf (bytesAt frame (ubxIndexPayload + 8) 4))
          (fieldsOf (bytesAt frame (ubxIndexPayload + 12) 4)) (fieldsOf (bytesAt frame (ubxIndexPayload + 16) 4))
          (fieldsOf (bytesAt frame (ubxIndexPayload + 20) 4)) (fieldsOf (bytesAt frame (ubxIndexPayload + 24) 4))
          (fieldsOf (bytesAt frame (ubxIndexPayload + 28) 4))) else (false, nav) := by
      simp only [ubxProcNavAttFrame, Fetch.run_bind, Fetch.run_ite, run_copyFields, Fetch.run_pure]
      simp only [Fetch.run_fetch, hversion hlen]
    refine ⟨hbelow.2 ⟨hlen, by rwa [hversion hlen]⟩, fun hlt => ?_, fun hle field => ?_⟩
    · rw [hrun, if_neg fun h => absurd (hlong h) (by omega)]
    · rw [hrun, Message.expected, Message.known]
      by_cases h : (fieldsOf payload).u1 4 = 0
      · rw [if_pos h, if_pos (decide_eq_true h)]
        exact keepAtt_get (i4_bytesAt hframe (by omega)) (i4_bytesAt hframe (by omega)) (i4_bytesAt hframe (by omega))
          (u4_bytesAt hframe (by omega)) (u4_bytesAt hframe (by omega)) (u4_bytesAt hframe (by omega)) field
      · rw [if_neg h, if_neg (by simpa using h)]

private theorem keepTmode3_fixedPosAccMm (nav : NavInfo) (data : Fields) :
    (nav.keepTmode3 data).get .fixedPosAccMm = ((data.u4 28 / 10).toNat : Int) := rfl

private theorem tmode3_taken_fixedPosAccMm (nav : NavInfo) (data : Fields) :
    Message.tmode3.taken data nav .fixedPosAccMm = ((data.u4 20 / 10).toNat : Int) := rfl

private theorem keepTmode3_of_ne {data : Fields} {field : NavField} (h : field ≠ .fixedPosAccMm) :
    (nav.keepTmode3 data).get field = Message.tmode3.taken data nav field := by
  cases field with
  | fixedPosAccMm => exact absurd rfl h
  | _ => rfl

/-- UBX-CFG-TMODE3: the structure is copied in any case, and the accuracy limit of the survey-in stands for the accuracy
of the fixed position. -/
private theorem tmode3_ok_iff (hframe : bytesAt frame ubxIndexPayload payload.length = payload) :
    HandlerOk .tmode3 frame payload nav (ubxCfgTmode3Parse nav) ↔ Message.tmode3.size ≤ payload.length ∧
      ((fieldsOf payload).u1 0 = 0 → (fieldsOf payload).u4 28 / 10 = (fieldsOf payload).u4 20 / 10) := by
  have hsize : sizeofUbxCfgTmode3Data = Message.tmode3.size := rfl
  have h40 : Message.tmode3.size = 40 := rfl
  have hbelow : Fetch.Below frame (ubxIndexPayload + payload.length) (ubxCfgTmode3Parse nav) ↔
      Message.tmode3.size ≤ payload.length := by
    simp only [ubxCfgTmode3Parse, copyPayload, Fetch.below_bind, Fetch.below_ite, below_copyFields, Fetch.below_pure,
      implies_true, and_true]
    omega
  have hrun : Message.tmode3.size ≤ payload.length → (ubxCfgTmode3Parse nav).run frame =
      if (fieldsOf (payload.take Message.tmode3.size)).u1 0 = 0 then
        (true, nav.keepTmode3 (fieldsOf (payload.take Message.tmode3.size))) else (false, nav) := by
    intro hle
    simp only [ubxCfgTmode3Parse, copyPayload, Fetch.run_bind, Fetch.run_ite, run_copyFields, Fetch.run_pure, hsize,
      bytesAt_payload hframe hle]
    rfl
  have hversion : (fieldsOf (payload.take Message.tmode3.size)).u1 0 = (fieldsOf payload).u1 0 := u1_take (by decide)
  have hlimit : (fieldsOf (payload.take Message.tmode3.size)).u4 28 = (fieldsOf payload).u4 28 := u4_take (by decide)
  rw [hversion] at hrun
  have hexpected : ∀ field, Message.tmode3.expected (fieldsOf payload) nav field =
      if (fieldsOf payload).u1 0 = 0 then Message.tmode3.taken (fieldsOf payload) nav field else nav.get field := by
    intro field
    rw [Message.expected, Message.known]
    simp only [decide_eq_true_eq]
  constructor
  · intro hok
    have hle := hbelow.1 hok.inside
    refine ⟨hle, fun h => ?_⟩
    have hfield := hok.fields hle .fixedPosAccMm
    rw [hrun hle, hexpected, if_pos h, if_pos h, keepTmode3_fixedPosAccMm, tmode3_taken_fixedPosAccMm, hlimit] at hfield
    exact UInt32.toNat_inj.1 (Int.ofNat.inj hfield)
  · rintro ⟨hle, hacc⟩
    refine ⟨hbelow.2 hle, fun hlt => absurd hlt (by omega), fun _ field => ?_⟩
    rw [hrun hle, hexpected]
    by_cases h : (fieldsOf payload).u1 0 = 0
    · rw [if_pos h, if_pos h]
      by_cases hfield : field = .fixedPosAccMm
      · rw [hfield, keepTmode3_fixedPosAccMm, tmode3_taken_fixedPosAccMm, hlimit, hacc h]
      · rw [keepTmode3_of_ne hfield, taken_take]
    · rw [if_neg h, if_neg h]

/-- A handler that keeps `NavInfo`, of a message from which nothing is taken. -/
private theorem handlerOk_keepNav {parse : Fetch Bool} (hnone : ∀ field, documented msg field = none) :
    HandlerOk msg frame payload nav (keepNav nav parse) ↔
      Fetch.Below frame (ubxIndexPayload + payload.length) parse := by
  have hbelow : Fetch.Below frame (ubxIndexPayload + payload.length) (keepNav nav parse) ↔
      Fetch.Below frame (ubxIndexPayload + payload.length) parse := by
    simp only [keepNav, Fetch.below_bind, Fetch.below_pure, and_true]
  have hrun : ((keepNav nav parse).run frame).2 = nav := by
    simp only [keepNav, Fetch.run_bind, Fetch.run_pure]
  refine ⟨fun hok => hbelow.1 hok.inside, fun h => ⟨hbelow.2 h, fun _ => hrun, fun _ field => ?_⟩⟩
  have htaken : msg.taken (fieldsOf payload) nav field = nav.get field := by rw [Message.taken, hnone]
  rw [hrun, Message.expected, htaken, ite_self]

/-- UBX-CFG-NMEA: the structure is copied in any case. -/
private theorem nmea_ok_iff : HandlerOk .nmea frame payload nav (keepNav nav ubxCfgNmeaParse) ↔
    Message.nmea.size ≤ payload.length := by
  have h4 : sizeofCfgNmea = 4 := rfl
  have hsize : Message.nmea.size = 4 := rfl
  rw [handlerOk_keepNav fun field => by cases field <;> rfl]
  simp only [ubxCfgNmeaParse, copyPayload, Fetch.below_bind, below_copyFields, Fetch.below_pure, and_true]
  omega

/-- The length of the value behind the key in the payload of UBX-CFG-VALGET. -/
def valueLen (payload : List UInt8) : Nat := ubxKeyLen2bytes (keySize ((fieldsOf payload).u4 4))

variable {reverseByteOrderArray : List UInt8 → Bool}

/-- UBX-CFG-VALGET: the header is copied in any case, and the key and its value if the version is 1. -/
private theorem getVal_ok_iff (hframe : bytesAt frame ubxIndexPayload payload.length = payload) :
    HandlerOk .getVal frame payload nav (keepNav nav (ubxCfgValgetParse reverseByteOrderArray)) ↔
      Message.getVal.size ≤ payload.length ∧
        ((fieldsOf payload).u1 0 = 1 → 8 ≤ payload.length ∧ 8 + valueLen payload ≤ payload.length) := by
  have h4 : sizeofCfgValGetHeader = 4 := rfl
  have hsize : Message.getVal.size = 4 := rfl
  rw [handlerOk_keepNav fun field => by cases field <;> rfl]
  simp only [ubxCfgValgetParse, ubxConfigDataParse, copyPayload, Fetch.below_bind, Fetch.below_ite, below_copyFields,
    Fetch.below_bytes, Fetch.below_pure, implies_true, and_true]
  simp only [run_copyFields]
  rw [h4, hsize]
  constructor
  · rintro ⟨hheader, hvalue⟩
    have hle : 4 ≤ payload.length := by omega
    refine ⟨hle, fun h => ?_⟩
    rw [bytesAt_payload hframe hle, u1_take (by decide)] at hvalue
    obtain ⟨hkey, hread⟩ := hvalue h
    rw [u4_bytesAt hframe (by omega)] at hread
    unfold valueLen
    omega
  · rintro ⟨hle, hvalue⟩
    refine ⟨by omega, fun h => ?_⟩
    rw [bytesAt_payload hframe hle, u1_take (by decide)] at h
    obtain ⟨hkey, hread⟩ := hvalue h
    rw [u4_bytesAt hframe (by omega)]
    unfold valueLen at hread
    omega

/-! ### The frame -/

variable (reverseByteOrderArray)

def Message.handler (len : UInt16) (nav : NavInfo) : Message → Fetch (Bool × NavInfo)
  | .posecef => ubxProcNavPosecefFrame len nav
  | .posllh => ubxProcNavPosllhFrame len nav
  | .att => ubxProcNavAttFrame nav
  | .pvt => ubxProcNavPvtFrame len nav
  | .velned => ubxProcNavVelnedFrame len nav
  | .hpposllh => ubxProcNavHpposllhFrame len nav
  | .timeutc => ubxProcNavTimeutcFrame len nav
  | .svin => ubxProcNavSvinFrame len nav
  | .nmea => keepNav nav ubxCfgNmeaParse
  | .getVal => keepNav nav (ubxCfgValgetParse reverseByteOrderArray)
  | .tmode3 => ubxCfgTmode3Parse nav
  | .mgaIni => ubxProcMgaIniFrame len nav
  | .secUniqid => ubxProcSecUniqidFrame len nav

/-- The condition on a payload for its handler to be right. -/
def Message.Handled (payload : List UInt8) : Message → Prop
  | .att => 4 < payload.length ∧ ((fieldsOf payload).u1 4 = 0 → Message.att.size ≤ payload.length)
  | .nmea => Message.nmea.size ≤ payload.length
  | .getVal => Message.getVal.size ≤ payload.length ∧
      ((fieldsOf payload).u1 0 = 1 → 8 ≤ payload.length ∧ 8 + valueLen payload ≤ payload.length)
  | .tmode3 => Message.tmode3.size ≤ payload.length ∧
      ((fieldsOf payload).u1 0 = 0 → (fieldsOf payload).u4 28 / 10 = (fieldsOf payload).u4 20 / 10)
  | .mgaIni => Message.mgaIni.size ≤ payload.length → (fieldsOf payload).i4 8 = (fieldsOf payload).i4 12
  | _ => True

private theorem handlerOk_iff (hframe : bytesAt frame ubxIndexPayload payload.length = payload)
    (hlen : len.toNat = payload.length) :
    HandlerOk msg frame payload nav (msg.handler reverseByteOrderArray len nav) ↔ msg.Handled payload := by
  cases msg with
  | posecef => exact iff_true_intro (posecef_ok hframe hlen)
  | posllh => exact iff_true_intro (posllh_ok hframe hlen)
  | att => exact att_ok_iff hframe
  | pvt => exact iff_true_intro (pvt_ok hframe hlen)
  | velned => exact iff_true_intro (velned_ok hframe hlen)
  | hpposllh => exact iff_true_intro (hpposllh_ok hframe hlen)
  | timeutc => exact iff_true_intro (timeutc_ok hframe hlen)
  | svin => exact iff_true_intro (svin_ok hframe hlen)
  | nmea => exact nmea_ok_iff
  | getVal => exact getVal_ok_iff hframe
  | tmode3 => exact tmode3_ok_iff hframe
  | mgaIni => exact mgaIni_ok_iff hframe hlen
  | secUniqid => exact iff_true_intro (secUniqid_ok hframe hlen)

/-- The handler of a frame. -/
def frameHandler (len : UInt16) (nav : NavInfo) : Option Message → Fetch (Bool × NavInfo)
  | some msg => msg.handler reverseByteOrderArray len nav
  | none => pure (false, nav)

private theorem ubxProcNavFrame_eq (len : UInt16) (nav : NavInfo) : ubxProcNavFrame len nav =
    Fetch.fetch ubxIndexId >>= fun id => frameHandler reverseByteOrderArray len nav (message ubxClaNav id) := by
  simp only [message, if_true, apply_ite (frameHandler reverseByteOrderArray len nav)]
  rfl

private theorem ubxProcCfgFrame_eq (len : UInt16) (nav : NavInfo) : ubxProcCfgFrame reverseByteOrderArray nav =
    Fetch.fetch ubxIndexId >>= fun id => frameHandler reverseByteOrderArray len nav (message ubxClaCfg id) := by
  have hnav : ubxClaCfg ≠ ubxClaNav := by decide
  simp only [message, if_neg hnav, if_true, apply_ite (frameHandler reverseByteOrderArray len nav)]
  rfl

private theorem ubxProcMgaFrame_eq (len : UInt16) (nav : NavInfo) : ubxProcMgaFrame len nav =
    Fetch.fetch ubxIndexId >>= fun id => frameHandler reverseByteOrderArray len nav (message ubxClaMga id) := by
  have hnav : ubxClaMga ≠ ubxClaNav := by decide
  have hcfg : ubxClaMga ≠ ubxClaCfg := by decide
  simp only [message, if_neg hnav, if_neg hcfg, if_true, apply_ite (frameHandler reverseByteOrderArray len nav)]
  rfl

private theorem ubxProcSecFrame_eq (len : UInt16) (nav : NavInfo) : ubxProcSecFrame len nav =
    Fetch.fetch ubxIndexId >>= fun id => frameHandler reverseByteOrderArray len nav (message ubxClaSec id) := by
  have hnav : ubxClaSec ≠ ubxClaNav := by decide
  have hcfg : ubxClaSec ≠ ubxClaCfg := by decide
  have hmga : ubxClaSec ≠ ubxClaMga := by decide
  simp only [message, if_neg hnav, if_neg hcfg, if_neg hmga, if_true,
    apply_ite (frameHandler reverseByteOrderArray len nav)]
  rfl

/-- The switches of `ubx_proc_frame` lead to the handler of the message. -/
private theorem procFrame_message (frame : Mem) (len : UInt16) (nav : NavInfo) {n : Nat} (hn : ubxIndexId < n) :
    let msg := message (frame ubxIndexCls) (frame ubxIndexId)
    (procFrameFetch reverseByteOrderArray len nav).run frame =
        (frameHandler reverseByteOrderArray len nav msg).run frame ∧
      (Fetch.Below frame n (procFrameFetch reverseByteOrderArray len nav) ↔
        Fetch.Below frame n (frameHandler reverseByteOrderArray len nav msg)) := by
  intro msg
  have hcls : ubxIndexCls < n := Nat.lt_trans (by decide) hn
  have hid : ∀ cls, (Fetch.fetch ubxIndexId >>= fun id => frameHandler reverseByteOrderArray len nav
        (message cls id)).run frame =
        (frameHandler reverseByteOrderArray len nav (message cls (frame ubxIndexId))).run frame ∧
      (Fetch.Below frame n (Fetch.fetch ubxIndexId >>= fun id => frameHandler reverseByteOrderArray len nav
        (message cls id)) ↔
        Fetch.Below frame n (frameHandler reverseByteOrderArray len nav (message cls (frame ubxIndexId)))) := by
    intro cls
    rw [Fetch.run_bind, Fetch.run_fetch, Fetch.below_bind, Fetch.below_fetch, Fetch.run_fetch]
    exact ⟨rfl, and_iff_right hn⟩
  rw [procFrameFetch, Fetch.run_bind, Fetch.below_bind, Fetch.below_fetch, Fetch.run_fetch, and_iff_right hcls,
    ubxProcNavFrame_eq reverseByteOrderArray, ubxProcCfgFrame_eq reverseByteOrderArray len,
    ubxProcMgaFrame_eq reverseByteOrderArray, ubxProcSecFrame_eq reverseByteOrderArray]
  by_cases hnav : frame ubxIndexCls = ubxClaNav
  · rw [if_pos hnav, ← hnav]
    exact hid _
  rw [if_neg hnav]
  by_cases hcfg : frame ubxIndexCls = ubxClaCfg
  · rw [if_pos hcfg, ← hcfg]
    exact hid _
  rw [if_neg hcfg]
  by_cases hmga : frame ubxIndexCls = ubxClaMga
  · rw [if_pos hmga, ← hmga]
    exact hid _
  rw [if_neg hmga]
  by_cases hsec : frame ubxIndexCls = ubxClaSec
  · rw [if_pos hsec, ← hsec]
    exact hid _
  · have hnone : msg = none := by
      show message (frame ubxIndexCls) (frame ubxIndexId) = none
      rw [message, if_neg hnav, if_neg hcfg, if_neg hmga, if_neg hsec]
    rw [if_neg hsec, hnone]
    exact ⟨rfl, Iff.rfl⟩

/-! ### The packets -/

/-- What `ubx_proc_frame` does to `NavInfo`. -/
private theorem navInfo_procFrame (v : Receiver UbxWorld) :
    (ubxProcFrame (ubxEnv reverseByteOrderArray) v).2.world.navInfo =
      ((procFrameFetch reverseByteOrderArray v.proto.expLen v.world.navInfo).run v.proto.fixFrame).2 := by
  by_cases hack : v.proto.fixFrame ubxIndexCls = ubxClaAck
  · have hkept : ((procFrameFetch reverseByteOrderArray v.proto.expLen v.world.navInfo).run v.proto.fixFrame).2 =
        v.world.navInfo := by
      rw [(procFrame_message reverseByteOrderArray v.proto.fixFrame v.proto.expLen v.world.navInfo
        (Nat.lt_succ_self _)).1, hack]
      rfl
    rw [hkept]
    simp only [ubxProcFrame, ubxProcClass, hack, if_true, ubxProcAckFrame, ubxResetRx]
    split <;> rfl
  · simp only [ubxProcFrame, ubxProcClass, hack, if_false, ubxResetRx]
    rfl

/-- `ubx_proc_frame` handles a packet well, whatever stands behind it in `fix_frame`. -/
structure DataOk (m : UbxPacket) : Prop where
  inside : ∀ v : Receiver UbxWorld, v.proto.packet = m →
    Fetch.Below v.proto.fixFrame (ubxIndexPayload + m.payload.length)
      (procFrameFetch reverseByteOrderArray v.proto.expLen v.world.navInfo)
  unchanged : ∀ v : Receiver UbxWorld, v.proto.packet = m →
    (∀ msg, message m.cls m.id = some msg → m.payload.length < msg.size) →
      (ubxProcFrame (ubxEnv reverseByteOrderArray) v).2.world.navInfo = v.world.navInfo
  fields : ∀ v : Receiver UbxWorld, v.proto.packet = m → ∀ msg, message m.cls m.id = some msg →
    msg.size ≤ m.payload.length → ∀ field,
      (ubxProcFrame (ubxEnv reverseByteOrderArray) v).2.world.navInfo.get field =
        msg.expected (fieldsOf m.payload) v.world.navInfo field

/-- The payload of a packet in `fix_frame`. -/
private theorem packet_payload {v : Receiver UbxWorld} {m : UbxPacket} (h : v.proto.packet = m) :
    v.proto.expLen.toNat = m.payload.length ∧
      bytesAt v.proto.fixFrame ubxIndexPayload m.payload.length = m.payload := by
  have hpayload : bytesAt v.proto.fixFrame ubxIndexPayload v.proto.expLen.toNat = m.payload :=
    congrArg UbxPacket.payload h
  have hlen : v.proto.expLen.toNat = m.payload.length := by rw [← hpayload, bytesAt_length]
  exact ⟨hlen, by rwa [hlen] at hpayload⟩

/-- A receiver with the packet in `fix_frame`. -/
def receiverOf (m : UbxPacket) : Receiver UbxWorld where
  proto := { fixFrame := Buffer.ofBytes ([ubxSyn0, ubxSyn1, m.cls, m.id, 0, 0] ++ m.payload), expLen := m.len }
  now := 0
  world := {}
  seen := []

private theorem receiverOf_packet {m : UbxPacket} (h : m.payload.length ≤ 92) : (receiverOf m).proto.packet = m := by
  have hlen : m.len.toNat = m.payload.length := by
    rw [UbxPacket.len, UInt16.toNat_ofNat']
    omega
  have hpayload : bytesAt (receiverOf m).proto.fixFrame ubxHeaderSize m.payload.length = m.payload := by
    have hall := Buffer.bytesAt_ofBytes ([ubxSyn0, ubxSyn1, m.cls, m.id, 0, 0] ++ m.payload)
    rw [List.length_append] at hall
    exact (Buffer.drop_bytesAt _ 6 _).symm.trans (congrArg (List.drop 6) hall)
  unfold UbloxProtocol.packet
  rw [show (receiverOf m).proto.expLen = m.len from rfl, hlen, hpayload]
  rfl

/-- The packet is handled well exactly when its payload meets the condition of its handler. -/
theorem dataOk_iff (m : UbxPacket) (h : m.payload.length ≤ 92) :
    DataOk reverseByteOrderArray m ↔ ∀ msg, message m.cls m.id = some msg → msg.Handled m.payload := by
  have hin : ubxIndexId < ubxIndexPayload + m.payload.length := Nat.lt_add_right _ (by decide)
  have hsplit : ∀ v : Receiver UbxWorld, v.proto.packet = m →
      message (v.proto.fixFrame ubxIndexCls) (v.proto.fixFrame ubxIndexId) = message m.cls m.id := by
    rintro v rfl
    rfl
  constructor
  · intro hok msg hmsg
    have hv := receiverOf_packet h
    obtain ⟨hlen, hframe⟩ := packet_payload hv
    obtain ⟨hrun, hbelow⟩ := procFrame_message reverseByteOrderArray (receiverOf m).proto.fixFrame
      (receiverOf m).proto.expLen (receiverOf m).world.navInfo hin
    rw [hsplit _ hv, hmsg] at hrun hbelow
    suffices h : HandlerOk msg (receiverOf m).proto.fixFrame m.payload (receiverOf m).world.navInfo
        (msg.handler reverseByteOrderArray (receiverOf m).proto.expLen (receiverOf m).world.navInfo) from
      (handlerOk_iff reverseByteOrderArray hframe hlen).1 h
    refine ⟨?_, ?_, ?_⟩
    · exact hbelow.1 (hok.inside _ hv)
    · intro hlt
      have hkept := hok.unchanged _ hv fun msg' hmsg' => by
        rw [hmsg] at hmsg'
        exact Option.some.inj hmsg' ▸ hlt
      rwa [navInfo_procFrame, hrun] at hkept
    · intro hle field
      have hfield := hok.fields _ hv msg hmsg hle field
      rwa [navInfo_procFrame, hrun] at hfield
  · intro hhandled
    have hmessage : ∀ v : Receiver UbxWorld, v.proto.packet = m → ∀ msg, message m.cls m.id = some msg →
        HandlerOk msg v.proto.fixFrame m.payload v.world.navInfo
          (msg.handler reverseByteOrderArray v.proto.expLen v.world.navInfo) := by
      intro v hv msg hmsg
      obtain ⟨hlen, hframe⟩ := packet_payload hv
      exact (handlerOk_iff reverseByteOrderArray hframe hlen).2 (hhandled msg hmsg)
    refine ⟨fun v hv => ?_, fun v hv hshort => ?_, fun v hv msg hmsg hle field => ?_⟩
    · rw [(procFrame_message reverseByteOrderArray _ _ _ hin).2, hsplit v hv]
      cases hmsg : message m.cls m.id with
      | none => exact Fetch.below_pure _
      | some msg => exact (hmessage v hv msg hmsg).inside
    · rw [navInfo_procFrame, (procFrame_message reverseByteOrderArray _ _ _ hin).1, hsplit v hv]
      cases hmsg : message m.cls m.id with
      | none => rfl
      | some msg => exact (hmessage v hv msg hmsg).unchanged (hshort msg hmsg)
    · rw [navInfo_procFrame, (procFrame_message reverseByteOrderArray _ _ _ hin).1, hsplit v hv, hmsg]
      exact (hmessage v hv msg hmsg).fields hle field

/-- UBX-NAV-ATT with 32 bytes. -/
def attPacket : UbxPacket := ⟨0x01, 0x05, List.replicate 8 0 ++ [0x10, 0x27, 0, 0] ++ List.replicate 20 0⟩

theorem attPacket_dataOk : DataOk (fun _ => true) attPacket := by
  refine (dataOk_iff (fun _ => true) attPacket (by decide)).2 fun msg hmsg => ?_
  obtain rfl : Message.att = msg := Option.some.inj hmsg
  exact ⟨by decide, fun _ => by decide⟩

/-- UBX-MGA-INI with y = 1 and z = 0. -/
def mgaPacket : UbxPacket := ⟨0x13, 0x40, List.replicate 8 0 ++ [1, 0, 0, 0] ++ List.replicate 8 0⟩

theorem not_dataOk : ¬∀ m : UbxPacket, m.payload.length ≤ 92 → DataOk (fun _ => true) m := by
  intro h
  have hz := (h mgaPacket (by decide)).fields _ (receiverOf_packet (by decide)) .mgaIni rfl (by decide) .zCm
  exact absurd hz (by decide +kernel)

/-- The packets that the parser accepts are handled so. -/
theorem accepted_data {u : Receiver UbxWorld} {b : UInt8} {m : UbxPacket} (hok : DataOk reverseByteOrderArray m)
    (h : ubxAccepts u b = some m) {msg : Message} (hmsg : message m.cls m.id = some msg)
    (hle : msg.size ≤ m.payload.length) (field : NavField) :
    (ubxStep (ubxEnv reverseByteOrderArray) u b).world.navInfo.get field =
      msg.expected (fieldsOf m.payload) u.world.navInfo field := by
  obtain ⟨v, hv, hworld, -, -, -, hstep⟩ := @ubxAccepts_some _ (ubxEnv reverseByteOrderArray) u b m h
  rw [hstep, ← hworld]
  exact hok.fields v hv msg hmsg hle field

end TiMcu.Ubx
