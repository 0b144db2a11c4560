import TiMcu.Calendar.Convert
import TiMcu.Lib.FieldWalk
import TiMcu.Nmea.Parser

/-!
# The parsers of the NMEA sentences

A good sentence is walked over from comma to comma.  The characters that a parser may read are those of `fix_message`
up to the first null character, or all of them when there is none.  A parser has no result when it leaves them, or
when it searches from a null pointer or advances it (`FieldWalk.walk`).

The conversions of characters to values are not part of the repository (`Conversions`).  They get the characters from
the pointer on, and the old value of the variable that they may set.
-/

namespace TiMcu.Nmea

open NorFlash
open FieldWalk (Field)
open TiMcu.Calendar (Tm)

/-! ### Data -/

def numOfParsedSat : Nat := 10

structure FrameCnt where
  cnt : UInt32 := 0
  hCnt : UInt32 := 0

structure GnssCoordinate where
  latitude : Float := 0
  longitude : Float := 0

def noTime : Tm := ⟨0, 0, 0, 0, 0, 0, 0⟩

structure Rmc where
  fcnt : FrameCnt := {}
  timeDate : Tm := noTime
  dataValid : UInt8 := 0
  coordinateDdmm : GnssCoordinate := {}
  coordinateDd : GnssCoordinate := {}
  latDir : UInt8 := 0
  lonDir : UInt8 := 0
  speedKnots : Float := 0
  trueCourse : Float := 0
  mv : Float := 0
  mvEw : UInt8 := 0
  posMode : UInt8 := 0
  navStatus : UInt8 := 0

structure Gga where
  fcnt : FrameCnt := {}
  timeDate : Tm := noTime
  coordinateDdmm : GnssCoordinate := {}
  coordinateDd : GnssCoordinate := {}
  latDir : UInt8 := 0
  lonDir : UInt8 := 0
  quality : UInt16 := 0
  nbSat : UInt16 := 0
  hdop : Float := 0
  height : Float := 0
  heightUnit : UInt8 := 0
  geoidSeparation : Float := 0
  geoidUnit : UInt8 := 0

structure Gll where
  timeDate : Tm := noTime
  latDir : UInt8 := 0
  coordinateDdmm : GnssCoordinate := {}
  lonDir : UInt8 := 0
  status : UInt8 := 0
  posMode : UInt8 := 0
  fcnt : FrameCnt := {}

structure Gsa where
  opMode : UInt8 := 0
  navMode : UInt8 := 0
  pdop : Float := 0
  hdop : Float := 0
  vdop : Float := 0
  systemId : UInt8 := 0
  fcnt : FrameCnt := {}

structure Vtg where
  cogt : Float := 0
  cogm : Float := 0
  sogn : Float := 0
  sogk : Float := 0
  cogtUnit : UInt8 := 0
  cogmUnit : UInt8 := 0
  sognUnit : UInt8 := 0
  sogkUnit : UInt8 := 0
  posMode : UInt8 := 0
  fcnt : FrameCnt := {}

structure Pbux where
  msgId : UInt8 := 0
  timeDate : Tm := noTime
  fcnt : FrameCnt := {}

structure Satellite where
  svid : UInt16 := 0
  elv : UInt8 := 0
  az : UInt16 := 0
  cno : UInt8 := 0

structure Gsv where
  numMsg : UInt8 := 0
  msgNum : UInt8 := 0
  signalId : UInt8 := 0
  /-- The satellites, by index below `numOfParsedSat`. -/
  sat : Nat → Satellite := fun _ => {}
  numSv : UInt16 := 0
  fcnt : FrameCnt := {}

structure Zda where
  timeDate : Tm := noTime
  ltzh : UInt8 := 0
  ltzn : UInt8 := 0
  fcnt : FrameCnt := {}

structure Txt where
  fcnt : FrameCnt := {}

/-- The fields of `NmeaData_t` that the parsers use. -/
structure NmeaData where
  gnssTimeStamp : UInt32 := 0
  rmc : Rmc := {}
  gll : Gll := {}
  vtg : Vtg := {}
  gga : Gga := {}
  gsa : Gsa := {}
  gsv : Gsv := {}
  pbux : Pbux := {}
  txt : Txt := {}
  zda : Zda := {}
  coordinateDd : GnssCoordinate := {}

/-- The conversions of characters, and the clock at the time of the sentence. -/
structure Conversions where
  tryStrl2uint8 : List UInt8 → Nat → UInt8 → Bool × UInt8
  tryStrl2uint16 : List UInt8 → Nat → UInt16 → Bool × UInt16
  tryStrl2uint32 : List UInt8 → Nat → UInt32 → Bool × UInt32
  tryStrl2int32 : List UInt8 → Nat → Int → Bool × Int
  tryStrl2double : List UInt8 → Nat → Float → Bool × Float
  parseTimeFromVal : UInt32 → Tm → Bool × Tm
  parseDateFromVal : UInt32 → Tm → Bool × Tm
  getTimeMs32 : UInt32

def gnssEncoding2Degrees (inDdmm : Float) : Float :=
  let degrees := Float.ofInt (inDdmm.toInt32 / 100).toInt
  let mm := inDdmm - degrees * 100
  degrees + mm / 60

def encodeGnssCoordinates (dotDdmm : GnssCoordinate) : GnssCoordinate :=
  ⟨gnssEncoding2Degrees dotDdmm.latitude, gnssEncoding2Degrees dotDdmm.longitude⟩

/-! ### Fields -/

/-- The variables of a parser: the data that it fills, its result so far, and the number of fields that were good. -/
structure Fill (R : Type) where
  data : R
  res : Bool := true
  cnt : UInt8 := 0

variable {R A : Type} (c : Conversions)

/-- A number with the given number of characters is read, and counted. -/
def number (convert : List UInt8 → Nat → A → Bool × A) (digits : Nat) (get : R → A) (set : A → R → R) (count : UInt8)
    (text : List UInt8) (v : Fill R) : Fill R :=
  let (res, value) := convert text digits (get v.data)
  { v with data := set value v.data, cnt := if res then v.cnt + count else v.cnt }

/-- A number is read, and the result is kept. -/
def strictNumber (convert : List UInt8 → Nat → A → Bool × A) (digits : Nat) (get : R → A) (set : A → R → R)
    (text : List UInt8) (v : Fill R) : Fill R :=
  let (res, value) := convert text digits (get v.data)
  { v with data := set value v.data, res := res && v.res }

/-- Six digits are read and parsed as a time or a date. -/
def sixDigits (parse : UInt32 → Tm → Bool × Tm) (get : R → Tm) (set : Tm → R → R) (text : List UInt8) (v : Fill R) :
    Fill R :=
  let (res, value) := c.tryStrl2uint32 text 6 0
  if res then
    let (res, tm) := parse value (get v.data)
    { v with data := set tm v.data, cnt := if res then v.cnt + 1 else v.cnt }
  else v

/-- A character is taken as it is. -/
def letter (set : UInt8 → R → R) (text : List UInt8) (v : Fill R) : Fill R :=
  { v with data := set (text.headD 0) v.data }

/-- A character is taken and counted unless it is the comma of the next field. -/
def letterUnlessComma (set : UInt8 → R → R) (count : UInt8) (text : List UInt8) (v : Fill R) : Fill R :=
  if text.headD 0 ≠ comma then { v with data := set (text.headD 0) v.data, cnt := v.cnt + count } else v

/-- The field is counted among the good ones exactly when it is within the first characters of the message. -/
def belowSize (nmeaMsg : List UInt8) (act : List UInt8 → Fill R → Fill R) (text : List UInt8) (v : Fill R) : Fill R :=
  let curPos := nmeaMsg.length - (text.length + 1)
  if curPos < nmeaMsgSize then act text v else v

/-- The result of a parser that wants one good field. -/
def anyField (w : Option (Option (List UInt8) × Fill R)) : Option (Bool × R) :=
  w.map fun w => (w.2.cnt ≠ 0, w.2.data)

/-- The result of a parser that wants every field good. -/
def everyField (w : Option (Option (List UInt8) × Fill R)) : Option (Bool × R) :=
  w.map fun w => (w.2.res, w.2.data)

/-! ### ZDA -/

def zdaFields : List (Field UInt8 (Fill Zda)) := [
  { act := sixDigits c c.parseTimeFromVal (·.timeDate) fun tm zda => { zda with timeDate := tm }
    advance := .always },
  { act := number c.tryStrl2int32 2 (·.timeDate.tmMday) (fun n zda => { zda with timeDate.tmMday := n }) 1
    advance := .always },
  { act := number c.tryStrl2int32 2 (·.timeDate.tmMon) (fun n zda => { zda with timeDate.tmMon := n }) 1
    advance := .always },
  { act := number c.tryStrl2int32 4 (·.timeDate.tmYear) (fun n zda => { zda with timeDate.tmYear := n }) 1
    advance := .always },
  { act := number c.tryStrl2uint8 2 (·.ltzh) (fun n zda => { zda with ltzh := n }) 1
    advance := .always },
  { act := number c.tryStrl2uint8 2 (·.ltzn) (fun n zda => { zda with ltzn := n }) 1
    advance := .never }]

def gnssParseZda (nmeaMsg : List UInt8) (zda : Zda) : Option (Bool × Zda) :=
  anyField (FieldWalk.walk comma 0 (zdaFields c) (some nmeaMsg) { data := zda })

/-! ### GGA -/

def ggaFields : List (Field UInt8 (Fill Gga)) := [
  { act := sixDigits c c.parseTimeFromVal (·.timeDate) fun tm gga => { gga with timeDate := tm }
    advance := .always },
  { act := number c.tryStrl2double 10 (·.coordinateDdmm.latitude)
      (fun x gga => { gga with coordinateDdmm.latitude := x }) 1
    advance := .always },
  { act := letter fun b gga => { gga with latDir := b }
    advance := .always },
  { act := number c.tryStrl2double 11 (·.coordinateDdmm.longitude)
      (fun x gga => { gga with coordinateDdmm.longitude := x }) 1
    advance := .always },
  { act := letter fun b gga => { gga with lonDir := b }
    advance := .always },
  { act := number c.tryStrl2uint16 1 (·.quality) (fun n gga => { gga with quality := n }) 1
    advance := .always },
  { act := number c.tryStrl2uint16 2 (·.nbSat) (fun n gga => { gga with nbSat := n }) 1
    advance := .always },
  { act := number c.tryStrl2double 4 (·.hdop) (fun x gga => { gga with hdop := x }) 1
    advance := .always },
  { act := number c.tryStrl2double 5 (·.height) (fun x gga => { gga with height := x }) 1
    advance := .always },
  { act := letter fun b gga => { gga with heightUnit := b }
    advance := .always },
  { act := number c.tryStrl2double 4 (·.geoidSeparation) (fun x gga => { gga with geoidSeparation := x }) 1
    advance := .always },
  { act := letter fun b gga => { gga with geoidUnit := b }
    advance := .always }]

def gnssParseGga (nmeaMsg : List UInt8) (gga : Gga) : Option (Bool × Gga) :=
  anyField (FieldWalk.walk comma 0 (ggaFields c) (some nmeaMsg) { data := gga })

/-! ### GSV -/

def Gsv.setSat (gsv : Gsv) (i : Nat) (sat : Satellite) : Gsv :=
  { gsv with sat := fun j => if j = i then sat else gsv.sat j }

/-- The fields up to the number of satellites. -/
def gsvHead : List (Field UInt8 (Fill Gsv)) := [
  { act := number c.tryStrl2uint8 1 (·.numMsg) (fun n gsv => { gsv with numMsg := n }) 1
    advance := .unlessNull },
  { act := number c.tryStrl2uint8 1 (·.msgNum) (fun n gsv => { gsv with msgNum := n }) 1
    advance := .unlessNull },
  { act := number c.tryStrl2uint16 2 (·.numSv) (fun n gsv => { gsv with numSv := n }) 1
    advance := .unlessNull }]

/-- The fields of a satellite. -/
def gsvSat (i : Nat) : List (Field UInt8 (Fill Gsv)) := [
  { act := number c.tryStrl2uint16 2 (fun gsv => (gsv.sat i).svid)
      (fun n gsv => gsv.setSat i { gsv.sat i with svid := n }) 1
    advance := .unlessNull },
  { guarded := true
    act := number c.tryStrl2uint8 2 (fun gsv => (gsv.sat i).elv)
      (fun n gsv => gsv.setSat i { gsv.sat i with elv := n }) 1
    advance := .unlessNull },
  { guarded := true
    act := number c.tryStrl2uint16 3 (fun gsv => (gsv.sat i).az)
      (fun n gsv => gsv.setSat i { gsv.sat i with az := n }) 1
    advance := .unlessNull },
  { guarded := true
    act := number c.tryStrl2uint8 2 (fun gsv => (gsv.sat i).cno)
      (fun n gsv => gsv.setSat i { gsv.sat i with cno := n }) 1
    advance := .unlessNull }]

def gsvTail : List (Field UInt8 (Fill Gsv)) := [
  { guarded := true
    act := number c.tryStrl2uint8 1 (·.signalId) (fun n gsv => { gsv with signalId := n }) 1
    advance := .never }]

/-- The satellites: the loop runs to the number of the message less one, and uses the indices in the table. -/
def gsvSats (msgNum : UInt8) : List Nat := (List.range (msgNum.toNat - 1)).filter (· < numOfParsedSat)

def gnssParseGsv (nmeaMsg : List UInt8) (gsv : Gsv) : Option (Bool × Gsv) :=
  anyField do
    let (ptr, v) ← FieldWalk.walk comma 0 (gsvHead c) (some nmeaMsg) { data := gsv }
    FieldWalk.walk comma 0 ((gsvSats v.data.msgNum).flatMap (gsvSat c) ++ gsvTail c) ptr v

/-! ### VTG -/

def vtgFields : List (Field UInt8 (Fill Vtg)) := [
  { act := number c.tryStrl2double 5 (·.cogt) (fun x vtg => { vtg with cogt := x }) 1
    advance := .always },
  { act := letterUnlessComma (fun b vtg => { vtg with cogtUnit := b }) 1
    advance := .always },
  -- the pointer is behind the comma already, and the character there is skipped
  { place := 2
    act := number c.tryStrl2double 5 (·.cogm) (fun x vtg => { vtg with cogm := x }) 1
    advance := .always },
  { act := letterUnlessComma (fun b vtg => { vtg with cogmUnit := b }) 2
    advance := .always },
  { act := number c.tryStrl2double 5 (·.sogn) (fun x vtg => { vtg with sogn := x }) 1
    advance := .always },
  { act := letterUnlessComma (fun b vtg => { vtg with sognUnit := b }) 1
    advance := .always },
  { act := number c.tryStrl2double 5 (·.sogk) (fun x vtg => { vtg with sogk := x }) 1
    advance := .always },
  { act := letterUnlessComma (fun b vtg => { vtg with sogkUnit := b }) 1
    advance := .always },
  { act := letterUnlessComma (fun b vtg => { vtg with posMode := b }) 1
    advance := .never }]

def gnssParseVtg (nmeaMsg : List UInt8) (vtg : Vtg) : Option (Bool × Vtg) :=
  anyField (FieldWalk.walk comma 0 (vtgFields c) (some nmeaMsg) { data := vtg })

/-! ### GSA -/

/-- A field that is skipped. -/
def skipped : Field UInt8 (Fill R) where
  place := 0
  act _ v := v
  advance := .always

def gsaFields : List (Field UInt8 (Fill Gsa)) := [
    { act := letter fun b gsa => { gsa with opMode := b }
      advance := .always },
    { act := strictNumber c.tryStrl2uint8 1 (·.navMode) fun n gsa => { gsa with navMode := n }
      advance := .always }] ++
  List.replicate 12 skipped ++ [
    { act := strictNumber c.tryStrl2double 4 (·.pdop) fun x gsa => { gsa with pdop := x }
      advance := .always },
    { act := strictNumber c.tryStrl2double 4 (·.hdop) fun x gsa => { gsa with hdop := x }
      advance := .always },
    { act := strictNumber c.tryStrl2double 4 (·.vdop) fun x gsa => { gsa with vdop := x }
      advance := .always },
    { act := strictNumber c.tryStrl2uint8 1 (·.systemId) fun n gsa => { gsa with systemId := n }
      advance := .never }]

def gnssParseGsa (nmeaMsg : List UInt8) (gsa : Gsa) : Option (Bool × Gsa) :=
  everyField (FieldWalk.walk comma 0 (gsaFields c) (some nmeaMsg) { data := gsa })

/-! ### GLL -/

def gllFields (nmeaMsg : List UInt8) : List (Field UInt8 (Fill Gll)) := [
  { act := belowSize nmeaMsg (number c.tryStrl2double 10 (·.coordinateDdmm.latitude)
      (fun x gll => { gll with coordinateDdmm.latitude := x }) 1)
    advance := .always },
  { act := belowSize nmeaMsg (letter fun b gll => { gll with latDir := b })
    advance := .always },
  { act := belowSize nmeaMsg (number c.tryStrl2double 11 (·.coordinateDdmm.longitude)
      (fun x gll => { gll with coordinateDdmm.longitude := x }) 1)
    advance := .always },
  { act := belowSize nmeaMsg (letterUnlessComma (fun b gll => { gll with lonDir := b }) 1)
    advance := .always },
  { act := belowSize nmeaMsg (sixDigits c c.parseTimeFromVal (·.timeDate) fun tm gll => { gll with timeDate := tm })
    advance := .always },
  { act := belowSize nmeaMsg (letterUnlessComma (fun b gll => { gll with status := b }) 1)
    advance := .always },
  { act := belowSize nmeaMsg (letterUnlessComma (fun b gll => { gll with posMode := b }) 1)
    advance := .always }]

/-- The first search is not checked for null; null is advanced there in any case. -/
def gnssParseGll (nmeaMsg : List UInt8) (gll : Gll) : Option (Bool × Gll) :=
  anyField (FieldWalk.walk comma 0 (gllFields c nmeaMsg) (some nmeaMsg) { data := gll })

/-! ### PUBX -/

def pbuxFields : List (Field UInt8 (Fill Pbux)) := [
  { act := strictNumber c.tryStrl2uint8 2 (·.msgId) fun n pbux => { pbux with msgId := n }
    advance := .always },
  { act text v :=
      let (res, utcTime) := c.tryStrl2uint32 text 6 0
      if res && v.res then
        let (res, tm) := c.parseTimeFromVal utcTime v.data.timeDate
        { v with data.timeDate := tm, res := res }
      else { v with res := false }
    advance := .always }]

def gnssParsePbuxPos (nmeaMsg : List UInt8) (pbux : Pbux) : Option (Bool × Pbux) :=
  everyField (FieldWalk.walk comma 0 (pbuxFields c) (some nmeaMsg) { data := pbux })

/-! ### RMC -/

def rmcFields : List (Field UInt8 (Fill Rmc)) := [
  { act := sixDigits c c.parseTimeFromVal (·.timeDate) fun tm rmc => { rmc with timeDate := tm }
    advance := .always },
  { act := letterUnlessComma (fun b rmc => { rmc with dataValid := b }) 1
    advance := .always },
  { act := number c.tryStrl2double 10 (·.coordinateDdmm.latitude)
      (fun x rmc => { rmc with coordinateDdmm.latitude := x }) 1
    advance := .always },
  { act := letterUnlessComma (fun b rmc => { rmc with latDir := b }) 1
    advance := .always },
  { act := number c.tryStrl2double 11 (·.coordinateDdmm.longitude)
      (fun x rmc => { rmc with coordinateDdmm.longitude := x }) 1
    advance := .always },
  { act := letterUnlessComma (fun b rmc => { rmc with lonDir := b }) 0
    advance := .always },
  { act := number c.tryStrl2double 5 (·.speedKnots) (fun x rmc => { rmc with speedKnots := x }) 1
    advance := .always },
  { act := number c.tryStrl2double 5 (·.trueCourse) (fun x rmc => { rmc with trueCourse := x }) 1
    advance := .always },
  { act := sixDigits c c.parseDateFromVal (·.timeDate) fun tm rmc => { rmc with timeDate := tm }
    advance := .always },
  { act := number c.tryStrl2double 5 (·.mv) (fun x rmc => { rmc with mv := x }) 0
    advance := .always },
  { act := letterUnlessComma (fun b rmc => { rmc with mvEw := b }) 0
    advance := .always },
  { act := letterUnlessComma (fun b rmc => { rmc with posMode := b }) 0
    advance := .always },
  { act := letterUnlessComma (fun b rmc => { rmc with navStatus := b }) 0
    advance := .never }]

def gnssParseRmc (nmeaMsg : List UInt8) (rmc : Rmc) : Option (Bool × Rmc) :=
  anyField (FieldWalk.walk comma 0 (rmcFields c) (some nmeaMsg) { data := rmc })

/-! ### The selection -/

inductive SentenceType
  | gga | rmc | gll | gsv | vtg | gsa | zda | txt | pubx | undefined
  deriving DecidableEq, Repr

/-- The characters behind the talker are those of a word. -/
def isWord (nmeaMsg : List UInt8) (word : List Char) : Bool :=
  (nmeaMsg.drop 3).take word.length = word.map Char.toUInt8

/-- The parser that `nmea_parse` selects. -/
def sentenceType (nmeaMsg : List UInt8) : SentenceType :=
  if isWord nmeaMsg ['G', 'G', 'A'] then .gga
  else if isWord nmeaMsg ['R', 'M', 'C'] then .rmc
  else if isWord nmeaMsg ['G', 'L', 'L'] then .gll
  else if isWord nmeaMsg ['G', 'S', 'V'] then .gsv
  else if isWord nmeaMsg ['V', 'T', 'G'] then .vtg
  else if isWord nmeaMsg ['G', 'S', 'A'] then .gsa
  else if isWord nmeaMsg ['Z', 'D', 'A'] then .zda
  else if isWord nmeaMsg ['T', 'X', 'T'] then .txt
  else if isWord nmeaMsg ['P', 'U', 'B', 'X'] then .pubx
  else .undefined

/-- What `nmea_parse` makes of the result of the parser it selected. -/
def parsed (result : Option (Bool × R)) (put : R → NmeaData) (good : NmeaData → NmeaData) :
    Sentence (Option NmeaData) :=
  match result with
  | none => ⟨false, none, false, false⟩
  | some (res, r) =>
    if res then ⟨true, some (good (put r)), false, false⟩ else ⟨false, some (put r), true, false⟩

/-- The parser of a sentence that `nmea_parse` selects; no data are left when it leaves the characters of the sentence. -/
def gnssSentence (nmeaMsg : Mem) (gpsCtx : Option NmeaData) : Sentence (Option NmeaData) :=
  let text := FieldWalk.upTo 0 (bytesAt nmeaMsg 0 nmeaMsgSize)
  match gpsCtx with
  | none => ⟨false, none, false, false⟩
  | some d =>
    match sentenceType text with
    | .gga =>
      let d := { d with gga.fcnt.hCnt := d.gga.fcnt.hCnt + 1 }
      parsed (gnssParseGga c text d.gga) (fun gga => { d with gga := gga }) fun d =>
        let dd := encodeGnssCoordinates d.gga.coordinateDdmm
        { d with gga.fcnt.cnt := d.gga.fcnt.cnt + 1, gga.coordinateDd := dd, coordinateDd := dd }
    | .rmc =>
      let d := { d with rmc.fcnt.hCnt := d.rmc.fcnt.hCnt + 1 }
      parsed (gnssParseRmc c text d.rmc) (fun rmc => { d with rmc := rmc }) fun d =>
        let dd := encodeGnssCoordinates d.rmc.coordinateDdmm
        { d with
          gnssTimeStamp := c.getTimeMs32
          rmc.fcnt.cnt := d.rmc.fcnt.cnt + 1
          rmc.coordinateDd := dd
          coordinateDd := dd }
    | .gll =>
      let d := { d with gll.fcnt.hCnt := d.gll.fcnt.hCnt + 1 }
      parsed (gnssParseGll c text d.gll) (fun gll => { d with gll := gll }) fun d =>
        { d with gnssTimeStamp := c.getTimeMs32, gll.fcnt.cnt := d.gll.fcnt.cnt + 1 }
    | .gsv =>
      let d := { d with gsv.fcnt.hCnt := d.gsv.fcnt.hCnt + 1 }
      parsed (gnssParseGsv c text d.gsv) (fun gsv => { d with gsv := gsv }) fun d =>
        { d with gsv.fcnt.cnt := d.gsv.fcnt.cnt + 1 }
    | .vtg =>
      let d := { d with vtg.fcnt.hCnt := d.vtg.fcnt.hCnt + 1 }
      parsed (gnssParseVtg c text d.vtg) (fun vtg => { d with vtg := vtg }) fun d =>
        { d with vtg.fcnt.cnt := d.vtg.fcnt.cnt + 1 }
    | .gsa =>
      let d := { d with gsa.fcnt.hCnt := d.gsa.fcnt.hCnt + 1 }
      parsed (gnssParseGsa c text d.gsa) (fun gsa => { d with gsa := gsa }) fun d =>
        { d with gsa.fcnt.cnt := d.gsa.fcnt.cnt + 1 }
    | .zda =>
      let d := { d with zda.fcnt.hCnt := d.zda.fcnt.hCnt + 1 }
      parsed (gnssParseZda c text d.zda) (fun zda => { d with zda := zda }) fun d =>
        { d with zda.fcnt.cnt := d.zda.fcnt.cnt + 1 }
    | .txt => ⟨false, some { d with txt.fcnt.hCnt := d.txt.fcnt.hCnt + 1 }, false, false⟩
    | .pubx =>
      let d := { d with pbux.fcnt.hCnt := d.pbux.fcnt.hCnt + 1 }
      parsed (gnssParsePbuxPos c text d.pbux) (fun pbux => { d with pbux := pbux }) fun d =>
        { d with pbux.fcnt.cnt := d.pbux.fcnt.cnt + 1 }
    | .undefined => ⟨false, some d, false, true⟩

end TiMcu.Nmea
