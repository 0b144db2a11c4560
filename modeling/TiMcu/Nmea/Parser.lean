import TiMcu.Lib.Buffer
import TiMcu.Lib.Runs
import TiMcu.Tbfp.Device

/-!
# The NMEA parser

`nmea_proc_byte` takes the bytes of the GNSS receiver one at a time.  A sentence `$payload*HH` is loaded into `message`;
with its last character a copy of the message is handed to `nmea_parse`, which compares the checksum and selects the
parser of the sentence.

The conversions of hexadecimal digits are not part of the repository (`HexHelpers`).  What the parser of a sentence does
is a parameter here.  `NmeaReceiver.touched` records the indices of the stores into `message`, and
`NmeaReceiver.handed` what `nmea_parse` is called with; no function reads them.
-/

namespace TiMcu.Nmea

open NorFlash
open TiMcu.Tbfp (RxState)

/-! ### Data -/

def nmeaMsgSize : Nat := 300
def nmeaOverhead : Nat := 4

def dollar : UInt8 := 0x24
def asterisk : UInt8 := 0x2A
def comma : UInt8 := 0x2C

inductive PositionMode
  | undefined | rtkFixed | rtkFloat | deadReckoningFix | deadReckoningFixButUserLimitsExceeded
  | gnssFixButUserLimitsExceeded | noPositionFix | fix2dGnss | fix3dGnss | combinedGnssDeadReckoningFix
  deriving DecidableEq, Repr

/-- The fields of `NmeaProtocol_t` that the parser uses. -/
structure NmeaProto where
  pos : UInt16 := 0
  msgCnt : UInt32 := 0
  crcErrCnt : UInt32 := 0
  undefErrCnt : UInt32 := 0
  errCnt : UInt32 := 0
  errParse : UInt32 := 0
  state : RxState := .waitPreamble
  lenMin : UInt32 := 0
  lenMax : UInt32 := 0
  crcReadCnt : UInt32 := 0
  crcOkCnt : UInt32 := 0
  overflow : UInt32 := 0
  procMsgCnt : UInt32 := 0
  crcNibble : UInt8 := 0
  crcRead : UInt8 := 0
  gotMassege : Bool := false
  message : Mem := fun _ => 0
  fixMessage : Mem := fun _ => 0
  undefMessage : Mem := fun _ => 0
  posMode : PositionMode := .undefined

/-- The value of a hexadecimal digit. -/
def hexValue (c : UInt8) : Option UInt8 :=
  if 0x30 ≤ c ∧ c ≤ 0x39 then some (c - 0x30)
  else if 0x41 ≤ c ∧ c ≤ 0x46 then some (c - 0x37)
  else if 0x61 ≤ c ∧ c ≤ 0x66 then some (c - 0x57)
  else none

/-- The conversions of hexadecimal digits, and what is known of them. -/
structure HexHelpers where
  isHexDigit : UInt8 → Bool
  asciiChar2HexNibble : UInt8 → Option UInt8
  /-- `try_strl2uint8_hex` of the characters it gets. -/
  tryStrl2uint8Hex : List UInt8 → Option UInt8
  isHexDigit_of_value : ∀ c v, hexValue c = some v → isHexDigit c = true
  nibble_of_value : ∀ c v, hexValue c = some v → asciiChar2HexNibble c = some v
  hex_of_values : ∀ a b va vb, hexValue a = some va → hexValue b = some vb →
    tryStrl2uint8Hex [a, b] = some (va <<< 4 ||| vb)

/-- What the parser of a sentence leaves: its result, the data, and the counters of `NmeaProto` it raises. -/
structure Sentence (D : Type) where
  res : Bool
  data : D
  errParse : Bool
  undef : Bool

/-- The parser with the data of the receiver. -/
structure NmeaReceiver (D : Type) where
  proto : NmeaProto
  data : D
  touched : List Nat
  handed : List (List UInt8 × UInt16)

variable {D : Type} (hex : HexHelpers) (sentence : Mem → D → Sentence D)

/-! ### The sentence -/

/-- The index of the first such character of a string, or none before its end. -/
def strchr (text : List UInt8) (c : UInt8) : Option Nat :=
  match text with
  | [] => none
  | b :: text => if b = c then some 0 else if b = 0 then none else (strchr text c).map (· + 1)

def nmeaCalcChecksum (nmeaData : List UInt8) : UInt8 := nmeaData.foldl (· ^^^ ·) 0

/-- The checksum that the sentence carries, or none when it cannot be read, with the number of errors counted. -/
def nmeaReadCrc (nmeaMsg : Mem) : Option UInt8 × UInt32 :=
  match strchr (bytesAt nmeaMsg 0 nmeaMsgSize) asterisk with
  | some crcPos =>
    if crcPos + 1 < nmeaMsgSize then (hex.tryStrl2uint8Hex (bytesAt nmeaMsg (crcPos + 1) 2), 0) else (some 0, 1)
  -- one is added to a null pointer: the position that comes of it is behind the message
  | none => (some 0, 1)

/-- `nmea_parse`. -/
def nmeaParse (nmeaMsg : Mem) (len : UInt16) (p : NmeaProto) (data : D) : Bool × NmeaProto × D :=
  let p := if len.toNat < nmeaMsgSize then p else { p with errCnt := p.errCnt + 1 }
  if nmeaOverhead < len.toNat ∧ nmeaMsg 0 = dollar then
    let (readCrc, errors) := nmeaReadCrc hex nmeaMsg
    let p := { p with errCnt := p.errCnt + errors }
    match readCrc with
    | none => (false, p, data)
    | some readCrc =>
      let p := { p with crcReadCnt := p.crcReadCnt + 1 }
      let calcCrc := nmeaCalcChecksum (bytesAt nmeaMsg 1 (len.toNat - nmeaOverhead))
      if readCrc = calcCrc then
        let p := { p with
          lenMin := min p.lenMin len.toUInt32
          lenMax := max p.lenMax len.toUInt32
          crcOkCnt := p.crcOkCnt + 1 }
        let s := sentence nmeaMsg data
        let p := if s.errParse then { p with errParse := p.errParse + 1 } else p
        let p := if s.undef then { p with
            undefErrCnt := p.undefErrCnt + 1
            undefMessage := Buffer.copy p.undefMessage nmeaMsg nmeaMsgSize }
          else p
        (s.res, p, s.data)
      else (false, { p with crcErrCnt := p.crcErrCnt + 1 }, data)
  else (false, p, data)

/-! ### The bytes -/

def nmeaResetParser (r : NmeaReceiver D) : NmeaReceiver D :=
  { r with
    proto.pos := 0
    proto.gotMassege := false
    proto.posMode := .undefined
    proto.crcNibble := 0
    proto.state := .waitPreamble }

/-- A byte is stored in `message`, at the position. -/
def NmeaReceiver.put (r : NmeaReceiver D) (rxByte : UInt8) : NmeaReceiver D :=
  { r with
    proto.message := Buffer.store r.proto.message r.proto.pos.toNat rxByte
    proto.pos := r.proto.pos + 1
    touched := r.proto.pos.toNat :: r.touched }

/-- `message` is cleared, with `memset`. -/
def NmeaReceiver.clear (r : NmeaReceiver D) : NmeaReceiver D :=
  { r with
    proto.message := Buffer.copy r.proto.message (fun _ => 0) nmeaMsgSize
    touched := List.range nmeaMsgSize ++ r.touched }

def nmeaProcWaitPreamble (r : NmeaReceiver D) (rxByte : UInt8) : Bool × NmeaReceiver D :=
  if rxByte = dollar ∧ r.proto.pos = 0 then
    let r := r.clear
    (false, { r with
      proto.message := Buffer.store r.proto.message 0 rxByte
      proto.state := .waitPayload
      proto.pos := 1
      touched := 0 :: r.touched })
  else (false, nmeaResetParser r)

def nmeaProcWaitPayload (r : NmeaReceiver D) (rxByte : UInt8) : Bool × NmeaReceiver D :=
  let r :=
    if rxByte = asterisk then { r with proto.state := .waitCrc, proto.crcNibble := 0, proto.crcRead := 0 }
    else { r with proto.state := .waitPayload }
  if r.proto.pos.toNat < nmeaMsgSize then (true, r.put rxByte)
  else (false, nmeaResetParser { r with proto.overflow := r.proto.overflow + 1 })

/-- The copy of the message is parsed. -/
def NmeaReceiver.parse (r : NmeaReceiver D) : NmeaReceiver D :=
  let p := { r.proto with
    msgCnt := r.proto.msgCnt + 1
    gotMassege := true
    fixMessage := Buffer.copy r.proto.fixMessage r.proto.message nmeaMsgSize }
  let (res, p', data) := nmeaParse hex sentence p.fixMessage p.pos p r.data
  { r with
    proto := if res then { p' with procMsgCnt := p'.procMsgCnt + 1 } else p'
    data := data
    handed := (bytesAt p.fixMessage 0 nmeaMsgSize, p.pos) :: r.handed }

def nmeaProcWaitCrc (r : NmeaReceiver D) (rxByte : UInt8) : Bool × NmeaReceiver D :=
  if hex.isHexDigit rxByte then
    if r.proto.pos.toNat < nmeaMsgSize then
      let r := r.put rxByte
      let nibble := hex.asciiChar2HexNibble rxByte
      if r.proto.crcNibble = 0 then
        let crcRead := match nibble with
          | some nibble => nibble <<< 4
          | none => 0
        (nibble.isSome, { r with proto.crcRead := crcRead, proto.crcNibble := 1 })
      else if r.proto.crcNibble = 1 then
        let r := match nibble with
          | some nibble => NmeaReceiver.parse hex sentence { r with proto.crcRead := r.proto.crcRead ||| nibble }
          | none => r
        let r := nmeaResetParser r
        (true, { r with proto.crcNibble := 2 })
      else (true, nmeaResetParser r)
    else (true, nmeaResetParser { r with proto.overflow := r.proto.overflow + 1 })
  else (true, nmeaResetParser { r with proto.errParse := r.proto.errParse + 1 })

def nmeaProcByte (r : NmeaReceiver D) (rxByte : UInt8) : Bool × NmeaReceiver D :=
  match r.proto.state with
  | .waitPreamble => nmeaProcWaitPreamble r rxByte
  | .waitPayload => nmeaProcWaitPayload r rxByte
  | .waitCrc => nmeaProcWaitCrc hex sentence r rxByte
  | _ => (false, r)

/-- The receiver after `nmea_init`. -/
def NmeaReceiver.init (data : D) : NmeaReceiver D where
  proto := { lenMin := 999999 }
  data := data
  touched := []
  handed := []

/-- The state after a byte. -/
def nmeaStep (r : NmeaReceiver D) (rxByte : UInt8) : NmeaReceiver D := (nmeaProcByte hex sentence r rxByte).2

/-! ### A message that holds some bytes -/

/-- The buffer holds the bytes and zeros behind them. -/
def Shows (f : Mem) (l : List UInt8) : Prop := ∀ x < nmeaMsgSize, f x = l.getD x 0

theorem Shows.bytesAt {f : Mem} {l : List UInt8} (h : Shows f l) (i : Nat) {n : Nat} (hl : i + n ≤ l.length)
    (hsize : l.length ≤ nmeaMsgSize) : NorFlash.bytesAt f i n = (l.drop i).take n := by
  apply List.ext_getElem
  · rw [bytesAt_length, List.length_take, List.length_drop]
    omega
  · intro k hk hk'
    rw [bytesAt_length] at hk
    rw [getElem_bytesAt, h _ (by omega), List.getElem_take, List.getElem_drop, List.getD_eq_getElem _ _ (by omega)]

theorem Shows.whole {f : Mem} {l : List UInt8} (h : Shows f l) (hsize : l.length ≤ nmeaMsgSize) :
    NorFlash.bytesAt f 0 nmeaMsgSize = l ++ List.replicate (nmeaMsgSize - l.length) 0 := by
  apply List.ext_getElem
  · rw [bytesAt_length, List.length_append, List.length_replicate]
    omega
  · intro k hk hk'
    rw [bytesAt_length] at hk
    rw [getElem_bytesAt, Nat.zero_add, h k hk, List.getElem_append]
    split
    · next hlt => exact List.getD_eq_getElem _ _ hlt
    · next hge => rw [List.getD_eq_default _ _ (Nat.not_lt.1 hge), List.getElem_replicate]

theorem Shows.store {f : Mem} {l : List UInt8} (h : Shows f l) (b : UInt8) :
    Shows (Buffer.store f l.length b) (l ++ [b]) := by
  intro x hx
  by_cases hlast : x = l.length
  · subst hlast
    simp
  · rw [Buffer.store_of_ne b hlast, h x hx]
    by_cases hlt : x < l.length
    · rw [List.getD_append _ _ _ _ hlt]
    · have hbehind : (l ++ [b]).length ≤ x := by
        rw [List.length_append, List.length_singleton]
        omega
      rw [List.getD_eq_default _ _ (by omega), List.getD_eq_default _ _ hbehind]

theorem Shows.copy {f g : Mem} {l : List UInt8} (h : Shows f l) : Shows (Buffer.copy g f nmeaMsgSize) l := by
  intro x hx
  rw [Buffer.copy_of_lt hx, h x hx]

private theorem strchr_append {front : List UInt8} {c : UInt8} (hfront : ∀ b ∈ front, b ≠ c ∧ b ≠ 0)
    (rest : List UInt8) :
    strchr (front ++ c :: rest) c = some front.length := by
  induction front with
  | nil => simp [strchr]
  | cons b front ih =>
    obtain ⟨⟨hb, hzero⟩, hrest⟩ := List.forall_mem_cons.1 hfront
    rw [List.cons_append, strchr, if_neg hb, if_neg hzero, ih hrest]
    rfl

/-! ### Loading -/

variable {r₀ r : NmeaReceiver D} {l : List UInt8} {state : RxState} {b : UInt8}

/-- The bytes are loaded, and nothing was handed over or counted since. -/
structure Loading (r₀ r : NmeaReceiver D) (l : List UInt8) (state : RxState) : Prop where
  state : r.proto.state = state
  pos : r.proto.pos.toNat = l.length
  message : Shows r.proto.message l
  crcOkCnt : r.proto.crcOkCnt = r₀.proto.crcOkCnt
  crcErrCnt : r.proto.crcErrCnt = r₀.proto.crcErrCnt
  handed : r.handed = r₀.handed

theorem Loading.put (h : Loading r₀ r l state) (hlt : l.length < nmeaMsgSize) (b : UInt8) :
    Loading r₀ (r.put b) (l ++ [b]) state where
  state := h.state
  pos := by
    have hsize : nmeaMsgSize = 300 := rfl
    have hone : (1 : UInt16).toNat = 1 := rfl
    rw [NmeaReceiver.put, UInt16.toNat_add, h.pos, hone, List.length_append, List.length_singleton]
    omega
  message := by
    rw [NmeaReceiver.put, h.pos]
    exact h.message.store b
  crcOkCnt := h.crcOkCnt
  crcErrCnt := h.crcErrCnt
  handed := h.handed

private theorem step_dollar (hstate : r.proto.state = .waitPreamble) (hpos : r.proto.pos = 0) :
    Loading r (nmeaStep hex sentence r dollar) [dollar] .waitPayload := by
  have hstep : nmeaStep hex sentence r dollar = { r.clear with
      proto.message := Buffer.store r.clear.proto.message 0 dollar
      proto.state := .waitPayload
      proto.pos := 1
      touched := 0 :: r.clear.touched } := by
    rw [nmeaStep, nmeaProcByte, hstate]
    dsimp only
    rw [nmeaProcWaitPreamble, if_pos ⟨rfl, hpos⟩]
  have hclear : Shows r.clear.proto.message [] := by
    intro x hx
    change Buffer.copy r.proto.message (fun _ => 0) nmeaMsgSize x = 0
    rw [Buffer.copy_of_lt hx]
  rw [hstep]
  exact ⟨rfl, rfl, hclear.store dollar, rfl, rfl, rfl⟩

theorem Loading.payload (h : Loading r₀ r l .waitPayload) (hlt : l.length < nmeaMsgSize) (hb : b ≠ asterisk) :
    Loading r₀ (nmeaStep hex sentence r b) (l ++ [b]) .waitPayload := by
  have hpos : r.proto.pos.toNat < nmeaMsgSize := h.pos ▸ hlt
  have hstep : nmeaStep hex sentence r b =
      NmeaReceiver.put { r with proto.state := .waitPayload } b := by
    rw [nmeaStep, nmeaProcByte, h.state]
    dsimp only
    rw [nmeaProcWaitPayload, if_neg hb]
    dsimp only
    rw [if_pos hpos]
  rw [hstep]
  have hset : Loading r₀ { r with proto.state := .waitPayload } l .waitPayload :=
    ⟨rfl, h.pos, h.message, h.crcOkCnt, h.crcErrCnt, h.handed⟩
  exact hset.put hlt b

/-- The payload is loaded. -/
theorem Loading.payloads (h : Loading r₀ r l .waitPayload) (payload : List UInt8)
    (hlen : l.length + payload.length ≤ nmeaMsgSize) (hpayload : ∀ b ∈ payload, b ≠ asterisk) :
    Loading r₀ (Runs.run (nmeaStep hex sentence) r payload) (l ++ payload) .waitPayload := by
  induction payload generalizing r l with
  | nil =>
    rw [List.append_nil]
    exact h
  | cons b payload ih =>
    obtain ⟨hb, hrest⟩ := List.forall_mem_cons.1 hpayload
    rw [List.length_cons] at hlen
    have hnext : Loading r₀ (nmeaStep hex sentence r b) (l ++ [b]) .waitPayload := h.payload hex sentence (by omega) hb
    have hall := ih hnext (by rw [List.length_append, List.length_singleton]; omega) hrest
    rw [List.append_assoc] at hall
    exact hall

theorem Loading.asterisk (h : Loading r₀ r l .waitPayload) (hlt : l.length < nmeaMsgSize) :
    Loading r₀ (nmeaStep hex sentence r Nmea.asterisk) (l ++ [Nmea.asterisk]) .waitCrc ∧
      (nmeaStep hex sentence r Nmea.asterisk).proto.crcNibble = 0 := by
  have hpos : r.proto.pos.toNat < nmeaMsgSize := h.pos ▸ hlt
  have hstep : nmeaStep hex sentence r Nmea.asterisk =
      NmeaReceiver.put { r with proto.state := .waitCrc, proto.crcNibble := 0, proto.crcRead := 0 } Nmea.asterisk := by
    rw [nmeaStep, nmeaProcByte, h.state]
    dsimp only
    rw [nmeaProcWaitPayload, if_pos rfl]
    dsimp only
    rw [if_pos hpos]
  rw [hstep]
  have hset : Loading r₀ { r with proto.state := .waitCrc, proto.crcNibble := 0, proto.crcRead := 0 } l .waitCrc :=
    ⟨rfl, h.pos, h.message, h.crcOkCnt, h.crcErrCnt, h.handed⟩
  exact ⟨hset.put hlt _, rfl⟩

private theorem Loading.firstDigit (h : Loading r₀ r l .waitCrc) (hnibble : r.proto.crcNibble = 0)
    (hlt : l.length < nmeaMsgSize) {v : UInt8} (hb : hexValue b = some v) :
    Loading r₀ (nmeaStep hex sentence r b) (l ++ [b]) .waitCrc ∧ (nmeaStep hex sentence r b).proto.crcNibble = 1 := by
  have hpos : r.proto.pos.toNat < nmeaMsgSize := h.pos ▸ hlt
  have hstep : nmeaStep hex sentence r b = { r.put b with proto.crcRead := v <<< 4, proto.crcNibble := 1 } := by
    rw [nmeaStep, nmeaProcByte, h.state]
    dsimp only
    rw [nmeaProcWaitCrc, if_pos (hex.isHexDigit_of_value b v hb), if_pos hpos]
    dsimp only
    rw [if_pos (show (r.put b).proto.crcNibble = 0 from hnibble), hex.nibble_of_value b v hb]
  rw [hstep]
  have hput := h.put hlt b
  exact ⟨⟨hput.state, hput.pos, hput.message, hput.crcOkCnt, hput.crcErrCnt, hput.handed⟩, rfl⟩

/-! ### The sentence is parsed -/

/-- A sentence with the given payload and checksum characters. -/
def sentenceOf (payload : List UInt8) (a b : UInt8) : List UInt8 := dollar :: (payload ++ [asterisk, a, b])

variable {payload : List UInt8} {a va vb : UInt8}

theorem sentenceOf_length : (sentenceOf payload a b).length = payload.length + 4 := by
  simp [sentenceOf]

/-- Characters of a payload. -/
def IsPayload (payload : List UInt8) : Prop := ∀ b ∈ payload, b ≠ asterisk ∧ b ≠ 0

private theorem readCrc_sentence (hpayload : IsPayload payload) (hlen : payload.length + 4 ≤ nmeaMsgSize)
    (ha : hexValue a = some va) (hb : hexValue b = some vb) {f : Mem} (hf : Shows f (sentenceOf payload a b)) :
    nmeaReadCrc hex f = (some (va <<< 4 ||| vb), 0) := by
  have hsize : (sentenceOf payload a b).length ≤ nmeaMsgSize := sentenceOf_length.trans_le hlen
  have hfront : ∀ c ∈ dollar :: payload, c ≠ asterisk ∧ c ≠ 0 :=
    List.forall_mem_cons.2 ⟨by decide, hpayload⟩
  have hstr : strchr (bytesAt f 0 nmeaMsgSize) asterisk = some (payload.length + 1) := by
    have hsplit : sentenceOf payload a b ++ List.replicate (nmeaMsgSize - (sentenceOf payload a b).length) 0 =
        (dollar :: payload) ++ asterisk :: (a :: b :: List.replicate (nmeaMsgSize -
          (sentenceOf payload a b).length) 0) := by simp [sentenceOf]
    rw [hf.whole hsize, hsplit, strchr_append hfront, List.length_cons]
  have hdigits : bytesAt f (payload.length + 1 + 1) 2 = [a, b] := by
    have hsplit : sentenceOf payload a b = (dollar :: (payload ++ [asterisk])) ++ [a, b] := by simp [sentenceOf]
    rw [hf.bytesAt _ (by rw [sentenceOf_length]) hsize, hsplit, List.drop_left' (by simp)]
    rfl
  rw [nmeaReadCrc, hstr]
  dsimp only
  rw [if_pos (by omega), hdigits, hex.hex_of_values a b va vb ha hb]

private theorem checksum_sentence (hlen : payload.length + 4 ≤ nmeaMsgSize) {f : Mem}
    (hf : Shows f (sentenceOf payload a b)) : bytesAt f 1 payload.length = payload := by
  have hsize : (sentenceOf payload a b).length ≤ nmeaMsgSize := sentenceOf_length.trans_le hlen
  rw [hf.bytesAt _ (by rw [sentenceOf_length]; omega) hsize, sentenceOf, List.drop_succ_cons, List.drop_zero,
    List.take_left]

/-- A sentence counts as good exactly when its checksum is right, and as bad otherwise; a good one is parsed. -/
theorem nmeaParse_sentence (hpos : payload ≠ []) (hpayload : IsPayload payload)
    (hlen : payload.length + 4 ≤ nmeaMsgSize) (ha : hexValue a = some va) (hb : hexValue b = some vb) {f : Mem}
    (hf : Shows f (sentenceOf payload a b)) {len : UInt16} (hl : len.toNat = payload.length + 4) (p : NmeaProto)
    (data : D) :
    (nmeaParse hex sentence f len p data).2.1.crcOkCnt =
        (if nmeaCalcChecksum payload = va <<< 4 ||| vb then p.crcOkCnt + 1 else p.crcOkCnt) ∧
      (nmeaParse hex sentence f len p data).2.1.crcErrCnt =
        (if nmeaCalcChecksum payload = va <<< 4 ||| vb then p.crcErrCnt else p.crcErrCnt + 1) ∧
      (nmeaCalcChecksum payload = va <<< 4 ||| vb →
        (nmeaParse hex sentence f len p data).2.2 = (sentence f data).data) := by
  have hhead : f 0 = dollar := hf 0 (by decide)
  have hlong : nmeaOverhead < len.toNat := by
    have hone := List.length_pos_iff.2 hpos
    rw [hl, nmeaOverhead]
    omega
  have hdata : bytesAt f 1 (len.toNat - nmeaOverhead) = payload := by
    rw [hl, nmeaOverhead, Nat.add_sub_cancel]
    exact checksum_sentence hlen hf
  unfold nmeaParse
  dsimp only
  rw [if_pos ⟨hlong, hhead⟩, readCrc_sentence hex hpayload hlen ha hb hf]
  dsimp only
  rw [hdata]
  by_cases hcrc : nmeaCalcChecksum payload = va <<< 4 ||| vb
  · rw [if_pos hcrc, if_pos hcrc, if_pos hcrc.symm]
    refine ⟨?_, ?_, fun _ => rfl⟩
    · split <;> split <;> split <;> rfl
    · split <;> split <;> split <;> rfl
  · have hne : ¬(va <<< 4 ||| vb) = nmeaCalcChecksum payload := fun h => hcrc h.symm
    rw [if_neg hcrc, if_neg hcrc, if_neg hne]
    refine ⟨?_, ?_, fun h => absurd h hcrc⟩
    · split <;> rfl
    · split <;> rfl

/-! ### The last digit -/

private theorem parse_handed (r : NmeaReceiver D) : (NmeaReceiver.parse hex sentence r).handed =
    (bytesAt (Buffer.copy r.proto.fixMessage r.proto.message nmeaMsgSize) 0 nmeaMsgSize, r.proto.pos) :: r.handed := rfl

/-- The sentence counters after the parse of a message that shows a sentence. -/
private theorem parse_counters (hpos : payload ≠ []) (hpayload : IsPayload payload)
    (hlen : payload.length + 4 ≤ nmeaMsgSize)
    (ha : hexValue a = some va) (hb : hexValue b = some vb) (hr : Shows r.proto.message (sentenceOf payload a b))
    (hl : r.proto.pos.toNat = payload.length + 4) :
    (NmeaReceiver.parse hex sentence r).proto.crcOkCnt = (if nmeaCalcChecksum payload = va <<< 4 ||| vb
        then r.proto.crcOkCnt + 1 else r.proto.crcOkCnt) ∧
      (NmeaReceiver.parse hex sentence r).proto.crcErrCnt = (if nmeaCalcChecksum payload = va <<< 4 ||| vb
        then r.proto.crcErrCnt else r.proto.crcErrCnt + 1) := by
  have hfix : Shows (Buffer.copy r.proto.fixMessage r.proto.message nmeaMsgSize) (sentenceOf payload a b) := hr.copy
  have hparsed := nmeaParse_sentence hex sentence hpos hpayload hlen ha hb hfix hl
    { r.proto with
      msgCnt := r.proto.msgCnt + 1
      gotMassege := true
      fixMessage := Buffer.copy r.proto.fixMessage r.proto.message nmeaMsgSize } r.data
  unfold NmeaReceiver.parse
  dsimp only
  constructor
  · rw [← hparsed.1]
    split <;> rfl
  · rw [← hparsed.2.1]
    split <;> rfl

/-- With the second digit the sentence is handed over, and the parser waits for the next one. -/
private theorem Loading.secondDigit (h : Loading r₀ r (dollar :: (payload ++ [Nmea.asterisk, a])) .waitCrc)
    (hnibble : r.proto.crcNibble = 1) (hpos : payload ≠ []) (hpayload : IsPayload payload)
    (hlen : payload.length + 4 ≤ nmeaMsgSize) (ha : hexValue a = some va) (hb : hexValue b = some vb) :
    let r' := nmeaStep hex sentence r b
    r'.handed = (sentenceOf payload a b ++ List.replicate (nmeaMsgSize - (payload.length + 4)) 0,
        UInt16.ofNat (payload.length + 4)) :: r₀.handed ∧
      r'.proto.crcOkCnt = (if nmeaCalcChecksum payload = va <<< 4 ||| vb then r₀.proto.crcOkCnt + 1
        else r₀.proto.crcOkCnt) ∧
      r'.proto.crcErrCnt = (if nmeaCalcChecksum payload = va <<< 4 ||| vb then r₀.proto.crcErrCnt
        else r₀.proto.crcErrCnt + 1) ∧
      r'.proto.state = .waitPreamble ∧ r'.proto.pos = 0 := by
  have hload : (dollar :: (payload ++ [Nmea.asterisk, a])).length = payload.length + 3 := by simp
  have hlt : (dollar :: (payload ++ [Nmea.asterisk, a])).length < nmeaMsgSize := by omega
  have hposlt : r.proto.pos.toNat < nmeaMsgSize := h.pos ▸ hlt
  have hput := h.put hlt b
  have hwhole : dollar :: (payload ++ [Nmea.asterisk, a]) ++ [b] = sentenceOf payload a b := by simp [sentenceOf]
  rw [hwhole] at hput
  -- the digit is stored, the sentence parsed, and the parser reset but for the count of digits
  have hstep : nmeaStep hex sentence r b = { nmeaResetParser (NmeaReceiver.parse hex sentence
      { r.put b with proto.crcRead := (r.put b).proto.crcRead ||| vb }) with proto.crcNibble := 2 } := by
    have hone : (r.put b).proto.crcNibble = 1 := hnibble
    have hzero : ¬(r.put b).proto.crcNibble = 0 := by
      rw [hone]
      decide
    rw [nmeaStep, nmeaProcByte, h.state]
    dsimp only
    rw [nmeaProcWaitCrc, if_pos (hex.isHexDigit_of_value b vb hb), if_pos hposlt]
    dsimp only
    rw [if_neg hzero, if_pos hone, hex.nibble_of_value b vb hb]
  have hl : (r.put b).proto.pos.toNat = payload.length + 4 := hput.pos.trans sentenceOf_length
  obtain ⟨hok, herr⟩ := parse_counters hex sentence hpos hpayload hlen ha hb hput.message hl
    (r := { r.put b with proto.crcRead := (r.put b).proto.crcRead ||| vb })
  rw [hput.crcOkCnt] at hok
  rw [hput.crcErrCnt] at herr
  have hpos16 : (r.put b).proto.pos = UInt16.ofNat (payload.length + 4) := by
    rw [← hl, UInt16.ofNat_toNat]
  -- what is handed over is the sentence, with zeros up to the size of the buffer
  have hbytes : bytesAt (Buffer.copy (r.put b).proto.fixMessage (r.put b).proto.message nmeaMsgSize) 0 nmeaMsgSize =
      sentenceOf payload a b ++ List.replicate (nmeaMsgSize - (payload.length + 4)) 0 := by
    have hcopy : Shows (Buffer.copy (r.put b).proto.fixMessage (r.put b).proto.message nmeaMsgSize)
        (sentenceOf payload a b) := hput.message.copy
    rw [hcopy.whole (sentenceOf_length.trans_le hlen), sentenceOf_length]
  dsimp only
  rw [hstep]
  refine ⟨?_, hok, herr, rfl, rfl⟩
  change (NmeaReceiver.parse hex sentence { r.put b with proto.crcRead := (r.put b).proto.crcRead ||| vb }).handed = _
  rw [parse_handed hex sentence]
  change (bytesAt (Buffer.copy (r.put b).proto.fixMessage (r.put b).proto.message nmeaMsgSize) 0 nmeaMsgSize,
    (r.put b).proto.pos) :: (r.put b).handed = _
  rw [hbytes, hpos16, hput.handed]

/-- A whole sentence, from the initial state of the parser on. -/
theorem sentence_loaded (hstate : r.proto.state = .waitPreamble) (hzero : r.proto.pos = 0) (hpos : payload ≠ [])
    (hpayload : IsPayload payload) (hlen : payload.length + 4 ≤ nmeaMsgSize) (ha : hexValue a = some va)
    (hb : hexValue b = some vb) :
    let r' := Runs.run (nmeaStep hex sentence) r (sentenceOf payload a b)
    r'.handed = (sentenceOf payload a b ++ List.replicate (nmeaMsgSize - (payload.length + 4)) 0,
        UInt16.ofNat (payload.length + 4)) :: r.handed ∧
      r'.proto.crcOkCnt = (if nmeaCalcChecksum payload = va <<< 4 ||| vb then r.proto.crcOkCnt + 1
        else r.proto.crcOkCnt) ∧
      r'.proto.crcErrCnt = (if nmeaCalcChecksum payload = va <<< 4 ||| vb then r.proto.crcErrCnt
        else r.proto.crcErrCnt + 1) ∧
      r'.proto.state = .waitPreamble ∧ r'.proto.pos = 0 := by
  -- one state of the parser after the other
  have hdollar : Loading r (nmeaStep hex sentence r dollar) [dollar] .waitPayload :=
    step_dollar hex sentence hstate hzero
  have hload := hdollar.payloads hex sentence payload (by rw [List.length_singleton]; omega)
    fun c hc => (hpayload c hc).1
  obtain ⟨hstar, hnibble⟩ := hload.asterisk hex sentence (by simp; omega)
  obtain ⟨hfirst, hnibble⟩ := hstar.firstDigit hex sentence hnibble (by simp; omega) ha
  have hloaded : [dollar] ++ payload ++ [asterisk] ++ [a] = dollar :: (payload ++ [asterisk, a]) := by simp
  have hrun : Runs.run (nmeaStep hex sentence) r (sentenceOf payload a b) = nmeaStep hex sentence
      (nmeaStep hex sentence (nmeaStep hex sentence (Runs.run (nmeaStep hex sentence)
        (nmeaStep hex sentence r dollar) payload) asterisk) a) b := by
    rw [sentenceOf, Runs.run_cons, Runs.run_append]
    rfl
  rw [hloaded] at hfirst
  dsimp only
  rw [hrun]
  exact hfirst.secondDigit hex sentence hnibble hpos hpayload hlen ha hb

/-! ### The indices of the stores -/

/-- All stores were inside `message`. -/
def Inside (r : NmeaReceiver D) : Prop := ∀ i ∈ r.touched, i < nmeaMsgSize

theorem Inside.put (h : Inside r) (hpos : r.proto.pos.toNat < nmeaMsgSize) (b : UInt8) : Inside (r.put b) :=
  List.forall_mem_cons.2 ⟨hpos, h⟩

theorem Inside.clear (h : Inside r) : Inside r.clear := by
  intro i hi
  rcases List.mem_append.1 hi with hi | hi
  · exact List.mem_range.1 hi
  · exact h i hi

theorem Inside.waitPreamble (h : Inside r) (b : UInt8) : Inside (nmeaProcWaitPreamble r b).2 := by
  unfold nmeaProcWaitPreamble
  split
  · exact List.forall_mem_cons.2 ⟨by decide, h.clear⟩
  · exact h

theorem Inside.waitPayload (h : Inside r) (b : UInt8) : Inside (nmeaProcWaitPayload r b).2 := by
  have hset : ∀ q : NmeaReceiver D, q.proto.pos = r.proto.pos → q.touched = r.touched →
      Inside (if q.proto.pos.toNat < nmeaMsgSize then (true, q.put b)
        else (false, nmeaResetParser { q with proto.overflow := q.proto.overflow + 1 })).2 := by
    intro q hpos htouched
    have hq : Inside q := by
      intro i hi
      exact h i (htouched ▸ hi)
    split
    · next hlt => exact hq.put hlt b
    · exact hq
  unfold nmeaProcWaitPayload
  dsimp only
  split
  · exact hset _ rfl rfl
  · exact hset _ rfl rfl

theorem Inside.waitCrc (h : Inside r) (b : UInt8) : Inside (nmeaProcWaitCrc hex sentence r b).2 := by
  unfold nmeaProcWaitCrc
  split
  · split
    · next hlt =>
      dsimp only
      split
      · exact h.put hlt b
      · split
        · split
          · exact h.put hlt b
          · exact h.put hlt b
        · exact h.put hlt b
    · exact h
  · exact h

theorem Inside.step (h : Inside r) (b : UInt8) : Inside (nmeaStep hex sentence r b) := by
  unfold nmeaStep nmeaProcByte
  split
  · exact h.waitPreamble b
  · exact h.waitPayload b
  · exact h.waitCrc hex sentence b
  · exact h

/-! ### Framing -/

/-- The XOR of bytes. -/
def xorOf : List UInt8 → UInt8
  | [] => 0
  | b :: bytes => b ^^^ xorOf bytes

private theorem foldl_xorOf (bytes : List UInt8) (x : UInt8) : bytes.foldl (· ^^^ ·) x = x ^^^ xorOf bytes := by
  induction bytes generalizing x with
  | nil => simp [xorOf]
  | cons b bytes ih => rw [List.foldl_cons, ih, xorOf, UInt8.xor_assoc]

/-- The checksum is the XOR of the payload. -/
theorem nmeaCalcChecksum_eq (bytes : List UInt8) : nmeaCalcChecksum bytes = xorOf bytes := by
  rw [nmeaCalcChecksum, foldl_xorOf, UInt8.zero_xor]

/-- A sentence that arrives in the initial state of the parser is handed to `nmea_parse` once and as it is, counted as
good exactly when its checksum is the XOR of the payload, and leaves the parser in its initial state; and whatever
arrives, all stores are inside `message`. -/
theorem nmea_framed (hex : HexHelpers) (sentence : Mem → D → Sentence D) :
    (∀ (r : NmeaReceiver D) (payload : List UInt8) (a b va vb : UInt8), r.proto.state = .waitPreamble →
      r.proto.pos = 0 → 1 ≤ payload.length → payload.length ≤ 295 → IsPayload payload →
      hexValue a = some va → hexValue b = some vb →
      let r' := Runs.run (nmeaStep hex sentence) r (sentenceOf payload a b)
      r'.handed = (sentenceOf payload a b ++ List.replicate (nmeaMsgSize - (payload.length + 4)) 0,
          UInt16.ofNat (payload.length + 4)) :: r.handed ∧
        r'.proto.crcOkCnt = (if xorOf payload = va <<< 4 ||| vb then r.proto.crcOkCnt + 1
          else r.proto.crcOkCnt) ∧
        r'.proto.crcErrCnt = (if xorOf payload = va <<< 4 ||| vb then r.proto.crcErrCnt
          else r.proto.crcErrCnt + 1) ∧
        r'.proto.state = .waitPreamble ∧ r'.proto.pos = 0) ∧
    ∀ (data : D) (stream : List UInt8),
      ∀ i ∈ (Runs.run (nmeaStep hex sentence) (NmeaReceiver.init data) stream).touched, i < nmeaMsgSize := by
  constructor
  · intro r payload a b va vb hstate hpos hone hlen hpayload ha hb
    have hmax : payload.length + 4 ≤ nmeaMsgSize := by
      rw [nmeaMsgSize]
      omega
    rw [← nmeaCalcChecksum_eq]
    exact sentence_loaded hex sentence hstate hpos (List.length_pos_iff.1 hone) hpayload hmax ha hb
  · intro data stream
    have hinit : Inside (NmeaReceiver.init data) := fun i hi => absurd hi List.not_mem_nil
    exact Runs.run_invariant stream hinit fun r b h => h.step hex sentence b

/-- The conversions as they are documented. -/
def standardHex : HexHelpers where
  isHexDigit c := (hexValue c).isSome
  asciiChar2HexNibble := hexValue
  tryStrl2uint8Hex text :=
    match text with
    | [a, b] => (hexValue a).bind fun va => (hexValue b).map fun vb => va <<< 4 ||| vb
    | _ => none
  isHexDigit_of_value c v h := by rw [h]; rfl
  nibble_of_value _ _ h := h
  hex_of_values a b va vb ha hb := by
    dsimp only
    rw [ha, hb]
    rfl

/-- A sentence that no parser looks at. -/
def unread (_ : Mem) (data : Unit) : Sentence Unit := ⟨false, data, false, false⟩

/-- `GPGGA` -/
def gpgga : List UInt8 := [0x47, 0x50, 0x47, 0x47, 0x41]

/-- `$GPGGA*56` is good, and `$GPGGA*47`, with the first letter for the checksum, is not. -/
theorem gpgga_framed :
    (Runs.run (nmeaStep standardHex unread) (NmeaReceiver.init ()) (sentenceOf gpgga 0x35 0x36)).proto.crcOkCnt = 1 ∧
      (Runs.run (nmeaStep standardHex unread) (NmeaReceiver.init ()) (sentenceOf gpgga 0x34 0x37)).proto.crcErrCnt = 1 :=
  have hframed := (nmea_framed standardHex unread).1 (NmeaReceiver.init ()) gpgga
  have hpayload : IsPayload gpgga := by simp [IsPayload, gpgga, asterisk]
  ⟨(hframed 0x35 0x36 5 6 rfl rfl (by decide) (by decide) hpayload rfl rfl).2.1,
    (hframed 0x34 0x37 4 7 rfl rfl (by decide) (by decide) hpayload rfl rfl).2.2.1⟩

end TiMcu.Nmea
