import TiMcu.Nmea.FieldsInside
import TiMcu.Nmea.Slots

/-!
# The positions of the fields

A parser is run with a log of its conversions (`conversions`).  `positions` says behind which comma of a sentence each
variable is, and `FromPositions` that whatever is stored was converted from there.  For GGA, RMC, GLL, GSA and ZDA this
holds of every sentence.  VTG converts the second course from one character behind its place, and GSV takes the number
of satellites in the sentence from the number of the message (`fromPositions_iff`).
-/

namespace TiMcu.Nmea

open NorFlash
open FieldWalk (Field Entry Sound behind given logged)

variable (c : Conversions)

/-! ### The conversions of a sentence -/

abbrev Log := List (Entry Slot UInt8)

/-- The conversions that a parser makes, in their order. -/
def conversionsOf {R : Type} (fields : Labelled R) (nmeaMsg : List UInt8) (data : R) : Option Log :=
  (FieldWalk.walk comma 0 (logged fields) (some nmeaMsg) ({ data := data }, [])).map (·.2.2)

def gsvRest (sats : List Nat) : Labelled Gsv := sats.flatMap (gsvSatLabelled c) ++ gsvTailLabelled c

def gsvConversions (nmeaMsg : List UInt8) (gsv : Gsv) : Option Log := do
  let (ptr, v, log) ← FieldWalk.walk comma 0 (logged (gsvHeadLabelled c)) (some nmeaMsg) ({ data := gsv }, [])
  let (_, _, log) ← FieldWalk.walk comma 0 (logged (gsvRest c (gsvSats v.data.msgNum))) ptr (v, log)
  some log

/-- The conversions of the parser that `nmea_parse` selects, or none when it leaves the characters of the sentence. -/
def conversions (nmeaMsg : List UInt8) (d : NmeaData) : Option Log :=
  match sentenceType nmeaMsg with
  | .gga => conversionsOf (ggaLabelled c) nmeaMsg { d.gga with fcnt.hCnt := d.gga.fcnt.hCnt + 1 }
  | .rmc => conversionsOf (rmcLabelled c) nmeaMsg { d.rmc with fcnt.hCnt := d.rmc.fcnt.hCnt + 1 }
  | .gll => conversionsOf (gllLabelled c nmeaMsg) nmeaMsg { d.gll with fcnt.hCnt := d.gll.fcnt.hCnt + 1 }
  | .gsv => gsvConversions c nmeaMsg { d.gsv with fcnt.hCnt := d.gsv.fcnt.hCnt + 1 }
  | .vtg => conversionsOf (vtgLabelled c) nmeaMsg { d.vtg with fcnt.hCnt := d.vtg.fcnt.hCnt + 1 }
  | .gsa => conversionsOf (gsaLabelled c) nmeaMsg { d.gsa with fcnt.hCnt := d.gsa.fcnt.hCnt + 1 }
  | .zda => conversionsOf (zdaLabelled c) nmeaMsg { d.zda with fcnt.hCnt := d.zda.fcnt.hCnt + 1 }
  | .pubx => conversionsOf (pbuxLabelled c) nmeaMsg { d.pbux with fcnt.hCnt := d.pbux.fcnt.hCnt + 1 }
  | .txt | .undefined => some []

/-- The parser of a sentence with the log of its conversions. -/
def loggedSentence (nmeaMsg : Mem) (x : Option NmeaData × Option Log) : Sentence (Option NmeaData × Option Log) :=
  let s := gnssSentence c nmeaMsg x.1
  ⟨s.res, (s.data, x.1.bind (conversions c (FieldWalk.upTo 0 (bytesAt nmeaMsg 0 nmeaMsgSize)))), s.errParse, s.undef⟩

/-! ### The documented positions -/

/-- The positions in the satellite blocks, and that of the field behind them. -/
def satPositions (blocks : Nat) : List (Nat × Slot) :=
  (List.range blocks).flatMap (fun i => [(4 * i + 4, .svid i), (4 * i + 5, .elv i), (4 * i + 6, .az i),
    (4 * i + 7, .cno i)]) ++ [(4 * blocks + 4, .signalId)]

/-- The number of commas in front of each variable of a sentence with that many satellite blocks. -/
def positions (type : SentenceType) (blocks : Nat) : List (Nat × Slot) :=
  match type with
  | .gga => [(1, .time), (2, .latitude), (3, .latDir), (4, .longitude), (5, .lonDir), (6, .quality), (7, .nbSat),
    (8, .hdop), (9, .height), (10, .heightUnit), (11, .geoidSeparation), (12, .geoidUnit)]
  | .rmc => [(1, .time), (2, .dataValid), (3, .latitude), (4, .latDir), (5, .longitude), (6, .lonDir),
    (7, .speedKnots), (8, .trueCourse), (9, .date), (10, .mv), (11, .mvEw), (12, .posMode), (13, .navStatus)]
  | .gll => [(1, .latitude), (2, .latDir), (3, .longitude), (4, .lonDir), (5, .time), (6, .status), (7, .posMode)]
  | .gsv => [(1, .numMsg), (2, .msgNum), (3, .numSv)] ++ satPositions blocks
  | .vtg => [(1, .cogt), (2, .cogtUnit), (3, .cogm), (4, .cogmUnit), (5, .sogn), (6, .sognUnit), (7, .sogk),
    (8, .sogkUnit), (9, .posMode)]
  | .gsa => [(1, .opMode), (2, .navMode), (15, .pdop), (16, .hdop), (17, .vdop), (18, .systemId)]
  | .zda => [(1, .time), (2, .mday), (3, .mon), (4, .year), (5, .ltzh), (6, .ltzn)]
  | .pubx => [(1, .msgId), (2, .time)]
  | .txt | .undefined => []

/-- The full number of fields of the sentences with known fields. -/
def fieldCount (type : SentenceType) (blocks : Nat) : Option Nat :=
  match type with
  | .gga => some 14
  | .rmc => some 13
  | .gll => some 7
  | .gsv => some (4 * blocks + 4)
  | .vtg => some 9
  | .gsa => some 18
  | .zda => some 6
  | .txt | .pubx | .undefined => none

/-- The text that starts right behind the `k`-th comma. -/
def behindComma (k : Nat) (nmeaMsg : List UInt8) : List UInt8 := (behind comma)^[k] nmeaMsg

/-- Whatever is stored was converted from its position, and in a GSV sentence every satellite block and the field
behind the blocks were. -/
structure FromPositions (nmeaMsg : List UInt8) (blocks : Nat) (log : Log) : Prop where
  stored : ∀ e ∈ log, e.stored →
    ∃ k, (k, e.label) ∈ positions (sentenceType nmeaMsg) blocks ∧ e.text = behindComma k nmeaMsg
  satellites : sentenceType nmeaMsg = .gsv →
    ∀ q ∈ satPositions blocks, ∃ e ∈ log, e.label = q.2 ∧ e.text = behindComma q.1 nmeaMsg

/-- When the fields of a sentence are converted from their positions. -/
def ReadInPlace (nmeaMsg : List UInt8) (blocks : Nat) (d : NmeaData) : Prop :=
  match sentenceType nmeaMsg with
  -- what is one character behind the place of the course cannot be converted
  | .vtg => c.tryStrl2double ((behindComma 3 nmeaMsg).drop 1) 5 d.vtg.cogm = (false, d.vtg.cogm)
  | .gsv => satsSearched c nmeaMsg d.gsv = blocks
  | _ => True

/-! ### The log and the parser -/

/-- Without the log it is `nmea_parse`. -/
theorem nmeaParse_logged (hex : HexHelpers) (f : Mem) (len : UInt16) (p : NmeaProto)
    (x : Option NmeaData × Option Log) :
    let w := nmeaParse hex (loggedSentence c) f len p x
    (w.1, w.2.1, w.2.2.1) = nmeaParse hex (gnssSentence c) f len p x.1 := by
  unfold nmeaParse
  dsimp only
  split
  · split
    · rfl
    · split
      · rfl
      · rfl
  · rfl

section Logs

variable {R : Type} {fields : Labelled R} {text : List UInt8}

private theorem conversionsOf_isSome {parser : List (Field UInt8 (Fill R))} (h : fields.map (·.2) = parser) (data : R) :
    (conversionsOf fields text data).isSome = (FieldWalk.walk comma 0 parser (some text) { data := data }).isSome := by
  have hwalk := congrArg Option.isSome
    (@FieldWalk.walk_logged UInt8 (Fill R) Slot _ comma 0 fields (some text) { data := data } [])
  rw [Option.isSome_map] at hwalk
  rw [conversionsOf, Option.isSome_map, hwalk, h]

end Logs

private theorem gsvRest_map (sats : List Nat) : (gsvRest c sats).map (·.2) = sats.flatMap (gsvSat c) ++ gsvTail c := by
  rw [gsvRest, List.map_append, List.map_flatMap]
  rfl

/-- A GSV sentence is walked over up to the number of satellites, and from there on. -/
private theorem gsvConversions_eq {text : List UInt8} {closed : Bool} (hs : Sound comma 0 closed 2 text) (gsv : Gsv) :
    gsvConversions c text gsv =
      conversionsOf (gsvHeadLabelled c ++ gsvRest c (gsvSats (gsvMsgNum c text gsv.msgNum))) text gsv := by
  have hhead := @FieldWalk.walk_logged UInt8 (Fill Gsv) Slot _ comma 0 (gsvHeadLabelled c) (some text)
    { data := gsv } []
  rw [gsvConversions, conversionsOf, FieldWalk.logged_append, FieldWalk.walk_append]
  cases hwalk : FieldWalk.walk comma 0 (logged (gsvHeadLabelled c)) (some text) ({ data := gsv }, []) with
  | none => rfl
  | some w =>
    obtain ⟨ptr, v, log⟩ := w
    rw [hwalk] at hhead
    have hmsgNum : v.data.msgNum = gsvMsgNum c text gsv.msgNum := gsvHead_msgNum c hs hhead.symm
    rw [← hmsgNum]
    change (FieldWalk.walk comma 0 (logged (gsvRest c (gsvSats v.data.msgNum))) ptr (v, log)).bind _ =
      (FieldWalk.walk comma 0 (logged (gsvRest c (gsvSats v.data.msgNum))) ptr (v, log)).map _
    cases FieldWalk.walk comma 0 (logged (gsvRest c (gsvSats v.data.msgNum))) ptr (v, log) with
    | none => rfl
    | some w => rfl

/-- The conversions are logged whenever the parser has a result. -/
theorem conversions_isSome {f : Mem} {text : List UInt8} {closed : Bool}
    (htext : FieldWalk.upTo 0 (bytesAt f 0 nmeaMsgSize) = text) (hs : Sound comma 0 closed 2 text) (d : NmeaData) :
    (conversions c text d).isSome = (gnssSentence c f (some d)).data.isSome := by
  unfold conversions gnssSentence
  rw [htext]
  dsimp only
  cases sentenceType text with
  | gga =>
    dsimp only
    rw [parsed_data_isSome, gnssParseGga, anyField, Option.isSome_map]
    exact conversionsOf_isSome rfl _
  | rmc =>
    dsimp only
    rw [parsed_data_isSome, gnssParseRmc, anyField, Option.isSome_map]
    exact conversionsOf_isSome rfl _
  | gll =>
    dsimp only
    rw [parsed_data_isSome, gnssParseGll, anyField, Option.isSome_map]
    exact conversionsOf_isSome rfl _
  | gsv =>
    dsimp only
    rw [parsed_data_isSome, gsvConversions_eq c hs, gnssParseGsv_eq c hs, anyField, Option.isSome_map]
    exact conversionsOf_isSome (by rw [List.map_append, gsvRest_map]; rfl) _
  | vtg =>
    dsimp only
    rw [parsed_data_isSome, gnssParseVtg, anyField, Option.isSome_map]
    exact conversionsOf_isSome rfl _
  | gsa =>
    dsimp only
    rw [parsed_data_isSome, gnssParseGsa, everyField, Option.isSome_map]
    exact conversionsOf_isSome rfl _
  | zda =>
    dsimp only
    rw [parsed_data_isSome, gnssParseZda, anyField, Option.isSome_map]
    exact conversionsOf_isSome rfl _
  | pubx =>
    dsimp only
    rw [parsed_data_isSome, gnssParsePbuxPos, everyField, Option.isSome_map]
    exact conversionsOf_isSome rfl _
  | txt => rfl
  | undefined => rfl

/-! ### Conversions from the positions -/

section Placed

variable {R : Type} {text : List UInt8} {closed : Bool} {log : Log} {ps : List (Nat × Slot)} {blocks : Nat}

/-- The log has a conversion from each of the positions, and no other. -/
def Placed (text : List UInt8) (ps : List (Nat × Slot)) (log : Log) : Prop :=
  log.map (fun e => (e.label, e.text)) = ps.map fun q => (q.2, behindComma q.1 text)

theorem Placed.mem (h : Placed text ps log) {e : Entry Slot UInt8} (he : e ∈ log) :
    ∃ k, (k, e.label) ∈ ps ∧ e.text = behindComma k text := by
  have hmem : (e.label, e.text) ∈ ps.map fun q => (q.2, behindComma q.1 text) := h ▸ List.mem_map_of_mem he
  obtain ⟨q, hq, heq⟩ := List.mem_map.1 hmem
  obtain ⟨hlabel, htext⟩ := Prod.mk.inj heq
  exact ⟨q.1, hlabel ▸ hq, htext.symm⟩

private theorem Placed.exists (h : Placed text ps log) {q : Nat × Slot} (hq : q ∈ ps) :
    ∃ e ∈ log, e.label = q.2 ∧ e.text = behindComma q.1 text := by
  have hmem : (q.2, behindComma q.1 text) ∈ log.map fun e => (e.label, e.text) :=
    h ▸ List.mem_map_of_mem (f := fun q => (q.2, behindComma q.1 text)) hq
  obtain ⟨e, he, heq⟩ := List.mem_map.1 hmem
  obtain ⟨hlabel, htext⟩ := Prod.mk.inj heq
  exact ⟨e, he, hlabel, htext⟩

private theorem Placed.fromPositions (h : Placed text (positions (sentenceType text) blocks) log) :
    FromPositions text blocks log where
  stored e he _ := h.mem he
  satellites htype q hq := by
    refine h.exists ?_
    rw [htype]
    exact List.mem_append_right _ hq

/-- The conversions of a parser in a sentence that has the commas for it. -/
private theorem conversionsOf_eq (hs : Sound comma 0 closed 2 text) {fields : Labelled R}
    (hplace : ∀ x ∈ fields, x.2.place ≤ 2)
    (hadvance : ∀ x ∈ fields.dropLast, x.2.advance ≠ .never) (hcount : fields.length ≤ text.count comma) (data : R) :
    conversionsOf fields text data = some (FieldWalk.entries comma fields text { data := data }) :=
  FieldWalk.walk_log hs (by decide) hplace hadvance hcount _

/-- Fields that read right behind their commas, or skip what is there. -/
def InPlace (fields : Labelled R) : Prop := ∀ x ∈ fields, x.2.place = if x.1.isSome then 1 else 0

private theorem InPlace.place_le {fields : Labelled R} (h : InPlace fields) : ∀ x ∈ fields, x.2.place ≤ 2 := by
  intro x hx
  rw [h x hx]
  split
  · decide
  · decide

theorem InPlace.take {fields : Labelled R} (h : InPlace fields) (n : Nat) : InPlace (fields.take n) :=
  fun x hx => h x (List.mem_of_mem_take hx)

private theorem InPlace.placed {fields : Labelled R} (h : InPlace fields) (k : Nat) (text : List UInt8) (v : Fill R) :
    Placed text (FieldWalk.indexed k fields) (FieldWalk.entries comma fields (behindComma k text) v) := by
  rw [Placed, FieldWalk.entries_given]
  exact FieldWalk.given_eq (fun x hx hlabel => by rw [h x hx, if_pos hlabel]) k

private theorem conversionsOf_fromPositions (hs : Sound comma 0 closed 2 text) {fields : Labelled R}
    (hplace : InPlace fields) (hadvance : ∀ x ∈ fields.dropLast, x.2.advance ≠ .never)
    (hcount : fields.length ≤ text.count comma)
    (hindexed : FieldWalk.indexed 0 fields = positions (sentenceType text) blocks) (data : R) :
    ∃ log, conversionsOf fields text data = some log ∧ FromPositions text blocks log := by
  refine ⟨_, conversionsOf_eq hs hplace.place_le hadvance hcount data, Placed.fromPositions ?_⟩
  rw [← hindexed]
  exact hplace.placed 0 text _

/-- A counted number that changes nothing could not be read. -/
private theorem number_eq_self_iff {A : Type} {convert : List UInt8 → Nat → A → Bool × A} {digits : Nat} {get : R → A}
    {set : A → R → R} (hget : ∀ x r, get (set x r) = x) (hset : ∀ r, set (get r) r = r) {text : List UInt8}
    {v : Fill R} : number convert digits get set 1 text v = v ↔
      convert text digits (get v.data) = (false, get v.data) := by
  constructor
  · intro h
    have hvalue := congrArg (fun v => get v.data) h
    have hcnt := congrArg Fill.cnt h
    simp only [number, hget] at hvalue hcnt
    refine Prod.ext ?_ hvalue
    cases hres : (convert text digits (get v.data)).1 with
    | false => rfl
    | true =>
      rw [hres, if_pos rfl] at hcnt
      exact absurd hcnt (by simp)
  · intro h
    simp only [number, h, hset]
    rfl

end Placed

section Satellites

private theorem gsvSats_length_labelled (n : Nat) : ((List.range n).flatMap (gsvSatLabelled c)).length = 4 * n := by
  induction n with
  | zero => rfl
  | succ n ih =>
    rw [List.range_succ, List.flatMap_append, List.length_append, ih]
    rfl

/-- The positions of a GSV sentence with as many blocks as the parser searches for. -/
private theorem gsv_indexed (n : Nat) : FieldWalk.indexed 0 (gsvHeadLabelled c ++ gsvRest c (List.range n)) =
    positions .gsv n := by
  have hsats : FieldWalk.indexed 3 ((List.range n).flatMap (gsvSatLabelled c)) =
      (List.range n).flatMap (fun i => [(4 * i + 4, Slot.svid i), (4 * i + 5, .elv i), (4 * i + 6, .az i),
        (4 * i + 7, .cno i)]) := by
    induction n with
    | zero => rfl
    | succ n ih =>
      rw [List.range_succ, List.flatMap_append, List.flatMap_append, FieldWalk.indexed_append, ih,
        gsvSats_length_labelled, Nat.add_comm 3]
      rfl
  rw [FieldWalk.indexed_append, gsvRest, FieldWalk.indexed_append]
  change _ ++ (FieldWalk.indexed 3 _ ++ FieldWalk.indexed (3 + _) _) = _
  rw [hsats, gsvSats_length_labelled, Nat.add_comm 3]
  rfl

private theorem gsv_inPlace (sats : List Nat) : InPlace (gsvHeadLabelled c ++ gsvRest c sats) := by
  have hhead : InPlace (gsvHeadLabelled c) := by simp [InPlace, gsvHeadLabelled, gsvHead]
  have hsat : ∀ i, InPlace (gsvSatLabelled c i) := by simp [InPlace, gsvSatLabelled, gsvSat]
  have htail : InPlace (gsvTailLabelled c) := by simp [InPlace, gsvTailLabelled, gsvTail]
  intro x hx
  rcases List.mem_append.1 hx with hx | hx
  · exact hhead x hx
  · rcases List.mem_append.1 hx with hx | hx
    · obtain ⟨i, -, hx⟩ := List.mem_flatMap.1 hx
      exact hsat i x hx
    · exact htail x hx

private theorem gsv_advance (sats : List Nat) :
    ∀ x ∈ (gsvHeadLabelled c ++ gsvRest c sats).dropLast, x.2.advance ≠ .never := by
  have hhead : ∀ x ∈ gsvHeadLabelled c, x.2.advance ≠ .never := by simp [gsvHeadLabelled, gsvHead]
  have hsat : ∀ i, ∀ x ∈ gsvSatLabelled c i, x.2.advance ≠ .never := by simp [gsvSatLabelled, gsvSat]
  have htail : (gsvTailLabelled c).dropLast = [] := rfl
  have hne : gsvTailLabelled c ≠ [] := List.cons_ne_nil _ _
  intro x hx
  rw [gsvRest, ← List.append_assoc, List.dropLast_append_of_ne_nil hne, htail, List.append_nil] at hx
  rcases List.mem_append.1 hx with hx | hx
  · exact hhead x hx
  · obtain ⟨i, -, hx⟩ := List.mem_flatMap.1 hx
    exact hsat i x hx

/-- With more satellites than blocks the commas are used up in front of the last field. -/
private theorem gsv_take_signalId {blocks n : Nat} (h : blocks < n) :
    ¬∃ x ∈ (gsvHeadLabelled c ++ gsvRest c (List.range n)).take (4 * blocks + 4), x.1 = some .signalId := by
  rintro ⟨x, hx, hlabel⟩
  have hlength : (gsvHeadLabelled c ++ (List.range n).flatMap (gsvSatLabelled c)).length = 4 * n + 3 := by
    rw [List.length_append, gsvSats_length_labelled, Nat.add_comm]
    rfl
  rw [gsvRest, ← List.append_assoc, List.take_append_of_le_length (by omega)] at hx
  rcases List.mem_append.1 (List.mem_of_mem_take hx) with hx | hx
  · simp only [gsvHeadLabelled, gsvHead, List.map_cons, List.map_nil, List.zip_cons_cons, List.zip_nil_left,
      List.mem_cons, List.not_mem_nil, or_false] at hx
    rcases hx with rfl | rfl | rfl <;> simp at hlabel
  · obtain ⟨i, -, hx⟩ := List.mem_flatMap.1 hx
    simp only [gsvSatLabelled, gsvSat, List.map_cons, List.map_nil, List.zip_cons_cons, List.zip_nil_left,
      List.mem_cons, List.not_mem_nil, or_false] at hx
    rcases hx with rfl | rfl | rfl | rfl <;> simp at hlabel

end Satellites

section Course

variable {text : List UInt8} {v : Fill Vtg}

/-- The entry of the second course of a VTG sentence. -/
def courseEntry (text : List UInt8) (v : Fill Vtg) : Entry Slot UInt8 :=
  let text := (behindComma 3 text).drop 1
  ⟨.cogm, text, number c.tryStrl2double 5 (·.cogm) (fun x vtg => { vtg with cogm := x }) 1 text v ≠ v⟩

private theorem courseEntry_stored_iff : (courseEntry c text v).stored ↔
    c.tryStrl2double ((behindComma 3 text).drop 1) 5 v.data.cogm ≠ (false, v.data.cogm) :=
  not_congr (number_eq_self_iff (fun _ _ => rfl) fun _ => rfl)

/-- The other entries of a VTG sentence are from their positions. -/
private theorem vtg_entries (text : List UInt8) (blocks : Nat) (vtg : Vtg) : ∃ (v : Fill Vtg) (others : Log),
    v.data.cogm = vtg.cogm ∧
      (∀ e, e ∈ FieldWalk.entries comma (vtgLabelled c) text { data := vtg } ↔
        e = courseEntry c text v ∨ e ∈ others) ∧
      ∀ e ∈ others, ∃ k, (k, e.label) ∈ positions .vtg blocks ∧ e.text = behindComma k text := by
  -- the variables in front of the course and behind it
  let v : Fill Vtg := letterUnlessComma (fun b vtg => { vtg with cogtUnit := b }) 1 (behindComma 2 text)
    (number c.tryStrl2double 5 (·.cogt) (fun x vtg => { vtg with cogt := x }) 1 (behindComma 1 text) { data := vtg })
  let v' : Fill Vtg := number c.tryStrl2double 5 (·.cogm) (fun x vtg => { vtg with cogm := x }) 1
    ((behindComma 3 text).drop 1) v
  let front := FieldWalk.entries comma ((vtgLabelled c).take 2) text { data := vtg }
  let back := FieldWalk.entries comma ((vtgLabelled c).drop 3) (behindComma 3 text) v'
  have hsplit : FieldWalk.entries comma (vtgLabelled c) text { data := vtg } = front ++ courseEntry c text v :: back :=
    rfl
  have hfront : Placed text ((positions .vtg blocks).take 2) front := by
    have hplace : InPlace ((vtgLabelled c).take 2) := by simp [InPlace, vtgLabelled, vtgFields]
    exact hplace.placed 0 text _
  have hback : Placed text ((positions .vtg blocks).drop 3) back := by
    have hplace : InPlace ((vtgLabelled c).drop 3) := by simp [InPlace, vtgLabelled, vtgFields]
    exact hplace.placed 3 text _
  have hkeeps : Keeps Vtg.cogm (letterUnlessComma (fun b vtg => { vtg with cogtUnit := b }) 1) :=
    keeps_letterUnlessComma fun _ _ => rfl
  refine ⟨v, front ++ back, hkeeps _ _, fun e => ?_, fun e he => ?_⟩
  · rw [hsplit, List.mem_append, List.mem_cons, List.mem_append, or_left_comm]
  · rcases List.mem_append.1 he with he | he
    · obtain ⟨k, hk, htext⟩ := hfront.mem he
      exact ⟨k, List.mem_of_mem_take hk, htext⟩
    · obtain ⟨k, hk, htext⟩ := hback.mem he
      exact ⟨k, List.mem_of_mem_drop hk, htext⟩

end Course

section Types

variable {text : List UInt8} {closed : Bool} {blocks : Nat} (hs : Sound comma 0 closed 2 text)
include hs

private theorem gga_fromPositions (htype : sentenceType text = .gga) (hcount : text.count comma = 14) (gga : Gga) :
    ∃ log, conversionsOf (ggaLabelled c) text gga = some log ∧ FromPositions text blocks log := by
  refine conversionsOf_fromPositions hs ?_ ?_ ?_ ?_ gga
  · simp [InPlace, ggaLabelled, ggaFields]
  · simp [ggaLabelled, ggaFields]
  · rw [hcount]
    simp [ggaLabelled, ggaFields]
  · rw [htype]
    rfl

private theorem rmc_fromPositions (htype : sentenceType text = .rmc) (hcount : text.count comma = 13) (rmc : Rmc) :
    ∃ log, conversionsOf (rmcLabelled c) text rmc = some log ∧ FromPositions text blocks log := by
  refine conversionsOf_fromPositions hs ?_ ?_ ?_ ?_ rmc
  · simp [InPlace, rmcLabelled, rmcFields]
  · simp [rmcLabelled, rmcFields]
  · rw [hcount]
    simp [rmcLabelled, rmcFields]
  · rw [htype]
    rfl

private theorem gll_fromPositions (htype : sentenceType text = .gll) (hcount : text.count comma = 7) (gll : Gll) :
    ∃ log, conversionsOf (gllLabelled c text) text gll = some log ∧ FromPositions text blocks log := by
  refine conversionsOf_fromPositions hs ?_ ?_ ?_ ?_ gll
  · simp [InPlace, gllLabelled, gllFields]
  · simp [gllLabelled, gllFields]
  · rw [hcount]
    simp [gllLabelled, gllFields]
  · rw [htype]
    rfl

private theorem gsa_fromPositions (htype : sentenceType text = .gsa) (hcount : text.count comma = 18) (gsa : Gsa) :
    ∃ log, conversionsOf (gsaLabelled c) text gsa = some log ∧ FromPositions text blocks log := by
  refine conversionsOf_fromPositions hs ?_ ?_ ?_ ?_ gsa
  · simp [InPlace, gsaLabelled, gsaFields, skipped]
  · simp [gsaLabelled, gsaFields, skipped]
  · rw [hcount]
    simp [gsaLabelled, gsaFields]
  · rw [htype]
    rfl

private theorem zda_fromPositions (htype : sentenceType text = .zda) (hcount : text.count comma = 6) (zda : Zda) :
    ∃ log, conversionsOf (zdaLabelled c) text zda = some log ∧ FromPositions text blocks log := by
  refine conversionsOf_fromPositions hs ?_ ?_ ?_ ?_ zda
  · simp [InPlace, zdaLabelled, zdaFields]
  · simp [zdaLabelled, zdaFields]
  · rw [hcount]
    simp [zdaLabelled, zdaFields]
  · rw [htype]
    rfl

/-- The second course is converted from one character behind its place. -/
private theorem vtg_fromPositions_iff (htype : sentenceType text = .vtg) (hcount : text.count comma = 9) (vtg : Vtg) :
    (∃ log, conversionsOf (vtgLabelled c) text vtg = some log ∧ FromPositions text blocks log) ↔
      c.tryStrl2double ((behindComma 3 text).drop 1) 5 vtg.cogm = (false, vtg.cogm) := by
  have hlog : conversionsOf (vtgLabelled c) text vtg =
      some (FieldWalk.entries comma (vtgLabelled c) text { data := vtg }) := by
    refine conversionsOf_eq hs ?_ ?_ ?_ vtg
    · simp [vtgLabelled, vtgFields]
    · simp [vtgLabelled, vtgFields]
    · rw [hcount]
      simp [vtgLabelled, vtgFields]
  obtain ⟨v, others, hcogm, hmem, hothers⟩ := vtg_entries c text blocks vtg
  rw [hlog, ← hcogm]
  constructor
  · rintro ⟨log, heq, hfrom⟩
    by_contra hconv
    have hcourse : courseEntry c text v ∈ log := Option.some.inj heq ▸ (hmem _).2 (.inl rfl)
    obtain ⟨k, hk, htext⟩ := hfrom.stored _ hcourse ((courseEntry_stored_iff c).2 hconv)
    have hthird : k = 3 := by simpa [htype, positions, courseEntry] using hk
    -- six commas are left, so that the text and the text behind its first character differ
    have hcommas : (behindComma 3 text).count comma = 6 := by
      rw [behindComma, FieldWalk.count_iterate_behind, hcount]
    have hlength := congrArg List.length htext
    rw [hthird, courseEntry, List.length_drop] at hlength
    have hpos := List.count_le_length (a := comma) (l := behindComma 3 text)
    omega
  · intro hconv
    refine ⟨_, rfl, fun e he hst => ?_, fun hgsv => absurd (htype.symm.trans hgsv) (by decide)⟩
    rw [htype]
    rcases (hmem e).1 he with rfl | he
    · exact absurd hconv ((courseEntry_stored_iff c).1 hst)
    · exact hothers e he

/-- The satellites are taken from their blocks when the parser searches for as many as there are. -/
private theorem gsv_fromPositions_iff (htype : sentenceType text = .gsv) (hcount : text.count comma = 4 * blocks + 4)
    (gsv : Gsv) : (∃ log, gsvConversions c text gsv = some log ∧ FromPositions text blocks log) ↔
      satsSearched c text gsv = blocks := by
  rw [gsvConversions_eq c hs, gsvSats_eq, ← satsSearched]
  generalize satsSearched c text gsv = n
  have hplace := gsv_inPlace c (List.range n)
  have hadvance := gsv_advance c (List.range n)
  have hlength : (gsvHeadLabelled c ++ gsvRest c (List.range n)).length = 4 * n + 4 := by
    rw [gsvRest, List.length_append, List.length_append, gsvSats_length_labelled]
    change 3 + (4 * n + 1) = 4 * n + 4
    omega
  constructor
  · rintro ⟨log, hlog, hfrom⟩
    -- the last field has to be among the conversions
    have hlast : (4 * blocks + 4, Slot.signalId) ∈ satPositions blocks :=
      List.mem_append_right _ List.mem_cons_self
    obtain ⟨e, he, hlabel, htext⟩ := hfrom.satellites htype _ hlast
    obtain ⟨⟨ptr, v, log'⟩, hwalk, heq⟩ := Option.map_eq_some_iff.1 hlog
    have hentries : log' = [] ++ _ := FieldWalk.log_eq hs (by decide) hplace.place_le hadvance hwalk
    rw [List.nil_append, hcount, show log' = log from heq] at hentries
    obtain ⟨k, hk, hplaced⟩ := ((hplace.take (4 * blocks + 4)).placed 0 text _).mem (hentries ▸ he)
    rw [hlabel] at hk
    rcases Nat.lt_or_ge blocks n with hmore | hless
    · exact absurd (FieldWalk.label_of_indexed hk) (gsv_take_signalId c hmore)
    · rw [List.take_of_length_le (by omega), gsv_indexed] at hk
      have hkn : k = 4 * n + 4 := by simpa [positions, satPositions] using hk
      have hsame := FieldWalk.iterate_behind_inj (by omega) (by omega) (hplaced.symm.trans htext)
      omega
  · rintro rfl
    refine conversionsOf_fromPositions hs hplace hadvance ?_ ?_ gsv
    · rw [hlength, hcount]
    · rw [gsv_indexed, htype]

end Types

/-! ### Good sentences -/

/-- When the variables of a sentence with all its fields are converted from their positions. -/
private theorem conversions_fromPositions_iff {text : List UInt8} {closed : Bool} (hs : Sound comma 0 closed 2 text)
    {blocks : Nat} (hfull : fieldCount (sentenceType text) blocks = some (text.count comma)) (d : NmeaData) :
    (∃ log, conversions c text d = some log ∧ FromPositions text blocks log) ↔ ReadInPlace c text blocks d := by
  unfold conversions ReadInPlace
  have hcount : ∀ {type : SentenceType} {n : Nat}, sentenceType text = type → fieldCount type blocks = some n →
      text.count comma = n := by
    intro type n htype hn
    rw [htype, hn] at hfull
    exact (Option.some.inj hfull).symm
  cases htype : sentenceType text with
  | gga => exact iff_of_true (gga_fromPositions c hs htype (hcount htype rfl) _) trivial
  | rmc => exact iff_of_true (rmc_fromPositions c hs htype (hcount htype rfl) _) trivial
  | gll => exact iff_of_true (gll_fromPositions c hs htype (hcount htype rfl) _) trivial
  | gsv => exact gsv_fromPositions_iff c hs htype (hcount htype rfl) _
  | vtg => exact vtg_fromPositions_iff c hs htype (hcount htype rfl) _
  | gsa => exact iff_of_true (gsa_fromPositions c hs htype (hcount htype rfl) _) trivial
  | zda => exact iff_of_true (zda_fromPositions c hs htype (hcount htype rfl) _) trivial
  | pubx | txt | undefined =>
    rw [htype] at hfull
    exact absurd hfull (by simp [fieldCount])

section Good

variable {payload : List UInt8} {a b va vb : UInt8} (hex : HexHelpers) (hpos : payload ≠ [])
  (hpayload : IsPayload payload) (hlen : payload.length + 4 ≤ nmeaMsgSize) (ha : hexValue a = some va)
  (hb : hexValue b = some vb) (hcrc : xorOf payload = va <<< 4 ||| vb) {f : Mem}
  (hf : Shows f (sentenceOf payload a b)) {len : UInt16} (hl : len.toNat = payload.length + 4) (p : NmeaProto)
  (gpsCtx : NmeaData)
include hpos hpayload hlen ha hb hcrc hf hl

/-- The log that `nmea_parse` leaves of a good sentence. -/
private theorem nmeaParse_conversions : (nmeaParse hex (loggedSentence c) f len p (some gpsCtx, none)).2.2.2 =
    conversions c (textOf payload a b) gpsCtx := by
  obtain ⟨-, -, hparsed⟩ := nmeaParse_sentence hex (loggedSentence c) hpos hpayload hlen ha hb hf hl p
    (some gpsCtx, none)
  rw [hparsed ((nmeaCalcChecksum_eq payload).trans hcrc), loggedSentence, text_sentence hpayload hlen ha hb hf]
  rfl

/-- Whatever `nmea_parse` stores of a good sentence with all its fields was converted from its position, unless a GSV
sentence has other than the number of satellite blocks that the number of the message less one gives, or the text one
character behind the second course of a VTG sentence can be converted. -/
theorem fromPositions_iff {blocks : Nat}
    (hfull : fieldCount (sentenceType (textOf payload a b)) blocks = some (payload.count comma)) :
    (∃ log, (nmeaParse hex (loggedSentence c) f len p (some gpsCtx, none)).2.2.2 = some log ∧
        FromPositions (textOf payload a b) blocks log) ↔
      ReadInPlace c (textOf payload a b) blocks gpsCtx := by
  rw [nmeaParse_conversions c hex hpos hpayload hlen ha hb hcrc hf hl]
  exact conversions_fromPositions_iff c (textOf_sound hpayload ha hb) (by rw [hfull, count_textOf ha hb]) gpsCtx

end Good

/-- The number that the first digits of a text show. -/
def decimal (text : List UInt8) (digits : Nat) : Option Nat :=
  if (text.take digits).all fun b => 0x30 ≤ b ∧ b ≤ 0x39 then
    some ((text.take digits).foldl (fun n b => 10 * n + (b.toNat - 0x30)) 0)
  else none

/-- The conversions of decimal digits.  Nothing else is converted. -/
def decimalConversions : Conversions where
  tryStrl2uint8 text digits old := ((decimal text digits).isSome, (decimal text digits).elim old UInt8.ofNat)
  tryStrl2uint16 text digits old := ((decimal text digits).isSome, (decimal text digits).elim old UInt16.ofNat)
  tryStrl2uint32 text digits old := ((decimal text digits).isSome, (decimal text digits).elim old UInt32.ofNat)
  tryStrl2int32 text digits old := ((decimal text digits).isSome, (decimal text digits).elim old Int.ofNat)
  tryStrl2double _ _ old := (false, old)
  parseTimeFromVal _ tm := (false, tm)
  parseDateFromVal _ tm := (false, tm)
  getTimeMs32 := 0

/-- The payload of a GSV sentence with one satellite block, the last of as many messages, with the number of
satellites in all. -/
def gsvPayload (number sats : Char) : List UInt8 :=
  ['G', 'P', 'G', 'S', 'V', ',', number, ',', number, ',', '0', sats, ',', '0', '3', ',', '4', '5', ',', '1', '2', '0',
    ',', '4', '0', ',', '1'].map Char.toUInt8

/-- `$GPGSV,2,2,05,03,45,120,40,1*54` has the satellite block that the number of the message gives. -/
theorem second_message_fromPositions :
    ∃ log, (nmeaParse standardHex (loggedSentence decimalConversions)
        (Buffer.ofBytes (sentenceOf (gsvPayload '2' '5') 0x35 0x34)) 31 {} (some {}, none)).2.2.2 = some log ∧
      FromPositions (textOf (gsvPayload '2' '5') 0x35 0x34) 1 log := by
  have htype : sentenceType (textOf (gsvPayload '2' '5') 0x35 0x34) = .gsv := by decide +kernel
  have hpayload : IsPayload (gsvPayload '2' '5') := by
    unfold IsPayload
    decide +kernel
  refine (fromPositions_iff decimalConversions standardHex (by decide) hpayload (by decide) rfl rfl (by decide +kernel)
    (fun _ _ => rfl) rfl {} {} (by rw [htype]; decide +kernel)).2 ?_
  rw [ReadInPlace, htype]
  decide +kernel

/-- `$GPGSV,1,1,01,03,45,120,40,1*50` has one block, and its satellite is not searched for. -/
theorem not_gsv_fromPositions : ¬∀ (payload : List UInt8) (a b va vb : UInt8) (blocks : Nat), payload ≠ [] →
    IsPayload payload → payload.length + 4 < nmeaMsgSize → hexValue a = some va → hexValue b = some vb →
    xorOf payload = va <<< 4 ||| vb → blocks ≤ numOfParsedSat →
    fieldCount (sentenceType (textOf payload a b)) blocks = some (payload.count comma) →
    ∃ log, (nmeaParse standardHex (loggedSentence decimalConversions) (Buffer.ofBytes (sentenceOf payload a b))
        (UInt16.ofNat (payload.length + 4)) {} (some {}, none)).2.2.2 = some log ∧
      FromPositions (textOf payload a b) blocks log := by
  intro h
  have htype : sentenceType (textOf (gsvPayload '1' '1') 0x35 0x30) = .gsv := by decide +kernel
  have hpayload : IsPayload (gsvPayload '1' '1') := by
    unfold IsPayload
    decide +kernel
  have ha : hexValue 0x35 = some 5 := rfl
  have hb : hexValue 0x30 = some 0 := rfl
  have hcrc : xorOf (gsvPayload '1' '1') = (5 : UInt8) <<< 4 ||| 0 := by decide +kernel
  have hf : Shows (Buffer.ofBytes (sentenceOf (gsvPayload '1' '1') 0x35 0x30))
      (sentenceOf (gsvPayload '1' '1') 0x35 0x30) := fun _ _ => rfl
  have hfull : fieldCount (sentenceType (textOf (gsvPayload '1' '1') 0x35 0x30)) 1 =
      some ((gsvPayload '1' '1').count comma) := by
    rw [htype]
    decide +kernel
  obtain ⟨log, hlog, hfrom⟩ := h (gsvPayload '1' '1') 0x35 0x30 5 0 1 (by decide) hpayload (by decide) ha hb hcrc
    (by decide) hfull
  rw [nmeaParse_conversions decimalConversions standardHex (by decide) hpayload (by decide) ha hb hcrc hf rfl] at hlog
  have hread := (conversions_fromPositions_iff decimalConversions (textOf_sound hpayload ha hb)
    (by rw [hfull, count_textOf ha hb]) {}).1 ⟨log, hlog, hfrom⟩
  rw [ReadInPlace, htype] at hread
  exact absurd hread (by decide +kernel)

end TiMcu.Nmea
