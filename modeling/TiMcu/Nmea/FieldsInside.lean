import TiMcu.Nmea.Sentences

/-!
# The parsers of the sentences and the end of the text

A parser stays inside the sentence exactly when the sentence has the commas that the parser needs (`commasNeeded`).
-/

namespace TiMcu.Nmea

open NorFlash
open FieldWalk (Field need Sound)

variable (c : Conversions) {closed : Bool} {text : List UInt8} {R : Type}

/-! ### The commas of each type -/

/-- The number of the message that a GSV sentence carries, or the old number when it cannot be read. -/
def gsvMsgNum (nmeaMsg : List UInt8) (old : UInt8) : UInt8 :=
  (c.tryStrl2uint8 (FieldWalk.behind comma (FieldWalk.behind comma nmeaMsg)) 1 old).2

/-- The number of satellites that a GSV sentence is searched for. -/
def satsSearched (nmeaMsg : List UInt8) (gsv : Gsv) : Nat :=
  min numOfParsedSat ((gsvMsgNum c nmeaMsg gsv.msgNum).toNat - 1)

/-- The commas that the parser of a sentence needs; more of them when the sentence is not closed. -/
def commasNeeded (closed : Bool) (nmeaMsg : List UInt8) (gpsCtx : NmeaData) : Nat :=
  match sentenceType nmeaMsg with
  | .gga => 12
  | .rmc => if closed then 12 else 13
  | .gll => 7
  | .gsv =>
    let sats := satsSearched c nmeaMsg gpsCtx.gsv
    if closed then (if sats = 0 then 2 else 4 * sats - 1) else 4 * sats + 4
  | .vtg => if closed then 8 else 9
  | .gsa => if closed then 17 else 18
  | .zda => if closed then 5 else 6
  | .pubx => 2
  | .txt | .undefined => 0

private theorem need_gga : need closed (ggaFields c) = 12 := by cases closed <;> rfl

private theorem need_rmc : need closed (rmcFields c) = if closed then 12 else 13 := by cases closed <;> rfl

private theorem need_gll (nmeaMsg : List UInt8) : need closed (gllFields c nmeaMsg) = 7 := by cases closed <;> rfl

private theorem need_vtg : need closed (vtgFields c) = if closed then 8 else 9 := by cases closed <;> rfl

private theorem need_gsa : need closed (gsaFields c) = if closed then 17 else 18 := by cases closed <;> rfl

private theorem need_zda : need closed (zdaFields c) = if closed then 5 else 6 := by cases closed <;> rfl

private theorem need_pbux : need closed (pbuxFields c) = 2 := by cases closed <;> rfl

private theorem need_gsvHead : need closed (gsvHead c) = if closed then 2 else 3 := by cases closed <;> rfl

/-- Each satellite but the last needs the commas of its fields, and the last one too when the text is not closed. -/
private theorem need_gsvSats (closed : Bool) (sats : List Nat) : need closed (sats.flatMap (gsvSat c) ++ gsvTail c) =
    if closed then 4 * (sats.length - 1) else 4 * sats.length + 1 := by
  induction sats with
  | nil => cases closed <;> rfl
  | cons i sats ih =>
    have hadvance : ∀ f ∈ gsvSat c i, f.advance ≠ .never := by simp [gsvSat]
    have hfields : (gsvSat c i).length = 4 := rfl
    rw [List.flatMap_cons, List.append_assoc, List.length_cons]
    cases closed with
    | false =>
      rw [FieldWalk.need_append hadvance rfl, ih, hfields]
      simp
      omega
    | true =>
      cases sats with
      | nil => rfl
      | cons j sats =>
        -- the next satellite is searched for without a look at the pointer
        rw [FieldWalk.need_append hadvance rfl, ih, hfields]
        simp
        omega

private theorem filter_range (k n : Nat) : (List.range n).filter (· < k) = List.range (min k n) := by
  induction n with
  | zero => rw [Nat.min_zero, List.range_zero, List.filter_nil]
  | succ n ih =>
    rw [List.range_succ, List.filter_append, ih]
    by_cases hn : n < k
    · rw [Nat.min_eq_right (Nat.le_of_lt hn), Nat.min_eq_right hn, List.range_succ]
      simp [hn]
    · rw [Nat.min_eq_left (Nat.not_lt.1 hn), Nat.min_eq_left (by omega)]
      simp [hn]

theorem gsvSats_eq (msgNum : UInt8) : gsvSats msgNum = List.range (min numOfParsedSat (msgNum.toNat - 1)) :=
  filter_range numOfParsedSat _

private theorem gsvSats_length (msgNum : UInt8) : (gsvSats msgNum).length = min numOfParsedSat (msgNum.toNat - 1) := by
  rw [gsvSats_eq, List.length_range]

private theorem need_gsv (msgNum : UInt8) :
    need closed (gsvHead c ++ ((gsvSats msgNum).flatMap (gsvSat c) ++ gsvTail c)) =
      let sats := min numOfParsedSat (msgNum.toNat - 1)
      if closed then (if sats = 0 then 2 else 4 * sats - 1) else 4 * sats + 4 := by
  have hsats := need_gsvSats c closed (gsvSats msgNum)
  have hadvance : ∀ f ∈ gsvHead c, f.advance ≠ .never := by simp [gsvHead]
  have hfields : (gsvHead c).length = 3 := rfl
  rw [← gsvSats_length]
  dsimp only
  cases hlist : gsvSats msgNum with
  | nil => cases closed <;> rfl
  | cons i sats =>
    rw [hlist] at hsats
    cases closed with
    | false =>
      rw [FieldWalk.need_append hadvance rfl, hsats, hfields]
      simp
    | true =>
      rw [FieldWalk.need_append hadvance rfl, hsats, hfields]
      simp
      omega

/-! ### The walks -/

section Walks

variable (hs : Sound comma 0 closed 2 text)
include hs

private theorem anyField_isSome_iff {fields : List (Field UInt8 (Fill R))} (hplace : ∀ f ∈ fields, f.place ≤ 2)
    (v : Fill R) :
    (anyField (FieldWalk.walk comma 0 fields (some text) v)).isSome ↔ need closed fields ≤ text.count comma := by
  rw [anyField, Option.isSome_map]
  exact FieldWalk.walk_isSome_iff hs (by decide) hplace

private theorem everyField_isSome_iff {fields : List (Field UInt8 (Fill R))} (hplace : ∀ f ∈ fields, f.place ≤ 2)
    (v : Fill R) :
    (everyField (FieldWalk.walk comma 0 fields (some text) v)).isSome ↔ need closed fields ≤ text.count comma := by
  rw [everyField, Option.isSome_map]
  exact FieldWalk.walk_isSome_iff hs (by decide) hplace

/-- The number of the message is read from the second field. -/
theorem gsvHead_msgNum {gsv : Gsv} {ptr : Option (List UInt8)} {v : Fill Gsv}
    (h : FieldWalk.walk comma 0 (gsvHead c) (some text) { data := gsv } = some (ptr, v)) :
    v.data.msgNum = gsvMsgNum c text gsv.msgNum := by
  have hsep : comma ≠ 0 := by decide
  have hplace : ∀ f ∈ gsvHead c, f.place ≤ 2 := by simp [gsvHead]
  have hcount : 2 ≤ text.count comma := by
    have hsome := (FieldWalk.walk_isSome_iff hs hsep hplace (d := { data := gsv })).1 (by rw [h]; rfl)
    rw [need_gsvHead] at hsome
    split at hsome
    · exact hsome
    · exact Nat.le_of_succ_le hsome
  have hfirst : comma ∈ text := List.count_pos_iff.1 (by omega)
  obtain ⟨-, hfound, hcount₁⟩ := FieldWalk.search_mem hs hsep hfirst
  have hsecond : comma ∈ FieldWalk.behind comma text := List.count_pos_iff.1 (by omega)
  have hs₁ := hfound.tail hsep
  obtain ⟨-, hfound₁, -⟩ := FieldWalk.search_mem hs₁ hsep hsecond
  have hs₂ := hfound₁.tail hsep
  rw [gsvHead, FieldWalk.walk_found hs hsep (by simp) hfirst] at h
  rw [if_neg (by simp), FieldWalk.walk_found hs₁ hsep (by simp) hsecond, if_neg (by simp)] at h
  -- the third field leaves the number as it is
  by_cases hthird : comma ∈ FieldWalk.behind comma (FieldWalk.behind comma text)
  · rw [FieldWalk.walk_found hs₂ hsep (by simp) hthird] at h
    obtain ⟨-, rfl⟩ := Prod.mk.inj (Option.some.inj h)
    rfl
  · rw [FieldWalk.walk, FieldWalk.Field.find, FieldWalk.search_not_mem hs₂ hthird] at h
    cases closed with
    | false => exact absurd h (by simp)
    | true =>
      obtain ⟨-, rfl⟩ := Prod.mk.inj (Option.some.inj h)
      rfl

/-- A GSV sentence is walked over up to the number of satellites, and from there on. -/
theorem gnssParseGsv_eq (gsv : Gsv) : gnssParseGsv c text gsv = anyField (FieldWalk.walk comma 0
    (gsvHead c ++ ((gsvSats (gsvMsgNum c text gsv.msgNum)).flatMap (gsvSat c) ++ gsvTail c)) (some text)
    { data := gsv }) := by
  rw [gnssParseGsv, FieldWalk.walk_append]
  cases hwalk : FieldWalk.walk comma 0 (gsvHead c) (some text) { data := gsv } with
  | none => rfl
  | some w =>
    obtain ⟨ptr, v⟩ := w
    rw [← gsvHead_msgNum c hs hwalk]
    rfl

private theorem gnssParseGsv_isSome_iff (gsv : Gsv) : (gnssParseGsv c text gsv).isSome ↔
    (let sats := satsSearched c text gsv
      if closed then (if sats = 0 then 2 else 4 * sats - 1) else 4 * sats + 4) ≤ text.count comma := by
  have hplace : ∀ f ∈ gsvHead c ++ ((gsvSats (gsvMsgNum c text gsv.msgNum)).flatMap (gsvSat c) ++ gsvTail c),
      f.place ≤ 2 := by
    intro f hf
    simp only [gsvHead, gsvSat, gsvTail, List.mem_append, List.mem_flatMap, List.mem_cons, List.not_mem_nil,
      or_false] at hf
    rcases hf with (rfl | rfl | rfl) | ⟨i, -, rfl | rfl | rfl | rfl⟩ | rfl <;> simp
  rw [gnssParseGsv_eq c hs, anyField_isSome_iff hs hplace, need_gsv]
  rfl

end Walks

/-! ### The selected parser -/

theorem parsed_data_isSome (result : Option (Bool × R)) (put : R → NmeaData) (good : NmeaData → NmeaData) :
    (parsed result put good).data.isSome = result.isSome := by
  rcases result with - | ⟨res, r⟩
  · rfl
  · cases res <;> rfl

/-- The selected parser stays inside the text exactly when it has the commas that the parser needs. -/
private theorem gnssSentence_isSome_iff {f : Mem} (htext : FieldWalk.upTo 0 (bytesAt f 0 nmeaMsgSize) = text)
    (hs : Sound comma 0 closed 2 text) (d : NmeaData) :
    (gnssSentence c f (some d)).data.isSome ↔ commasNeeded c closed text d ≤ text.count comma := by
  unfold gnssSentence commasNeeded
  rw [htext]
  dsimp only
  cases sentenceType text with
  | gga =>
    dsimp only
    rw [parsed_data_isSome, gnssParseGga, anyField_isSome_iff hs (by simp [ggaFields]), need_gga]
  | rmc =>
    dsimp only
    rw [parsed_data_isSome, gnssParseRmc, anyField_isSome_iff hs (by simp [rmcFields]), need_rmc]
  | gll =>
    dsimp only
    rw [parsed_data_isSome, gnssParseGll, anyField_isSome_iff hs (by simp [gllFields]), need_gll]
  | gsv =>
    dsimp only
    rw [parsed_data_isSome, gnssParseGsv_isSome_iff c hs]
    rfl
  | vtg =>
    dsimp only
    rw [parsed_data_isSome, gnssParseVtg, anyField_isSome_iff hs (by simp [vtgFields]), need_vtg]
  | gsa =>
    dsimp only
    rw [parsed_data_isSome, gnssParseGsa, everyField_isSome_iff hs (by simp [gsaFields, skipped]), need_gsa]
  | zda =>
    dsimp only
    rw [parsed_data_isSome, gnssParseZda, anyField_isSome_iff hs (by simp [zdaFields]), need_zda]
  | pubx =>
    dsimp only
    rw [parsed_data_isSome, gnssParsePbuxPos, everyField_isSome_iff hs (by simp [pbuxFields]), need_pbux]
  | txt => exact iff_of_true rfl (Nat.zero_le _)
  | undefined => exact iff_of_true rfl (Nat.zero_le _)

/-! ### Good sentences -/

variable {payload : List UInt8} {a b va vb : UInt8}

/-- The characters of a sentence that a parser may read: those in the message, with a null character if there is one. -/
def textOf (payload : List UInt8) (a b : UInt8) : List UInt8 :=
  sentenceOf payload a b ++ if payload.length + 4 < nmeaMsgSize then [0] else []

private theorem hexValue_range (h : hexValue a = some va) : a ≠ comma ∧ a ≠ 0 := by
  have hcomma : hexValue comma = none := by decide
  have hzero : hexValue 0 = none := by decide
  constructor
  · rintro rfl
    cases hcomma.symm.trans h
  · rintro rfl
    cases hzero.symm.trans h

private theorem zero_not_mem_sentence (hpayload : IsPayload payload) (ha : hexValue a = some va)
    (hb : hexValue b = some vb) :
    0 ∉ sentenceOf payload a b := by
  intro hzero
  simp only [sentenceOf, List.mem_cons, List.mem_append, List.not_mem_nil, or_false] at hzero
  rcases hzero with hzero | hzero | hzero | hzero | hzero
  · exact absurd hzero (by decide)
  · exact (hpayload 0 hzero).2 rfl
  · exact absurd hzero (by decide)
  · exact (hexValue_range ha).2 hzero.symm
  · exact (hexValue_range hb).2 hzero.symm

theorem textOf_sound (hpayload : IsPayload payload) (ha : hexValue a = some va) (hb : hexValue b = some vb) :
    Sound comma 0 (decide (payload.length + 4 < nmeaMsgSize)) 2 (textOf payload a b) where
  ends := by
    refine ⟨sentenceOf payload a b, zero_not_mem_sentence hpayload ha hb, ?_⟩
    rw [textOf]
    simp only [decide_eq_true_eq]
  room := by
    intro front rest hrest
    let tail : List UInt8 := [asterisk, a, b] ++ if payload.length + 4 < nmeaMsgSize then [0] else []
    have hsplit : dollar :: payload ++ tail = front ++ comma :: rest := by
      rw [← hrest, textOf, sentenceOf]
      simp [tail]
    -- the comma is not among the asterisk, the checksum and the null character
    have htail : comma ∉ tail := by
      intro hmem
      rcases List.mem_append.1 hmem with hmem | hmem
      · simp only [List.mem_cons, List.not_mem_nil, or_false] at hmem
        rcases hmem with hmem | hmem | hmem
        · exact absurd hmem (by decide)
        · exact (hexValue_range ha).1 hmem.symm
        · exact (hexValue_range hb).1 hmem.symm
      · split at hmem
        · exact absurd hmem (by decide)
        · exact absurd hmem List.not_mem_nil
    rcases List.append_eq_append_iff.1 hsplit with ⟨x, -, hx⟩ | ⟨x, -, hx⟩
    · exact absurd (hx ▸ List.mem_append_right x List.mem_cons_self) htail
    · have hlen := congrArg List.length hx
      simp only [tail, List.length_cons, List.length_append, List.length_nil] at hlen
      omega

theorem count_textOf (ha : hexValue a = some va) (hb : hexValue b = some vb) :
    (textOf payload a b).count comma = payload.count comma := by
  have hdollar : dollar ≠ comma := by decide
  have hasterisk : asterisk ≠ comma := by decide
  have hzero : (0 : UInt8) ≠ comma := by decide
  simp only [textOf, sentenceOf, List.count_append, List.count_cons_of_ne, hdollar, hasterisk, ne_eq,
    not_false_eq_true, (hexValue_range ha).1, (hexValue_range hb).1, List.count_nil, Nat.add_zero]
  split
  · rw [List.count_cons_of_ne hzero, List.count_nil, Nat.add_zero]
  · rw [List.count_nil, Nat.add_zero]

theorem text_sentence (hpayload : IsPayload payload) (hlen : payload.length + 4 ≤ nmeaMsgSize)
    (ha : hexValue a = some va) (hb : hexValue b = some vb) {f : Mem} (hf : Shows f (sentenceOf payload a b)) :
    FieldWalk.upTo 0 (bytesAt f 0 nmeaMsgSize) = textOf payload a b := by
  rw [hf.whole (sentenceOf_length.trans_le hlen), FieldWalk.upTo_append (zero_not_mem_sentence hpayload ha hb),
    sentenceOf_length, textOf]
  congr 1
  by_cases hfull : payload.length + 4 < nmeaMsgSize
  · rw [if_neg (by omega), if_pos hfull]
  · rw [if_pos (by omega), if_neg hfull]

/-- The parse of a good sentence stays inside it exactly when the sentence has the commas that its type needs. -/
theorem good_sentence_inside_iff (hex : HexHelpers) (hpos : payload ≠ []) (hpayload : IsPayload payload)
    (hlen : payload.length + 4 ≤ nmeaMsgSize) (ha : hexValue a = some va) (hb : hexValue b = some vb)
    (hcrc : xorOf payload = va <<< 4 ||| vb) {f : Mem} (hf : Shows f (sentenceOf payload a b))
    {len : UInt16} (hl : len.toNat = payload.length + 4) (p : NmeaProto) (gpsCtx : NmeaData) :
    (nmeaParse hex (gnssSentence c) f len p (some gpsCtx)).2.2.isSome ↔
      commasNeeded c (decide (payload.length + 4 < nmeaMsgSize)) (textOf payload a b) gpsCtx ≤ payload.count comma := by
  obtain ⟨-, -, hparsed⟩ := nmeaParse_sentence hex (gnssSentence c) hpos hpayload hlen ha hb hf hl p (some gpsCtx)
  rw [hparsed ((nmeaCalcChecksum_eq payload).trans hcrc),
    gnssSentence_isSome_iff c (text_sentence hpayload hlen ha hb hf) (textOf_sound hpayload ha hb),
    count_textOf ha hb]

/-- The conversions of fields without characters: none of them has a value. -/
def emptyFields : Conversions where
  tryStrl2uint8 _ _ old := (false, old)
  tryStrl2uint16 _ _ old := (false, old)
  tryStrl2uint32 _ _ old := (false, old)
  tryStrl2int32 _ _ old := (false, old)
  tryStrl2double _ _ old := (false, old)
  parseTimeFromVal _ tm := (false, tm)
  parseDateFromVal _ tm := (false, tm)
  getTimeMs32 := 0

/-- The payload of a GSA sentence with empty fields. -/
def gsaPayload (commas : Nat) : List UInt8 := ['G', 'P', 'G', 'S', 'A'].map Char.toUInt8 ++ List.replicate commas comma

/-- `$GPGSA,,,,,,,,,,,,,,,,,*6E` has the seventeen commas. -/
theorem seventeen_commas_inside :
    (nmeaParse standardHex (gnssSentence emptyFields) (Buffer.ofBytes (sentenceOf (gsaPayload 17) 0x36 0x45)) 26 {}
      (some {})).2.2.isSome := by
  have ha : hexValue 0x36 = some 6 := rfl
  have hb : hexValue 0x45 = some 0xE := rfl
  have hpayload : IsPayload (gsaPayload 17) := by
    unfold IsPayload
    decide +kernel
  have hf : Shows (Buffer.ofBytes (sentenceOf (gsaPayload 17) 0x36 0x45)) (sentenceOf (gsaPayload 17) 0x36 0x45) :=
    fun _ _ => rfl
  refine (good_sentence_inside_iff emptyFields standardHex (by decide) hpayload (by decide) ha hb (by decide) hf rfl
    {} {}).2 ?_
  decide +kernel

/-- `$GPGSA*42` has none: its parser advances null. -/
theorem not_no_comma_inside : ¬∀ (payload : List UInt8) (a b va vb : UInt8), payload ≠ [] → IsPayload payload →
    payload.length + 4 < nmeaMsgSize → hexValue a = some va → hexValue b = some vb →
    xorOf payload = va <<< 4 ||| vb →
    (nmeaParse standardHex (gnssSentence emptyFields) (Buffer.ofBytes (sentenceOf payload a b))
      (UInt16.ofNat (payload.length + 4)) {} (some {})).2.2.isSome := by
  intro h
  have hpayload : IsPayload (gsaPayload 0) := by
    unfold IsPayload
    decide +kernel
  have hgsa := h (gsaPayload 0) 0x34 0x32 4 2 (by decide) hpayload (by decide) rfl rfl (by decide)
  exact absurd hgsa (by decide +kernel)

end TiMcu.Nmea
