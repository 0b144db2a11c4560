import TiMcu.Lib.Framing
import TiMcu.Tbfp.Receive

/-!
# What a parser has loaded

The state of a TBFP parser is a list of bytes: those of the frame it is loading.  `Loaded` relates the two, and
`tbfpProcByte_spec` says what one more byte does: the parser loads it, drops the frame, or has a frame with the right
checksum, as `tbfpVerdict` decides on the loaded bytes alone.  So `Framing` says what becomes of a stream.
-/

namespace TiMcu.Tbfp

open NorFlash LittleEndian Framing

variable {W : Type} {polls : Bool} {env : Env W polls} {proc : Proc W} {crc8SaeJ1850Calc : List UInt8 → UInt8}
  {preambleVal : UInt8}
variable {l : List UInt8} {b : UInt8} {p : TbfpParser}

/-! ### The frames of a preamble -/

/-- The length of the payload in the header of the loaded bytes. -/
def payloadLen (l : List UInt8) : Nat := (join (l.getD tbfpIndexLen 0) (l.getD (tbfpIndexLen + 1) 0)).toNat

/-- What the parser makes of the bytes it has loaded. -/
def tbfpVerdict (crc8SaeJ1850Calc : List UInt8 → UInt8) (preambleVal : UInt8) (l : List UInt8) : Verdict :=
  if l.head? ≠ some preambleVal then .drop
  else if l.length < tbfpSizeHeader then .more
  else if tbfpMaxPayload < payloadLen l then .drop
  else if l.length < payloadLen l + tbfpSizeOverhead then .more
  else if l.length = payloadLen l + tbfpSizeOverhead ∧ crc8SaeJ1850Calc l.dropLast = l.getLastD 0 then .frame
  else .drop

/-- A frame with its header, its payload and its checksum. -/
def tbfFrame (crc8SaeJ1850Calc : List UInt8 → UInt8) (preambleVal flags : UInt8) (snum : UInt16)
    (payload : List UInt8) : List UInt8 :=
  let body := tbfHeader preambleVal flags snum (UInt16.ofNat payload.length) ++ payload
  body ++ [crc8SaeJ1850Calc body]

@[simp] theorem tbfFrame_length (flags : UInt8) (snum : UInt16) (payload : List UInt8) :
    (tbfFrame crc8SaeJ1850Calc preambleVal flags snum payload).length = payload.length + tbfpSizeOverhead := by
  simp [tbfFrame, tbfHeader, tbfpSizeOverhead, tbfpSizeHeader, tbfpSizeCrc]

private theorem payloadLen_append (h : tbfpSizeHeader ≤ l.length) (l' : List UInt8) :
    payloadLen (l ++ l') = payloadLen l := by
  have h4 : tbfpIndexLen < l.length := by
    unfold tbfpSizeHeader at h
    unfold tbfpIndexLen
    omega
  have h5 : tbfpIndexLen + 1 < l.length := by
    unfold tbfpSizeHeader at h
    unfold tbfpIndexLen
    omega
  simp only [payloadLen, List.getD_append _ _ _ _ h4, List.getD_append _ _ _ _ h5]

theorem payloadLen_tbfFrame {payload : List UInt8} (h : payload.length ≤ tbfpMaxPayload) (flags : UInt8)
    (snum : UInt16) : payloadLen (tbfFrame crc8SaeJ1850Calc preambleVal flags snum payload) = payload.length := by
  have hmax : tbfpMaxPayload = 1039 := rfl
  have hlen : payloadLen (tbfFrame crc8SaeJ1850Calc preambleVal flags snum payload) =
      (join (lo (UInt16.ofNat payload.length)) (hi (UInt16.ofNat payload.length))).toNat := rfl
  rw [hlen, join_lo_hi, UInt16.toNat_ofNat']
  omega

theorem isFrame_tbfFrame {payload : List UInt8} (h : payload.length ≤ tbfpMaxPayload) (flags : UInt8)
    (snum : UInt16) : IsFrame (tbfpVerdict crc8SaeJ1850Calc preambleVal)
      (tbfFrame crc8SaeJ1850Calc preambleVal flags snum payload) := by
  have hsize : tbfpSizeOverhead = 7 := rfl
  have hheader : tbfpSizeHeader = 6 := rfl
  have hlen := @payloadLen_tbfFrame crc8SaeJ1850Calc preambleVal payload h flags snum
  have hlength := @tbfFrame_length crc8SaeJ1850Calc preambleVal flags snum payload
  have hhead : (tbfFrame crc8SaeJ1850Calc preambleVal flags snum payload).head? = some preambleVal := rfl
  refine IsFrame.of_splits (by simp [tbfFrame]) (fun q t hne htpos ht => ?_) ?_
  · have hsum : q.length + t.length = payload.length + tbfpSizeOverhead := by
      rw [← hlength, ht, List.length_append]
    have hqhead : q.head? = some preambleVal := by
      rw [ht, List.head?_append_of_ne_nil _ hne] at hhead
      exact hhead
    unfold tbfpVerdict
    rw [if_neg (not_not.2 hqhead)]
    split
    · rfl
    · have hq : payloadLen q = payload.length := by
        rw [← payloadLen_append (by omega) t, ← ht, hlen]
      rw [hq, if_neg (by omega), if_pos (by omega)]
  · unfold tbfpVerdict
    rw [if_neg (not_not.2 hhead), if_neg (by omega), hlen, if_neg (by omega), if_neg (by omega), if_pos]
    exact ⟨hlength, by simp only [tbfFrame, List.dropLast_concat, List.getLastD_concat]⟩

/-- What the parser takes for a frame. -/
theorem verdict_frame (hv : tbfpVerdict crc8SaeJ1850Calc preambleVal l = .frame) :
    l.head? = some preambleVal ∧ payloadLen l ≤ tbfpMaxPayload ∧ l.length = payloadLen l + tbfpSizeOverhead ∧
      crc8SaeJ1850Calc l.dropLast = l.getLastD 0 := by
  unfold tbfpVerdict at hv
  split at hv
  · simp at hv
  · rename_i hhead
    split at hv
    · simp at hv
    · split at hv
      · simp at hv
      · split at hv
        · simp at hv
        · split at hv
          · rename_i hmax _ hend
            exact ⟨not_not.1 hhead, by omega, hend.1, hend.2⟩
          · simp at hv

/-! ### The state of the parser -/

/-- The state after loading these bytes. -/
def loadState (l : List UInt8) : RxState :=
  if l.length = 0 then .waitPreamble
  else if l.length = 1 then .waitRetxCnt
  else if l.length < 4 then .waitSerialNum
  else if l.length < tbfpSizeHeader then .waitLen
  else if l.length < payloadLen l + tbfpSizeHeader then .waitPayload
  else .waitCrc

/-- The parser has loaded these bytes. -/
structure Loaded (verdict : List UInt8 → Verdict) (p : TbfpParser) (l : List UInt8) : Prop where
  loadLen : p.loadLen = l.length
  rxFrame : bytesAt p.rxFrame 0 l.length = l
  rxState : p.rxState = loadState l
  expPayloadLen : tbfpSizeHeader ≤ l.length → p.expPayloadLen.toNat = payloadLen l
  held : l = [] ∨ verdict l = .more

/-- What a step of the parser that only loads leaves unchanged. -/
structure Calm (r r' : TbfpReceiver) : Prop where
  flow : r'.flow = r.flow
  rxPktCnt : r'.rxPktCnt = r.rxPktCnt
  fixFrame : r'.parser.fixFrame = r.parser.fixFrame
  stored : ∀ i ∈ r'.parser.stored, i ∈ r.parser.stored ∨ i < tbfpMaxFrame

theorem loaded_nil {verdict : List UInt8 → Verdict} (hlen : p.loadLen = 0) (hstate : p.rxState = .waitPreamble) :
    Loaded verdict p [] :=
  ⟨hlen, rfl, hstate, fun h => absurd h (by decide), .inl rfl⟩

theorem loaded_resetRx {verdict : List UInt8 → Verdict} (r : TbfpReceiver) :
    Loaded verdict (tbfpParserResetRx r).parser [] := loaded_nil rfl rfl

theorem Device.resetRx_loaded {verdict : List UInt8 → Verdict} (d : Device W) (slot : Interfaces) :
    Loaded verdict ((d.resetRx slot).tbfp slot).parser [] := by
  rw [Device.resetRx, Device.setTbfp_self]
  exact loaded_resetRx _

theorem Device.acceptFrame_loaded {verdict : List UInt8 → Verdict} (d : Device W) (slot : Interfaces)
    (r : TbfpReceiver) : Loaded verdict ((d.acceptFrame slot r).tbfp slot).parser [] := by
  rw [show (d.acceptFrame slot r).tbfp slot = r.takeFrame from Device.setTbfp_self d slot _]
  exact loaded_resetRx _

/-- A loaded frame fits in the buffer, with one byte more. -/
theorem Loaded.length_lt (h : Loaded (tbfpVerdict crc8SaeJ1850Calc preambleVal) p l) : l.length < tbfpMaxFrame := by
  have hmax : tbfpMaxFrame = 1046 := rfl
  have hpay : tbfpMaxPayload = 1039 := rfl
  have hover : tbfpSizeOverhead = 7 := rfl
  have hheader : tbfpSizeHeader = 6 := rfl
  rcases h.held with rfl | hv
  · exact Nat.succ_pos _
  · unfold tbfpVerdict at hv
    split at hv
    · simp at hv
    · split at hv
      · omega
      · split at hv
        · simp at hv
        · split at hv
          · omega
          · split at hv <;> simp at hv

theorem Loaded.head (h : Loaded (tbfpVerdict crc8SaeJ1850Calc preambleVal) p l) (hpos : 0 < l.length) :
    l.head? = some preambleVal := by
  rcases h.held with rfl | hv
  · exact absurd hpos (by decide)
  · unfold tbfpVerdict at hv
    split at hv
    · simp at hv
    · rename_i hhead
      exact not_not.1 hhead

private theorem Loaded.head_append (h : Loaded (tbfpVerdict crc8SaeJ1850Calc preambleVal) p l) (hpos : 0 < l.length)
    (b : UInt8) : (l ++ [b]).head? = some preambleVal := by
  rw [List.head?_append_of_ne_nil _ (List.length_pos_iff.1 hpos)]
  exact h.head hpos

/-- The bytes after one more is loaded. -/
private theorem load_bytes {r : TbfpReceiver} (hlen : r.parser.loadLen = l.length)
    (hbytes : bytesAt r.parser.rxFrame 0 l.length = l) (b : UInt8) (rxState : RxState) :
    (r.load b rxState).parser.loadLen = (l ++ [b]).length ∧
      bytesAt (r.load b rxState).parser.rxFrame 0 (l ++ [b]).length = l ++ [b] := by
  constructor
  · simp [TbfpReceiver.load, hlen]
  · simp only [TbfpReceiver.load, hlen, List.length_append, List.length_singleton]
    rw [Buffer.bytesAt_store, hbytes]

private theorem calm_load {r : TbfpReceiver} (h : Loaded (tbfpVerdict crc8SaeJ1850Calc preambleVal) r.parser l)
    (b : UInt8)
    (rxState : RxState) : Calm r (r.load b rxState) := by
  refine ⟨rfl, rfl, rfl, fun i hi => ?_⟩
  rcases List.mem_cons.1 hi with rfl | hi
  · exact .inr (h.loadLen ▸ h.length_lt)
  · exact .inl hi

/-! ### One byte more -/

/-- The outcome of a byte: it is loaded or dropped, or it completes a frame. -/
inductive ByteStep (env : Env W polls) (proc : Proc W) (d : Device W) (slot : Interfaces) (l : List UInt8) (b : UInt8) :
    Bool × Device W → Prop
  | loads (r : TbfpReceiver)
      (hv : tbfpVerdict env.crc8SaeJ1850Calc (d.preambleVal slot) (l ++ [b]) ≠ .frame)
      (hl : Loaded (tbfpVerdict env.crc8SaeJ1850Calc (d.preambleVal slot)) r.parser
        (keep (tbfpVerdict env.crc8SaeJ1850Calc (d.preambleVal slot)) (l ++ [b])))
      (hc : Calm (d.tbfp slot) r) : ByteStep env proc d slot l b (true, d.setTbfp slot r)
  | accepts (r : TbfpReceiver)
      (hv : tbfpVerdict env.crc8SaeJ1850Calc (d.preambleVal slot) (l ++ [b]) = .frame)
      (hl : bytesAt r.parser.rxFrame 0 (l.length + 1) = l ++ [b])
      (hi : r.parser.crc8Index.toNat = l.length) (hc : Calm (d.tbfp slot) r) :
      ByteStep env proc d slot l b (true, ((d.acceptFrame slot r).tbfpProcFull env proc slot
        (r.parser.crc8Index + 1) (d.interface slot)).2.resetRx slot)

section

variable {r : TbfpReceiver} (h : Loaded (tbfpVerdict crc8SaeJ1850Calc preambleVal) r.parser l)

include h

private theorem Loaded.load_more {rxState : RxState} (hv : tbfpVerdict crc8SaeJ1850Calc preambleVal (l ++ [b]) = .more)
    (hstate : rxState = loadState (l ++ [b])) (hexp : l.length + 1 = tbfpSizeHeader →
      r.parser.expPayloadLen.toNat = payloadLen (l ++ [b])) :
    Loaded (tbfpVerdict crc8SaeJ1850Calc preambleVal) (r.load b rxState).parser
      (keep (tbfpVerdict crc8SaeJ1850Calc preambleVal) (l ++ [b])) := by
  obtain ⟨hlen, hbytes⟩ := load_bytes h.loadLen h.rxFrame b rxState
  rw [keep_more hv]
  refine ⟨hlen, hbytes, hstate, fun hsix => ?_, .inr hv⟩
  rw [List.length_append, List.length_singleton] at hsix
  by_cases hl : tbfpSizeHeader ≤ l.length
  · rw [payloadLen_append hl]
    exact h.expPayloadLen hl
  · exact hexp (by omega)

end

section

variable {d : Device W} {slot : Interfaces}
variable (h : Loaded (tbfpVerdict env.crc8SaeJ1850Calc (d.preambleVal slot)) (d.tbfp slot).parser l)

theorem byteStep_drop {r : TbfpReceiver} (hv : tbfpVerdict env.crc8SaeJ1850Calc (d.preambleVal slot) (l ++ [b]) = .drop)
    (hc : Calm (d.tbfp slot) r) : ByteStep env proc d slot l b (true, d.setTbfp slot (tbfpParserResetRx r)) :=
  .loads _ (by simp [hv]) (by rw [keep_drop hv]; exact loaded_resetRx r) ⟨hc.flow, hc.rxPktCnt, hc.fixFrame, hc.stored⟩

include h

theorem byteStep_more {rxState : RxState}
    (hv : tbfpVerdict env.crc8SaeJ1850Calc (d.preambleVal slot) (l ++ [b]) = .more)
    (hstate : rxState = loadState (l ++ [b])) (hl : l.length + 1 ≠ tbfpSizeHeader) :
    ByteStep env proc d slot l b (true, d.setTbfp slot ((d.tbfp slot).load b rxState)) :=
  .loads _ (by simp [hv]) (h.load_more hv hstate fun hsix => absurd hsix hl) (calm_load h b rxState)

private theorem byteStep_waitPreamble (hl : l.length = 0) : ByteStep env proc d slot l b
    (d.stepTbfp slot (tbfpParserProcWaitPreamble (d.preambleVal slot) (d.tbfp slot) b)) := by
  have hnil : l = [] := List.length_eq_zero_iff.1 hl
  subst hnil
  have hlen : (d.tbfp slot).parser.loadLen = 0 := h.loadLen
  unfold tbfpParserProcWaitPreamble
  by_cases hb : d.preambleVal slot = b
  · rw [if_pos ⟨hb, hlen⟩]
    exact byteStep_more h (by simp [tbfpVerdict, hb, tbfpSizeHeader]) rfl (by decide)
  · rw [if_neg fun hand => hb hand.1]
    refine byteStep_drop ?_ ⟨rfl, rfl, rfl, fun _ => .inl⟩
    have hb' : ¬b = d.preambleVal slot := fun hc => hb hc.symm
    simp [tbfpVerdict, hb']

/-- Before the length is complete nothing is decided. -/
theorem verdict_header (hpos : 0 < l.length) (hlt : l.length + 1 < tbfpSizeHeader) (b : UInt8) :
    tbfpVerdict env.crc8SaeJ1850Calc (d.preambleVal slot) (l ++ [b]) = .more := by
  unfold tbfpVerdict
  rw [if_neg (not_not.2 (h.head_append hpos b)), List.length_append, List.length_singleton, if_pos hlt]

omit h in
private theorem loadState_of_length {n : Nat} (hn : l.length + 1 = n) (hlt : n < tbfpSizeHeader) (b : UInt8) :
    loadState (l ++ [b]) = if n = 1 then .waitRetxCnt else if n < 4 then .waitSerialNum else .waitLen := by
  unfold loadState
  rw [List.length_append, List.length_singleton, hn, if_neg (by omega), if_pos hlt]

/-- A byte of the header before the length is complete. -/
theorem byteStep_header {rxState : RxState} {n : Nat} (hn : l.length + 1 = n) (hpos : 1 < n) (hlt : n < tbfpSizeHeader)
    (hstate : rxState = if n = 1 then .waitRetxCnt else if n < 4 then .waitSerialNum else .waitLen) :
    ByteStep env proc d slot l b (true, d.setTbfp slot ((d.tbfp slot).load b rxState)) :=
  byteStep_more h (verdict_header h (by omega) (by omega) b) (hstate.trans (loadState_of_length hn hlt b).symm)
    (by omega)

private theorem byteStep_waitRetxCnt (hl : l.length = 1) : ByteStep env proc d slot l b
    (d.stepTbfp slot (tbfpParserProcRetransmitCnt (d.tbfp slot) b)) := by
  unfold tbfpParserProcRetransmitCnt
  rw [if_pos (by rw [h.loadLen, hl]; rfl)]
  exact byteStep_header h (congrArg (· + 1) hl) (by decide) (by decide) rfl

private theorem byteStep_waitSerialNum (hl : l.length = 2 ∨ l.length = 3) : ByteStep env proc d slot l b
    (d.stepTbfp slot (tbfpParserProcWaitSerialNum (d.tbfp slot) b)) := by
  unfold tbfpParserProcWaitSerialNum
  rcases hl with hl | hl
  · rw [if_pos (by rw [h.loadLen, hl]; rfl)]
    exact byteStep_header h (congrArg (· + 1) hl) (by decide) (by decide) rfl
  · rw [if_neg (by rw [h.loadLen, hl]; decide), if_pos (by rw [h.loadLen, hl]; rfl)]
    have hv := verdict_header h (by omega) (by rw [hl]; decide) b
    have hload : Loaded _ ((d.tbfp slot).load b .waitLen).parser _ :=
      h.load_more hv (by rw [loadState_of_length (by rw [hl]) (by decide)]; rfl) (by rw [hl]; nofun)
    have hcalm := calm_load h b .waitLen
    exact .loads _ (by simp [hv]) ⟨hload.loadLen, hload.rxFrame, hload.rxState, hload.expPayloadLen, hload.held⟩
      ⟨hcalm.flow, hcalm.rxPktCnt, hcalm.fixFrame, hcalm.stored⟩

/-- The length field of the loaded header. -/
private theorem takeLen_expPayloadLen (hl : l.length = 5) (b : UInt8) (rxState : RxState) :
    ((d.tbfp slot).load b rxState).takeLen.parser.expPayloadLen.toNat = payloadLen (l ++ [b]) := by
  obtain ⟨-, hbytes⟩ := load_bytes h.loadLen h.rxFrame b rxState
  rw [List.length_append, hl] at hbytes
  have h4 := Buffer.getD_of_bytesAt hbytes (show tbfpIndexLen < 6 by decide)
  have h5 := Buffer.getD_of_bytesAt hbytes (show tbfpIndexLen + 1 < 6 by decide)
  simp only [payloadLen, TbfpReceiver.takeLen, h4, h5]

theorem byteStep_waitLen (hl : l.length = 4 ∨ l.length = 5) : ByteStep env proc d slot l b
    (d.stepTbfp slot (tbfpParserProcWaitLen (d.tbfp slot) b)) := by
  unfold tbfpParserProcWaitLen
  rcases hl with hl | hl
  · rw [if_pos (by rw [h.loadLen, hl]; rfl)]
    exact byteStep_header h (congrArg (· + 1) hl) (by decide) (by decide) rfl
  · rw [if_neg (by rw [h.loadLen, hl]; decide), if_pos (by rw [h.loadLen, hl]; rfl)]
    have hexp := takeLen_expPayloadLen h hl b .waitLen
    have hcalm := calm_load h b .waitLen
    have hlen : (l ++ [b]).length = tbfpSizeHeader := by rw [List.length_append, hl]; rfl
    have hhead := h.head_append (by omega) b
    unfold tbfpCheckLen
    rw [hexp]
    by_cases hmax : payloadLen (l ++ [b]) ≤ tbfpMaxPayload
    · have hv : tbfpVerdict env.crc8SaeJ1850Calc (d.preambleVal slot) (l ++ [b]) = .more := by
        unfold tbfpVerdict
        rw [if_neg (not_not.2 hhead), hlen, if_neg (Nat.lt_irrefl _), if_neg (by omega), if_pos]
        exact Nat.lt_of_lt_of_le (by decide : tbfpSizeHeader < tbfpSizeOverhead) (Nat.le_add_left _ _)
      obtain ⟨hload, hbytes⟩ := load_bytes h.loadLen h.rxFrame b .waitLen
      have hstate : loadState (l ++ [b]) = if 0 < payloadLen (l ++ [b]) then .waitPayload else .waitCrc := by
        unfold loadState
        rw [hlen, if_neg (by decide), if_neg (by decide), if_neg (by decide), if_neg (Nat.lt_irrefl _)]
        simp only [Nat.lt_add_left_iff_pos]
      by_cases hpos : 0 < payloadLen (l ++ [b])
      · rw [if_pos hpos, if_pos hmax]
        refine .loads _ (by simp [hv]) ?_ ⟨hcalm.flow, hcalm.rxPktCnt, hcalm.fixFrame, hcalm.stored⟩
        rw [keep_more hv]
        exact ⟨hload, hbytes, by rw [hstate, if_pos hpos], fun _ => hexp, .inr hv⟩
      · rw [if_neg hpos]
        refine .loads _ (by simp [hv]) ?_ ⟨hcalm.flow, hcalm.rxPktCnt, hcalm.fixFrame, hcalm.stored⟩
        rw [keep_more hv]
        exact ⟨hload, hbytes, by rw [hstate, if_neg hpos], fun _ => hexp, .inr hv⟩
    · have hv : tbfpVerdict env.crc8SaeJ1850Calc (d.preambleVal slot) (l ++ [b]) = .drop := by
        unfold tbfpVerdict
        rw [if_neg (not_not.2 hhead), hlen, if_neg (Nat.lt_irrefl _), if_pos (by omega)]
      rw [if_pos (by omega), if_neg hmax]
      exact byteStep_drop hv ⟨hcalm.flow, hcalm.rxPktCnt, hcalm.fixFrame, hcalm.stored⟩

/-- Behind the header the length is that of the loaded bytes, and the frame is not complete. -/
private theorem Loaded.bounds (hl : tbfpSizeHeader ≤ l.length) :
    payloadLen l ≤ tbfpMaxPayload ∧ l.length < payloadLen l + tbfpSizeOverhead := by
  have hheader : tbfpSizeHeader = 6 := rfl
  rcases h.held with rfl | hv
  · exact absurd hl (by decide)
  · unfold tbfpVerdict at hv
    split at hv
    · simp at hv
    · rw [if_neg (by omega)] at hv
      split at hv
      · simp at hv
      · split at hv
        · exact ⟨by omega, by assumption⟩
        · split at hv <;> simp at hv

theorem byteStep_waitPayload (hl : tbfpSizeHeader ≤ l.length) (hlt : l.length < payloadLen l + tbfpSizeHeader) :
    ByteStep env proc d slot l b (d.stepTbfp slot (tbfpParserProcWaitPayload (d.tbfp slot) b)) := by
  have hheader : tbfpSizeHeader = 6 := rfl
  have hover : tbfpSizeOverhead = 7 := rfl
  obtain ⟨hmax, -⟩ := h.bounds hl
  have happend := payloadLen_append hl [b]
  have hv : tbfpVerdict env.crc8SaeJ1850Calc (d.preambleVal slot) (l ++ [b]) = .more := by
    unfold tbfpVerdict
    rw [if_neg (not_not.2 (h.head_append (by omega) b)), List.length_append, List.length_singleton, happend,
      if_neg (by omega), if_neg (by omega), if_pos (by omega)]
  have hstate : loadState (l ++ [b]) =
      if l.length + 1 < payloadLen l + tbfpSizeHeader then .waitPayload else .waitCrc := by
    unfold loadState
    rw [List.length_append, List.length_singleton, happend, if_neg (by omega), if_neg (by omega), if_neg (by omega),
      if_neg (by omega)]
  unfold tbfpParserProcWaitPayload
  rw [h.loadLen, h.expPayloadLen hl, if_neg (by omega)]
  by_cases hlast : l.length = tbfpSizeHeader + payloadLen l - 1
  · rw [if_pos hlast]
    exact byteStep_more h hv (by rw [hstate, if_neg (by omega)]) (by omega)
  · rw [if_neg hlast]
    exact byteStep_more h hv (by rw [hstate, if_pos (by omega)]) (by omega)

/-- The index of the checksum is that of the next byte. -/
theorem Loaded.crc8Index (hl : tbfpSizeHeader ≤ l.length) (hge : payloadLen l + tbfpSizeHeader ≤ l.length) :
    (d.tbfp slot).parser.crc8Index.toNat = l.length := by
  have hheader : tbfpSizeHeader = 6 := rfl
  have hover : tbfpSizeOverhead = 7 := rfl
  have hpay : tbfpMaxPayload = 1039 := rfl
  obtain ⟨hmax, hlt⟩ := h.bounds hl
  have hexp := h.expPayloadLen hl
  simp only [TbfpParser.crc8Index, UInt16.toNat_add]
  rw [hexp, show (6 : UInt16).toNat = 6 from rfl]
  omega

theorem Loaded.loadCrc8 (b : UInt8) :
    bytesAt ((d.tbfp slot).loadCrc8 b).parser.rxFrame 0 (l.length + 1) = l ++ [b] := by
  obtain ⟨-, hbytes⟩ := load_bytes h.loadLen h.rxFrame b .waitCrc
  rwa [List.length_append, List.length_singleton] at hbytes

/-- The checksum decides about the frame. -/
theorem Loaded.crcOk_iff (hl : tbfpSizeHeader ≤ l.length) (hge : payloadLen l + tbfpSizeHeader ≤ l.length)
    (b : UInt8) : (((d.tbfp slot).loadCrc8 b).parser.crcOk env ↔
      tbfpVerdict env.crc8SaeJ1850Calc (d.preambleVal slot) (l ++ [b]) = .frame) ∧
    (¬((d.tbfp slot).loadCrc8 b).parser.crcOk env →
      tbfpVerdict env.crc8SaeJ1850Calc (d.preambleVal slot) (l ++ [b]) = .drop) := by
  have hheader : tbfpSizeHeader = 6 := rfl
  have hover : tbfpSizeOverhead = 7 := rfl
  obtain ⟨hmax, hlt⟩ := h.bounds hl
  have hprefix : bytesAt ((d.tbfp slot).loadCrc8 b).parser.rxFrame 0 l.length = l := by
    have htake := congrArg (List.take l.length) (h.loadCrc8 b)
    rwa [take_bytesAt (Nat.le_succ _), List.take_left] at htake
  have hv : tbfpVerdict env.crc8SaeJ1850Calc (d.preambleVal slot) (l ++ [b]) =
      if env.crc8SaeJ1850Calc l = b then .frame else .drop := by
    have hend : l.length + 1 = payloadLen l + tbfpSizeOverhead := by omega
    unfold tbfpVerdict
    rw [if_neg (not_not.2 (h.head_append (by omega) b)), List.length_append, List.length_singleton,
      payloadLen_append hl, if_neg (by omega), if_neg (by omega), if_neg (by omega)]
    simp [hend]
  have hcrc : ((d.tbfp slot).loadCrc8 b).parser.crcOk env ↔ env.crc8SaeJ1850Calc l = b := by
    unfold TbfpParser.crcOk
    rw [show ((d.tbfp slot).loadCrc8 b).parser.crc8Index.toNat = l.length from h.crc8Index hl hge, hprefix]
    rfl
  rw [hcrc, hv]
  by_cases hok : env.crc8SaeJ1850Calc l = b
  · simp [hok]
  · simp [hok]

theorem byteStep_waitCrc (hl : tbfpSizeHeader ≤ l.length) (hge : payloadLen l + tbfpSizeHeader ≤ l.length) :
    ByteStep env proc d slot l b (d.tbfpParserProcWaitCrc8 env proc slot b) := by
  have hindex := h.crc8Index hl hge
  obtain ⟨hframe, hdrop⟩ := h.crcOk_iff hl hge b
  have hcalm := calm_load h b .waitCrc
  have hcalm' : Calm (d.tbfp slot) ((d.tbfp slot).loadCrc8 b) :=
    ⟨hcalm.flow, hcalm.rxPktCnt, hcalm.fixFrame, hcalm.stored⟩
  unfold Device.tbfpParserProcWaitCrc8 Device.tbfpCheckCrc8
  rw [if_pos (by rw [h.loadLen, hindex])]
  by_cases hok : ((d.tbfp slot).loadCrc8 b).parser.crcOk env
  · rw [if_pos hok]
    exact .accepts _ (hframe.1 hok) (h.loadCrc8 b) hindex hcalm'
  · rw [if_neg hok]
    exact byteStep_drop (hdrop hok) ⟨hcalm'.flow, hcalm'.rxPktCnt, hcalm'.fixFrame, hcalm'.stored⟩

omit h in
/-- The parser waits for the checksum behind the payload only. -/
theorem length_of_waitCrc (hl : loadState l = .waitCrc) :
    tbfpSizeHeader ≤ l.length ∧ payloadLen l + tbfpSizeHeader ≤ l.length := by
  unfold loadState at hl
  split at hl
  · cases hl
  split at hl
  · cases hl
  split at hl
  · cases hl
  split at hl
  · cases hl
  split at hl
  · cases hl
  · constructor <;> omega

/-- What `tbfp_proc_byte` does with a byte. -/
theorem tbfpProcByte_spec (proc : Proc W) (b : UInt8) : ByteStep env proc d slot l b (d.tbfpProcByte env proc slot b) := by
  have hheader : tbfpSizeHeader = 6 := rfl
  have hstate := h.rxState
  unfold Device.tbfpProcByte
  by_cases h0 : l.length = 0
  · rw [loadState, if_pos h0] at hstate
    rw [hstate]
    exact byteStep_waitPreamble h h0
  by_cases h1 : l.length = 1
  · rw [loadState, if_neg h0, if_pos h1] at hstate
    rw [hstate]
    exact byteStep_waitRetxCnt h h1
  by_cases h3 : l.length < 4
  · rw [loadState, if_neg h0, if_neg h1, if_pos h3] at hstate
    rw [hstate]
    exact byteStep_waitSerialNum h (by omega)
  by_cases h5 : l.length < tbfpSizeHeader
  · rw [loadState, if_neg h0, if_neg h1, if_neg h3, if_pos h5] at hstate
    rw [hstate]
    exact byteStep_waitLen h (by omega)
  by_cases hp : l.length < payloadLen l + tbfpSizeHeader
  · rw [loadState, if_neg h0, if_neg h1, if_neg h3, if_neg h5, if_pos hp] at hstate
    rw [hstate]
    exact byteStep_waitPayload h (by omega) hp
  · rw [loadState, if_neg h0, if_neg h1, if_neg h3, if_neg h5, if_neg hp] at hstate
    rw [hstate]
    exact byteStep_waitCrc h (by omega) (by omega)

end

end TiMcu.Tbfp
