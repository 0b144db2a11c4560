import TiMcu.Nmea.Parser

/-!
# NMEA sentences behind noise

A `$` inside a line is taken for a character of the payload.  So a sentence that was cut off before its asterisk holds
the parser until `message` is full, and the sentence that follows is loaded behind it and lost.

`Line` is what the parser remembers of a stream: the line it is in and how much of it is loaded.  A sentence is received
exactly when no line is open in front of it.
-/

namespace TiMcu.Nmea

open NorFlash Runs
open TiMcu.Tbfp (RxState)

variable {D : Type} (hex : HexHelpers) (sentence : Mem → D → Sentence D) {r r' : NmeaReceiver D} {b : UInt8}

/-! ### The open line -/

/-- No line, or a line with so many characters loaded, in front of its asterisk or with so many digits behind it. -/
inductive Line
  | idle
  | payload (loaded : Nat)
  | crc (loaded digits : Nat)
  deriving DecidableEq, Repr

def Line.next (hex : HexHelpers) : Line → UInt8 → Line
  | .idle, b => if b = dollar then .payload 1 else .idle
  | .payload loaded, b =>
    if loaded < nmeaMsgSize then
      if b = asterisk then .crc (loaded + 1) 0 else .payload (loaded + 1)
    else .idle
  | .crc loaded digits, b =>
    if hex.isHexDigit b = true ∧ loaded < nmeaMsgSize ∧ digits = 0 then .crc (loaded + 1) 1 else .idle

/-- The line that is open behind a stream. -/
def Line.after (hex : HexHelpers) (line : Line) (stream : List UInt8) : Line := run (Line.next hex) line stream

/-- The parser is in this line. -/
def InLine (r : NmeaReceiver D) : Line → Prop
  | .idle => r.proto.state = .waitPreamble ∧ r.proto.pos = 0
  | .payload loaded => r.proto.state = .waitPayload ∧ r.proto.pos.toNat = loaded ∧ 1 ≤ loaded
  | .crc loaded digits =>
    r.proto.state = .waitCrc ∧ r.proto.pos.toNat = loaded ∧ r.proto.crcNibble = UInt8.ofNat digits ∧ digits ≤ 1

/-- What one byte does: the line goes on, and a message is handed over with the second digit only. -/
structure LineStep (hex : HexHelpers) (r r' : NmeaReceiver D) (line : Line) (b : UInt8) : Prop where
  inLine : InLine r' (line.next hex b)
  handed : r'.handed = r.handed ∨
    ∃ loaded message, line = .crc loaded 1 ∧ loaded < nmeaMsgSize ∧
      r'.handed = (message, UInt16.ofNat (loaded + 1)) :: r.handed

private theorem toNat_put (h : r.proto.pos.toNat < nmeaMsgSize) (b : UInt8) :
    (r.put b).proto.pos.toNat = r.proto.pos.toNat + 1 := by
  have hsize : nmeaMsgSize = 300 := rfl
  have hone : (1 : UInt16).toNat = 1 := rfl
  rw [NmeaReceiver.put, UInt16.toNat_add, hone]
  omega

private theorem lineStep_idle (h : InLine r .idle) (b : UInt8) :
    LineStep hex r (nmeaProcWaitPreamble r b).2 .idle b := by
  unfold nmeaProcWaitPreamble
  by_cases hb : b = dollar
  · rw [if_pos ⟨hb, h.2⟩]
    refine ⟨?_, .inl rfl⟩
    rw [Line.next, if_pos hb]
    exact ⟨rfl, rfl, Nat.le_refl 1⟩
  · rw [if_neg fun hc => hb hc.1]
    refine ⟨?_, .inl rfl⟩
    rw [Line.next, if_neg hb]
    exact ⟨rfl, rfl⟩

private theorem lineStep_payload {loaded : Nat} (h : InLine r (.payload loaded)) (b : UInt8) :
    LineStep hex r (nmeaProcWaitPayload r b).2 (.payload loaded) b := by
  obtain ⟨-, hpos, hone⟩ := h
  unfold nmeaProcWaitPayload
  rw [← hpos] at hone ⊢
  by_cases hlt : r.proto.pos.toNat < nmeaMsgSize
  · have hput := toNat_put hlt b
    by_cases hb : b = asterisk
    · rw [if_pos hb]
      dsimp only
      rw [if_pos hlt]
      refine ⟨?_, .inl rfl⟩
      rw [Line.next, if_pos hlt, if_pos hb]
      exact ⟨rfl, hput, rfl, Nat.zero_le 1⟩
    · rw [if_neg hb]
      dsimp only
      rw [if_pos hlt]
      refine ⟨?_, .inl rfl⟩
      rw [Line.next, if_pos hlt, if_neg hb]
      exact ⟨rfl, hput, by omega⟩
  · have hidle : Line.next hex (.payload r.proto.pos.toNat) b = .idle := if_neg hlt
    by_cases hb : b = asterisk
    · rw [if_pos hb]
      dsimp only
      rw [if_neg hlt]
      exact ⟨by rw [hidle]; exact ⟨rfl, rfl⟩, .inl rfl⟩
    · rw [if_neg hb]
      dsimp only
      rw [if_neg hlt]
      exact ⟨by rw [hidle]; exact ⟨rfl, rfl⟩, .inl rfl⟩

private theorem lineStep_crc {loaded digits : Nat} (h : InLine r (.crc loaded digits)) (b : UInt8) :
    LineStep hex r (nmeaProcWaitCrc hex sentence r b).2 (.crc loaded digits) b := by
  obtain ⟨hstate, hpos, hnibble, hdigits⟩ := h
  unfold nmeaProcWaitCrc
  by_cases hhex : hex.isHexDigit b = true
  · rw [if_pos hhex]
    by_cases hlt : r.proto.pos.toNat < nmeaMsgSize
    · have hput := toNat_put hlt b
      rw [if_pos hlt]
      dsimp only
      rcases Nat.le_one_iff_eq_zero_or_eq_one.1 hdigits with rfl | rfl
      -- the first digit
      · rw [if_pos (show (r.put b).proto.crcNibble = 0 from hnibble)]
        refine ⟨?_, .inl rfl⟩
        rw [Line.next, if_pos ⟨hhex, hpos ▸ hlt, rfl⟩, ← hpos]
        exact ⟨hstate, hput, rfl, Nat.le_refl 1⟩
      -- the second digit
      · have hone : (r.put b).proto.crcNibble = 1 := hnibble
        have hzero : ¬(r.put b).proto.crcNibble = 0 := by
          rw [hone]
          decide
        have hidle : Line.next hex (.crc loaded 1) b = .idle := if_neg fun hc => absurd hc.2.2 (by decide)
        rw [if_neg hzero, if_pos hone]
        refine ⟨by rw [hidle]; exact ⟨rfl, rfl⟩, ?_⟩
        cases hex.asciiChar2HexNibble b with
        | none => exact .inl rfl
        | some nibble =>
          refine .inr ⟨loaded, bytesAt (Buffer.copy (r.put b).proto.fixMessage (r.put b).proto.message nmeaMsgSize) 0
            nmeaMsgSize, rfl, hpos ▸ hlt, ?_⟩
          rw [← hpos, ← hput, UInt16.ofNat_toNat]
          rfl
    · have hidle : Line.next hex (.crc loaded digits) b = .idle := if_neg fun hc => hlt (hpos ▸ hc.2.1)
      rw [if_neg hlt]
      exact ⟨by rw [hidle]; exact ⟨rfl, rfl⟩, .inl rfl⟩
  · have hidle : Line.next hex (.crc loaded digits) b = .idle := if_neg fun hc => hhex hc.1
    rw [if_neg hhex]
    exact ⟨by rw [hidle]; exact ⟨rfl, rfl⟩, .inl rfl⟩

private theorem nmeaStep_line {line : Line} (h : InLine r line) (b : UInt8) :
    LineStep hex r (nmeaStep hex sentence r b) line b := by
  unfold nmeaStep nmeaProcByte
  cases line with
  | idle =>
    rw [h.1]
    exact lineStep_idle hex h b
  | payload loaded =>
    rw [h.1]
    exact lineStep_payload hex h b
  | crc loaded digits =>
    rw [h.1]
    exact lineStep_crc hex sentence h b

/-- The parser behind a stream is in the line that the stream leaves open. -/
private theorem run_inLine {line : Line} (h : InLine r line) (stream : List UInt8) :
    InLine (run (nmeaStep hex sentence) r stream) (line.after hex stream) := by
  induction stream generalizing r line with
  | nil => exact h
  | cons b stream ih => exact ih (nmeaStep_line hex sentence h b).inLine

private theorem init_inLine (data : D) : InLine (NmeaReceiver.init data) .idle := ⟨rfl, rfl⟩

/-! ### Which streams leave a line open -/

/-- Without an asterisk a line is open until `message` is full, and one byte more closes it. -/
private theorem after_payload {loaded : Nat} {rest : List UInt8} (hloaded : loaded ≤ nmeaMsgSize)
    (h : asterisk ∉ rest) :
    (Line.payload loaded).after hex rest =
      if rest.length ≤ nmeaMsgSize - loaded then .payload (loaded + rest.length)
      else Line.idle.after hex (rest.drop (nmeaMsgSize - loaded + 1)) := by
  induction rest generalizing loaded with
  | nil => simp [Line.after]
  | cons b rest ih =>
    have hb : b ≠ asterisk := fun heq => h (heq ▸ List.mem_cons_self)
    rw [Line.after, run_cons, Line.next, List.length_cons, List.drop_succ_cons]
    by_cases hlt : loaded < nmeaMsgSize
    · rw [if_pos hlt, if_neg hb]
      have hnext := ih (Nat.succ_le_of_lt hlt) fun hmem => h (List.mem_cons_of_mem b hmem)
      rw [Line.after] at hnext
      rw [hnext, show nmeaMsgSize - loaded = nmeaMsgSize - (loaded + 1) + 1 by omega]
      by_cases hfits : rest.length ≤ nmeaMsgSize - (loaded + 1)
      · rw [if_pos hfits, if_pos (by omega), show loaded + 1 + rest.length = loaded + (rest.length + 1) by omega]
      · rw [if_neg hfits, if_neg (by omega)]
    · rw [if_neg hlt, if_neg (by omega), show nmeaMsgSize - loaded = 0 by omega, List.drop_zero, Line.after]

/-! ### The sentence that follows -/

variable {payload : List UInt8} {a va vb : UInt8}

/-- The sentence is handed over as it is, and counted. -/
structure Received (r r' : NmeaReceiver D) (payload : List UInt8) (a b : UInt8) : Prop where
  handed : r'.handed = (sentenceOf payload a b ++ List.replicate (nmeaMsgSize - (payload.length + 4)) 0,
    UInt16.ofNat (payload.length + 4)) :: r.handed
  counted : r'.proto.crcOkCnt = r.proto.crcOkCnt + 1

/-- A line that was open before the `k` bytes, or that began behind the first of them, and no message since. -/
def Astray (r₀ r : NmeaReceiver D) (k : Nat) : Prop :=
  r.handed = r₀.handed ∧ (InLine r .idle ∨ ∃ loaded, InLine r (.payload loaded) ∧ loaded ≠ k)

theorem Astray.step {r₀ : NmeaReceiver D} {k : Nat} (h : Astray r₀ r k) (hk : 1 ≤ k) (hb : b ≠ asterisk) :
    Astray r₀ (nmeaStep hex sentence r b) (k + 1) := by
  obtain ⟨hhanded, hidle | ⟨loaded, hline, hne⟩⟩ := h
  · obtain ⟨hnext, hsame | ⟨_, _, hcrc, -, -⟩⟩ := nmeaStep_line hex sentence hidle b
    · refine ⟨hsame.trans hhanded, ?_⟩
      rw [Line.next] at hnext
      split at hnext
      · exact .inr ⟨1, hnext, by omega⟩
      · exact .inl hnext
    · simp at hcrc
  · obtain ⟨hnext, hsame | ⟨_, _, hcrc, -, -⟩⟩ := nmeaStep_line hex sentence hline b
    · refine ⟨hsame.trans hhanded, ?_⟩
      rw [Line.next, if_neg hb] at hnext
      split at hnext
      · exact .inr ⟨loaded + 1, hnext, by omega⟩
      · exact .inl hnext
    · simp at hcrc

theorem Astray.payloads {r₀ : NmeaReceiver D} {k : Nat} (h : Astray r₀ r k) (hk : 1 ≤ k)
    (hpayload : asterisk ∉ payload) :
    Astray r₀ (run (nmeaStep hex sentence) r payload) (k + payload.length) := by
  induction payload generalizing r k with
  | nil => exact h
  | cons b payload ih =>
    have hb : b ≠ asterisk := fun heq => hpayload (heq ▸ List.mem_cons_self)
    have hrest := ih (h.step hex sentence hk hb) (by omega) fun hmem =>
      hpayload (List.mem_cons_of_mem b hmem)
    rw [List.length_cons, show k + (payload.length + 1) = k + 1 + payload.length by omega]
    exact hrest

/-- The `$` of a sentence behind an open line. -/
private theorem astray_dollar (hdollar : hex.isHexDigit dollar = false) {line : Line} (h : InLine r line)
    (hopen : line ≠ .idle) : Astray r (nmeaStep hex sentence r dollar) 1 := by
  obtain ⟨hnext, hhanded⟩ := nmeaStep_line hex sentence h dollar
  cases line with
  | idle => exact absurd rfl hopen
  | payload loaded =>
    obtain hsame | ⟨_, _, hcrc, -, -⟩ := hhanded
    · refine ⟨hsame, ?_⟩
      rw [Line.next, if_neg (show ¬dollar = asterisk by decide)] at hnext
      split at hnext
      · exact .inr ⟨loaded + 1, hnext, by have := h.2.2; omega⟩
      · exact .inl hnext
    · simp at hcrc
  | crc loaded digits =>
    have hreset : nmeaStep hex sentence r dollar = nmeaResetParser { r with proto.errParse := r.proto.errParse + 1 } := by
      rw [nmeaStep, nmeaProcByte, h.1]
      dsimp only
      rw [nmeaProcWaitCrc, if_neg (by rw [hdollar]; simp)]
    rw [hreset]
    exact ⟨rfl, .inl ⟨rfl, rfl⟩⟩

/-- Behind an open line what is handed over with the checksum is not as long as the sentence. -/
theorem Astray.checksum {r₀ : NmeaReceiver D} {k : Nat} (h : Astray r₀ r k) (a b : UInt8) :
    let r' := run (nmeaStep hex sentence) r [asterisk, a, b]
    r'.handed = r₀.handed ∨ ∃ message len, len ≠ k + 3 ∧ len < 2 ^ 16 ∧
      r'.handed = (message, UInt16.ofNat len) :: r₀.handed := by
  obtain ⟨hhanded, hline⟩ := h
  -- behind the asterisk
  obtain ⟨line, hin, hnot, hlen⟩ : ∃ line, InLine (nmeaStep hex sentence r asterisk) line ∧
      (∀ loaded, line ≠ .crc loaded 1) ∧ (∀ loaded digits, line = .crc loaded digits → loaded ≠ k + 1) := by
    rcases hline with hidle | ⟨loaded, hpayload, hne⟩
    · refine ⟨.idle, ?_, by simp, by simp⟩
      exact (nmeaStep_line hex sentence hidle asterisk).inLine
    · have hnext := (nmeaStep_line hex sentence hpayload asterisk).inLine
      rw [Line.next, if_pos rfl] at hnext
      split at hnext
      · exact ⟨_, hnext, by simp, by simpa using hne⟩
      · exact ⟨_, hnext, by simp, by simp⟩
  have hstar : (nmeaStep hex sentence r asterisk).handed = r₀.handed := by
    rcases hline with hidle | ⟨loaded, hpayload, -⟩
    · obtain ⟨-, hsame | ⟨_, _, hcrc, -, -⟩⟩ := nmeaStep_line hex sentence hidle asterisk
      · exact hsame.trans hhanded
      · simp at hcrc
    · obtain ⟨-, hsame | ⟨_, _, hcrc, -, -⟩⟩ := nmeaStep_line hex sentence hpayload asterisk
      · exact hsame.trans hhanded
      · simp at hcrc
  -- behind the first digit
  obtain ⟨hfirst, hsame | ⟨loaded, _, hcrc, -, -⟩⟩ := nmeaStep_line hex sentence hin a
  swap
  · exact absurd hcrc (hnot loaded)
  have hsecond : ∀ loaded, line.next hex a = .crc loaded 1 → loaded ≠ k + 2 := by
    intro loaded hnext
    cases line with
    | idle =>
      rw [Line.next] at hnext
      split at hnext <;> simp at hnext
    | payload n =>
      rw [Line.next] at hnext
      split at hnext
      · split at hnext <;> simp at hnext
      · simp at hnext
    | crc n digits =>
      rw [Line.next] at hnext
      split at hnext
      · have hn := hlen n digits rfl
        obtain ⟨rfl, -⟩ : n + 1 = loaded ∧ 1 = 1 := by simpa using hnext
        omega
      · simp at hnext
  -- behind the second
  obtain ⟨-, hsame' | ⟨loaded, message, hcrc, hlt, hgiven⟩⟩ :=
    nmeaStep_line hex sentence hfirst b
  · exact .inl (hsame'.trans (hsame.trans hstar))
  · have hne := hsecond loaded hcrc
    refine .inr ⟨message, loaded + 1, by omega, ?_, ?_⟩
    · rw [nmeaMsgSize] at hlt
      omega
    · rw [← hstar, ← hsame]
      exact hgiven

/-- The sentence is received when no line is open. -/
private theorem received_of_idle (h : InLine r .idle) (hpos : payload ≠ []) (hpayload : IsPayload payload)
    (hlen : payload.length + 4 ≤ nmeaMsgSize) (ha : hexValue a = some va) (hb : hexValue b = some vb)
    (hcrc : xorOf payload = va <<< 4 ||| vb) :
    Received r (run (nmeaStep hex sentence) r (sentenceOf payload a b)) payload a b := by
  obtain ⟨hhanded, hok, -⟩ := sentence_loaded hex sentence h.1 h.2 hpos hpayload hlen ha hb
  rw [nmeaCalcChecksum_eq, if_pos hcrc] at hok
  exact ⟨hhanded, hok⟩

/-- In every reachable state of the parser a good sentence is received if and only if no line is open in front of it. -/
theorem sentence_received_iff (hex : HexHelpers) (hdollar : hex.isHexDigit dollar = false)
    (sentence : Mem → D → Sentence D) (data : D) (stream payload : List UInt8) (a b va vb : UInt8)
    (hpos : payload ≠ []) (hpayload : IsPayload payload) (hlen : payload.length + 4 ≤ nmeaMsgSize)
    (ha : hexValue a = some va) (hb : hexValue b = some vb) (hcrc : xorOf payload = va <<< 4 ||| vb) :
    let r := run (nmeaStep hex sentence) (NmeaReceiver.init data) stream
    Received r (run (nmeaStep hex sentence) r (sentenceOf payload a b)) payload a b ↔
      Line.idle.after hex stream = .idle := by
  have hline := run_inLine hex sentence (init_inLine data) stream
  dsimp only
  generalize run (nmeaStep hex sentence) (NmeaReceiver.init data) stream = r at hline ⊢
  constructor
  · intro hreceived
    by_contra hopen
    have hnostar : asterisk ∉ payload := fun hmem => (hpayload asterisk hmem).1 rfl
    have hastray := ((astray_dollar hex sentence hdollar hline hopen).payloads hex sentence (Nat.le_refl 1)
      hnostar).checksum hex sentence a b
    have hrun : run (nmeaStep hex sentence) (run (nmeaStep hex sentence) (nmeaStep hex sentence r dollar) payload)
        [asterisk, a, b] = run (nmeaStep hex sentence) r (sentenceOf payload a b) := by
      rw [sentenceOf, run_cons dollar, run_append payload]
    dsimp only at hastray
    rw [hrun, hreceived.handed] at hastray
    obtain hnone | ⟨message, len, hne, hlt, hone⟩ := hastray
    · exact absurd (congrArg List.length hnone) (by simp)
    · obtain ⟨-, hl⟩ := Prod.mk.inj (List.cons.inj hone).1
      have hsize : nmeaMsgSize = 300 := rfl
      have hnat := congrArg UInt16.toNat hl
      rw [UInt16.toNat_ofNat', UInt16.toNat_ofNat'] at hnat
      omega
  · intro hidle
    rw [hidle] at hline
    exact received_of_idle hex sentence hline hpos hpayload hlen ha hb hcrc

/-- A `$` that is not followed by 300 bytes or an asterisk loses the sentence behind it; here `$G$A*41`. -/
theorem not_sentence_received : ¬∀ stream : List UInt8, asterisk ∉ stream →
    let r := run (nmeaStep standardHex unread) (NmeaReceiver.init ()) stream
    Received r (run (nmeaStep standardHex unread) r (sentenceOf [0x41] 0x34 0x31)) [0x41] 0x34 0x31 := by
  intro h
  have hcounted := (h [0x24, 0x47] (by decide)).counted
  have hzero : (run (nmeaStep standardHex unread) (run (nmeaStep standardHex unread) (NmeaReceiver.init ())
      [0x24, 0x47]) (sentenceOf [0x41] 0x34 0x31)).proto.crcOkCnt = 0 := by decide +kernel
  rw [hzero] at hcounted
  exact absurd hcounted (by decide +kernel)

/-- A `$` with 300 bytes and no asterisk behind it. -/
def overlongLine : List UInt8 := dollar :: List.replicate nmeaMsgSize 0x41

/-- An overlong line is closed by the byte that no longer fits, so the sentence behind it is received. -/
theorem overlong_sentence_received :
    let r := run (nmeaStep standardHex unread) (NmeaReceiver.init ()) overlongLine
    Received r (run (nmeaStep standardHex unread) r (sentenceOf gpgga 0x35 0x36)) gpgga 0x35 0x36 := by
  have hnostar : asterisk ∉ List.replicate nmeaMsgSize (0x41 : UInt8) :=
    fun hmem => absurd (List.eq_of_mem_replicate hmem) (by decide)
  have hclosed := after_payload standardHex (show 1 ≤ nmeaMsgSize by decide) hnostar
  rw [List.length_replicate, if_neg (by decide), List.drop_of_length_le (by rw [List.length_replicate]; decide)] at hclosed
  exact (sentence_received_iff standardHex (by decide) unread () overlongLine gpgga 0x35 0x36 5 6 (by decide)
    (by simp [IsPayload, gpgga, asterisk]) (by decide) rfl rfl (by decide)).2 hclosed

end TiMcu.Nmea
