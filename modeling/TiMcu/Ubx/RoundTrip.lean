import TiMcu.Ubx.Loaded

/-!
# UBX messages through the parser

The bytes that `ubx_send_message` hands to the UART are frames of the parser if the payload is not empty and fits, so a
stream of such messages is received as sent.  A message without a payload, such as the poll requests of the driver, is
never received: no packet of the parser has an empty payload.
-/

namespace TiMcu.Ubx

open NorFlash LittleEndian Framing Runs

variable {W W' : Type} {env : UbxEnv W} {u : Receiver W} {d : UbxDriver W'} {m : UbxPacket} {msgs : List UbxPacket}

/-! ### The bytes that are sent -/

/-- The header and the payload of a message. -/
def ubxBody (m : UbxPacket) : List UInt8 := [ubxSyn0, ubxSyn1, m.cls, m.id, lo m.len, hi m.len] ++ m.payload

def ubxFrame (m : UbxPacket) : List UInt8 :=
  let crc16 := ubxCalcCrc16 ((ubxBody m).drop 2)
  ubxBody m ++ [lo crc16, hi crc16]

/-- The messages are sent one after the other, and the UART takes all of them. -/
def ubxSendMessages (d : UbxDriver W') (msgs : List UbxPacket) : UbxDriver W' :=
  msgs.foldl (fun d m => (ubxSendMessage true d m).2) d

/-- The bytes that go to the UART. -/
def sentBytes (d : UbxDriver W') (msgs : List UbxPacket) : List UInt8 := (ubxSendMessages { d with line := [] } msgs).line

theorem toNat_len (h : m.payload.length < 2 ^ 16) : m.len.toNat = m.payload.length := by
  rw [UbxPacket.len, UInt16.toNat_ofNat']
  omega

private theorem ubxBody_length (m : UbxPacket) : (ubxBody m).length = ubxHeaderSize + m.payload.length := by
  rw [ubxBody, List.length_append]
  rfl

private theorem bytesAt_fillTxArray (txArray : Mem) (h : m.payload.length < 2 ^ 16) :
    bytesAt (fillTxArray txArray m) 0 (ubxHeaderSize + m.payload.length) = ubxBody m := by
  have hheader : bytesAt (Buffer.write txArray 0 [ubxSyn0, ubxSyn1, m.cls, m.id, lo m.len, hi m.len]) 0 ubxHeaderSize =
      [ubxSyn0, ubxSyn1, m.cls, m.id, lo m.len, hi m.len] :=
    Buffer.bytesAt_write txArray 0 [ubxSyn0, ubxSyn1, m.cls, m.id, lo m.len, hi m.len]
  simp only [fillTxArray, toNat_len h]
  by_cases hpos : 0 < m.payload.length
  · rw [if_pos hpos, Buffer.bytesAt_write, hheader, ubxBody]
  · have hnil : m.payload = [] := List.length_eq_zero_iff.1 (by omega)
    rw [if_neg hpos, hnil, List.length_nil, Nat.add_zero, hheader, ubxBody, hnil, List.append_nil]

private theorem ubxSendMessage_line (d : UbxDriver W') (h : m.payload.length ≤ 92) :
    (ubxSendMessage true d m).2.line = d.line ++ ubxFrame m := by
  have hlen := toNat_len (m := m) (by omega)
  have hbody := bytesAt_fillTxArray d.txArray (m := m) (by omega)
  have hcrcLen : (m.len + 4).toNat = m.payload.length + 4 := by
    rw [UInt16.toNat_add, hlen]
    simp
    omega
  have htotal : (m.len + UInt16.ofNat ubxHeaderSize + 2).toNat = ubxHeaderSize + m.payload.length + 2 := by
    rw [UInt16.toNat_add, UInt16.toNat_add, hlen, show ubxHeaderSize = 6 from rfl]
    simp
    omega
  have hcheck : bytesAt (fillTxArray d.txArray m) 2 (m.payload.length + 4) = (ubxBody m).drop 2 := by
    rw [← hbody, show ubxHeaderSize + m.payload.length = 2 + (m.payload.length + 4) by
      rw [show ubxHeaderSize = 6 from rfl]; omega, Buffer.drop_bytesAt]
  simp only [ubxSendMessage, UbxDriver.transmit, UbxDriver.compose, if_true, htotal, hcrcLen, hlen, hcheck]
  rw [show ubxHeaderSize + m.payload.length + 2 = ubxHeaderSize + m.payload.length +
    [lo (ubxCalcCrc16 ((ubxBody m).drop 2)), hi (ubxCalcCrc16 ((ubxBody m).drop 2))].length from rfl,
    Buffer.bytesAt_write, hbody]
  rfl

private theorem ubxSendMessages_line (d : UbxDriver W') (h : ∀ m ∈ msgs, m.payload.length ≤ 92) :
    (ubxSendMessages d msgs).line = d.line ++ (msgs.map ubxFrame).flatten := by
  induction msgs generalizing d with
  | nil => exact (List.append_nil _).symm
  | cons m msgs ih =>
    have hm := ubxSendMessage_line d (h m List.mem_cons_self)
    have hrest := ih (ubxSendMessage true d m).2 fun m' hm' => h m' (List.mem_cons_of_mem m hm')
    rw [ubxSendMessages, List.foldl_cons]
    rw [ubxSendMessages] at hrest
    rw [hrest, hm, List.map_cons, List.flatten_cons, List.append_assoc]

private theorem sentBytes_eq (d : UbxDriver W') (h : ∀ m ∈ msgs, m.payload.length ≤ 92) :
    sentBytes d msgs = (msgs.map ubxFrame).flatten := ubxSendMessages_line { d with line := [] } h

/-! ### What the parser makes of them -/

theorem ubxFrame_length (m : UbxPacket) : (ubxFrame m).length = ubxHeaderSize + m.payload.length + 2 := by
  rw [ubxFrame, List.length_append, ubxBody_length]
  rfl

theorem declaredLen_ubxFrame (m : UbxPacket) : declaredLen (ubxFrame m) = m.len := by
  have hlen : declaredLen (ubxFrame m) = join (lo m.len) (hi m.len) := rfl
  rw [hlen, join_lo_hi]

theorem packetOf_ubxFrame (h : m.payload.length ≤ 92) : packetOf (ubxFrame m) = m := by
  have hpayload : ((ubxFrame m).drop ubxHeaderSize).take m.payload.length = m.payload := List.take_left
  rw [packetOf, declaredLen_ubxFrame, toNat_len (by omega), hpayload]
  rfl

private theorem crcOk_ubxFrame (h : m.payload.length ≤ 92) : CrcOk (ubxFrame m) := by
  have hend : ubxHeaderSize + m.payload.length = (ubxBody m).length := (ubxBody_length m).symm
  have hlow : (ubxFrame m).getD (ubxBody m).length 0 = lo (ubxCalcCrc16 ((ubxBody m).drop 2)) := by
    simp [ubxFrame, List.getD_eq_getElem?_getD]
  have hhigh : (ubxFrame m).getD ((ubxBody m).length + 1) 0 = hi (ubxCalcCrc16 ((ubxBody m).drop 2)) := by
    simp [ubxFrame, List.getD_eq_getElem?_getD]
  have htake : (ubxFrame m).take (ubxBody m).length = ubxBody m := List.take_left
  rw [CrcOk, declaredLen_ubxFrame, toNat_len (by omega), hend, hlow, hhigh, htake, join_lo_hi]

/-- A message with a payload is a frame. -/
theorem isFrame_ubxFrame (h : m.payload.length ≤ 92) (hne : m.payload ≠ []) : IsFrame ubxVerdict (ubxFrame m) := by
  have hheader : ubxHeaderSize = 6 := rfl
  have hsize : ubxRxFrameSize = 100 := rfl
  have hpos : 0 < m.payload.length := List.length_pos_iff.2 hne
  have hlen := toNat_len (m := m) (by omega)
  have hlength := ubxFrame_length m
  have hframeLen : frameLen (ubxFrame m) = ubxHeaderSize + m.payload.length + 2 := by
    rw [frameLen, declaredLen_ubxFrame, hlen]
    rfl
  have hhead : (ubxFrame m).head? = some ubxSyn0 := rfl
  have hsecond : (ubxFrame m).getD 1 0 = ubxSyn1 := rfl
  refine IsFrame.of_splits (by simp [ubxFrame]) (fun q t hq htpos ht => ?_) ?_
  · have hqpos : 0 < q.length := List.length_pos_iff.2 hq
    have hsum : q.length + t.length = ubxHeaderSize + m.payload.length + 2 := by
      rw [← hlength, ht, List.length_append]
    have hqhead : q.head? = some ubxSyn0 := by
      rwa [ht, List.head?_append_of_ne_nil _ hq] at hhead
    rw [ubxVerdict, if_neg (not_not.2 hqhead)]
    split
    · rfl
    · have hqsecond : q.getD 1 0 = ubxSyn1 := by
        rwa [ht, List.getD_append _ _ _ _ (by omega)] at hsecond
      rw [if_neg (not_not.2 hqsecond)]
      split
      · rfl
      · have hdeclared : declaredLen q = m.len := by
          rw [← declaredLen_append (by omega) t, ← ht, declaredLen_ubxFrame]
        have hframe : frameLen q = ubxHeaderSize + m.payload.length + 2 := by
          rw [frameLen, hdeclared, hlen]
          rfl
        rw [hdeclared, hlen, if_neg (by omega)]
        split
        · rfl
        · rw [if_neg (by omega), if_pos (by omega)]
  · rw [ubxVerdict, if_neg (not_not.2 hhead), if_neg (by omega), if_neg (not_not.2 hsecond), if_neg (by omega),
      declaredLen_ubxFrame, hlen, if_neg (by omega), if_neg (by omega), if_neg (by omega), if_neg (by omega), if_pos]
    exact ⟨by rw [hframeLen, hlength], crcOk_ubxFrame h⟩

/-- A frame of the parser declares a payload. -/
private theorem declaredLen_of_frame {f : List UInt8} (h : ubxVerdict f = .frame) : 0 < (declaredLen f).toNat := by
  by_contra hzero
  have hsix : frameLen f = ubxHeaderSize + 2 := by
    rw [frameLen, show (declaredLen f).toNat = 0 by omega]
    rfl
  unfold ubxVerdict at h
  split at h
  · simp at h
  split at h
  · simp at h
  split at h
  · simp at h
  split at h
  · simp at h
  split at h
  · simp at h
  split at h
  · simp at h
  · rw [if_pos (by omega)] at h
    simp at h

theorem carries_of_mem {fs : List (List UInt8)} {ms : List UbxPacket} (h : List.Forall₂ Carries ms fs) (hm : m ∈ ms) :
    ∃ f ∈ fs, Carries m f := by
  induction h with
  | nil => simp at hm
  | @cons m' f ms fs hcarry _ ih =>
    rcases List.mem_cons.1 hm with rfl | hm
    · exact ⟨f, List.mem_cons_self, hcarry⟩
    · obtain ⟨g, hg, hcarry'⟩ := ih hm
      exact ⟨g, List.mem_cons_of_mem f hg, hcarry'⟩

/-- No packet without a payload is received. -/
private theorem payload_of_mem_ubxPackets (hu : u.proto.rxState = .waitSyc0) {bytes : List UInt8}
    (h : m ∈ ubxPackets env u bytes) : m.payload ≠ [] := by
  obtain ⟨-, hcarries⟩ := run_loaded env (loaded_nil hu) bytes
  obtain ⟨f, hf, hm⟩ := carries_of_mem hcarries h
  have hpos := declaredLen_of_frame (verdict_of_mem_frames hf)
  rw [← hm.length] at hpos
  exact List.length_pos_iff.1 hpos

/-! ### The round trip -/

/-- The stream is received as these messages, and the parser waits for the first sync byte afterwards. -/
def Receives (env : UbxEnv W) (u : Receiver W) (bytes : List UInt8) (msgs : List UbxPacket) : Prop :=
  ubxPackets env u bytes = msgs ∧ (run (ubxStep env) u bytes).proto.rxState = .waitSyc0

theorem carries_map {fs : List (List UInt8)} {ms : List UbxPacket} (h : List.Forall₂ Carries ms fs)
    (hfits : ∀ f ∈ fs, ubxHeaderSize + (declaredLen f).toNat ≤ ubxRxFrameSize) : ms = fs.map packetOf := by
  induction h with
  | nil => rfl
  | @cons m f ms fs hcarry _ ih =>
    rw [List.map_cons, hcarry.eq_packetOf (hfits f List.mem_cons_self),
      ih fun g hg => hfits g (List.mem_cons_of_mem f hg)]

/-- Messages of at most 92 bytes are received as sent if and only if each of them has a payload. -/
theorem messages_received_iff (env : UbxEnv W) (d : UbxDriver W') (hu : u.proto.rxState = .waitSyc0)
    (h : ∀ m ∈ msgs, m.payload.length ≤ 92) :
    Receives env u (sentBytes d msgs) msgs ↔ ∀ m ∈ msgs, m.payload ≠ [] := by
  constructor
  · rintro ⟨hpackets, -⟩ m hm
    rw [← hpackets] at hm
    exact payload_of_mem_ubxPackets hu hm
  · intro hne
    obtain ⟨hloaded, hcarries⟩ := run_loaded env (loaded_nil hu) (sentBytes d msgs)
    have hframes : ∀ f ∈ msgs.map ubxFrame, IsFrame ubxVerdict f := by
      intro f hf
      obtain ⟨m, hm, rfl⟩ := List.mem_map.1 hf
      exact isFrame_ubxFrame (h m hm) (hne m hm)
    obtain ⟨hheld, hfs⟩ := frames_flatten hframes
    rw [sentBytes_eq d h] at hloaded hcarries ⊢
    rw [hheld] at hloaded
    rw [hfs] at hcarries
    refine ⟨?_, hloaded.rxState⟩
    have hfits : ∀ f ∈ msgs.map ubxFrame, ubxHeaderSize + (declaredLen f).toNat ≤ ubxRxFrameSize := by
      intro f hf
      obtain ⟨m, hm, rfl⟩ := List.mem_map.1 hf
      have hle := h m hm
      rw [declaredLen_ubxFrame, toNat_len (by omega), show ubxHeaderSize = 6 from rfl, show ubxRxFrameSize = 100 from rfl]
      omega
    rw [carries_map hcarries hfits, List.map_map]
    calc msgs.map (packetOf ∘ ubxFrame) = msgs.map id :=
          List.map_congr_left fun m hm => packetOf_ubxFrame (h m hm)
      _ = msgs := List.map_id msgs

/-- An acknowledgement and a message with a payload of one byte. -/
def twoMessages : List UbxPacket := [⟨0x05, 0x01, [0x06, 0x8A]⟩, ⟨0x06, 0x01, [0xFF]⟩]

theorem twoMessages_received :
    Receives idleEnv (Receiver.init 0 ()) (sentBytes (UbxDriver.init 0 ()) twoMessages) twoMessages :=
  (messages_received_iff idleEnv (UbxDriver.init 0 ()) rfl (by decide)).2 (by decide)

/-- The poll request for `NAV-TIMEUTC` is not received. -/
theorem not_pollRequest_received : ¬∀ msgs : List UbxPacket, (∀ m ∈ msgs, m.payload.length ≤ 92) →
    Receives idleEnv (Receiver.init 0 ()) (sentBytes (UbxDriver.init 0 ()) msgs) msgs := by
  intro h
  have hpackets := (h [⟨0x01, 0x21, []⟩] (by decide)).1
  have hmem : (⟨0x01, 0x21, []⟩ : UbxPacket) ∈ ubxPackets idleEnv (Receiver.init 0 ())
      (sentBytes (UbxDriver.init 0 ()) [⟨0x01, 0x21, []⟩]) := by
    rw [hpackets]
    exact List.mem_cons_self
  exact payload_of_mem_ubxPackets rfl hmem rfl

end TiMcu.Ubx
