import TiMcu.Radio.Machine

/-!
# What a radio sends

Every message that the machine of `IF_SX1262` sends takes the next serial number.  `Works` relates a list of messages to
the state of the machine: their frames are those that it has built, the frame buffer and what the chip was given are
fronts of them, and every frame given to `tbfp_retx_start` is one of them.  A front completes no other frame at a
receiver (`FrontOf.frames`).

A message is an acknowledgement only of a serial number that the device was asked to acknowledge (`Q`), and the machine
gets only acknowledgements of some kind (`G`).  `Works.step` says what the next event adds.
-/

namespace TiMcu.Tbfp

open NorFlash LittleEndian Framing Runs

variable {crc8SaeJ1850Calc : List UInt8 → UInt8} {n m : Node} {spi : Bool} {sent sent' : List Message} {bytes : List UInt8}
variable {Q G Q' G' : UInt16 → Prop}

/-! ### Messages -/

/-- The serial numbers count from one. -/
def Numbered (sent : List Message) : Prop :=
  sent.map (·.snum) = (List.range sent.length).map fun i => UInt16.ofNat (i + 1)

/-- The message asks for an acknowledgement. -/
def Message.AsksAck (m : Message) : Prop := m.flags &&& 0x80 ≠ 0

/-- A message with the id of an acknowledgement is one, and of a number with `Q`. -/
inductive Message.Answers (Q : UInt16 → Prop) (m : Message) : Prop
  | other (hid : m.payload.head? ≠ some frameIdAck)
  | ack {snum : UInt16} (hq : Q snum) (hflags : m.flags = 0) (hpayload : m.payload = (ackPayload snum).bytes)

theorem numbered_nil : Numbered [] := rfl

theorem Numbered.concat (h : Numbered sent) {m : Message} (hm : m.snum = UInt16.ofNat (sent.length + 1)) :
    Numbered (sent ++ [m]) := by
  unfold Numbered at h ⊢
  rw [List.map_append, h, List.length_append, List.length_singleton, List.range_succ, List.map_append]
  simp [hm]

/-- Fewer than 65536 messages have different numbers. -/
theorem Numbered.inj (h : Numbered sent) (hlt : sent.length < 2 ^ 16) {m m' : Message} (hm : m ∈ sent) (hm' : m' ∈ sent)
    (hsnum : m.snum = m'.snum) : m = m' := by
  have hnodup : (sent.map (·.snum)).Nodup := by
    rw [h]
    refine List.nodup_range.map_on fun i hi j hj hij => ?_
    rw [List.mem_range] at hi hj
    have hnat := congrArg UInt16.toNat hij
    simp only [UInt16.toNat_ofNat'] at hnat
    omega
  exact List.inj_on_of_nodup_map hnodup hm hm' hsnum

theorem Message.Answers.mono {m : Message} (h : m.Answers Q) (hQ : ∀ s, Q s → Q' s) : m.Answers Q' := by
  cases h with
  | other hid => exact .other hid
  | ack hq hflags hpayload => exact .ack (hQ _ hq) hflags hpayload

/-! ### Fronts of frames -/

/-- The bytes are zero, or those of a frame with zeros behind it, up to some end. -/
def FrontOf (crc8SaeJ1850Calc : List UInt8 → UInt8) (sent : List Message) (bytes : List UInt8) : Prop :=
  ∃ k ≤ tbfpMaxFrame, bytes <+: List.replicate k 0 ∨
    ∃ m ∈ sent, bytes <+: m.frame crc8SaeJ1850Calc tbfpPreambleSx1262 ++ List.replicate k 0

theorem FrontOf.take (h : FrontOf crc8SaeJ1850Calc sent bytes) (len : Nat) :
    FrontOf crc8SaeJ1850Calc sent (bytes.take len) := by
  obtain ⟨k, hk, hzero | ⟨m, hm, hfront⟩⟩ := h
  · exact ⟨k, hk, .inl ((List.take_prefix len bytes).trans hzero)⟩
  · exact ⟨k, hk, .inr ⟨m, hm, (List.take_prefix len bytes).trans hfront⟩⟩

theorem FrontOf.mono (h : FrontOf crc8SaeJ1850Calc sent bytes) (hsent : sent <+: sent') :
    FrontOf crc8SaeJ1850Calc sent' bytes := by
  obtain ⟨k, hk, hzero | ⟨m, hm, hfront⟩⟩ := h
  · exact ⟨k, hk, .inl hzero⟩
  · exact ⟨k, hk, .inr ⟨m, hsent.subset hm, hfront⟩⟩

theorem frontOf_nil (sent : List Message) : FrontOf crc8SaeJ1850Calc sent [] :=
  ⟨0, Nat.zero_le _, .inl (List.prefix_refl _)⟩

theorem frontOf_zero (sent : List Message) : FrontOf crc8SaeJ1850Calc sent TxFrame.zero.bytes :=
  ⟨tbfpMaxFrame, Nat.le_refl _, .inl (List.prefix_refl _)⟩

private theorem frontOf_frame {m : Message} (hm : m ∈ sent) :
    FrontOf crc8SaeJ1850Calc sent (m.frame crc8SaeJ1850Calc tbfpPreambleSx1262) :=
  ⟨0, Nat.zero_le _, .inr ⟨m, hm, by simp⟩⟩

/-- A `uint16_t` holds the length. -/
theorem FrontOf.length_lt (h : FrontOf crc8SaeJ1850Calc sent bytes) (hfits : ∀ m ∈ sent, m.Fits) :
    bytes.length < 2 ^ 16 := by
  have hmax := tbfpMaxFrame_eq
  have hover : tbfpSizeOverhead = 7 := rfl
  obtain ⟨k, hk, hzero | ⟨m, hm, hfront⟩⟩ := h
  · have hle := hzero.length_le
    rw [List.length_replicate] at hle
    omega
  · have hle := hfront.length_le
    have hpayload := (hfits m hm).2
    rw [List.length_append, List.length_replicate, Message.frame, tbfFrame_length] at hle
    omega

/-- Zeros begin no frame. -/
private theorem frames_replicate (k : Nat) :
    frames (tbfpVerdict crc8SaeJ1850Calc tbfpPreambleSx1262) [] (List.replicate k 0) = [] := by
  refine (held_noise fun b hb => ?_).2
  rw [List.eq_of_mem_replicate hb]
  rfl

/-- A receiver completes at most the frame of the message. -/
theorem FrontOf.frames (h : FrontOf crc8SaeJ1850Calc sent bytes) (hfits : ∀ m ∈ sent, m.Fits) {f : List UInt8}
    (hf : f ∈ frames (tbfpVerdict crc8SaeJ1850Calc tbfpPreambleSx1262) [] bytes) :
    ∃ m ∈ sent, f = m.frame crc8SaeJ1850Calc tbfpPreambleSx1262 := by
  have hmem : ∀ all, bytes <+: all → f ∈ Framing.frames (tbfpVerdict crc8SaeJ1850Calc tbfpPreambleSx1262) [] all :=
    fun all hall => (frames_isPrefix [] hall).subset hf
  obtain ⟨k, -, hzero | ⟨m, hm, hfront⟩⟩ := h
  · have hnone := hmem _ hzero
    rw [frames_replicate] at hnone
    exact absurd hnone List.not_mem_nil
  · have hone := hmem _ hfront
    have hframe : IsFrame (tbfpVerdict crc8SaeJ1850Calc tbfpPreambleSx1262)
        (m.frame crc8SaeJ1850Calc tbfpPreambleSx1262) := (hfits m hm).isFrame
    rw [frames_append, hframe.fed.1, hframe.fed.2, frames_replicate, List.append_nil, List.mem_singleton] at hone
    exact ⟨m, hm, hone⟩

/-! ### The machine and its messages -/

structure Works (crc8SaeJ1850Calc : List UInt8 → UInt8) (Q G : UInt16 → Prop) (sent : List Message) (n : Node) :
    Prop where
  interface : n.tbfp.interface = .sx1262
  preambleVal : n.tbfp.preambleVal = tbfpPreambleSx1262
  sNum : n.tbfp.sNum = UInt16.ofNat (sent.length + 1)
  built : n.tbfp.built = (sent.map (·.frame crc8SaeJ1850Calc tbfpPreambleSx1262)).reverse
  numbered : Numbered sent
  fits : ∀ m ∈ sent, m.Fits
  answers : ∀ m ∈ sent, m.Answers Q
  buffer : FrontOf crc8SaeJ1850Calc sent n.tbfp.txFrame.bytes
  fifo : FrontOf crc8SaeJ1850Calc sent n.radio.fifo
  given : ∀ f ∈ givenFrames n.trace, ∃ m ∈ sent, f = m.frame crc8SaeJ1850Calc tbfpPreambleSx1262
  acks : ∀ s, .gotAck s ∈ n.trace → G s

theorem Works.mono (h : Works crc8SaeJ1850Calc Q G sent n) (hQ : ∀ s, Q s → Q' s) (hG : ∀ s, G s → G' s) :
    Works crc8SaeJ1850Calc Q' G' sent n :=
  { h with answers := fun m hm => (h.answers m hm).mono hQ, acks := fun s hs => hG s (h.acks s hs) }

/-- The entry is neither a frame for the machine nor an acknowledgement. -/
def Obs.Moving : Obs → Prop
  | .given _ | .gotAck _ => False
  | _ => True

/-- No message is added. -/
structure Moves (n m : Node) : Prop where
  interface : m.tbfp.interface = n.tbfp.interface
  preambleVal : m.tbfp.preambleVal = n.tbfp.preambleVal
  sNum : m.tbfp.sNum = n.tbfp.sNum
  built : m.tbfp.built = n.tbfp.built
  txFrame : m.tbfp.txFrame = n.tbfp.txFrame
  fifo : m.radio.fifo = n.radio.fifo ∨ ∃ len, m.radio.fifo = n.tbfp.txFrame.bytes.take len
  trace : ∃ newer, m.trace = newer ++ n.trace ∧ ∀ o ∈ newer, o.Moving

theorem Moves.refl (n : Node) : Moves n n := ⟨rfl, rfl, rfl, rfl, rfl, .inl rfl, [], rfl, by simp⟩

theorem Works.moves (h : Works crc8SaeJ1850Calc Q G sent n) (hm : Moves n m) : Works crc8SaeJ1850Calc Q G sent m := by
  obtain ⟨newer, htrace, hnewer⟩ := hm.trace
  have hgiven : givenFrames m.trace = givenFrames n.trace := by
    have hnone : newer.filterMap Obs.givenFrame = [] := by
      rw [List.filterMap_eq_nil_iff]
      intro o ho
      cases o with
      | given f => exact absurd (hnewer _ ho) id
      | _ => rfl
    simp [givenFrames, htrace, hnone]
  refine ⟨hm.interface.trans h.interface, hm.preambleVal.trans h.preambleVal, hm.sNum.trans h.sNum,
    hm.built.trans h.built, h.numbered, h.fits, h.answers, ?_, ?_, ?_, fun s hs => ?_⟩
  · rw [hm.txFrame]
    exact h.buffer
  · rcases hm.fifo with hsame | ⟨len, htake⟩
    · rw [hsame]
      exact h.fifo
    · rw [htake]
      exact h.buffer.take len
  · rw [hgiven]
    exact h.given
  · rw [htrace, List.mem_append] at hs
    rcases hs with hs | hs
    · exact absurd (hnewer _ hs) id
    · exact h.acks s hs

/-- What the driver does with the bytes it is given. -/
private theorem sx1262StartTx_front (spi : Bool) (radio : Sx1262) (txBuf : List UInt8) (txLen : UInt16) :
    (sx1262StartTx spi radio txBuf txLen).2.fifo = radio.fifo ∨
      ∃ len, (sx1262StartTx spi radio txBuf txLen).2.fifo = txBuf.take len := by
  unfold sx1262StartTx
  split
  · split
    · dsimp only
      split
      · exact .inr ⟨_, rfl⟩
      · exact .inl rfl
    · exact .inl rfl
  · exact .inl rfl

private theorem sendTry_moves (spi : Bool) (n : Node) : Moves n (sendTry spi n).2 := by
  have hfifo := sx1262StartTx_front spi n.radio n.tbfp.txFrame.bytes n.tbfp.txFrameLen.toUInt16
  unfold sendTry
  dsimp only
  split
  · exact ⟨rfl, rfl, rfl, rfl, rfl, hfifo, [_], rfl, by simp [Obs.Moving]⟩
  · exact ⟨rfl, rfl, rfl, rfl, rfl, hfifo, [], rfl, by simp⟩

/-- What a poll does with the node. -/
inductive PollStep (spi : Bool) (n : Node) : Node → Prop
  | rest : PollStep spi n n
  | tries (hi : n.tbfp.interface = .sx1262) : PollStep spi n (sendTry spi n).2
  | raises (input : TbfpReTxInput) : PollStep spi n (n.raise input)
  | moves (fsm : TbfpReTxFsm) : PollStep spi n (n.move fsm)

/-- A waiting machine is not tried. -/
private theorem Polled.pollStep (h : Polled spi n m) (hwait : n.tbfp.reTxFsm.state ≠ .idle) : PollStep spi n m := by
  cases h with
  | rest => exact .rest
  | tried hidle => exact absurd hidle hwait
  | txDoneTimeOut | ackTimeOut => exact .raises _
  | onAir | lackTxDone | ackOk | lackAck => exact .moves _

theorem tbfpProcRetxOne_pollStep (spi : Bool) (n : Node) : PollStep spi n (tbfpProcRetxOne spi n).2 := by
  by_cases hidle : n.tbfp.reTxFsm.state = .idle
  · simp only [tbfpProcRetxOne, hidle, tbfpProcRetxIdle]
    split
    · split
      · next hi => exact .tries hi
      · exact .rest
    · exact .rest
  · exact (tbfpProcRetxOne_polled spi n).pollStep hidle

/-- A poll adds no message. -/
theorem tbfpProcRetxOne_moves (spi : Bool) (n : Node) : Moves n (tbfpProcRetxOne spi n).2 := by
  have hstep := tbfpProcRetxOne_pollStep spi n
  generalize (tbfpProcRetxOne spi n).2 = m at hstep ⊢
  cases hstep with
  | rest => exact .refl n
  | tries => exact sendTry_moves spi n
  | raises input => exact ⟨rfl, rfl, rfl, rfl, rfl, .inl rfl, [_], rfl, by simp [Obs.Moving]⟩
  | moves fsm => exact ⟨rfl, rfl, rfl, rfl, rfl, .inl rfl, [_], rfl, by simp [Obs.Moving]⟩

/-! ### A new message -/

/-- Bytes are copied behind what the buffer holds already. -/
private theorem TxFrame.copy_behind (t : TxFrame) {front : List UInt8} {k : Nat}
    (h : t.bytes = front ++ List.replicate k 0)
    (src : List UInt8) (hfits : front.length + src.length ≤ tbfpMaxFrame) :
    (t.copy front.length src).bytes = front ++ src ++ List.replicate (k - src.length) 0 := by
  have hlen := t.length_eq
  rw [h, List.length_append, List.length_replicate] at hlen
  have hrest : t.bytes.drop (front.length + src.length) = List.replicate (k - src.length) 0 := by
    rw [h, ← List.drop_drop, List.drop_left, List.drop_replicate]
  unfold TxFrame.copy
  dsimp only
  rw [hrest, h, List.take_left, List.take_of_length_le]
  simp only [List.length_append, List.length_replicate]
  omega

/-- A front of the buffer is copied onto itself. -/
private theorem TxFrame.copy_take (t : TxFrame) (len : Nat) : (t.copy 0 (t.bytes.take len)).bytes = t.bytes := by
  have hlen := t.length_eq
  unfold TxFrame.copy
  dsimp only
  rw [List.take_zero, List.nil_append, Nat.zero_add, List.length_take]
  rcases Nat.le_total len t.bytes.length with hle | hle
  · rw [Nat.min_eq_left hle, List.take_append_drop, List.take_of_length_le (by omega)]
  · rw [Nat.min_eq_right hle, List.drop_length, List.append_nil, List.take_of_length_le hle,
      List.take_of_length_le (by omega)]

/-- The payload and the checksum go behind the header. -/
private theorem fillFrame_buffer {payload : Payload} {header : List UInt8} {k : Nat}
    (hlen : header.length = tbfpSizeHeader)
    (hlt : payload.bytes.length < tbfpMaxPayload) (h : n.tbfp.txFrame.bytes = header ++ List.replicate k 0) :
    (n.fillFrame crc8SaeJ1850Calc payload).tbfp.txFrame.bytes =
      header ++ payload.bytes ++ [crc8SaeJ1850Calc (header ++ payload.bytes)] ++
        List.replicate (k - payload.bytes.length - 1) 0 := by
  have hmax : tbfpMaxPayload = 1039 := rfl
  have hmax' : tbfpMaxFrame = 1046 := rfl
  have hheader : tbfpSizeHeader = 6 := rfl
  have hindex : header.length = tbfpIndexPayload := hlen
  have hpayload := n.tbfp.txFrame.copy_behind h payload.bytes (by omega)
  have hbody : (header ++ payload.bytes).length = tbfpSizeHeader + payload.bytes.length := by
    rw [List.length_append, hlen]
  rw [hindex] at hpayload
  have hcrc := (n.tbfp.txFrame.copy tbfpIndexPayload payload.bytes).copy_behind hpayload
    [crc8SaeJ1850Calc (header ++ payload.bytes)] (by rw [hbody, List.length_singleton]; omega)
  have htake : (n.tbfp.txFrame.copy tbfpIndexPayload payload.bytes).bytes.take (tbfpSizeHeader + payload.bytes.length) =
      header ++ payload.bytes := by
    rw [hpayload, ← hbody, List.take_left]
  unfold Node.fillFrame
  dsimp only
  rw [htake]
  rw [hbody] at hcrc
  exact hcrc

/-- What `tbfp_send` has in the frame buffer: the new frame with zeros behind it. -/
private theorem buildFrame_built {payload : Payload} {lifetime : UInt8} {ack : TbfpAck}
    (h : (n.buildFrame crc8SaeJ1850Calc payload lifetime ack).1 = true) :
    let b := (n.buildFrame crc8SaeJ1850Calc payload lifetime ack).2
    ∃ k ≤ tbfpMaxFrame, b.tbfp.sNum = n.tbfp.sNum + 1 ∧ b.tbfp.txFrame.bytes =
      Message.frame crc8SaeJ1850Calc n.tbfp.preambleVal ⟨tbfpFlags lifetime ack, n.tbfp.sNum, payload.bytes⟩ ++
        List.replicate k 0 := by
  unfold Node.buildFrame at h ⊢
  split at h
  · next hsize =>
    rw [if_pos hsize]
    by_cases hlt : payload.bytes.length < tbfpMaxPayload
    · simp only [tbfpMakeHeader, hlt, if_true]
      have hzero : TxFrame.zero.bytes = [] ++ List.replicate tbfpMaxFrame 0 := rfl
      have hheader := TxFrame.zero.copy_behind hzero
        (tbfHeader n.tbfp.preambleVal (tbfpFlags lifetime ack) n.tbfp.sNum (UInt16.ofNat payload.bytes.length))
        (show 0 + tbfpSizeHeader ≤ tbfpMaxFrame by decide)
      refine ⟨_, ?_, rfl, fillFrame_buffer rfl hlt hheader⟩
      rw [Nat.sub_sub, Nat.sub_sub]
      exact Nat.sub_le _ _
    · simp [tbfpMakeHeader, hlt] at h
  · simp at h

private theorem fillFrame_record (n : Node) (payload : Payload) :
    (n.fillFrame crc8SaeJ1850Calc payload).tbfp.built =
      ((n.fillFrame crc8SaeJ1850Calc payload).builtFrame payload.bytes.length).bytes :: n.tbfp.built := by
  have hlen : payload.bytes.length + tbfpSizeOverhead = tbfpSizeHeader + payload.bytes.length + tbfpSizeCrc := by
    unfold tbfpSizeOverhead
    omega
  unfold Node.builtFrame
  rw [hlen]
  rfl

/-- The frame that `tbfp_send` hands over is the last one built. -/
private theorem buildFrame_record {payload : Payload} {lifetime : UInt8} {ack : TbfpAck}
    (h : (n.buildFrame crc8SaeJ1850Calc payload lifetime ack).1 = true) :
    let b := (n.buildFrame crc8SaeJ1850Calc payload lifetime ack).2
    b.tbfp.built = (b.builtFrame payload.bytes.length).bytes :: n.tbfp.built := by
  unfold Node.buildFrame at h ⊢
  split at h
  · next hsize =>
    rw [if_pos hsize]
    by_cases hlt : payload.bytes.length < tbfpMaxPayload
    · simp only [tbfpMakeHeader, hlt, if_true]
      exact fillFrame_record _ payload
    · simp [tbfpMakeHeader, hlt] at h
  · simp at h

/-- Without a frame the buffer is zero or as before. -/
private theorem buildFrame_refused {payload : Payload} {lifetime : UInt8} {ack : TbfpAck}
    (h : (n.buildFrame crc8SaeJ1850Calc payload lifetime ack).1 = false) :
    let b := (n.buildFrame crc8SaeJ1850Calc payload lifetime ack).2
    b = n ∨ b = { n with tbfp.txFrame := TxFrame.zero } := by
  unfold Node.buildFrame at h ⊢
  split at h
  · next hsize =>
    rw [if_pos hsize]
    by_cases hlt : payload.bytes.length < tbfpMaxPayload
    · simp [tbfpMakeHeader, hlt] at h
    · simp [tbfpMakeHeader, hlt]
  · next hsize =>
    rw [if_neg hsize]
    exact .inl rfl

/-! ### The next event -/

/-- The events of a machine that gets only such acknowledgements, and whose device sends only such. -/
inductive Allowed (Q G : UInt16 → Prop) : Event → Prop
  | proc (spi : Bool) : Allowed Q G (.proc spi)
  | txDone : Allowed Q G .txDone
  | ack {serNum : UInt16} (hg : G serNum) : Allowed Q G (.ack serNum)
  | send {payload : Payload} (hid : payload.bytes.head? ≠ some frameIdAck) (lifetime : UInt8) (ack : TbfpAck)
      (spi : Bool) : Allowed Q G (.send payload lifetime ack spi)
  | sendAck {snum : UInt16} (hq : Q snum) (spi : Bool) : Allowed Q G (.sendAck snum spi)
  | tick (ms : Nat) : Allowed Q G (.tick ms)

/-- The machine has built the next message. -/
theorem Works.buildFrame (h : Works crc8SaeJ1850Calc Q G sent n) {payload : Payload} {lifetime : UInt8} {ack : TbfpAck}
    (hbuilt : (n.buildFrame crc8SaeJ1850Calc payload lifetime ack).1 = true)
    (hanswers : Message.Answers Q ⟨tbfpFlags lifetime ack, n.tbfp.sNum, payload.bytes⟩) :
    Works crc8SaeJ1850Calc Q G (sent ++ [⟨tbfpFlags lifetime ack, n.tbfp.sNum, payload.bytes⟩])
      (n.buildFrame crc8SaeJ1850Calc payload lifetime ack).2 := by
  obtain ⟨hfits, hframe⟩ := buildFrame_message hbuilt
  obtain ⟨k, hk, hsNum, hbuffer⟩ := buildFrame_built hbuilt
  have hsame := sameNode_buildFrame crc8SaeJ1850Calc n payload lifetime ack
  have hquiet : Quiet n (n.buildFrame crc8SaeJ1850Calc payload lifetime ack).2 := buildFrame_quiet n payload lifetime ack
  have hradio : (n.buildFrame crc8SaeJ1850Calc payload lifetime ack).2.radio = n.radio := by
    unfold Node.buildFrame tbfpMakeHeader
    split
    · split <;> rfl
    · rfl
  have hfront : sent <+: sent ++ [⟨tbfpFlags lifetime ack, n.tbfp.sNum, payload.bytes⟩] := List.prefix_append _ _
  refine ⟨hsame.1.trans h.interface, hsame.2.trans h.preambleVal, ?_, ?_, h.numbered.concat h.sNum, ?_, ?_, ?_, ?_, ?_,
    ?_⟩
  · rw [hsNum, h.sNum, List.length_append, List.length_singleton, UInt16.ofNat_add (sent.length + 1) 1]
    rfl
  · rw [buildFrame_record hbuilt, hframe, h.built, h.preambleVal, List.map_append, List.reverse_append]
    rfl
  · exact List.forall_mem_append.2 ⟨h.fits, List.forall_mem_singleton.2 hfits⟩
  · exact List.forall_mem_append.2 ⟨h.answers, List.forall_mem_singleton.2 hanswers⟩
  · rw [hbuffer, h.preambleVal]
    exact ⟨k, hk, .inr ⟨_, List.mem_append_right _ (List.mem_singleton_self _), List.prefix_refl _⟩⟩
  · rw [hradio]
    exact h.fifo.mono hfront
  · rw [hquiet.trace]
    intro f hf
    obtain ⟨m, hm, hframe⟩ := h.given f hf
    exact ⟨m, List.mem_append_left _ hm, hframe⟩
  · rw [hquiet.trace]
    exact h.acks

/-- The frame of the last message is handed over. -/
theorem Works.handed (h : Works crc8SaeJ1850Calc Q G sent n) {array : Frame} {len : Nat}
    (hbuffer : array.bytes = n.tbfp.txFrame.bytes.take len)
    (harray : ∃ m ∈ sent, array.bytes = m.frame crc8SaeJ1850Calc tbfpPreambleSx1262) (retx : Retx) :
    Works crc8SaeJ1850Calc Q G sent (sysSentSx1262 spi n array retx).2 := by
  cases retx with
  | noNeed =>
    have hfifo : FrontOf crc8SaeJ1850Calc sent (sysSentSx1262 spi n array .noNeed).2.radio.fifo := by
      rcases sx1262StartTx_front spi n.radio array.bytes (UInt16.ofNat array.bytes.length) with hsame | ⟨l, htake⟩
      · exact hsame ▸ h.fifo
      · obtain ⟨m, hm, hframe⟩ := harray
        have hfront : FrontOf crc8SaeJ1850Calc sent array.bytes := hframe ▸ frontOf_frame hm
        exact htake ▸ hfront.take l
    exact { h with fifo := hfifo }
  | need =>
    change Works crc8SaeJ1850Calc Q G sent (tbfpRetxStart spi n array).2
    by_cases hpos : 0 < array.bytes.length
    · rw [tbfpRetxStart_eq hpos h.interface]
      refine Works.moves ?_ (sendTry_moves spi _)
      have htxFrame : (n.accept array).tbfp.txFrame.bytes = n.tbfp.txFrame.bytes := by
        change (n.tbfp.txFrame.copy 0 array.bytes).bytes = _
        rw [hbuffer, TxFrame.copy_take]
      refine ⟨h.interface, h.preambleVal, h.sNum, h.built, h.numbered, h.fits, h.answers, ?_, h.fifo, fun f hf => ?_,
        fun s hs => ?_⟩
      · rw [htxFrame]
        exact h.buffer
      · rw [accept_trace, givenFrames_given, List.mem_append, List.mem_singleton] at hf
        rcases hf with hf | rfl
        · exact h.given f hf
        · exact harray
      · rw [accept_trace, List.mem_cons] at hs
        rcases hs with hs | hs
        · simp at hs
        · exact h.acks s hs
    · rw [tbfpRetxStart_nil (by omega)]
      exact h

/-- `tbfp_send` adds at most one message. -/
theorem Works.send (h : Works crc8SaeJ1850Calc Q G sent n) {payload : Payload} {lifetime : UInt8} {ack : TbfpAck}
    (hanswers : Message.Answers Q ⟨tbfpFlags lifetime ack, n.tbfp.sNum, payload.bytes⟩) (spi : Bool) :
    ∃ sent', sent <+: sent' ∧
      Works crc8SaeJ1850Calc Q G sent' (Tbfp.tbfpSend crc8SaeJ1850Calc spi n payload lifetime ack).2 := by
  rw [Node.buildFrame_send]
  by_cases hbuilt : (n.buildFrame crc8SaeJ1850Calc payload lifetime ack).1 = true
  · rw [if_pos hbuilt]
    obtain ⟨-, hframe⟩ := buildFrame_message hbuilt
    rw [h.preambleVal] at hframe
    refine ⟨_, List.prefix_append _ _, (h.buildFrame hbuilt hanswers).handed rfl ⟨_, ?_, hframe⟩ _⟩
    exact List.mem_append_right _ (List.mem_singleton_self _)
  · rw [if_neg hbuilt]
    refine ⟨sent, List.prefix_refl _, ?_⟩
    rcases buildFrame_refused (Bool.eq_false_iff.2 hbuilt) with hsame | hzero
    · rw [hsame]
      exact h
    · rw [hzero]
      exact { h with buffer := frontOf_zero sent }

/-- The next event adds at most one message. -/
theorem Works.step (h : Works crc8SaeJ1850Calc Q G sent n) {e : Event} (he : Allowed Q G e) :
    ∃ sent', sent <+: sent' ∧ Works crc8SaeJ1850Calc Q G sent' (Tbfp.step crc8SaeJ1850Calc n e) := by
  have hstay : ∀ m, Moves n m → ∃ sent', sent <+: sent' ∧ Works crc8SaeJ1850Calc Q G sent' m :=
    fun m hm => ⟨sent, List.prefix_refl _, h.moves hm⟩
  cases he with
  | proc spi => exact hstay _ (tbfpProcRetxOne_moves spi n)
  | txDone =>
    refine hstay _ ?_
    unfold Tbfp.step tbfpRetxTxDone
    rw [if_pos h.interface]
    exact ⟨rfl, rfl, rfl, rfl, rfl, .inl rfl, [_], rfl, by simp [Obs.Moving]⟩
  | tick ms => exact hstay _ ⟨rfl, rfl, rfl, rfl, rfl, .inl rfl, [], rfl, by simp⟩
  | @ack serNum hg =>
    refine ⟨sent, List.prefix_refl _, { h with given := fun f hf => ?_, acks := fun s hs => ?_ }⟩
    · change f ∈ givenFrames (.raised .rxAck :: .gotAck serNum :: n.trace) at hf
      rw [givenFrames_cons rfl, givenFrames_cons rfl] at hf
      exact h.given f hf
    · change .gotAck s ∈ Obs.raised .rxAck :: .gotAck serNum :: n.trace at hs
      simp only [List.mem_cons, reduceCtorEq, false_or, Obs.gotAck.injEq] at hs
      rcases hs with rfl | hs
      · exact hg
      · exact h.acks s hs
  | send hid lifetime ack spi => exact h.send (.other hid) spi
  | @sendAck snum hq spi =>
    have hanswers : Message.Answers Q ⟨tbfpFlags 0 .noNeed, n.tbfp.sNum, (ackPayload snum).bytes⟩ := .ack hq rfl rfl
    obtain ⟨sent', hsent, hworks⟩ := h.send hanswers spi
    refine ⟨sent', hsent, ?_⟩
    change Works crc8SaeJ1850Calc Q G sent' (Tbfp.tbfpSendAck crc8SaeJ1850Calc spi n snum).2
    unfold Tbfp.tbfpSendAck
    dsimp only
    split
    · exact { hworks with }
    · exact hworks

/-- A run adds messages. -/
theorem Works.run (h : Works crc8SaeJ1850Calc Q G sent n) {es : List Event} (hes : ∀ e ∈ es, Allowed Q G e) :
    ∃ sent', sent <+: sent' ∧ Works crc8SaeJ1850Calc Q G sent' (Runs.run (Tbfp.step crc8SaeJ1850Calc) n es) := by
  induction es generalizing n sent with
  | nil => exact ⟨sent, List.prefix_refl _, h⟩
  | cons e es ih =>
    obtain ⟨sent', hsent, hstep⟩ := h.step (hes e List.mem_cons_self)
    obtain ⟨sent'', hsent', hrun⟩ := ih hstep fun e he => hes e (List.mem_cons_of_mem _ he)
    exact ⟨sent'', hsent.trans hsent', hrun⟩

end TiMcu.Tbfp
