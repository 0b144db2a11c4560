import Mathlib.Data.List.DropRight
import TiMcu.Lib.Stutter
import TiMcu.Tbfp.RoundTrip
import TiMcu.Tbfp.Steps

/-!
# The queue of the LoRa interface

Frames sent on `IF_LORA` are bytes in a queue.  `lora_transmit_from_queue` takes the next bytes out of it, wherever a
frame ends, and gives them in a tunnel to the retransmission machine of `IF_SX1262`.

The invariant of a run: the chunks taken out so far and the bytes still in the queue are the queued frames, and the
frames on the air are the tunnels of these chunks in order, each up to repeats, with the last one perhaps not on the air
yet.
-/

namespace TiMcu.Tbfp

open LittleEndian Framing Runs Stutter

variable {W : Type} {env : Env W} {crc8SaeJ1850Calc : List UInt8 → UInt8} {n m : Node} {cs : List (List UInt8)}
variable {c : List UInt8}

/-! ### The tunnels -/

def tbfpPreambleLora : UInt8 := 0xA5
def tbfpPreambleSx1262 : UInt8 := 0x1E

def tunnelMessage (snum : Nat) (chunk : List UInt8) : Message :=
  ⟨tbfpFlags 0 .need, UInt16.ofNat snum, frameIdTunnel :: chunk⟩

/-- The frame that carries a chunk of the queue. -/
def tunnelFrame (crc8SaeJ1850Calc : List UInt8 → UInt8) (snum : Nat) (chunk : List UInt8) : List UInt8 :=
  (tunnelMessage snum chunk).frame crc8SaeJ1850Calc tbfpPreambleSx1262

/-- The frames of the chunks; the first serial number is one. -/
def tunnelFrames (crc8SaeJ1850Calc : List UInt8 → UInt8) (cs : List (List UInt8)) : List (List UInt8) :=
  cs.mapIdx fun i c => tunnelFrame crc8SaeJ1850Calc (i + 1) c

@[simp] theorem tunnelFrames_length (crc8SaeJ1850Calc : List UInt8 → UInt8) (cs : List (List UInt8)) :
    (tunnelFrames crc8SaeJ1850Calc cs).length = cs.length := List.length_mapIdx

theorem tunnelFrames_concat (crc8SaeJ1850Calc : List UInt8 → UInt8) (cs : List (List UInt8)) (c : List UInt8) :
    tunnelFrames crc8SaeJ1850Calc (cs ++ [c]) =
      tunnelFrames crc8SaeJ1850Calc cs ++ [tunnelFrame crc8SaeJ1850Calc (cs.length + 1) c] := List.mapIdx_concat

private theorem frameHeader_tunnelFrame (snum : Nat) (c : List UInt8) :
    (frameHeader (tunnelFrame crc8SaeJ1850Calc snum c)).snum = UInt16.ofNat snum := by
  rw [tunnelFrame, frameHeader_message]
  rfl

/-- Tunnels with different numbers are different. -/
private theorem tunnelFrame_inj {a b : Nat} {c c' : List UInt8} (ha : a < 2 ^ 16) (hb : b < 2 ^ 16)
    (h : tunnelFrame crc8SaeJ1850Calc a c = tunnelFrame crc8SaeJ1850Calc b c') : a = b := by
  have hsnum := congrArg (fun f => (frameHeader f).snum.toNat) h
  simp only [frameHeader_tunnelFrame, UInt16.toNat_ofNat'] at hsnum
  omega

/-- The newest tunnel is not the one before. -/
private theorem getLast?_tunnelFrames_ne (hlt : cs.length + 1 < 2 ^ 16) (c : List UInt8) :
    (tunnelFrames crc8SaeJ1850Calc cs).getLast? ≠ some (tunnelFrame crc8SaeJ1850Calc (cs.length + 1) c) := by
  rcases List.eq_nil_or_concat cs with rfl | ⟨cs, c', rfl⟩
  · simp [tunnelFrames]
  · rw [List.concat_eq_append] at hlt ⊢
    rw [tunnelFrames_concat, List.getLast?_concat]
    intro h
    rw [List.length_append, List.length_singleton] at hlt h
    have hnum := tunnelFrame_inj (by omega) (by omega) (Option.some.inj h)
    omega

/-! ### What is on the air -/

def Obs.sentFrame : Obs → Option (List UInt8)
  | .sent frame => some frame
  | _ => none

def Obs.givenFrame : Obs → Option (List UInt8)
  | .given frame => some frame
  | _ => none

/-- The frames that the radio was given to send, the oldest first. -/
def sentFrames (trace : List Obs) : List (List UInt8) := (trace.filterMap Obs.sentFrame).reverse

/-- The frames given to the machine, the oldest first. -/
def givenFrames (trace : List Obs) : List (List UInt8) := (trace.filterMap Obs.givenFrame).reverse

private theorem sentFrames_sent (f : List UInt8) (trace : List Obs) :
    sentFrames (.sent f :: trace) = sentFrames trace ++ [f] := by
  simp [sentFrames, Obs.sentFrame]

theorem givenFrames_given (f : List UInt8) (trace : List Obs) :
    givenFrames (.given f :: trace) = givenFrames trace ++ [f] := by
  simp [givenFrames, Obs.givenFrame]

private theorem sentFrames_cons {o : Obs} (ho : o.sentFrame = none) (trace : List Obs) :
    sentFrames (o :: trace) = sentFrames trace := by
  simp [sentFrames, ho]

theorem givenFrames_cons {o : Obs} (ho : o.givenFrame = none) (trace : List Obs) :
    givenFrames (o :: trace) = givenFrames trace := by
  simp [givenFrames, ho]

/-- The machine of `IF_SX1262` works for the tunnels of the chunks. -/
structure Carries (crc8SaeJ1850Calc : List UInt8 → UInt8) (cs : List (List UInt8)) (n : Node) : Prop where
  interface : n.tbfp.interface = .sx1262
  preambleVal : n.tbfp.preambleVal = tbfpPreambleSx1262
  sNum : n.tbfp.sNum = UInt16.ofNat (cs.length + 1)
  given : givenFrames n.trace = tunnelFrames crc8SaeJ1850Calc cs
  buffer : n.tbfp.reTxFsm.retxCnt ≠ 0 → (tunnelFrames crc8SaeJ1850Calc cs).getLast? = some n.frame
  air : cs.length < 2 ^ 16 → once (sentFrames n.trace) = tunnelFrames crc8SaeJ1850Calc cs ∨
    n.tbfp.reTxFsm.state = .idle ∧ n.tbfp.reTxFsm.retxCnt ≠ 0 ∧
      once (sentFrames n.trace) = (tunnelFrames crc8SaeJ1850Calc cs).dropLast

/-- In a waiting state every tunnel is on the air. -/
theorem Carries.onAir (h : Carries crc8SaeJ1850Calc cs n)
    (hwait : n.tbfp.reTxFsm.state ≠ .idle ∨ n.tbfp.reTxFsm.retxCnt = 0) (hlt : cs.length < 2 ^ 16) :
    once (sentFrames n.trace) = tunnelFrames crc8SaeJ1850Calc cs := by
  rcases h.air hlt with hall | ⟨hstate, hcnt, -⟩
  · exact hall
  · rcases hwait with hne | hzero
    · exact absurd hstate hne
    · exact absurd hzero hcnt

theorem Carries.raise (h : Carries crc8SaeJ1850Calc cs n) (input : TbfpReTxInput) :
    Carries crc8SaeJ1850Calc cs (n.raise input) := by
  refine ⟨h.interface, h.preambleVal, h.sNum, ?_, h.buffer, ?_⟩
  · exact (givenFrames_cons rfl n.trace).trans h.given
  · rw [show (n.raise input).trace = .raised input :: n.trace from rfl, sentFrames_cons rfl]
    exact h.air

theorem Carries.move (h : Carries crc8SaeJ1850Calc cs n) {fsm : TbfpReTxFsm} (hstate : n.tbfp.reTxFsm.state ≠ .idle)
    (hcnt : fsm.retxCnt ≠ 0 → n.tbfp.reTxFsm.retxCnt ≠ 0) : Carries crc8SaeJ1850Calc cs (n.move fsm) := by
  refine ⟨h.interface, h.preambleVal, h.sNum, ?_, fun hleft => h.buffer (hcnt hleft), fun hlt => .inl ?_⟩
  · exact (givenFrames_cons rfl n.trace).trans h.given
  · rw [show (n.move fsm).trace = .moved n.tbfp.reTxFsm.input :: n.trace from rfl, sentFrames_cons rfl]
    exact h.onAir (.inl hstate) hlt

/-- An attempt puts the newest tunnel on the air, for the first time or again, or leaves the air as it is. -/
theorem Attempt.carries {spi : Bool} (h : Attempt spi n m) (hn : Carries crc8SaeJ1850Calc cs n)
    (hcnt : n.tbfp.reTxFsm.retxCnt ≠ 0) : Carries crc8SaeJ1850Calc cs m := by
  have hlast := hn.buffer hcnt
  have hinterface := h.interface.trans hn.interface
  have hpreamble := h.preambleVal.trans hn.preambleVal
  have hsNum := h.sNum.trans hn.sNum
  have hbuffer : (tunnelFrames crc8SaeJ1850Calc cs).getLast? = some m.frame := by
    rw [h.frame]
    exact hlast
  rcases h.outcome with ⟨-, -, -, htrace⟩ | ⟨-, hidle, hsame, htrace⟩
  -- the radio takes the frame, or it refuses it
  · refine ⟨hinterface, hpreamble, hsNum, ?_, fun _ => hbuffer, fun hlt => .inl ?_⟩
    · rw [htrace, givenFrames_cons rfl]
      exact hn.given
    · rw [htrace, sentFrames_sent, once_concat, ← once_getLast?]
      rcases hn.air hlt with hall | ⟨-, -, hpending⟩
      -- a repeat of the frame on the air, or the first time of the pending one
      · rw [hall, if_pos hlast]
      · rcases List.eq_nil_or_concat cs with rfl | ⟨cs, c, rfl⟩
        · simp [tunnelFrames] at hlast
        · rw [List.concat_eq_append] at hpending hlast hlt ⊢
          rw [List.length_append, List.length_singleton] at hlt
          rw [tunnelFrames_concat, List.dropLast_concat] at hpending
          rw [tunnelFrames_concat, List.getLast?_concat] at hlast
          rw [hpending, ← Option.some.inj hlast, if_neg (getLast?_tunnelFrames_ne hlt c), tunnelFrames_concat]
  · refine ⟨hinterface, hpreamble, hsNum, htrace ▸ hn.given, fun _ => hbuffer, fun hlt => ?_⟩
    rw [htrace, hsame]
    exact (hn.air hlt).imp_right fun hpending => ⟨hidle, hpending.2⟩

/-- A poll of the machine. -/
theorem Polled.carries {spi : Bool} (h : Polled spi n m) (hn : Carries crc8SaeJ1850Calc cs n) :
    Carries crc8SaeJ1850Calc cs m := by
  cases h with
  | rest => exact hn
  | tried hstate hcnt h =>
    refine h.carries hn fun hzero => ?_
    rw [hzero] at hcnt
    exact absurd hcnt (by decide)
  | onAir hstate hinput h | lackTxDone hstate hinput h | lackAck hstate hinput h =>
    refine hn.move (by simp [hstate]) fun hcnt => ?_
    exact h.retxCnt ▸ hcnt
  | ackOk hstate hinput hidle hcnt hack => exact hn.move (by simp [hstate]) fun hleft => absurd hcnt hleft
  | txDoneTimeOut | ackTimeOut => exact hn.raise _

/-! ### The next chunk -/

/-- The machine is given the tunnel of the next chunk. -/
theorem Carries.accept (hn : Carries crc8SaeJ1850Calc cs n) (hidle : isTbfpRetxIdle n = true) {array : Frame} {b : Node}
    (htrace : b.trace = n.trace) (hfsm : b.tbfp.reTxFsm.state = n.tbfp.reTxFsm.state)
    (hi : b.tbfp.interface = n.tbfp.interface) (hp : b.tbfp.preambleVal = n.tbfp.preambleVal)
    (hs : b.tbfp.sNum = n.tbfp.sNum + 1) (harray : array.bytes = tunnelFrame crc8SaeJ1850Calc (cs.length + 1) c) :
    Carries crc8SaeJ1850Calc (cs ++ [c]) (b.accept array) := by
  have hframes := tunnelFrames_concat crc8SaeJ1850Calc cs c
  simp only [isTbfpRetxIdle, Bool.and_eq_true, decide_eq_true_eq] at hidle
  have htrace : (b.accept array).trace = .given array.bytes :: n.trace := by
    rw [accept_trace, htrace]
  refine ⟨hi.trans hn.interface, hp.trans hn.preambleVal, ?_, ?_, fun _ => ?_, fun hlt => .inr ⟨?_, ?_, ?_⟩⟩
  · change b.tbfp.sNum = _
    rw [hs, hn.sNum, List.length_append, List.length_singleton, UInt16.ofNat_add (cs.length + 1) 1]
    rfl
  · rw [htrace, givenFrames_given, hn.given, harray, hframes]
  · rw [Node.accept_frame, harray, hframes, List.getLast?_concat]
  · exact hfsm.trans hidle.1
  · change tbfpRetxTryMax ≠ 0
    decide
  · rw [List.length_append, List.length_singleton] at hlt
    rw [htrace, sentFrames_cons rfl, hframes, List.dropLast_concat]
    exact hn.onAir (.inr hidle.2) (by omega)

/-! ### The sending device -/

/-- What happens on a device that sends on `IF_LORA`, and nothing but the bytes of the queue on `IF_SX1262`. -/
inductive TxEvent
  /-- `tbfp_send` on `IF_LORA` -/
  | send (payload : Payload) (lifetime : UInt8) (ack : TbfpAck)
  /-- `lora_process` asks for what is left in the queue -/
  | flush
  /-- `lora_transmit_from_queue` -/
  | transmit (curTimeStampMs txDoneTimeStampMs pauseMs minTxUnit : UInt32)
  /-- `tbfp_retx_proc` -/
  | retxProc
  /-- the radio reports the end of a transmission -/
  | txDone
  /-- a frame with an acknowledgement was received -/
  | ack (interface : Interfaces) (serNum : UInt16)
  /-- time passes -/
  | tick (ms : Nat)
  /-- other parts of the firmware change the radio -/
  | radio (radio : Sx1262)

def Transmitter.step (env : Env W) (t : Transmitter W) : TxEvent → Transmitter W
  | .send payload lifetime ack => (t.tbfpSend env payload .lora lifetime ack).2
  | .flush => { t with loRa.flush := true }
  | .transmit cur txDone pause minTxUnit => (loraTransmitFromQueue env t cur txDone pause minTxUnit).2
  | .retxProc => t.tbfpRetxProc env
  | .txDone => t.tbfpRetxTxDone .sx1262
  | .ack interface serNum => t.setNode interface (tbfpRetxAck (t.node interface) serNum).2
  | .tick ms => { t with now := t.now + ms }
  | .radio radio => { t with radio := radio }

/-- The frame that the event puts into the queue. -/
def Transmitter.queues (env : Env W) (t : Transmitter W) : TxEvent → List (List UInt8)
  | .send payload lifetime ack =>
    let r := (t.node .lora).buildFrame env.crc8SaeJ1850Calc payload lifetime ack
    if r.1 then [(r.2.builtFrame payload.bytes.length).bytes] else []
  | _ => []

/-- The frames put into the queue in a run, the oldest first. -/
def Transmitter.queuedFrames (env : Env W) (t : Transmitter W) (es : List TxEvent) : List (List UInt8) :=
  emitted (Transmitter.step env) (Transmitter.queues env) t es

/-- The transmit queue is a queue of bytes that does not overflow, of which up to that many bytes are taken out. -/
structure ByteQueue (env : Env W) : Prop where
  push : ∀ fifo array, env.fifoPushArray fifo array = (true, fifo ++ array)
  pull : ∀ fifo size, (env.fifoPullArray fifo size).2.1 ++ (env.fifoPullArray fifo size).2.2 = fifo
  size : ∀ fifo size, (env.fifoPullArray fifo size).2.1.length ≤ size
  fails : ∀ fifo size, (env.fifoPullArray fifo size).1 = false → (env.fifoPullArray fifo size).2.1 = []

variable {t t' : Transmitter W} {queued : List (List UInt8)}

/-- The queued frames are the chunks taken out of the queue and the bytes in it, and the machine works for the chunks. -/
structure Sending (env : Env W) (queued cs : List (List UInt8)) (t : Transmitter W) : Prop where
  carries : Carries env.crc8SaeJ1850Calc cs (t.node .sx1262)
  others : ∀ s, s ≠ .sx1262 → (t.tbfp s).interface ≠ .sx1262 ∧ (t.tbfp s).reTxFsm.state = .idle ∧
    (t.tbfp s).reTxFsm.retxCnt = 0
  preambleVal : (t.tbfp .lora).preambleVal = tbfpPreambleLora
  bytes : cs.flatten ++ t.loRa.fifo = queued.flatten
  chunks : ∀ c ∈ cs, 0 < c.length ∧ c.length ≤ maxLoraPayloadSize
  frames : ∀ f ∈ queued, ∃ m : Message, m.Fits ∧ f = m.frame env.crc8SaeJ1850Calc tbfpPreambleLora

/-! ### The entries of the table -/

theorem Carries.congr (h : Carries crc8SaeJ1850Calc cs n) (htbfp : m.tbfp = n.tbfp) (htrace : m.trace = n.trace) :
    Carries crc8SaeJ1850Calc cs m := by
  have hframe : m.frame = n.frame := by rw [Node.frame, htbfp, Node.frame]
  refine ⟨htbfp ▸ h.interface, htbfp ▸ h.preambleVal, htbfp ▸ h.sNum, htrace ▸ h.given, fun hcnt => ?_, fun hlt => ?_⟩
  · rw [hframe]
    exact h.buffer (htbfp ▸ hcnt)
  · rw [htbfp, htrace]
    exact h.air hlt

/-- The entries, the record and the queue matter. -/
theorem Sending.congr (h : Sending env queued cs t) (htbfp : t'.tbfp = t.tbfp) (htrace : t'.trace = t.trace)
    (hfifo : t'.loRa.fifo = t.loRa.fifo) : Sending env queued cs t' :=
  ⟨h.carries.congr (congrFun htbfp .sx1262) (congrFun htrace .sx1262), fun s hs => htbfp ▸ h.others s hs,
    htbfp ▸ h.preambleVal, hfifo ▸ h.bytes, h.chunks, h.frames⟩

@[simp] theorem Transmitter.setNode_tbfp_self (t : Transmitter W) (s : Interfaces) (n : Node) :
    (t.setNode s n).tbfp s = n.tbfp := Function.update_self ..

@[simp] theorem Transmitter.setNode_trace_self (t : Transmitter W) (s : Interfaces) (n : Node) :
    (t.setNode s n).trace s = n.trace := Function.update_self ..

theorem Transmitter.setNode_tbfp_of_ne (t : Transmitter W) {s k : Interfaces} (n : Node) (h : k ≠ s) :
    (t.setNode s n).tbfp k = t.tbfp k := Function.update_of_ne h ..

theorem Transmitter.setNode_trace_of_ne (t : Transmitter W) {s k : Interfaces} (n : Node) (h : k ≠ s) :
    (t.setNode s n).trace k = t.trace k := Function.update_of_ne h ..

/-- The machine of `IF_SX1262` moves, and what it carries takes more bytes out of the queue. -/
theorem Sending.setNode (h : Sending env queued cs t) {cs' : List (List UInt8)} {m : Node}
    (hm : Carries env.crc8SaeJ1850Calc cs' m) (hbytes : cs'.flatten ++ t'.loRa.fifo = cs.flatten ++ t.loRa.fifo)
    (hchunks : ∀ c ∈ cs', 0 < c.length ∧ c.length ≤ maxLoraPayloadSize)
    (htbfp : t'.tbfp = (t.setNode .sx1262 m).tbfp) (htrace : t'.trace = (t.setNode .sx1262 m).trace) :
    Sending env queued cs' t' := by
  refine ⟨hm.congr ?_ ?_, fun s hs => ?_, ?_, hbytes.trans h.bytes, hchunks, h.frames⟩
  · exact (congrFun htbfp .sx1262).trans (t.setNode_tbfp_self .sx1262 m)
  · exact (congrFun htrace .sx1262).trans (t.setNode_trace_self .sx1262 m)
  · rw [htbfp, t.setNode_tbfp_of_ne m hs]
    exact h.others s hs
  · rw [htbfp, t.setNode_tbfp_of_ne m (by decide)]
    exact h.preambleVal

/-- An entry changes that the machine does not work for. -/
private theorem Sending.setOther (h : Sending env queued cs t) {s : Interfaces} {m : Node} (hs : s ≠ .sx1262)
    (hi : m.tbfp.interface ≠ .sx1262) (hstate : m.tbfp.reTxFsm.state = .idle) (hcnt : m.tbfp.reTxFsm.retxCnt = 0)
    (hp : m.tbfp.preambleVal = (t.tbfp s).preambleVal) : Sending env queued cs (t.setNode s m) := by
  refine ⟨h.carries.congr ?_ ?_, fun k hk => ?_, ?_, h.bytes, h.chunks, h.frames⟩
  · exact t.setNode_tbfp_of_ne m hs.symm
  · exact t.setNode_trace_of_ne m hs.symm
  · by_cases hks : k = s
    · subst hks
      rw [t.setNode_tbfp_self]
      exact ⟨hi, hstate, hcnt⟩
    · rw [t.setNode_tbfp_of_ne m hks]
      exact h.others k hk
  · by_cases hks : Interfaces.lora = s
    · subst hks
      rw [t.setNode_tbfp_self, hp]
      exact h.preambleVal
    · rw [t.setNode_tbfp_of_ne m hks]
      exact h.preambleVal

/-! ### The machine moves -/

private theorem poll_resting {spi : Bool} (hstate : n.tbfp.reTxFsm.state = .idle) (hcnt : n.tbfp.reTxFsm.retxCnt = 0) :
    (tbfpProcRetxOne spi n).2 = n := by
  simp [tbfpProcRetxOne, hstate, tbfpProcRetxIdle, hcnt]

theorem Sending.procRetxOne (h : Sending env queued cs t) (s : Interfaces) :
    Sending env queued cs (t.procRetxOne env s) := by
  by_cases hs : s = .sx1262
  · subst hs
    exact h.setNode ((tbfpProcRetxOne_polled (env.spi t.world).1 _).carries h.carries) rfl h.chunks rfl rfl
  · obtain ⟨hi, hstate, hcnt⟩ := h.others s hs
    have hrest : (tbfpProcRetxOne (env.spi t.world).1 (t.node s)).2 = t.node s := poll_resting hstate hcnt
    have hset : Sending env queued cs (t.setNode s (t.node s)) := h.setOther hs hi hstate hcnt rfl
    unfold Transmitter.procRetxOne
    dsimp only
    rw [hrest]
    exact hset.congr rfl rfl rfl

theorem Sending.retxProc (h : Sending env queued cs t) : Sending env queued cs (t.tbfpRetxProc env) :=
  run_invariant tableInterfaces h fun _ s ht => ht.procRetxOne s

private theorem Sending.retxTxDone (h : Sending env queued cs t) (s : Interfaces) :
    Sending env queued cs (t.setNode s (tbfpRetxTxDone (t.node s) .sx1262).2) := by
  unfold Tbfp.tbfpRetxTxDone
  by_cases hs : s = .sx1262
  · subst hs
    rw [if_pos h.carries.interface]
    exact h.setNode (h.carries.raise .txDone) rfl h.chunks rfl rfl
  · obtain ⟨hi, hstate, hcnt⟩ := h.others s hs
    rw [if_neg (show (t.node s).tbfp.interface ≠ .sx1262 from hi)]
    exact h.setOther hs hi hstate hcnt rfl

theorem Sending.txDone (h : Sending env queued cs t) : Sending env queued cs (t.tbfpRetxTxDone .sx1262) :=
  run_invariant tableInterfaces h fun _ s ht => ht.retxTxDone s

theorem Sending.ack (h : Sending env queued cs t) (interface : Interfaces) (serNum : UInt16) :
    Sending env queued cs (t.setNode interface (tbfpRetxAck (t.node interface) serNum).2) := by
  by_cases hs : interface = .sx1262
  · subst hs
    have hgot : Carries env.crc8SaeJ1850Calc cs
        { t.node .sx1262 with trace := .gotAck serNum :: (t.node .sx1262).trace } := by
      refine ⟨h.carries.interface, h.carries.preambleVal, h.carries.sNum, ?_, h.carries.buffer, ?_⟩
      · exact (givenFrames_cons rfl _).trans h.carries.given
      · dsimp only
        rw [sentFrames_cons rfl]
        exact h.carries.air
    exact h.setNode (hgot.raise .rxAck) rfl h.chunks rfl rfl
  · obtain ⟨hi, hstate, hcnt⟩ := h.others interface hs
    exact h.setOther hs hi hstate hcnt rfl

/-! ### Frames for the queue -/

theorem buildFrame_quiet (n : Node) (payload : Payload) (lifetime : UInt8) (ack : TbfpAck) :
    Quiet n (n.buildFrame crc8SaeJ1850Calc payload lifetime ack).2 := by
  unfold Node.buildFrame tbfpMakeHeader
  split
  · split
    · exact ⟨rfl, rfl, rfl, rfl, rfl, rfl⟩
    · exact ⟨rfl, rfl, rfl, rfl, rfl, rfl⟩
  · exact .refl n

private theorem loraSendQueue_pushes (hqueue : ByteQueue env) (t : Transmitter W) {txPayload : List UInt8}
    (hpos : 0 < txPayload.length) :
    loraSendQueue env t txPayload = (true, { t with loRa.fifo := t.loRa.fifo ++ txPayload }) := by
  unfold loraSendQueue
  rw [if_pos hpos, hqueue.push]
  rfl

/-- A frame that is sent goes behind the bytes in the queue. -/
theorem Sending.send (hqueue : ByteQueue env) (h : Sending env queued cs t) (payload : Payload) (lifetime : UInt8)
    (ack : TbfpAck) : Sending env (queued ++ t.queues env (.send payload lifetime ack)) cs
      (t.tbfpSend env payload .lora lifetime ack).2 := by
  obtain ⟨hi, hstate, hcnt⟩ := h.others .lora (by decide)
  have hquiet : Quiet (t.node .lora) ((t.node .lora).buildFrame env.crc8SaeJ1850Calc payload lifetime ack).2 :=
    buildFrame_quiet _ payload lifetime ack
  have hsame := sameNode_buildFrame env.crc8SaeJ1850Calc (t.node .lora) payload lifetime ack
  have hmessage := @buildFrame_message env.crc8SaeJ1850Calc (t.node .lora) payload lifetime ack
  unfold Transmitter.tbfpSend Transmitter.queues
  dsimp only
  generalize (t.node .lora).buildFrame env.crc8SaeJ1850Calc payload lifetime ack = r at hquiet hsame hmessage ⊢
  have hbuilt : Sending env queued cs (t.setNode .lora r.2) :=
    h.setOther (by decide) (hsame.1 ▸ hi) (hquiet.state.trans hstate) (hquiet.retxCnt.trans hcnt) hsame.2
  split
  · next hbuilds =>
    obtain ⟨hfits, hframe⟩ := hmessage hbuilds
    rw [show (t.node .lora).tbfp.preambleVal = tbfpPreambleLora from h.preambleVal] at hframe
    have hpos : 0 < (r.2.builtFrame payload.bytes.length).bytes.length := by
      rw [hframe, Message.frame, tbfFrame_length]
      exact Nat.lt_of_lt_of_le (by decide) (Nat.le_add_left _ _)
    unfold Transmitter.sysSendIf Transmitter.sendIf
    dsimp only
    rw [loraSendQueue_pushes hqueue _ hpos]
    refine ⟨hbuilt.carries.congr rfl rfl, hbuilt.others, hbuilt.preambleVal, ?_, hbuilt.chunks, ?_⟩
    · change cs.flatten ++ (t.loRa.fifo ++ _) = _
      rw [← List.append_assoc, h.bytes]
      simp
    · exact List.forall_mem_append.2 ⟨h.frames, List.forall_mem_singleton.2 ⟨_, hfits, hframe⟩⟩
  · rw [List.append_nil]
    exact hbuilt

/-! ### Chunks for the machine -/

private theorem buildFrame_of_lt {payload : Payload} (hpos : 0 < payload.bytes.length)
    (hlt : payload.bytes.length < tbfpMaxPayload) (lifetime : UInt8) (ack : TbfpAck) :
    (n.buildFrame crc8SaeJ1850Calc payload lifetime ack).1 = true ∧
      (n.buildFrame crc8SaeJ1850Calc payload lifetime ack).2.tbfp.sNum = n.tbfp.sNum + 1 := by
  have hmax : tbfpMaxPayload = 1039 := rfl
  have hover : tbfpSizeOverhead = 7 := rfl
  have hframe := tbfpMaxFrame_eq
  have hsize : PassesSizeTest payload.bytes.length := by
    unfold PassesSizeTest
    omega
  unfold Node.buildFrame tbfpMakeHeader
  rw [if_pos hsize]
  dsimp only
  rw [if_pos hlt]
  exact ⟨rfl, rfl⟩

/-- The machine that was free works for the next chunk. -/
theorem Carries.tunnel (hn : Carries crc8SaeJ1850Calc cs n) (hidle : isTbfpRetxIdle n = true)
    (hlen : c.length ≤ maxLoraPayloadSize) (spi : Bool) (hlt : c.length < 2 ^ 16) :
    let r := n.buildFrame crc8SaeJ1850Calc (textPayload frameIdTunnel c hlt) 0 .need
    r.1 = true ∧ Carries crc8SaeJ1850Calc (cs ++ [c])
      (Tbfp.sysSentSx1262 spi r.2 (r.2.builtFrame (c.length + 1)) .need).2 := by
  intro r
  have hmax : tbfpMaxPayload = 1039 := rfl
  have hlora : maxLoraPayloadSize = 241 := rfl
  have hsize : (textPayload frameIdTunnel c hlt).bytes.length = c.length + 1 := rfl
  obtain ⟨hbuilds, hsNum⟩ := @buildFrame_of_lt crc8SaeJ1850Calc n (textPayload frameIdTunnel c hlt)
    (by rw [hsize]; omega) (by rw [hsize]; omega) 0 .need
  have hquiet : Quiet n r.2 := buildFrame_quiet n _ 0 .need
  have hsame : SameNode n r.2 := sameNode_buildFrame crc8SaeJ1850Calc n _ 0 .need
  obtain ⟨hfits, hframe⟩ := buildFrame_message hbuilds
  have harray : (r.2.builtFrame (c.length + 1)).bytes = tunnelFrame crc8SaeJ1850Calc (cs.length + 1) c := by
    rw [tunnelFrame, tunnelMessage, ← hn.sNum, ← hn.preambleVal]
    exact hframe
  have haccept : Carries crc8SaeJ1850Calc (cs ++ [c]) (r.2.accept (r.2.builtFrame (c.length + 1))) :=
    hn.accept hidle hquiet.trace hquiet.state hsame.1 hsame.2 hsNum harray
  have hpos : 0 < (r.2.builtFrame (c.length + 1)).bytes.length := by
    rw [harray, tunnelFrame, Message.frame, tbfFrame_length]
    exact Nat.lt_of_lt_of_le (by decide) (Nat.le_add_left _ _)
  refine ⟨hbuilds, ?_⟩
  rw [Tbfp.sysSentSx1262, tbfpRetxStart_eq hpos (hsame.1.trans hn.interface)]
  refine (sendTry_attempt spi _).carries haccept ?_
  change tbfpRetxTryMax ≠ 0
  decide

theorem buildFrame_now (n : Node) (payload : Payload) (lifetime : UInt8) (ack : TbfpAck) :
    (n.buildFrame crc8SaeJ1850Calc payload lifetime ack).2.now = n.now := by
  unfold Node.buildFrame tbfpMakeHeader
  split
  · split <;> rfl
  · rfl

theorem Transmitter.node_setNode {s : Interfaces} (hnow : n.now = t.now) : (t.setNode s n).node s = n := by
  unfold Transmitter.node
  rw [t.setNode_tbfp_self, t.setNode_trace_self]
  change Node.mk n.tbfp n.radio t.now n.trace = n
  rw [← hnow]

private theorem countSendErr_same (r : Bool × Transmitter W) : (Transmitter.countSendErr r).2.tbfp = r.2.tbfp ∧
    (Transmitter.countSendErr r).2.trace = r.2.trace ∧ (Transmitter.countSendErr r).2.loRa = r.2.loRa := by
  unfold Transmitter.countSendErr
  split <;> exact ⟨rfl, rfl, rfl⟩

/-- A frame for the machine of `IF_SX1262` changes that entry, the radio and counters. -/
private theorem tbfpSend_need (t : Transmitter W) {payload : Payload} {lifetime : UInt8} {b : Node}
    (hb : (t.node .sx1262).buildFrame env.crc8SaeJ1850Calc payload lifetime .need = (true, b)) :
    let m := (Tbfp.sysSentSx1262 (env.spi t.world).1 b (b.builtFrame payload.bytes.length) .need).2
    let t' := (t.tbfpSend env payload .sx1262 lifetime .need).2
    t'.tbfp = (t.setNode .sx1262 m).tbfp ∧ t'.trace = (t.setNode .sx1262 m).trace ∧ t'.loRa = t.loRa := by
  have hnode : (t.setNode .sx1262 b).node .sx1262 = b := by
    refine Transmitter.node_setNode ?_
    have hnow := @buildFrame_now env.crc8SaeJ1850Calc (t.node .sx1262) payload lifetime .need
    rw [hb] at hnow
    exact hnow
  have hworld : (t.setNode .sx1262 b).world = t.world := rfl
  have hsend : t.tbfpSend env payload .sx1262 lifetime .need = Transmitter.countSendErr
      ((t.setNode .sx1262 b).sysSentSx1262 env (b.builtFrame payload.bytes.length) .need) := by
    rw [Transmitter.tbfpSend, hb]
    rfl
  obtain ⟨htbfp, htrace, hloRa⟩ := countSendErr_same
    ((t.setNode .sx1262 b).sysSentSx1262 env (b.builtFrame payload.bytes.length) .need)
  intro m t'
  have hset : ((t.setNode .sx1262 b).sysSentSx1262 env (b.builtFrame payload.bytes.length) .need).2 =
      { (t.setNode .sx1262 b).setNode .sx1262 m with world := (env.spi t.world).2 } := by
    unfold Transmitter.sysSentSx1262
    rw [hnode, hworld]
  rw [hset, ← hsend] at htbfp htrace hloRa
  exact ⟨htbfp.trans (Function.update_idem ..), htrace.trans (Function.update_idem ..), hloRa⟩

/-- A chunk that was taken out of the queue is given to the machine, which is free. -/
theorem Sending.sendChunk (h : Sending env queued cs t) (hidle : isTbfpRetxIdle (t.node .sx1262) = true)
    {chunk rest : List UInt8} (hpull : chunk ++ rest = t.loRa.fifo)
    (hchunk : 0 < chunk.length ∧ chunk.length ≤ maxLoraPayloadSize) :
    Sending env queued (cs ++ [chunk])
      (({ t with loRa.flush := false, loRa.fifo := rest } : Transmitter W).sendChunk env chunk).2 := by
  have hfits : TextFits chunk.length := by
    have hlora : maxLoraPayloadSize = 241 := rfl
    have hover : tbfpSizeOverhead = 7 := rfl
    have hid : tbfpSizeId = 1 := rfl
    unfold TextFits
    omega
  obtain ⟨hbuilds, hcarries⟩ := h.carries.tunnel hidle hchunk.2 (env.spi t.world).1 hfits.lt
  unfold Transmitter.sendChunk Transmitter.tbfpSendTunnel Transmitter.tbfpSendText
  rw [if_pos hchunk, dif_pos hfits]
  generalize hu : ({ t with loRa.flush := false, loRa.fifo := rest } : Transmitter W) = u
  have hnode : u.node .sx1262 = t.node .sx1262 := by rw [← hu]; rfl
  have hworld : u.world = t.world := by rw [← hu]
  obtain ⟨htbfp, htrace, hloRa⟩ := @tbfpSend_need W env u (textPayload frameIdTunnel chunk hfits.lt) 0 _
    (Prod.ext (by rw [hnode]; exact hbuilds) rfl)
  have hsent : Sending env queued (cs ++ [chunk])
      (u.tbfpSend env (textPayload frameIdTunnel chunk hfits.lt) .sx1262 0 .need).2 := by
    rw [hnode, hworld] at htbfp htrace
    refine h.setNode hcarries ?_ ?_ ?_ ?_
    · rw [hloRa, ← hu, List.flatten_append, List.flatten_singleton, List.append_assoc, hpull]
    · exact List.forall_mem_append.2 ⟨h.chunks, List.forall_mem_singleton.2 hchunk⟩
    · rw [htbfp, ← hu]
      rfl
    · rw [htrace, ← hu]
      rfl
  unfold Transmitter.countTunnel
  split
  · exact hsent.congr rfl rfl rfl
  · exact hsent.congr rfl rfl rfl

/-- The next bytes of the queue are given to the machine, when it is free. -/
theorem Sending.transmit (hqueue : ByteQueue env) (h : Sending env queued cs t) (cur txDone pause minTxUnit : UInt32) :
    ∃ cs', Sending env queued cs' (loraTransmitFromQueue env t cur txDone pause minTxUnit).2 := by
  have hpull := hqueue.pull t.loRa.fifo maxLoraPayloadSize
  have hfails := hqueue.fails t.loRa.fifo maxLoraPayloadSize
  have hsize := hqueue.size t.loRa.fifo maxLoraPayloadSize
  unfold loraTransmitFromQueue
  split
  · next hcan =>
    dsimp only
    generalize env.fifoPullArray t.loRa.fifo maxLoraPayloadSize = r at hpull hfails hsize ⊢
    -- without bytes the queue is as before
    have hempty : r.2.1 = [] → Sending env queued cs { t with loRa.flush := false, loRa.fifo := r.2.2 } := by
      intro hnil
      rw [hnil, List.nil_append] at hpull
      exact h.congr rfl rfl hpull
    split
    · by_cases hchunk : 0 < r.2.1.length ∧ r.2.1.length ≤ maxLoraPayloadSize
      · exact ⟨cs ++ [r.2.1], h.sendChunk hcan.2.1 hpull hchunk⟩
      · rw [Transmitter.sendChunk, if_neg hchunk]
        exact ⟨cs, hempty (List.length_eq_zero_iff.1 (by omega))⟩
    · next hfailed => exact ⟨cs, hempty (hfails (Bool.eq_false_iff.2 hfailed))⟩
  · exact ⟨cs, h⟩

/-! ### A run of the sending device -/

theorem sending_swInit (radio : Sx1262) (now : Nat) (world : W) : Sending env [] [] (swInit radio now world).tx := by
  refine ⟨⟨rfl, rfl, rfl, rfl, fun hcnt => absurd rfl hcnt, fun _ => .inl rfl⟩, fun s hs => ?_, rfl, rfl, by simp, by simp⟩
  cases s with
  | sx1262 => exact absurd rfl hs
  | _ => exact ⟨Interfaces.noConfusion, rfl, rfl⟩

theorem Sending.step (hqueue : ByteQueue env) (h : Sending env queued cs t) (e : TxEvent) :
    ∃ cs', Sending env (queued ++ t.queues env e) cs' (t.step env e) := by
  have hsame : t.queues env e = [] → Sending env queued cs (t.step env e) →
      ∃ cs', Sending env (queued ++ t.queues env e) cs' (t.step env e) := by
    intro hnone hstep
    rw [hnone, List.append_nil]
    exact ⟨cs, hstep⟩
  cases e with
  | send payload lifetime ack => exact ⟨cs, h.send hqueue payload lifetime ack⟩
  | transmit cur txDone pause minTxUnit =>
    rw [show t.queues env (.transmit cur txDone pause minTxUnit) = [] from rfl, List.append_nil]
    exact h.transmit hqueue cur txDone pause minTxUnit
  | flush => exact hsame rfl (h.congr rfl rfl rfl)
  | retxProc => exact hsame rfl h.retxProc
  | txDone => exact hsame rfl h.txDone
  | ack interface serNum => exact hsame rfl (h.ack interface serNum)
  | tick ms => exact hsame rfl (h.congr rfl rfl rfl)
  | radio radio => exact hsame rfl (h.congr rfl rfl rfl)

theorem Sending.run (hqueue : ByteQueue env) (h : Sending env queued cs t) (es : List TxEvent) :
    ∃ cs', Sending env (queued ++ t.queuedFrames env es) cs' (Runs.run (Transmitter.step env) t es) := by
  induction es generalizing queued cs t with
  | nil => exact ⟨cs, by simpa [Transmitter.queuedFrames, emitted] using h⟩
  | cons e es ih =>
    obtain ⟨cs', hstep⟩ := h.step hqueue e
    rw [Transmitter.queuedFrames, emitted, ← List.append_assoc, run_cons]
    exact ih hstep

/-! ### What is taken out of the queue -/

/-- The chunks are cut out of the queued frames. -/
private theorem Sending.flatten_isPrefix (h : Sending env queued cs t) {cs' : List (List UInt8)} (hcs' : cs' <+: cs) :
    cs'.flatten <+: queued.flatten := by
  rw [← h.bytes]
  exact hcs'.flatten.trans (List.prefix_append _ _)

theorem payloadLen_message {message : Message} (h : message.Fits) (preambleVal : UInt8) :
    payloadLen (message.frame crc8SaeJ1850Calc preambleVal) = message.payload.length :=
  payloadLen_tbfFrame (Nat.le_trans h.2 (by decide)) _ _

theorem Sending.queued_isFrame {f : List UInt8} (h : Sending env queued cs t) (hf : f ∈ queued) :
    IsFrame (tbfpVerdict env.crc8SaeJ1850Calc tbfpPreambleLora) f ∧ 1 ≤ payloadLen f := by
  obtain ⟨message, hfits, rfl⟩ := h.frames f hf
  rw [payloadLen_message hfits]
  exact ⟨hfits.isFrame, hfits.1⟩

/-- The frames that are cut into the chunks are queued. -/
theorem Sending.frames_chunks (h : Sending env queued cs t) {cs' : List (List UInt8)} (hcs' : cs' <+: cs) :
    Framing.frames (tbfpVerdict env.crc8SaeJ1850Calc tbfpPreambleLora) [] cs'.flatten <+: queued :=
  frames_front (fun _ hf => (h.queued_isFrame hf).1) (h.flatten_isPrefix hcs')

/-- An empty queue leaves all of them in the chunks. -/
theorem Sending.frames_all (h : Sending env queued cs t) (hempty : t.loRa.fifo = []) :
    Framing.frames (tbfpVerdict env.crc8SaeJ1850Calc tbfpPreambleLora) [] cs.flatten = queued := by
  have hbytes := h.bytes
  rw [hempty, List.append_nil] at hbytes
  rw [hbytes]
  exact (frames_flatten fun _ hf => (h.queued_isFrame hf).1).2

end TiMcu.Tbfp
