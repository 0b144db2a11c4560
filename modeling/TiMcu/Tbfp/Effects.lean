import TiMcu.Rtcm3.Loaded
import TiMcu.Tbfp.Receive

/-!
# What receiving changes

`Effects` says what any function of the receiving side does to the set-up of the tables, to the flow control of each
interface and to the relay: the log only grows, the flow control of an interface is that after the serial numbers
received in the meantime, and each serial number is handed on as often as it passed.  There is one lemma for each
function, and `tbfpProc_effects` for `tbfp_proc` with all calls from within.

`Configured` is the set-up that `sw_init` leaves: only `IF_LORA` and `IF_SX1262` have a TBFP instance, and only
`IF_UART1` an RTCM3 instance that forwards.  The entries that are not set up are zero, so their interface is `IF_LORA`.
-/

namespace TiMcu.Tbfp

open NorFlash LittleEndian

variable {W : Type} {polls : Bool} {env : Env W polls} {proc : Proc W} {d d' d'' : Device W} {R : Prop}
  {slot interface : Interfaces}

/-! ### The set-up -/

structure Configured (d : Device W) : Prop where
  tbfp : ∀ s, d.interface s = if s = .sx1262 then .sx1262 else .lora
  rtcm3 : ∀ s, (d.rtcm3 s).interface = if s = .uart1 then .uart1 else .lora

theorem Configured.ne_loopback (h : Configured d) (s : Interfaces) : d.interface s ≠ .loopback := by
  rw [h.tbfp]
  split <;> simp

theorem Configured.ne_uart1 (h : Configured d) (s : Interfaces) : d.interface s ≠ .uart1 := by
  rw [h.tbfp]
  split <;> simp

theorem Configured.note (h : Configured d) (x : Seen) : Configured (d.note x) := ⟨h.tbfp, h.rtcm3⟩

theorem Configured.rtcm3_lora (h : Configured d) {s : Interfaces} (hs : s ≠ .uart1) :
    (d.rtcm3 s).interface = .lora := by
  rw [h.rtcm3, if_neg hs]

/-! ### The flow control of an interface -/

/-- The flow control after a list of serial numbers. -/
def FlowControl.after (f : FlowControl) (snums : List UInt16) : FlowControl :=
  snums.foldl (fun f snum => (tbfpCheckFlowControl f snum).2) f

/-- The serial numbers that pass: those received directly behind a smaller one. -/
def passes : UInt16 → List UInt16 → List UInt16
  | _, [] => []
  | prev, snum :: snums => if prev < snum then snum :: passes snum snums else passes snum snums

theorem tbfpCheckFlowControl_fst (f : FlowControl) (snum : UInt16) :
    (tbfpCheckFlowControl f snum).1 = decide (f.prevSNum < snum) := by
  unfold tbfpCheckFlowControl
  simp only [UInt16.lt_iff_toNat_lt]
  split
  · simp only [Bool.false_eq, decide_eq_false_iff_not]
    omega
  · split
    · simp only [Bool.true_eq, decide_eq_true_eq]
      omega
    · split
      · simp only [Bool.true_eq, decide_eq_true_eq]
        omega
      · simp only [Bool.false_eq, decide_eq_false_iff_not]
        omega

@[simp] theorem tbfpCheckFlowControl_prevSNum (f : FlowControl) (snum : UInt16) :
    (tbfpCheckFlowControl f snum).2.prevSNum = snum := by
  unfold tbfpCheckFlowControl
  split
  · rfl
  · split
    · rfl
    · split <;> rfl

theorem FlowControl.after_append (f : FlowControl) (l l' : List UInt16) :
    f.after (l ++ l') = (f.after l).after l' := List.foldl_append

theorem passes_append (f : FlowControl) (l l' : List UInt16) :
    passes f.prevSNum (l ++ l') = passes f.prevSNum l ++ passes (f.after l).prevSNum l' := by
  induction l generalizing f with
  | nil => rfl
  | cons snum l ih =>
    have hnext := ih (tbfpCheckFlowControl f snum).2
    rw [tbfpCheckFlowControl_prevSNum] at hnext
    rw [List.cons_append, passes, passes, hnext]
    split <;> rfl

/-! ### What the log says -/

def Seen.serNum (i : Interfaces) : Seen → Option UInt16
  | .received k snum => if k = i then some snum else none
  | _ => none

def Seen.handedNum (i : Interfaces) : Seen → Option UInt16
  | .handed k snum => if k = i then some snum else none
  | _ => none

/-- The serial numbers of the well-formed frames that an interface received, the oldest first. -/
def received (i : Interfaces) (log : List Seen) : List UInt16 := (log.filterMap (·.serNum i)).reverse

/-- The serial numbers of the frames whose payloads were handed on, the oldest first. -/
def handed (i : Interfaces) (log : List Seen) : List UInt16 := (log.filterMap (·.handedNum i)).reverse

theorem received_append (i : Interfaces) (newer log : List Seen) :
    received i (newer ++ log) = received i log ++ received i newer := by
  simp [received]

private theorem handed_append (i : Interfaces) (newer log : List Seen) :
    handed i (newer ++ log) = handed i log ++ handed i newer := by
  simp [handed]

/-- The entry is not about a serial number. -/
def Seen.Plain : Seen → Prop
  | .received .. | .handed .. => False
  | _ => True

/-- The entry is about the relay of RTCM3 frames. -/
def Seen.OfRelay : Seen → Prop
  | .flag _ | .passed .. | .rtcm3 .uart1 _ => True
  | _ => False

theorem Seen.Plain.serNum {x : Seen} (h : x.Plain) (i : Interfaces) : x.serNum i = none := by
  cases x with
  | received | handed => exact absurd h id
  | _ => rfl

theorem Seen.Plain.handedNum {x : Seen} (h : x.Plain) (i : Interfaces) : x.handedNum i = none := by
  cases x with
  | received | handed => exact absurd h id
  | _ => rfl

/-- A piece of log takes the flow control of the interface from `f` to `f'`. -/
structure FlowLog (i : Interfaces) (f f' : FlowControl) (newer : List Seen) : Prop where
  after : f' = f.after (received i newer)
  count : ∀ v, (handed i newer).count v = (passes f.prevSNum (received i newer)).count v

theorem FlowLog.nil (i : Interfaces) (f : FlowControl) : FlowLog i f f [] := ⟨rfl, fun _ => rfl⟩

theorem FlowLog.append {i : Interfaces} {f f' f'' : FlowControl} {n n' : List Seen} (h : FlowLog i f f' n)
    (h' : FlowLog i f' f'' n') : FlowLog i f f'' (n' ++ n) := by
  constructor
  · rw [received_append, FlowControl.after_append, ← h.after, h'.after]
  · intro v
    rw [handed_append, received_append, passes_append, List.count_append, List.count_append, ← h.after, h.count,
      h'.count]

private theorem FlowLog.plain {i : Interfaces} {x : Seen} (h : x.Plain) (f : FlowControl) : FlowLog i f f [x] := by
  constructor
  · simp [received, h.serNum i, FlowControl.after]
  · intro v
    simp [received, handed, h.serNum i, h.handedNum i, passes]

/-- The log of a frame that passed: what was logged between the check and the handing on, and what came after. -/
theorem FlowLog.around {i k : Interfaces} {f f' : FlowControl} {snum : UInt16} {n n' : List Seen}
    (h : FlowLog i (if i = k then (tbfpCheckFlowControl f snum).2 else f) f' (n' ++ n))
    (hok : i = k → (tbfpCheckFlowControl f snum).1 = true) :
    FlowLog i f f' (n' ++ .handed k snum :: n ++ [.received k snum]) := by
  obtain ⟨hafter, hcount⟩ := h
  by_cases hk : i = k
  · subst hk
    have hlt : f.prevSNum < snum := by
      have := hok rfl
      rwa [tbfpCheckFlowControl_fst, decide_eq_true_eq] at this
    rw [if_pos rfl] at hafter hcount
    have hreceived : received i (n' ++ .handed i snum :: n ++ [.received i snum]) = snum :: received i (n' ++ n) := by
      simp [received, Seen.serNum]
    constructor
    · rw [hreceived, hafter]
      rfl
    · intro v
      have hv := hcount v
      rw [tbfpCheckFlowControl_prevSNum] at hv
      rw [hreceived, passes, if_pos hlt, List.count_cons, ← hv]
      simp [handed, Seen.handedNum, List.count_append, List.count_cons]
      omega
  · rw [if_neg hk] at hafter hcount
    have hk' : ¬k = i := fun h => hk h.symm
    have hreceived : received i (n' ++ .handed k snum :: n ++ [.received k snum]) = received i (n' ++ n) := by
      simp [received, Seen.serNum, hk']
    have hhanded : handed i (n' ++ .handed k snum :: n ++ [.received k snum]) = handed i (n' ++ n) := by
      simp [handed, Seen.handedNum, hk']
    constructor
    · rw [hreceived, hafter]
    · intro v
      rw [hreceived, hhanded, hcount]

theorem FlowLog.refused {i k : Interfaces} {f f' : FlowControl} {snum : UInt16} {n : List Seen}
    (h : FlowLog i (if i = k then (tbfpCheckFlowControl f snum).2 else f) f' n)
    (hok : i = k → (tbfpCheckFlowControl f snum).1 = false) : FlowLog i f f' (n ++ [.received k snum]) := by
  obtain ⟨hafter, hcount⟩ := h
  have hhanded : handed i (n ++ [.received k snum]) = handed i n := by
    simp [handed, Seen.handedNum]
  by_cases hk : i = k
  · subst hk
    have hlt : ¬f.prevSNum < snum := by
      have := hok rfl
      rwa [tbfpCheckFlowControl_fst, decide_eq_false_iff_not] at this
    rw [if_pos rfl] at hafter hcount
    have hreceived : received i (n ++ [.received i snum]) = snum :: received i n := by
      simp [received, Seen.serNum]
    constructor
    · rw [hreceived, hafter]
      rfl
    · intro v
      have hv := hcount v
      rw [tbfpCheckFlowControl_prevSNum] at hv
      rw [hreceived, hhanded, passes, if_neg hlt, hv]
  · rw [if_neg hk] at hafter hcount
    have hk' : ¬k = i := fun h => hk h.symm
    have hreceived : received i (n ++ [.received k snum]) = received i n := by
      simp [received, Seen.serNum, hk']
    constructor
    · rw [hreceived, hafter]
    · intro v
      rw [hreceived, hhanded, hcount]

/-! ### Effects -/

/-- What happened from `d` to `d'`; the RTCM3 instance of `IF_UART1` relays only when `R` holds. -/
structure Effects (R : Prop) (d d' : Device W) : Prop where
  interface : ∀ s, d'.interface s = d.interface s
  preambleVal : ∀ s, d'.preambleVal s = d.preambleVal s
  rtcm3 : ∀ s, (d'.rtcm3 s).interface = (d.rtcm3 s).interface ∧ (d'.rtcm3 s).forwarding = (d.rtcm3 s).forwarding
  relay : ¬R → d'.rtcm3 .uart1 = d.rtcm3 .uart1
  ok : (∀ s, (d.rtcm3 s).Ok) → ∀ s, (d'.rtcm3 s).Ok
  log : ∃ newer, d'.log = newer ++ d.log ∧ (∀ i, FlowLog i (d.tbfp i).flow (d'.tbfp i).flow newer) ∧
    (¬R → ∀ x ∈ newer, ¬x.OfRelay)

theorem Effects.refl (d : Device W) : Effects R d d :=
  ⟨fun _ => rfl, fun _ => rfl, fun _ => ⟨rfl, rfl⟩, fun _ => rfl, id, [], rfl, fun i => .nil i _, by simp⟩

theorem Effects.trans (h : Effects R d d') (h' : Effects R d' d'') : Effects R d d'' := by
  obtain ⟨newer, hlog, hflow, hrelay⟩ := h.log
  obtain ⟨newer', hlog', hflow', hrelay'⟩ := h'.log
  refine ⟨fun s => ?_, fun s => ?_, fun s => ?_, fun hR => ?_, fun hok => h'.ok (h.ok hok), newer' ++ newer, ?_,
    fun i => ?_, fun hR x hx => ?_⟩
  · rw [h'.interface, h.interface]
  · rw [h'.preambleVal, h.preambleVal]
  · exact ⟨(h'.rtcm3 s).1.trans (h.rtcm3 s).1, (h'.rtcm3 s).2.trans (h.rtcm3 s).2⟩
  · rw [h'.relay hR, h.relay hR]
  · rw [hlog', hlog, List.append_assoc]
  · exact (hflow i).append (hflow' i)
  · rcases List.mem_append.1 hx with hx | hx
    · exact hrelay' hR x hx
    · exact hrelay hR x hx

theorem Effects.mono {R' : Prop} (h : Effects R d d') (hR : R → R') : Effects R' d d' := by
  obtain ⟨newer, hlog, hflow, hrelay⟩ := h.log
  exact ⟨h.interface, h.preambleVal, h.rtcm3, fun hn => h.relay fun hr => hn (hR hr), h.ok, newer, hlog, hflow,
    fun hn => hrelay fun hr => hn (hR hr)⟩

theorem Effects.suffix (h : Effects R d d') : d.log <:+ d'.log := by
  obtain ⟨newer, hlog, -⟩ := h.log
  exact ⟨newer, hlog.symm⟩

theorem Effects.configured (h : Effects R d d') (hd : Configured d) : Configured d' :=
  ⟨fun s => by rw [h.interface, hd.tbfp], fun s => by rw [(h.rtcm3 s).1, hd.rtcm3]⟩

/-- Nothing but the flow control and the log matters of the tables. -/
theorem Effects.quiet (hi : ∀ s, d'.interface s = d.interface s) (hp : ∀ s, d'.preambleVal s = d.preambleVal s)
    (hr : d'.rtcm3 = d.rtcm3) (hf : ∀ s, (d'.tbfp s).flow = (d.tbfp s).flow) (hl : d'.log = d.log) : Effects R d d' :=
  ⟨hi, hp, fun s => by simp [hr], fun _ => by rw [hr], fun hok => by rwa [hr], [], hl,
    fun i => by rw [hf i]; exact .nil i _, by simp⟩

private theorem effects_note {x : Seen} (hx : x.Plain) (hR : x.OfRelay → R) : Effects R d (d.note x) := by
  refine ⟨fun _ => rfl, fun _ => rfl, fun _ => ⟨rfl, rfl⟩, fun _ => rfl, id, [x], rfl, fun i => .plain hx _,
    fun hn y hy => ?_⟩
  rw [List.mem_singleton] at hy
  exact fun hrelay => hn (hR (hy ▸ hrelay))

private theorem effects_setTbfp {r : TbfpReceiver} (h : r.flow = (d.tbfp slot).flow) :
    Effects R d (d.setTbfp slot r) := by
  refine .quiet (fun _ => rfl) (fun _ => rfl) rfl (fun s => ?_) rfl
  by_cases hs : s = slot
  · subst hs
    simp [Device.setTbfp, h]
  · simp [Device.setTbfp, hs]

theorem effects_setRtcm3 {p : Rtcm3Protocol} (hi : p.interface = (d.rtcm3 slot).interface)
    (hf : p.forwarding = (d.rtcm3 slot).forwarding) (hok : (d.rtcm3 slot).Ok → p.Ok) (hR : slot = .uart1 → R) :
    Effects R d (d.setRtcm3 slot p) := by
  refine ⟨fun _ => rfl, fun _ => rfl, fun s => ?_, fun hn => ?_, fun hall s => ?_, [], rfl, fun i => .nil i _, by simp⟩
  · by_cases hs : s = slot
    · subst hs
      simp [Device.setRtcm3, hi, hf]
    · simp [Device.setRtcm3, hs]
  · have hs : Interfaces.uart1 ≠ slot := fun h => hn (hR h.symm)
    simp [Device.setRtcm3, hs]
  · by_cases hs : s = slot
    · subst hs
      rw [Device.setRtcm3_self]
      exact hok (hall s)
    · rw [Device.setRtcm3_of_ne d p hs]
      exact hall s

theorem Effects.note {x : Seen} (h : Effects R d d') (hx : x.Plain) (hR : x.OfRelay → R) :
    Effects R d (d'.note x) := h.trans (effects_note hx hR)

theorem Effects.setTbfp {r : TbfpReceiver} (h : Effects R d d') (hr : r.flow = (d'.tbfp slot).flow) :
    Effects R d (d'.setTbfp slot r) := h.trans (effects_setTbfp hr)

theorem Effects.setRtcm3 {p : Rtcm3Protocol} (h : Effects R d d') (hi : p.interface = (d'.rtcm3 slot).interface)
    (hf : p.forwarding = (d'.rtcm3 slot).forwarding) (hok : (d'.rtcm3 slot).Ok → p.Ok) (hR : slot = .uart1 → R) :
    Effects R d (d'.setRtcm3 slot p) := h.trans (effects_setRtcm3 hi hf hok hR)

/-! ### The transmitting parts -/

/-- The set-up of the transmitting half stays. -/
def SameSetup (t t' : Transmitter W) : Prop :=
  ∀ s, (t'.tbfp s).interface = (t.tbfp s).interface ∧ (t'.tbfp s).preambleVal = (t.tbfp s).preambleVal

def SameNode (n m : Node) : Prop := m.tbfp.interface = n.tbfp.interface ∧ m.tbfp.preambleVal = n.tbfp.preambleVal

theorem SameSetup.trans {t t' t'' : Transmitter W} (h : SameSetup t t') (h' : SameSetup t' t'') : SameSetup t t'' :=
  fun s => ⟨(h' s).1.trans (h s).1, (h' s).2.trans (h s).2⟩

theorem effects_setTx {t : Transmitter W} (h : SameSetup d.tx t) : Effects R d (d.setTx t) :=
  .quiet (fun s => (h s).1) (fun s => (h s).2) rfl (fun _ => rfl) rfl

theorem Effects.setTx {t : Transmitter W} (h : Effects R d d') (ht : SameSetup d'.tx t) : Effects R d (d'.setTx t) :=
  h.trans (effects_setTx ht)

theorem sameSetup_setNode {t : Transmitter W} {n : Node} (h : SameNode (t.node slot) n) :
    SameSetup t (t.setNode slot n) := by
  intro s
  by_cases hs : s = slot
  · subst hs
    simp only [Transmitter.setNode, Function.update_self]
    exact h
  · simp [Transmitter.setNode, hs]

theorem sameNode_buildFrame (crc : List UInt8 → UInt8) (n : Node) (payload : Payload) (lifetime : UInt8)
    (ack : TbfpAck) : SameNode n (n.buildFrame crc payload lifetime ack).2 := by
  unfold Node.buildFrame tbfpMakeHeader
  split
  · split
    · exact ⟨rfl, rfl⟩
    · exact ⟨rfl, rfl⟩
  · exact ⟨rfl, rfl⟩

theorem sameNode_sendTry (spi : Bool) (n : Node) : SameNode n (sendTry spi n).2 := by
  rw [sendTry]
  dsimp only
  split
  · exact ⟨rfl, rfl⟩
  · exact ⟨rfl, rfl⟩

private theorem sameNode_sysSentSx1262 (spi : Bool) (n : Node) (array : Frame) (retx : Retx) :
    SameNode n (sysSentSx1262 spi n array retx).2 := by
  cases retx with
  | noNeed => exact ⟨rfl, rfl⟩
  | need =>
    simp only [sysSentSx1262, tbfpRetxStart]
    split
    · split
      · exact sameNode_sendTry spi _
      · exact ⟨rfl, rfl⟩
    · exact ⟨rfl, rfl⟩

theorem sameSetup_sysSendIf (t : Transmitter W) (array : Frame) (interface : Interfaces) (retx : Retx) :
    SameSetup t (t.sysSendIf env array interface retx).2 := by
  have hsend : SameSetup t (t.sendIf env array interface retx).2 := by
    unfold Transmitter.sendIf
    split
    · exact sameSetup_setNode (sameNode_sysSentSx1262 _ _ array retx)
    · unfold loraSendQueue
      split
      · dsimp only
        split <;> exact fun _ => ⟨rfl, rfl⟩
      · exact fun _ => ⟨rfl, rfl⟩
    · exact fun _ => ⟨rfl, rfl⟩
    · exact fun _ => ⟨rfl, rfl⟩
  unfold Transmitter.sysSendIf Transmitter.countSendErr
  split
  · exact hsend
  · exact hsend

theorem sameSetup_countAck (t : Transmitter W) (interface : Interfaces) : SameSetup t (t.countAck interface) := by
  intro s
  by_cases hs : s = interface
  · subst hs
    simp [Transmitter.countAck, TbfpProtocol.countAck]
  · simp [Transmitter.countAck, hs]

/-! ### Sending -/

section

variable (env) (hproc : ∀ (d : Device W) src len s reset, Configured d → Effects False d (proc d src len s reset).2)

include hproc

private theorem effects_sysSendIf (hd : Configured d) (array : Frame) (interface : Interfaces) (retx : Retx) :
    Effects R d (d.sysSendIf env proc array interface retx).2 := by
  unfold Device.sysSendIf
  split
  · have h : Effects R d (proc d (.txFrame .loopback) (UInt16.ofNat array.bytes.length) .loopback true).2 :=
      (hproc _ _ _ _ _ hd).mono False.elim
    unfold Device.sendLoopback
    dsimp only
    split
    · exact h
    · exact h.setTx fun _ => ⟨rfl, rfl⟩
  · exact effects_setTx (sameSetup_sysSendIf d.tx array interface retx)

theorem effects_tbfpSend (hd : Configured d) (payload : Payload) (interface : Interfaces) (lifetime : UInt8)
    (ack : TbfpAck) : Effects R d (d.tbfpSend env proc payload interface lifetime ack).2 := by
  have hbuilt : Effects R d (d.setTx (d.tx.setNode interface
      ((d.tx.node interface).buildFrame env.crc8SaeJ1850Calc payload lifetime ack).2)) :=
    effects_setTx (sameSetup_setNode (sameNode_buildFrame _ _ payload lifetime ack))
  unfold Device.tbfpSend
  dsimp only
  split
  · exact hbuilt.trans (effects_sysSendIf env hproc (hbuilt.configured hd) _ interface _)
  · exact hbuilt

private theorem effects_tbfpSendAck (hd : Configured d) (snum : UInt16) (interface : Interfaces) :
    Effects R d (d.tbfpSendAck env proc snum interface).2 := by
  have h : Effects R d (d.tbfpSend env proc (ackPayload snum) interface 0 .noNeed).2 :=
    effects_tbfpSend env hproc hd (ackPayload snum) interface 0 .noNeed
  unfold Device.tbfpSendAck
  dsimp only
  split
  · exact h.setTx (sameSetup_countAck _ interface)
  · exact h

/-! ### The RTCM3 parser and the relay -/

omit hproc in
private theorem effects_countLost (slot interface : Interfaces) : Effects True d (d.countLost slot interface) := by
  refine Effects.setTx (effects_setRtcm3 ?_ ?_ ?_ ?_) fun _ => ⟨rfl, rfl⟩
  · rfl
  · rfl
  · exact fun hok => hok.congr rfl rfl rfl rfl rfl rfl
  · exact fun _ => trivial

private theorem effects_passFrame (hd : Configured d) (interface : Interfaces) :
    Effects True d (d.passFrame env proc slot interface).2 := by
  have hnote : Effects True d (d.note (.passed interface (d.rtcm3 slot).fixedFrame.bytes)) :=
    effects_note trivial fun _ => trivial
  have hsend := hnote.trans
    (effects_tbfpSend env hproc (hnote.configured hd) (d.rtcm3 slot).fixedFrame interface 0 .noNeed)
  unfold Device.passFrame
  dsimp only
  split
  · exact hsend
  · exact hsend.trans (effects_countLost slot interface)

theorem effects_forward (hd : Configured d) (r : Bool) (interface : Interfaces) :
    Effects True d (Device.forward env proc slot (r, d) interface).2 := by
  have hnote : Effects True d (d.note (.flag interface)) := effects_note trivial fun _ => trivial
  unfold Device.forward
  split
  · exact hnote.trans (effects_passFrame env hproc (hnote.configured hd) interface)
  · exact hnote

private theorem effects_forwards (hd : Configured d) (r : Bool) (interfaces : List Interfaces) :
    Effects True d (interfaces.foldl (Device.forward env proc slot) (r, d)).2 := by
  induction interfaces generalizing d r with
  | nil => exact .refl d
  | cons interface interfaces ih =>
    have h : Effects True d (Device.forward env proc slot (r, d) interface).2 :=
      effects_forward env hproc hd r interface
    exact h.trans (ih (h.configured hd) _)

omit hproc in
private theorem effects_uartFrame (hs : slot ≠ .uart1) : Effects R d (d.uartFrame env slot).2 := by
  have huart : Effects R d (d.setTx (uartSend env d.tx uartNumZedF9p (d.rtcm3 slot).fixedFrame.bytes).2) :=
    effects_setTx fun _ => ⟨rfl, rfl⟩
  unfold Device.uartFrame
  dsimp only
  split
  · exact huart
  · exact huart.setRtcm3 rfl rfl (fun hok => hok.congr rfl rfl rfl rfl rfl rfl) fun h => absurd h hs

private theorem effects_relay (hd : Configured d) : Effects (slot = .uart1) d (d.relay env proc slot).2 := by
  unfold Device.relay
  by_cases hs : slot = .uart1
  · rw [hd.rtcm3, if_pos hs]
    exact (effects_forwards env hproc hd true forwardInterfaces).mono fun _ => hs
  · rw [hd.rtcm3_lora hs]
    exact effects_uartFrame env hs

omit hproc in
theorem effects_rtcm3Done : Effects (slot = .uart1) d (d.rtcm3Done slot) := by
  refine Effects.setRtcm3 (effects_setTbfp ?_) ?_ ?_ ?_ id
  · rfl
  · rfl
  · rfl
  · exact fun hok => hok.resetRx

theorem effects_passRtcm3 (hd : Configured d) {p : Rtcm3Protocol} (hi : p.interface = (d.rtcm3 slot).interface)
    (hf : p.forwarding = (d.rtcm3 slot).forwarding) (hok : (d.rtcm3 slot).Ok → p.takeFrame.Ok) (frame : List UInt8) :
    Effects (slot = .uart1) d (d.passRtcm3 env proc slot p frame).2 := by
  have htake : Effects (slot = .uart1) d ((d.setRtcm3 slot p.takeFrame).note (.rtcm3 slot frame)) := by
    refine Effects.note (effects_setRtcm3 hi hf hok id) ?_ fun h => ?_
    · trivial
    cases slot with
    | uart1 => rfl
    | _ => exact absurd h id
  exact htake.trans (effects_relay env hproc (htake.configured hd))

theorem effects_rtcm3ProcByte (hd : Configured d) (rxByte : UInt8) :
    Effects (slot = .uart1) d (d.rtcm3ProcByte env proc slot rxByte).2 := by
  have hstep := rtcm3ProcByte_cases env proc d slot rxByte
  generalize d.rtcm3ProcByte env proc slot rxByte = r at hstep ⊢
  cases hstep with
  | loads res p hi hf hok => exact effects_setRtcm3 hi hf hok id
  | accepts p frame hi hf hok => exact (effects_passRtcm3 env hproc hd hi hf hok frame).trans effects_rtcm3Done

theorem effects_rtcm3Fed (hd : Configured d) (src : Source) (n : Nat) :
    Effects (slot = .uart1) d (d.rtcm3Fed env proc src slot n).2 := by
  induction n with
  | zero => exact .refl d
  | succ n ih => exact ih.trans (effects_rtcm3ProcByte env hproc (ih.configured hd) _)

theorem effects_rtcm3ProcArray (hd : Configured d) (src : Source) (size : Nat) :
    Effects (slot = .uart1) d (d.rtcm3ProcArray env proc src size slot).2 := by
  have hreset : Effects (slot = .uart1) d (d.setRtcm3 slot (rtcm3ResetRx (d.rtcm3 slot))) :=
    effects_setRtcm3 rfl rfl (fun hok => hok.resetRx) id
  have hfed := hreset.trans (effects_rtcm3Fed env hproc (hreset.configured hd) src size)
  unfold Device.rtcm3ProcArray
  split
  · dsimp only
    split <;> exact hfed
  · exact .refl d

/-! ### The handlers of a payload -/

omit hproc in
theorem effects_read (need len : Nat) : Effects R d (d.note (.read need len)) := effects_note trivial False.elim

omit hproc in
theorem effects_procAck (len : UInt16) (interface : Interfaces) :
    Effects False d (d.procAck slot len interface).2 :=
  (effects_read 3 len.toNat).setTx (sameSetup_setNode ⟨rfl, rfl⟩)

omit hproc in
private theorem effects_tbfpProcChat (len : UInt16) : Effects False d (d.tbfpProcChat env slot len).2 := by
  unfold Device.tbfpProcChat
  split
  · exact (effects_read len.toNat len.toNat).setTx fun _ => ⟨rfl, rfl⟩
  · exact .refl d

private theorem effects_tbfpProcPing (hd : Configured d) (len : UInt16) (interface : Interfaces) :
    Effects False d (d.tbfpProcPing env proc slot len interface).2 := by
  have hnote : Effects False d (d.note (.read env.sizeofPingFrame len.toNat)) := effects_read _ _
  have hanswer : Effects False d ((d.note (.read env.sizeofPingFrame len.toNat)).answerPing env proc
      (d.payload slot 0) interface) := by
    unfold Device.answerPing
    split
    · exact hnote.trans (effects_tbfpSend env hproc (hnote.configured hd) _ interface 0 .noNeed)
    · exact hnote
  exact hanswer.setTx fun _ => ⟨rfl, rfl⟩

omit hproc in
theorem effects_endString (slot : Interfaces) (len : UInt16) : Effects R d (d.endString slot len) := by
  refine Effects.note (effects_setTbfp ?_) ?_ False.elim
  · rfl
  · trivial

theorem effects_handUp (hd : Configured d) (rxPayload : List UInt8) :
    Effects False (d.note (.polled rxPayload)) (d.handUp proc rxPayload) := by
  have hcall := hproc _ (.bytes rxPayload) (UInt16.ofNat rxPayload.length) .sx1262 true
    (hd.note (.polled rxPayload))
  unfold Device.handUp Device.procRxPayload
  dsimp only
  split
  · exact hcall
  · exact hcall.setTx fun _ => ⟨rfl, rfl⟩

theorem effects_handUps (hd : Configured d) (rxPayloads : List (List UInt8)) :
    Effects False d (rxPayloads.foldl (Device.handUp proc) d) := by
  induction rxPayloads generalizing d with
  | nil => exact .refl d
  | cons rxPayload rxPayloads ih =>
    have hnote : Effects False d (d.note (.polled rxPayload)) := effects_note trivial id
    have h := hnote.trans (effects_handUp hproc hd rxPayload)
    exact h.trans (ih (h.configured hd))

private theorem effects_tbfpProcCmd (hd : Configured d) (len : UInt16) :
    Effects False d (d.tbfpProcCmd env proc slot len).2 := by
  unfold Device.tbfpProcCmd
  split
  · have hread : Effects False d (d.note (.read len.toNat len.toNat)) := effects_read _ _
    have hend := hread.trans (effects_endString slot len)
    dsimp only
    generalize (d.note (.read len.toNat len.toNat)).endString slot len = m at hend ⊢
    have hran : Effects False d (m.setTx
        { m.tx with world := (env.processShellCmd (m.commandString slot len) m.tx.world).2 }) :=
      hend.setTx fun _ => ⟨rfl, rfl⟩
    exact hran.trans (effects_handUps hproc (hran.configured hd) _)
  · exact .refl d

theorem effects_procTunnel (hd : Configured d) (len : UInt16) : Effects False d (d.procTunnel proc slot len).2 := by
  have hnote : Effects False d (d.note (.read (1 + (len - 1).toNat) len.toNat)) := effects_read _ _
  exact hnote.trans (hproc _ _ _ _ _ (hnote.configured hd))

theorem effects_tbfpProcPayload (hd : Configured d) (len : UInt16) (hi : interface ≠ .uart1) :
    Effects False d (d.tbfpProcPayload env proc slot len interface).2 := by
  have hnote : Effects False d (d.note (.read 1 len.toNat)) := effects_read _ _
  have hd' := hnote.configured hd
  unfold Device.tbfpProcPayload
  dsimp only
  split
  · exact hnote.trans (effects_procAck len interface)
  · split
    · exact hnote.trans (effects_procTunnel hproc hd' len)
    · split
      · have hread : Effects False d ((d.note (.read 1 len.toNat)).note (.read len.toNat len.toNat)) :=
          hnote.trans (effects_read _ _)
        exact hread.trans ((effects_rtcm3ProcArray env hproc (hread.configured hd) _ _).mono hi)
      · split
        · exact hnote.trans (effects_tbfpProcChat env len)
        · split
          · exact hnote.trans (effects_tbfpProcPing env hproc hd' len interface)
          · split
            · exact hnote.trans (effects_tbfpProcCmd env hproc hd' len)
            · exact hnote

/-! ### A whole frame -/

omit hproc in
theorem countFrame_flow (d : Device W) (interface : Interfaces) (len snum : UInt16) (i : Interfaces) :
    ((d.countFrame interface len snum).tbfp i).flow =
      if i = interface then (tbfpCheckFlowControl (d.tbfp i).flow snum).2 else (d.tbfp i).flow := by
  by_cases hi : i = interface
  · subst hi
    simp [Device.countFrame, Device.setTbfp, Device.note]
  · simp [Device.countFrame, Device.setTbfp, Device.note, hi]

omit hproc in
/-- A frame that the flow control refused. -/
theorem Effects.refused {len snum : UInt16} (h : Effects R (d.countFrame interface len snum) d')
    (hok : (tbfpCheckFlowControl (d.tbfp interface).flow snum).1 = false) : Effects R d d' := by
  obtain ⟨newer, hlog, hflow, hrelay⟩ := h.log
  refine ⟨h.interface, h.preambleVal, h.rtcm3, h.relay, h.ok, newer ++ [.received interface snum], ?_, fun i => ?_,
    fun hR x hx => ?_⟩
  · rw [hlog, List.append_assoc]
    rfl
  · have hi := hflow i
    rw [countFrame_flow] at hi
    exact hi.refused fun hk => hk ▸ hok
  · rcases List.mem_append.1 hx with hx | hx
    · exact hrelay hR x hx
    · rw [List.mem_singleton.1 hx]
      exact id

omit hproc in
/-- A frame that passed: it was handed on in between. -/
theorem Effects.around {len snum : UInt16} (h : Effects R (d.countFrame interface len snum) d')
    (h' : Effects R (d'.note (.handed interface snum)) d'')
    (hok : (tbfpCheckFlowControl (d.tbfp interface).flow snum).1 = true) : Effects R d d'' := by
  obtain ⟨newer, hlog, hflow, hrelay⟩ := h.log
  obtain ⟨newer', hlog', hflow', hrelay'⟩ := h'.log
  refine ⟨fun s => (h'.interface s).trans (h.interface s), fun s => (h'.preambleVal s).trans (h.preambleVal s),
    fun s => ⟨(h'.rtcm3 s).1.trans (h.rtcm3 s).1, (h'.rtcm3 s).2.trans (h.rtcm3 s).2⟩,
    fun hR => (h'.relay hR).trans (h.relay hR), fun hall => h'.ok (h.ok hall),
    newer' ++ .handed interface snum :: newer ++ [.received interface snum], ?_, fun i => ?_, fun hR x hx => ?_⟩
  · rw [hlog', Device.note, hlog]
    simp [Device.countFrame, Device.note, Device.setTbfp]
  · have hi := (hflow i).append (hflow' i)
    rw [countFrame_flow] at hi
    exact hi.around fun hk => hk ▸ hok
  · simp only [List.append_assoc, List.cons_append, List.mem_append, List.mem_cons, List.not_mem_nil, or_false] at hx
    rcases hx with hx | rfl | hx | rfl
    · exact hrelay' hR x hx
    · exact id
    · exact hrelay hR x hx
    · exact id

theorem effects_meshFrame (r : Bool × Device W) (hd : Configured r.2) (slot interface : Interfaces)
    (header : TbfHeader) : Effects R r.2 (Device.meshFrame env proc r slot interface header).2 := by
  unfold Device.meshFrame
  split
  · exact effects_tbfpSend env hproc hd _ interface _ _
  · exact .refl _

theorem effects_ackFrame (r : Bool × Device W) (hd : Configured r.2) (interface : Interfaces) (header : TbfHeader) :
    Effects R r.2 (Device.ackFrame env proc r interface header).2 := by
  unfold Device.ackFrame
  split
  · exact effects_tbfpSendAck env hproc hd _ interface
  · exact .refl _

theorem effects_tbfpProcFull (hd : Configured d) (len : UInt16) (hi : interface ≠ .uart1) :
    Effects False d (d.tbfpProcFull env proc slot len interface).2 := by
  unfold Device.tbfpProcFull
  split
  · generalize TbfHeader.read (d.tbfp slot).parser.fixFrame = header
    have hd' : Configured (d.countFrame interface len header.snum) := ⟨hd.tbfp, hd.rtcm3⟩
    have hmesh : Effects False (d.countFrame interface len header.snum)
        (Device.meshFrame env proc (true, d.countFrame interface len header.snum) slot interface header).2 :=
      effects_meshFrame env hproc (true, d.countFrame interface len header.snum) hd' slot interface header
    have hack := hmesh.trans (effects_ackFrame env hproc _ (hmesh.configured hd') interface header)
    unfold Device.handFrame
    dsimp only
    split
    · rename_i hok
      exact hack.around (effects_tbfpProcPayload env hproc ((hack.configured hd').note _) header.len hi) hok
    · rename_i hok
      exact hack.refused (by simpa using hok)
  · exact .refl d

/-! ### The parser -/

omit hproc in
theorem effects_resetRx (slot : Interfaces) : Effects R d (d.resetRx slot) := effects_setTbfp rfl

private theorem effects_tbfpCheckCrc8 (hd : Configured d) {r : TbfpReceiver} (hr : r.flow = (d.tbfp slot).flow) :
    Effects False d (d.tbfpCheckCrc8 env proc slot r) := by
  unfold Device.tbfpCheckCrc8
  split
  · have haccept : Effects False d (d.acceptFrame slot r) := by
      refine Effects.note (Effects.note (effects_setTbfp hr) ?_ ?_) ?_ ?_
      · trivial
      · exact False.elim
      · trivial
      · exact False.elim
    have hd' := haccept.configured hd
    exact (haccept.trans (effects_tbfpProcFull env hproc hd' _ (hd'.ne_uart1 slot))).trans (effects_resetRx slot)
  · exact effects_setTbfp hr

private theorem effects_tbfpProcByte (hd : Configured d) (rxByte : UInt8) :
    Effects False d (d.tbfpProcByte env proc slot rxByte).2 := by
  have hstep : ∀ r : Bool × TbfpReceiver, r.2.flow = (d.tbfp slot).flow → Effects False d (d.stepTbfp slot r).2 :=
    fun r hr => effects_setTbfp hr
  unfold Device.tbfpProcByte
  split
  · unfold tbfpParserProcWaitPreamble
    split <;> exact hstep _ rfl
  · unfold tbfpParserProcRetransmitCnt
    split <;> exact hstep _ rfl
  · unfold tbfpParserProcWaitSerialNum
    split
    · exact hstep _ rfl
    · split <;> exact hstep _ rfl
  · unfold tbfpParserProcWaitLen tbfpCheckLen
    split
    · exact hstep _ rfl
    · split
      · refine hstep _ ?_
        dsimp only
        split
        · split <;> rfl
        · rfl
      · exact hstep _ rfl
  · unfold tbfpParserProcWaitPayload
    split
    · exact hstep _ rfl
    · split <;> exact hstep _ rfl
  · unfold Device.tbfpParserProcWaitCrc8
    split
    · exact effects_tbfpCheckCrc8 env hproc hd rfl
    · exact effects_resetRx slot
  · exact effects_resetRx slot

/-! ### An array of bytes -/

omit hproc in
/-- What is still to be fed changes nothing else. -/
private theorem effects_unfed (unfed : List Region) : Effects R d { d with unfed := unfed } :=
  .quiet (fun _ => rfl) (fun _ => rfl) rfl (fun _ => rfl) rfl

theorem effects_feedByte (hd : Configured d) (src : Source) (len : UInt16) (interface : Interfaces) (i : Nat) :
    Effects False d (d.feedByte env proc src len interface i).2 := by
  have hunfed : Effects False d { d with unfed := src.rest (i + 1) len.toNat ++ d.unfed } := effects_unfed _
  exact (hunfed.trans (effects_tbfpProcByte env hproc (hunfed.configured hd) _)).trans (effects_unfed d.unfed)

theorem effects_fed (hd : Configured d) (src : Source) (len : UInt16) (interface : Interfaces) (n : Nat) :
    Effects False d (d.fed env proc src len interface n).2 := by
  induction n with
  | zero => exact .refl d
  | succ n ih => exact ih.trans (effects_feedByte env hproc (ih.configured hd) src len interface n)

omit hproc in
private theorem effects_countLack (interface : Interfaces) (initRxPkt : UInt32) (isResetParser : Bool) :
    Effects R d (d.countLack interface initRxPkt isResetParser) := by
  unfold Device.countLack
  dsimp only
  split
  · exact .refl d
  · split
    · exact effects_setTbfp rfl
    · exact .refl d

private theorem effects_tbfpProcBody (hd : Configured d) (src : Source) (len : UInt16) (interface : Interfaces)
    (isResetParser : Bool) : Effects False d (tbfpProcBody env proc d src len interface isResetParser).2 := by
  have hreset : Effects False d (if isResetParser then d.resetRx interface else d) := by
    split
    · exact effects_resetRx interface
    · exact .refl d
  have hfed := hreset.trans (effects_fed env hproc (hreset.configured hd) src len interface len.toNat)
  exact hfed.trans (effects_countLack interface _ isResetParser)

end

/-- Whatever is fed to a parser, at any depth of nested calls. -/
theorem tbfpProc_effects (depth : Nat) (hd : Configured d) (src : Source) (len : UInt16) (interface : Interfaces)
    (isResetParser : Bool) : Effects False d (tbfpProc env depth d src len interface isResetParser).2 := by
  induction depth generalizing d src len interface isResetParser with
  | zero => exact effects_note trivial id
  | succ depth ih => exact effects_tbfpProcBody env (fun _ _ _ _ _ hd => ih hd _ _ _ _) hd src len interface isResetParser

end TiMcu.Tbfp
