import TiMcu.Can.Chunks

/-!
# A node of the CAN bus

`tcan4550_proc` and `can_send` on the controller.  `can_proc_payload` passes what was received to `tbfp_proc`, which is
outside of the protocol tables for this interface.  It is a parameter here: a program that goes on sending arrays with
`can_send`, with a state of its own.

The invariant of a node is `Kept`: what was handed out are the data of the frames that were read, and the frames that
were asked for carry what was sent.  It holds behind every operation; the frames that were received before a poll are
handed out behind it (`does_tcan4550Proc`).
-/

namespace TiMcu.Can

open Tcan4550 Dialog Live

/-- What is above the driver, and what went through it: the payloads handed out and the arrays sent. -/
structure Host (W : Type) where
  upper : W
  handed : List (List UInt8)
  sent : List (List UInt8)

/-- The program of a node. -/
abbrev NodeM (W : Type) := StateT (Host W) (StateM (Amid Controller BusEvent))

section

variable {W : Type} (uint8Limiter : BitVec 8 → BitVec 8 → BitVec 8) (mask11bit mask29bit : BitVec 32)
  (tbfpProc : List UInt8 → W → Dialog (List UInt8) Bool (Bool × W)) (garbage : BitVec 8)

def sendArray (data : List UInt8) : NodeM W Bool := do
  let res ← amid (canSendOn uint8Limiter mask11bit mask29bit data)
  modify fun h => { h with sent := h.sent ++ [given data] }
  pure res

/-- The arrays that a program sends, one after the other. -/
def serveUpper {α : Type} : Dialog (List UInt8) Bool α → NodeM W α
  | .done a => pure a
  | .ask data next => do
    let res ← sendArray uint8Limiter mask11bit mask29bit data
    serveUpper (next res)

def canProcPayload (rxPayload : List UInt8) : NodeM W Bool := do
  modify fun h => { h with handed := h.handed ++ [rxPayload] }
  let h ← get
  let (res, upper) ← serveUpper uint8Limiter mask11bit mask29bit (tbfpProc rxPayload h.upper)
  modify fun h => { h with upper := upper }
  pure res

/-- What a node does. -/
inductive Operation
  | proc
  | send (data : List UInt8)

def operate : Operation → NodeM W Bool
  | .proc =>
    tcan4550Proc (fun p => controller.serve p) (canProcPayload uint8Limiter mask11bit mask29bit tbfpProc) garbage
  | .send data => sendArray uint8Limiter mask11bit mask29bit data

end

/-! ### What a node keeps -/

section

variable {W : Type} {r : Registers} {known : List CanFrame} {n : Nat}

/-- What was handed out and what was sent.  Of the frames that are known to be received, `n` are perhaps not read. -/
def Kept (r : Registers) (known : List CanFrame) (n : Nat) (h : Host W) (c : Controller) : Prop :=
  ∃ acked asked : List CanFrame, Fine r acked asked known c ∧ h.handed = acked.map CanFrame.data ∧
    asked.flatMap CanFrame.data = h.sent.flatten ∧ known.length ≤ acked.length + n

/-- A payload was read and is not handed out yet. -/
def Taken (r : Registers) (known : List CanFrame) (n : Nat) (payload : List UInt8) (h : Host W) (c : Controller) :
    Prop :=
  ∃ (acked asked : List CanFrame) (f : CanFrame), payload = f.data ∧ Fine r (acked ++ [f]) asked known c ∧
    h.handed = acked.map CanFrame.data ∧ asked.flatMap CanFrame.data = h.sent.flatten ∧
    known.length ≤ acked.length + 1 + n

theorem Kept.mono {h : Host W} {c : Controller} (hkept : Kept r known n h c) {n' : Nat} (hn : n ≤ n') :
    Kept r known n' h c := by
  obtain ⟨acked, asked, hfine, hhanded, hsent, hlen⟩ := hkept
  exact ⟨acked, asked, hfine, hhanded, hsent, Nat.le_trans hlen (Nat.add_le_add_left hn _)⟩

/-- Of what leaves the program of the node alone it is enough to know what the controller keeps. -/
private theorem does_of_fine {α : Type} {x : StateM (Amid Controller BusEvent) α} (hhonest : Honest x)
    {Q : α → Host W → Controller → Prop}
    (h : ∀ (acked asked : List CanFrame) (host : Host W), host.handed = acked.map CanFrame.data →
      asked.flatMap CanFrame.data = host.sent.flatten → known.length ≤ acked.length + n →
        Triple (Fine r acked asked known) x fun a c => Q a host c) :
    Does (Kept r known n) (amid x) Q := by
  refine does_amid hhonest fun host => ?_
  refine Triple.of_exists fun acked => Triple.of_exists fun asked => ?_
  refine Triple.of_fact (c := host.handed = acked.map CanFrame.data ∧
    asked.flatMap CanFrame.data = host.sent.flatten ∧ known.length ≤ acked.length + n) (fun c h => h.2) ?_
  rintro ⟨hhanded, hsent, hlen⟩
  exact (h acked asked host hhanded hsent hlen).mono (fun c h => h.1) fun _ _ h => h

/-- A program of the driver that keeps what it knows. -/
private theorem does_kept {α : Type} {p : Bus α}
    (h : ∀ acked asked, Triple (Fine r acked asked known) (controller.perform p) fun _ c => Fine r acked asked known c) :
    Does (Kept r known n) (controller.serve p : NodeM W α) fun _ => Kept r known n :=
  does_of_fine (controller.honest_perform p) fun acked asked _ hhanded hsent hlen =>
    (h acked asked).mono (fun _ h => h) fun _ _ h => ⟨acked, asked, h, hhanded, hsent, hlen⟩

/-! ### The driver -/

private theorem does_readNextFifo (hr : r.Inside) (garbage : BitVec 8) (header : RxHeader)
    (dataPayload : Nat → BitVec 8) :
    Does (Kept r known (n + 1)) (controller.serve (readNextFifo garbage .rxFifo0 header dataPayload) : NodeM W _)
      fun x h c => (x.1 = 0 ∧ Kept r known 0 h c) ∨
        (x.1 ≠ 0 ∧ Taken r known n (payloadBytes x.2.2 x.1.toNat) h c) := by
  refine does_of_fine (controller.honest_perform _) fun acked asked host hhanded hsent hlen => ?_
  refine (triple_readNextFifo hr garbage header dataPayload).mono (fun c h => h) fun x c h => ?_
  rcases h with ⟨hzero, hread, hfine⟩ | ⟨f, hsome, hbytes, hfine⟩
  · exact .inl ⟨hzero, acked, asked, hfine, hhanded, hsent, hread⟩
  · exact .inr ⟨hsome, acked, asked, f, hbytes, hfine, hhanded, hsent, by omega⟩

private theorem does_getFifoCnt (hr : r.Inside) :
    Does (Kept r known n) (controller.serve (getFifoCnt 0) : NodeM W _) fun m h c => Kept r known m.toNat h c := by
  refine does_of_fine (controller.honest_perform _) fun acked asked host hhanded hsent _ => ?_
  exact (triple_getFifoCnt hr).mono (fun c h => h) fun m c h => ⟨acked, asked, h.2, hhanded, hsent, h.1⟩

private theorem does_forBit {P : Host W → Controller → Prop} {bit res : Bool} {action : NodeM W Bool}
    (h : Does P action fun _ => P) : Does P (forBit bit res action) fun _ => P := by
  cases bit with
  | true => exact h
  | false => exact does_pure fun _ _ h => h

/-- What is done with the payloads that are handed out. -/
def Handles (r : Registers) (known : List CanFrame) (proc : List UInt8 → NodeM W Bool) : Prop :=
  ∀ payload n, Does (Taken r known n payload) (proc payload) fun _ => Kept r known n

section

variable {proc : List UInt8 → NodeM W Bool} (hproc : Handles r known proc) (hr : r.Inside)

include hproc hr

private theorem does_pollFrame (garbage : BitVec 8) (res : Bool) :
    Does (Kept r known n) (pollFrame (fun p => controller.serve p) proc garbage res) fun _ => Kept r known n := by
  unfold pollFrame
  refine ((does_readNextFifo hr garbage _ _).mono (fun _ _ h => h.mono (Nat.le_succ n)) fun _ _ _ h => h).bind ?_
  rintro ⟨numBytes, header, dataPayload⟩
  dsimp only
  by_cases hzero : numBytes = 0
  · rw [if_neg (not_not_intro hzero)]
    refine does_pure fun h c hor => ?_
    rcases hor with ⟨-, hkept⟩ | ⟨hsome, -⟩
    · exact hkept.mono (Nat.zero_le n)
    · exact absurd hzero hsome
  · rw [if_pos hzero]
    refine ((hproc _ n).mono (fun h c hor => ?_) fun _ _ _ h => h).bind fun _ => does_pure fun _ _ h => h
    rcases hor with ⟨hz, -⟩ | ⟨-, htaken⟩
    · exact absurd hz hzero
    · exact htaken

private theorem does_pollCanInterrupts (garbage : BitVec 8) :
    Does (Kept r known n) (pollCanInterrupts (fun p => controller.serve p) proc garbage) fun _ => Kept r known n := by
  have hread : ∀ address, Does (Kept r known n) (controller.serve (readReg address) : NodeM W _) fun _ =>
      Kept r known n :=
    fun address => does_kept fun _ _ => triple_readAny address
  have hstat : Does (Kept r known n) (pollProtStat (fun p => controller.serve p) : NodeM W Bool) fun _ =>
      Kept r known n :=
    (hread addrMcanPsr).bind fun _ => does_pure fun _ _ h => h
  have hclear : ∀ intReg, Does (Kept r known n) (controller.serve (writeReg addrMcanIr intReg) : NodeM W _) fun _ =>
      Kept r known n :=
    fun intReg => does_kept fun _ _ => triple_clearIr intReg
  unfold pollCanInterrupts
  refine (hread addrMcanIr).bind ?_
  rintro ⟨res, intReg⟩
  cases res with
  | false => exact does_pure fun _ _ h => h
  | true =>
    refine (does_forBit (does_pollFrame hproc hr garbage true)).bind fun _ => ?_
    refine (does_forBit hstat).bind fun _ => ?_
    refine (does_forBit hstat).bind fun _ => ?_
    exact does_forBit (hclear intReg)

/-- As many elements are read as are known to be there, or until the FIFO is empty. -/
private theorem does_procFrames (garbage : BitVec 8) (res : Bool) (rxPayload : Nat → BitVec 8) :
    Does (Kept r known n) (procFrames (fun p => controller.serve p) proc garbage .rxFifo0 n res rxPayload)
      fun _ => Kept r known 0 := by
  induction n generalizing res rxPayload with
  | zero => exact does_pure fun _ _ h => h
  | succ n ih =>
    unfold procFrames
    refine (does_readNextFifo hr garbage _ rxPayload).bind ?_
    rintro ⟨rxSize, header, dataPayload⟩
    dsimp only
    by_cases hzero : rxSize = 0
    · rw [if_neg (not_not_intro hzero)]
      refine (ih res dataPayload).mono (fun h c hor => ?_) fun _ _ _ h => h
      rcases hor with ⟨-, hkept⟩ | ⟨hsome, -⟩
      · exact hkept.mono (Nat.zero_le n)
      · exact absurd hzero hsome
    · rw [if_pos hzero]
      refine ((hproc _ n).mono (fun h c hor => ?_) fun _ _ _ h => h).bind fun res => ih res dataPayload
      rcases hor with ⟨hz, -⟩ | ⟨-, htaken⟩
      · exact absurd hz hzero
      · exact htaken

/-- What was received before the poll is handed out behind it. -/
theorem does_tcan4550Proc (garbage : BitVec 8) :
    Does (Kept r known n) (tcan4550Proc (fun p => controller.serve p) proc garbage) fun _ => Kept r known 0 := by
  unfold tcan4550Proc
  refine (does_pollCanInterrupts hproc hr garbage).bind fun res => ?_
  refine (does_getFifoCnt hr).bind fun elements => ?_
  refine (does_procFrames hproc hr garbage res _).bind ?_
  rintro ⟨res, rxPayload⟩
  -- the second FIFO is never asked
  exact does_pure fun _ _ h => h

end

/-! ### The operations -/

section

variable {uint8Limiter : BitVec 8 → BitVec 8 → BitVec 8}
  (hlimiter : ∀ val max, (uint8Limiter val max).toNat = min val.toNat max.toNat) (hr : r.Inside)
  (mask11bit mask29bit : BitVec 32) (tbfpProc : List UInt8 → W → Dialog (List UInt8) Bool (Bool × W))

include hlimiter hr

private theorem does_sendArray (data : List UInt8) :
    Does (Kept r known n) (sendArray uint8Limiter mask11bit mask29bit data : NodeM W Bool) fun _ => Kept r known n := by
  have hsend : Does (Kept r known n) (amid (canSendOn uint8Limiter mask11bit mask29bit data) : NodeM W Bool)
      fun _ h c => Kept r known n { h with sent := h.sent ++ [given data] } c := by
    refine does_of_fine (honest_canSendOn uint8Limiter mask11bit mask29bit data)
      fun acked asked host hhanded hsent hlen => ?_
    refine (triple_canSendOn mask11bit mask29bit hlimiter hr data).mono (fun c h => h) fun _ c h => ?_
    obtain ⟨frames, hframes, hfine⟩ := h
    refine ⟨acked, asked ++ frames, hfine, hhanded, ?_, hlen⟩
    rw [List.flatMap_append, hframes, hsent, List.flatten_append, List.flatten_singleton]
  have hnote : Does (fun h c => Kept r known n { h with sent := h.sent ++ [given data] } c)
      (modify fun h => { h with sent := h.sent ++ [given data] } : NodeM W PUnit) fun _ => Kept r known n :=
    does_modify fun _ _ h => h
  exact hsend.bind fun _ => hnote.bind fun _ => does_pure fun _ _ h => h

private theorem does_serveUpper {α : Type} (p : Dialog (List UInt8) Bool α) :
    Does (Kept r known n) (serveUpper uint8Limiter mask11bit mask29bit p : NodeM W α) fun _ => Kept r known n := by
  induction p with
  | done a => exact does_pure fun _ _ h => h
  | ask data next ih => exact (does_sendArray hlimiter hr mask11bit mask29bit data).bind fun res => ih res

theorem handles_canProcPayload : Handles r known (canProcPayload uint8Limiter mask11bit mask29bit tbfpProc) := by
  intro payload n
  have hnote : Does (Taken r known n payload)
      (modify fun h => { h with handed := h.handed ++ [payload] } : NodeM W PUnit) fun _ => Kept r known n := by
    refine does_modify fun h c htaken => ?_
    obtain ⟨acked, asked, f, hpayload, hfine, hhanded, hsent, hlen⟩ := htaken
    refine ⟨acked ++ [f], asked, hfine, ?_, hsent, ?_⟩
    · dsimp only
      rw [List.map_append, List.map_singleton, hhanded, hpayload]
    · rw [List.length_append, List.length_singleton]
      exact hlen
  have hget : Does (Kept r known n) (get : NodeM W (Host W)) fun _ => Kept r known n := does_get fun _ _ h => h
  have hupper : ∀ upper, Does (Kept r known n) (modify fun h => { h with upper := upper } : NodeM W PUnit)
      fun _ => Kept r known n := fun upper => does_modify fun _ _ h => h
  refine hnote.bind fun _ => hget.bind fun h => ?_
  refine (does_serveUpper hlimiter hr mask11bit mask29bit _).bind ?_
  rintro ⟨res, upper⟩
  exact (hupper upper).bind fun _ => does_pure fun _ _ h => h

theorem does_operate (garbage : BitVec 8) (op : Operation) :
    Does (Kept r known n) (operate uint8Limiter mask11bit mask29bit tbfpProc garbage op : NodeM W Bool)
      fun _ => Kept r known n := by
  cases op with
  | proc =>
    have hproc : Handles r known (canProcPayload uint8Limiter mask11bit mask29bit tbfpProc) :=
      handles_canProcPayload hlimiter hr mask11bit mask29bit tbfpProc
    exact (does_tcan4550Proc hproc hr garbage).mono (fun _ _ h => h) fun _ _ _ h => h.mono (Nat.zero_le n)
  | send data => exact does_sendArray hlimiter hr mask11bit mask29bit data

end

end

end TiMcu.Can
