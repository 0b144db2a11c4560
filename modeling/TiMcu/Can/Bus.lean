import Mathlib.Data.List.Infix
import TiMcu.Can.Node
import TiMcu.Lib.Runs

/-!
# Two nodes on a CAN bus

Each node does its operations one after the other, while its controller sends and receives in between.  The bus is
reliable: what a node received are the first frames that the other one sent, in the same order.

As long as the controllers are fair and the driver is in time, the payloads that a node hands out are the arrays that
the other one sent, cut into chunks and none of them lost, repeated or changed (`bus_carries`).
-/

namespace TiMcu.Can

open Tcan4550 Dialog Live Runs

/-- A node: what is above its driver, its controller and when that acts. -/
structure Node (W : Type) where
  tbfpProc : List UInt8 → W → Dialog (List UInt8) Bool (Bool × W)
  upper : W
  garbage : BitVec 8
  controller : Controller
  plan : List (List BusEvent)

/-- The controller is set up and nothing was sent or received. -/
structure Node.Fresh {W : Type} (n : Node W) : Prop where
  inside : n.controller.registers.Inside
  get : n.controller.getIndex < n.controller.registers.count
  waiting : n.controller.waiting = []
  pending : n.controller.pending = false
  loaded : n.controller.loaded = false
  asked : n.controller.asked = []
  sentOut : n.controller.sentOut = []
  acked : n.controller.acked = []

section

variable (uint8Limiter : BitVec 8 → BitVec 8 → BitVec 8) (mask11bit mask29bit : BitVec 32)

def Node.step {W : Type} (n : Node W) (s : Host W × Amid Controller BusEvent) (op : Operation) :
    Host W × Amid Controller BusEvent :=
  let o := operate uint8Limiter mask11bit mask29bit n.tbfpProc n.garbage op s.1 s.2
  (o.1.2, o.2)

def Node.start {W : Type} (n : Node W) : Host W × Amid Controller BusEvent :=
  (⟨n.upper, [], []⟩, ⟨n.controller, n.plan, true⟩)

/-- The node behind a run of operations. -/
def Node.after {W : Type} (n : Node W) (ops : List Operation) : Host W × Amid Controller BusEvent :=
  run (n.step uint8Limiter mask11bit mask29bit) n.start ops

end

section

variable {W : Type} {n : Node W} {r : Registers} {known : List CanFrame} {m : Nat}

theorem Node.Fresh.kept (h : n.Fresh) : Kept n.controller.registers [] 0 n.start.1 n.start.2.state := by
  have hfill : n.controller.fill = 0 := by rw [Controller.fill, h.waiting]; rfl
  refine ⟨[], [], ⟨⟨rfl, h.get, ?_, fun i hi => ?_, fun hp => ?_, ?_, fun hl => ?_⟩, h.acked, h.asked, List.nil_prefix⟩,
    rfl, rfl, Nat.le_refl 0⟩
  · exact hfill ▸ Nat.zero_le _
  · exact absurd (hfill ▸ hi) (Nat.not_lt_zero i)
  · exact absurd (h.pending ▸ hp) Bool.false_ne_true
  · change n.controller.asked = n.controller.sentOut ++ if n.controller.pending then _ else []
    rw [h.asked, h.sentOut, h.pending]
    rfl
  · exact absurd (h.loaded ▸ hl) Bool.false_ne_true

variable {uint8Limiter : BitVec 8 → BitVec 8 → BitVec 8}
  (hlimiter : ∀ val max, (uint8Limiter val max).toNat = min val.toNat max.toNat) (hr : r.Inside)
  (mask11bit mask29bit : BitVec 32)

include hlimiter hr

/-- One operation: when all is fair behind it, it was before, and the node keeps what it kept. -/
private theorem Node.step_kept (n : Node W) {s s' : Host W × Amid Controller BusEvent} (op : Operation)
    (hs : n.step uint8Limiter mask11bit mask29bit s op = s') (hfair : s'.2.fair = true) :
    s.2.fair = true ∧ (Kept r known m s.1 s.2.state → Kept r known m s'.1 s'.2.state) := by
  have hdoes : Does (Kept r known m) (operate uint8Limiter mask11bit mask29bit n.tbfpProc n.garbage op : NodeM W Bool)
      fun _ => Kept r known m := does_operate hlimiter hr mask11bit mask29bit n.tbfpProc n.garbage op
  subst hs
  unfold Node.step at hfair ⊢
  dsimp only at hfair ⊢
  generalize hy : operate uint8Limiter mask11bit mask29bit n.tbfpProc n.garbage op s.1 s.2 = y at hfair ⊢
  exact hdoes.run hy hfair

/-- A poll hands out what was received before it. -/
private theorem Node.step_proc (n : Node W) {s s' : Host W × Amid Controller BusEvent}
    (hs : n.step uint8Limiter mask11bit mask29bit s .proc = s') (hfair : s'.2.fair = true)
    (hkept : Kept r known m s.1 s.2.state) : Kept r known 0 s'.1 s'.2.state := by
  have hproc : Handles r known (canProcPayload uint8Limiter mask11bit mask29bit n.tbfpProc) :=
    handles_canProcPayload hlimiter hr mask11bit mask29bit n.tbfpProc
  have hdoes : Does (Kept r known m)
      (operate uint8Limiter mask11bit mask29bit n.tbfpProc n.garbage .proc : NodeM W Bool) fun _ => Kept r known 0 :=
    does_tcan4550Proc hproc hr n.garbage
  subst hs
  unfold Node.step at hfair ⊢
  dsimp only at hfair ⊢
  generalize hy : operate uint8Limiter mask11bit mask29bit n.tbfpProc n.garbage .proc s.1 s.2 = y at hfair ⊢
  exact (hdoes.run hy hfair).2 hkept

omit hr

/-- A whole run. -/
private theorem Node.Fresh.after_kept (h : n.Fresh) (ops : List Operation)
    (hfair : (n.after uint8Limiter mask11bit mask29bit ops).2.fair = true) :
    Kept n.controller.registers [] 0 (n.after uint8Limiter mask11bit mask29bit ops).1
      (n.after uint8Limiter mask11bit mask29bit ops).2.state := by
  let Inv := fun s : Host W × Amid Controller BusEvent =>
    s.2.fair = true → Kept n.controller.registers [] 0 s.1 s.2.state
  have hstart : Inv n.start := fun _ => h.kept
  have hstep : ∀ s op, Inv s → Inv (n.step uint8Limiter mask11bit mask29bit s op) := by
    intro s op hs hfair
    obtain ⟨hbefore, hkept⟩ := Node.step_kept hlimiter h.inside mask11bit mask29bit n op rfl hfair
    exact hkept (hs hbefore)
  exact run_invariant ops hstart hstep hfair

/-- Behind a poll. -/
private theorem Node.Fresh.after_proc (h : n.Fresh) (ops : List Operation)
    (hfair : (n.after uint8Limiter mask11bit mask29bit (ops ++ [.proc])).2.fair = true) :
    Kept n.controller.registers (n.after uint8Limiter mask11bit mask29bit ops).2.state.taken 0
      (n.after uint8Limiter mask11bit mask29bit (ops ++ [.proc])).1
      (n.after uint8Limiter mask11bit mask29bit (ops ++ [.proc])).2.state := by
  have hlast : n.step uint8Limiter mask11bit mask29bit (n.after uint8Limiter mask11bit mask29bit ops) .proc =
      n.after uint8Limiter mask11bit mask29bit (ops ++ [.proc]) := by
    unfold Node.after
    rw [run_append, run_cons, run_nil]
  have hstep : (n.after uint8Limiter mask11bit mask29bit ops).2.fair = true ∧
      (Kept n.controller.registers [] 0 _ _ → Kept n.controller.registers [] 0 _ _) :=
    Node.step_kept hlimiter h.inside mask11bit mask29bit n .proc hlast hfair
  obtain ⟨acked, asked, hfine, hhanded, hsent, -⟩ := h.after_kept hlimiter mask11bit mask29bit ops hstep.1
  -- everything that was received so far is known from now on
  have hkept : Kept n.controller.registers (n.after uint8Limiter mask11bit mask29bit ops).2.state.taken
      (n.after uint8Limiter mask11bit mask29bit ops).2.state.taken.length _ _ :=
    ⟨acked, asked, ⟨hfine.good, hfine.acked, hfine.asked, List.prefix_refl _⟩, hhanded, hsent, Nat.le_add_left ..⟩
  exact Node.step_proc hlimiter h.inside mask11bit mask29bit n hlast hfair hkept

end

/-! ### The bus -/

/-- What a node hands out is the front of what was received. -/
theorem Kept.handed {W : Type} {r : Registers} {known : List CanFrame} {m : Nat} {h : Host W} {c : Controller}
    (hkept : Kept r known m h c) : h.handed.flatten = c.acked.flatMap CanFrame.data := by
  obtain ⟨acked, asked, hfine, hhanded, -⟩ := hkept
  rw [hhanded, hfine.acked, List.flatMap_def]

/-- What a node sent is in the frames that were asked for, and the controller sent the front of these. -/
theorem Kept.sent {W : Type} {r : Registers} {known : List CanFrame} {m : Nat} {h : Host W} {c : Controller}
    (hkept : Kept r known m h c) : c.asked.flatMap CanFrame.data = h.sent.flatten ∧ c.sentOut <+: c.asked := by
  obtain ⟨acked, asked, hfine, -, hsent, -⟩ := hkept
  refine ⟨hfine.asked ▸ hsent, ?_⟩
  rw [hfine.good.asked]
  exact List.prefix_append _ _

section

variable {uint8Limiter : BitVec 8 → BitVec 8 → BitVec 8}
  (hlimiter : ∀ val max, (uint8Limiter val max).toNat = min val.toNat max.toNat) (mask11bit mask29bit : BitVec 32)

include hlimiter

/-- The payloads that a node hands out are the front of what the other one sent.  They are all of it when the last
operation was a poll before which every frame was received. -/
theorem bus_carries {W W' : Type} (a : Node W) (b : Node W') (ha : a.Fresh) (hb : b.Fresh) (opsA opsB : List Operation)
    (hfairA : (a.after uint8Limiter mask11bit mask29bit opsA).2.fair = true)
    (hfairB : (b.after uint8Limiter mask11bit mask29bit opsB).2.fair = true)
    (hbus : (b.after uint8Limiter mask11bit mask29bit opsB).2.state.taken <+:
      (a.after uint8Limiter mask11bit mask29bit opsA).2.state.sentOut) :
    (b.after uint8Limiter mask11bit mask29bit opsB).1.handed.flatten <+:
        (a.after uint8Limiter mask11bit mask29bit opsA).1.sent.flatten ∧
      ∀ ops, opsB = ops ++ [.proc] →
        (b.after uint8Limiter mask11bit mask29bit ops).2.state.taken =
          (a.after uint8Limiter mask11bit mask29bit opsA).2.state.asked →
        (b.after uint8Limiter mask11bit mask29bit opsB).1.handed.flatten =
          (a.after uint8Limiter mask11bit mask29bit opsA).1.sent.flatten := by
  obtain ⟨hsent, hout⟩ := (ha.after_kept hlimiter mask11bit mask29bit opsA hfairA).sent
  have hhanded := (hb.after_kept hlimiter mask11bit mask29bit opsB hfairB).handed
  have hread : (b.after uint8Limiter mask11bit mask29bit opsB).2.state.acked <+:
      (a.after uint8Limiter mask11bit mask29bit opsA).2.state.asked :=
    ((List.prefix_append _ _).trans hbus).trans hout
  rw [hhanded, ← hsent]
  refine ⟨hread.flatMap _, fun ops hops htaken => ?_⟩
  subst hops
  obtain ⟨acked, asked, hfine, -, -, hlen⟩ := hb.after_proc hlimiter mask11bit mask29bit ops hfairB
  have hall := hread.eq_of_length_le (by rw [hfine.acked, ← htaken]; exact hlen)
  rw [hall]

end

/-! ### An exchange -/

/-- The registers behind `tcan4550_init`. -/
def initRegisters : Registers :=
  let m := (mramCfg cutAt (initConfig 5) ⟨0, 0, 0⟩ ⟨0, 0, 0⟩ resetMcan).2
  ⟨m.rxf0c.word, RxBufFifoElemSzCfg.word 0 m.rxesc, m.txbc.word, m.txesc.word⟩

/-- The second element of the FIFO is the first transmit buffer. -/
example : initRegisters.Apart 0 ∧ ¬initRegisters.Apart 1 := by decide

/-- The controller behind `tcan4550_init`. -/
def initController : Controller where
  mem a :=
    if a = addrMcanRxf0c.toNat then initRegisters.rxf0c
    else if a = addrMcanRxesc.toNat then initRegisters.rxesc
    else if a = addrMcanTxbc.toNat then initRegisters.txbc
    else if a = addrMcanTxesc.toNat then initRegisters.txesc
    else 0
  opCode := opCodeRead
  address := 0
  getIndex := 0
  waiting := []
  pending := false
  loaded := false
  asked := []
  sentOut := []
  acked := []

/-- A node whose upper part takes everything and answers nothing. -/
def quietNode (plan : List (List BusEvent)) : Node Unit where
  tbfpProc _ upper := pure (true, upper)
  upper := ()
  garbage := 0
  controller := initController
  plan := plan

private theorem initController_inside : initController.registers.Inside := by
  refine ⟨?_, ?_, ?_, ?_, ?_⟩ <;> decide

private theorem quietNode_fresh (plan : List (List BusEvent)) : (quietNode plan).Fresh where
  inside := initController_inside
  get := initController_inside.some
  waiting := rfl
  pending := rfl
  loaded := rfl
  asked := rfl
  sentOut := rfl
  acked := rfl

/-- Each frame is sent before the next question behind it. -/
def sendingNode : Node Unit :=
  quietNode (List.replicate 11 [] ++ [.transmit] :: List.replicate 9 [] ++ [[.transmit]])

/-- Both frames are received while the driver polls. -/
def receivingNode : Node Unit :=
  quietNode [[.receive (Chunk.frame cutAt 0x7FF 0x1FFFFFFF ⟨0xD3, 0x0807060504030201, 8, true⟩) 0 []], [],
    [.receive (Chunk.frame cutAt 0x7FF 0x1FFFFFFF ⟨0xD3, 9, 1, true⟩) 0 []]]

theorem bus_carries_nineBytes :
    (receivingNode.after cutAt 0x7FF 0x1FFFFFFF [.proc, .proc]).1.handed.flatten =
      (sendingNode.after cutAt 0x7FF 0x1FFFFFFF [.send [1, 2, 3, 4, 5, 6, 7, 8, 9], .proc]).1.sent.flatten :=
  (bus_carries toNat_cutAt 0x7FF 0x1FFFFFFF sendingNode receivingNode (quietNode_fresh _) (quietNode_fresh _)
    [.send [1, 2, 3, 4, 5, 6, 7, 8, 9], .proc] [.proc, .proc] (by decide +kernel) (by decide +kernel)
    (by decide +kernel)).2 [.proc] rfl (by decide +kernel)

example : (receivingNode.after cutAt 0x7FF 0x1FFFFFFF [.proc, .proc]).1.handed = [[1, 2, 3, 4, 5, 6, 7, 8], [9]] := by
  decide +kernel

end TiMcu.Can
