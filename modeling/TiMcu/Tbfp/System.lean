import TiMcu.Lib.Runs
import TiMcu.Tbfp.Effects

/-!
# The device from its start

`sw_init` sets up the interfaces of TBFP and of RTCM3; the other entries of the tables stay zero.  From then on arrays
come to `tbfp_proc`, bytes of the GNSS receiver to `rtcm3_proc_byte`, the firmware sends frames, and the transmitting
parts move on by themselves.  `run_effects` says what any sequence of these does.
-/

namespace TiMcu.Tbfp

open Runs

variable {W : Type} {polls : Bool}

/-! ### The start -/

def tbfpProtocolInit (interface : Interfaces) (preambleVal : UInt8) : TbfpProtocol where
  txByte := 0
  txPktCnt := 0
  sNum := 1
  reTxFsm := {}
  interface := interface
  preambleVal := preambleVal
  txFrame := TxFrame.zero
  txFrameLen := 0

/-- An entry of the table that is not set up. -/
def tbfpProtocolZero : TbfpProtocol := { tbfpProtocolInit .lora 0 with sNum := 0 }

def rtcm3ProtocolInit (interface : Interfaces) (loraFwd : Bool) : Rtcm3Protocol where
  interface := interface
  forwarding := Function.update (fun _ => false) .lora loraFwd

/-- The tables after `sw_init`. -/
def swInit (radio : Sx1262) (now : Nat) (world : W) : Device W where
  tx :=
    { tbfp := fun
        | .lora => tbfpProtocolInit .lora 0xA5
        | .sx1262 => tbfpProtocolInit .sx1262 0x1E
        | _ => tbfpProtocolZero
      errTxCnt := fun _ => 0
      trace := fun _ => []
      radio := radio
      now := now
      loRa := {}
      sendErrCnt := 0
      world := world
      uart := [] }
  tbfp := fun _ => {}
  rtcm3 := fun
    | .uart1 => rtcm3ProtocolInit .uart1 true
    | .lora => rtcm3ProtocolInit .lora false
    | _ => {}
  unfed := []
  log := []

/-- The radio at the start. -/
def restingRadio : Sx1262 := ⟨false, false, 0, []⟩

theorem configured_swInit (radio : Sx1262) (now : Nat) (world : W) : Configured (swInit radio now world) := by
  constructor
  · intro s
    cases s <;> rfl
  · intro s
    cases s <;> rfl

/-! ### What happens to it -/

/-- `depth` is how deep calls of `tbfp_proc` from within may go. -/
inductive Input (W : Type)
  /-- an array for `tbfp_proc` -/
  | proc (depth : Nat) (array : List UInt8) (interface : Interfaces) (isResetParser : Bool)
  /-- a byte of the GNSS receiver -/
  | rtcm3 (depth : Nat) (rxByte : UInt8)
  /-- `tbfp_send` -/
  | send (depth : Nat) (payload : Payload) (interface : Interfaces) (lifetime : UInt8) (ack : TbfpAck)
  /-- the machine, the queue, the radio and the clock move on -/
  | moves (f : Transmitter W → Transmitter W) (h : ∀ t, SameSetup t (f t))

def Device.step (env : Env W polls) (d : Device W) : Input W → Device W
  | .proc depth array interface isResetParser =>
    (tbfpProc env depth d (.bytes array) (UInt16.ofNat array.length) interface isResetParser).2
  | .rtcm3 depth rxByte => (d.rtcm3ProcByte env (tbfpProc env depth) .uart1 rxByte).2
  | .send depth payload interface lifetime ack =>
    (d.tbfpSend env (tbfpProc env depth) payload interface lifetime ack).2
  | .moves f _ => d.setTx (f d.tx)

theorem effects_step {env : Env W polls} {d : Device W} (hd : Configured d) (x : Input W) :
    Effects True d (d.step env x) := by
  have hproc : ∀ depth (d : Device W) src len s reset, Configured d →
      Effects False d (tbfpProc env depth d src len s reset).2 := fun depth _ _ _ _ _ hd =>
    tbfpProc_effects depth hd _ _ _ _
  cases x with
  | proc depth array interface isResetParser => exact (hproc _ _ _ _ _ _ hd).mono False.elim
  | rtcm3 depth rxByte => exact (effects_rtcm3ProcByte env (hproc depth) hd rxByte).mono fun _ => trivial
  | send depth payload interface lifetime ack => exact effects_tbfpSend env (hproc depth) hd payload interface lifetime ack
  | moves f h => exact effects_setTx (h d.tx)

/-- What a run does. -/
theorem run_effects {env : Env W polls} {d : Device W} (hd : Configured d) (xs : List (Input W)) :
    Effects True d (run (Device.step env) d xs) := by
  induction xs generalizing d with
  | nil => exact .refl d
  | cons x xs ih =>
    have hstep : Effects True d (d.step env x) := effects_step hd x
    exact hstep.trans (ih (hstep.configured hd))

end TiMcu.Tbfp
