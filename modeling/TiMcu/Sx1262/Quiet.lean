import TiMcu.Lib.Watch
import TiMcu.Sx1262.Spi

/-!
# Programs that start no transmission

`tx_done` is to keep `sx1262_start_tx` from starting a transmission while another one is on the air.  The watch `gate`
looks at the transfers only: the transmitter rests when the chip was reset, was told to receive, or reported that it
receives or has sent.

Most functions of the driver neither start a transmission nor touch `tx_done`.  They are written as values of the type
`Quiet`, a program together with the proof of this; the proof of a sequence comes from those of its parts.
-/

namespace TiMcu.Sx1262

open Dialog

def opcodeSetTx : UInt8 := 0x83
def opcodeSetRx : UInt8 := 0x82
def opcodeGetStatus : UInt8 := 0xC0

def chpModeRx : UInt8 := 5
def comStatComTxDone : UInt8 := 6

def Status.commandStatus (byte : UInt8) : UInt8 := (byte >>> 1) &&& 7
def Status.chipMode (byte : UInt8) : UInt8 := (byte >>> 4) &&& 7

/-! ### The watch -/

/-- `refused`: since the last transmission was started the chip was busy for too long, its selection failed, or `SetRx`
was not transferred. -/
structure Gate where
  rests : Bool
  statusAsked : Bool
  refused : Bool

def Gate.Open (g : Gate) : Prop := g.rests = true ∨ g.refused = true

/-- A status byte of a chip that transmits nothing. -/
def Status.idle (byte : UInt8) : Bool :=
  Status.commandStatus byte == comStatComTxDone || Status.chipMode byte == chpModeRx

def Gate.next (g : Gate) (call : Call) (r : Answer) : Gate :=
  match call with
  | .waitOnBusy _ => { g with refused := g.refused || !r.ok, statusAsked := false }
  | .chipSelect true => { g with refused := g.refused || !r.ok, statusAsked := false }
  | .write array =>
    { rests := if array.head? = some opcodeSetTx then false
        else if array.head? = some opcodeSetRx ∧ r.ok = true then true else g.rests
      statusAsked := array.head? = some opcodeGetStatus
      refused := if array.head? = some opcodeSetTx then false
        else g.refused || (array.head? = some opcodeSetRx && !r.ok) }
  | .read _ => { g with rests := g.rests || (g.statusAsked && r.ok && Status.idle (r.bytes 1)), statusAsked := false }
  | .gpioSet .rst false => { g with rests := true, statusAsked := false }
  | _ => { g with statusAsked := false }

/-- A transmission is started only on a transmitter that rests. -/
def gate : Watch Call Answer Gate where
  allowed g call := ∀ array, call = .write array → array.head? = some opcodeSetTx → g.Open
  next := Gate.next

/-! ### Quiet programs -/

variable {α β : Type} {p : Driver α} {g : Gate}

/-- Whatever is answered, no transmission is started, `tx_done` stays, and an open gate stays open. -/
def IsQuiet (p : Driver α) : Prop :=
  ∀ s g, Holds gate (fun (r : α × State) g' => r.2.radio.txDone = s.radio.txDone ∧ (g.Open → g'.Open)) g (p.run s)

/-- A call that starts no transmission. -/
def Call.Harmless : Call → Prop
  | .write array => array.head? ≠ some opcodeSetTx
  | _ => True

private theorem isQuiet_pure (a : α) : IsQuiet (pure a : Driver α) := fun _ _ => ⟨rfl, id⟩

theorem IsQuiet.bind {f : α → Driver β} (hp : IsQuiet p) (hf : ∀ a, IsQuiet (f a)) : IsQuiet (p >>= f) := by
  intro s g
  change Holds gate _ g (p.run s >>= fun r => (f r.1).run r.2)
  refine (hp s g).bind fun r g' hr => (hf r.1 r.2 g').mono fun r' g'' hr' => ?_
  exact ⟨hr'.1.trans hr.1, fun ho => hr'.2 (hr.2 ho)⟩

theorem isQuiet_modifyRadio {f : Instance → Instance} (hf : ∀ r, (f r).txDone = r.txDone) : IsQuiet (modifyRadio f) :=
  fun s _ => ⟨hf s.radio, id⟩

/-- No call but the start of a transmission closes the gate. -/
theorem Gate.Open.next {call : Call} (ho : g.Open) (hcall : call.Harmless) (r : Answer) : (g.next call r).Open := by
  unfold Gate.Open at ho ⊢
  cases call with
  | write array =>
    have hhead : array.head? ≠ some opcodeSetTx := hcall
    simp only [Gate.next, hhead, if_false, Bool.or_eq_true]
    split
    · exact .inl rfl
    · exact ho.imp_right .inl
  | chipSelect state =>
    cases state
    · exact ho
    · exact ho.imp_right fun h => by simp [Gate.next, h]
  | gpioSet pin state =>
    cases pin <;> cases state <;> first | exact ho | exact .inl rfl
  | waitOnBusy timeOutMs => exact ho.imp_right fun h => by simp [Gate.next, h]
  | read len => exact ho.imp_left fun h => by simp [Gate.next, h]
  | _ => exact ho

theorem isQuiet_askBoard (call : Call) (hcall : call.Harmless) : IsQuiet (askBoard call) := by
  intro s g
  refine ⟨fun array heq hhead => ?_, fun r => ⟨rfl, fun ho => ho.next hcall r⟩⟩
  subst heq
  exact absurd hhead hcall

private theorem isQuiet_withChipSelect {a : α} {callBack : Driver (Bool × α)} (h : IsQuiet callBack) :
    IsQuiet (withChipSelect a callBack) := by
  refine (isQuiet_askBoard (.waitOnBusy 100) trivial).bind fun busy => ?_
  split
  · refine (isQuiet_askBoard (.chipSelect true) trivial).bind fun selected => ?_
    have hlast : ∀ res : Bool × α, IsQuiet (do
        let _ ← askBoard (.chipSelect false)
        pure res) := fun res => (isQuiet_askBoard (.chipSelect false) trivial).bind fun _ => isQuiet_pure res
    split
    · exact h.bind hlast
    · exact (isQuiet_pure _).bind hlast
  · exact IsQuiet.bind (isQuiet_modifyRadio fun _ => rfl) fun _ => isQuiet_pure _

private theorem isQuiet_sendOpcode {opCode : UInt8} (hop : opCode ≠ opcodeSetTx) (txArray : List UInt8)
    (rxArray : Nat → UInt8) (rxArrayLen : Nat) : IsQuiet (sendOpcode opCode txArray rxArray rxArrayLen) := by
  apply isQuiet_withChipSelect
  unfold sendOpcodeProc
  split
  · refine (isQuiet_askBoard (.write (opCode :: txArray)) (by simpa [Call.Harmless] using hop)).bind fun w => ?_
    split
    · exact (isQuiet_askBoard (.read rxArrayLen) trivial).bind fun r => isQuiet_pure _
    · exact isQuiet_pure _
  · exact isQuiet_pure _

private theorem isQuiet_readReg (regAddr : UInt16) (regVal : UInt8) : IsQuiet (readReg regAddr regVal) := by
  apply isQuiet_withChipSelect
  have hop : Call.Harmless (.write [opcodeReadRegister, hi16 regAddr, lo16 regAddr]) := by
    simp [Call.Harmless, opcodeReadRegister, opcodeSetTx]
  exact (isQuiet_askBoard _ hop).bind fun w => (isQuiet_askBoard (.read 2) trivial).bind fun r => isQuiet_pure _

structure Quiet (α : Type) where
  prog : Driver α
  isQuiet : IsQuiet prog

instance : Monad Quiet where
  pure a := ⟨pure a, isQuiet_pure a⟩
  bind p f := ⟨p.prog >>= fun a => (f a).prog, p.isQuiet.bind fun a => (f a).isQuiet⟩

instance : MonadLift Quiet Driver := ⟨Quiet.prog⟩

namespace Quiet

def ask (call : Call) (h : call.Harmless := by trivial) : Quiet Answer := ⟨askBoard call, isQuiet_askBoard call h⟩

def radio : Quiet Instance := ⟨do pure (← get).radio, fun _ _ => ⟨rfl, id⟩⟩

def modifyRadio (f : Instance → Instance) (h : ∀ r, (f r).txDone = r.txDone := by exact fun _ => rfl) : Quiet Unit :=
  ⟨Sx1262.modifyRadio f, isQuiet_modifyRadio h⟩

def sendOpcode (opCode : UInt8) (txArray : List UInt8) (rxArray : Nat → UInt8) (rxArrayLen : Nat)
    (h : opCode ≠ opcodeSetTx := by decide) : Quiet (Bool × (Nat → UInt8)) :=
  ⟨Sx1262.sendOpcode opCode txArray rxArray rxArrayLen, isQuiet_sendOpcode h txArray rxArray rxArrayLen⟩

def readReg (regAddr : UInt16) (regVal : UInt8) : Quiet (Bool × UInt8) :=
  ⟨Sx1262.readReg regAddr regVal, isQuiet_readReg regAddr regVal⟩

@[simp] theorem prog_pure (a : α) : (pure a : Quiet α).prog = pure a := rfl

@[simp] theorem prog_bind (p : Quiet α) (f : α → Quiet β) : (p >>= f).prog = p.prog >>= fun a => (f a).prog := rfl

@[simp] theorem prog_sendOpcode (opCode : UInt8) (txArray : List UInt8) (rxArray : Nat → UInt8) (rxArrayLen : Nat)
    (h : opCode ≠ opcodeSetTx) :
    (sendOpcode opCode txArray rxArray rxArrayLen h).prog = Sx1262.sendOpcode opCode txArray rxArray rxArrayLen := rfl

@[simp] theorem prog_readReg (regAddr : UInt16) (regVal : UInt8) :
    (readReg regAddr regVal).prog = Sx1262.readReg regAddr regVal := rfl

@[simp] theorem prog_modifyRadio (f : Instance → Instance) (h : ∀ r, (f r).txDone = r.txDone) :
    (modifyRadio f h).prog = Sx1262.modifyRadio f := rfl

end Quiet

end TiMcu.Sx1262
