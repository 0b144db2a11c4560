import Mathlib.Data.List.GetD
import Mathlib.Data.List.TakeDrop
import Mathlib.Logic.Function.Basic
import TiMcu.Sx1262.Process

/-!
# The radio chip

What the commands of the driver mean to the chip: a data buffer of 256 bytes whose addresses wrap around, registers,
what the commands set, and the packets that it was told to send.  Every transfer succeeds, and an answer begins with the
status.  A low level of the reset line brings everything that was set back to what it is after a start.  A packet that is
received is written into the data buffer from some address on.

To `GetRxBufferStatus` the chip answers with the status, the length and the start of the packet.  The driver takes the
byte behind these for the start, and the chip may send anything there (`behind`).

`startTx_onChip` is what `sx1262_start_tx` puts on the air, `getRxPayload_onChip` what `sx1262_get_rx_payload` makes of a
packet that was received.
-/

namespace TiMcu.Sx1262

open Dialog

/-! ### The data buffer -/

/-- The bytes are written from the address `offset` on. -/
def store (buffer : UInt8 → UInt8) (offset : UInt8) : List UInt8 → UInt8 → UInt8
  | [] => buffer
  | b :: data => store (Function.update buffer offset b) (offset + 1) data

/-- The bytes from the address `offset` on. -/
def window (buffer : UInt8 → UInt8) (offset : UInt8) (n : Nat) : List UInt8 :=
  (List.range n).map fun i => buffer (offset + UInt8.ofNat i)

theorem store_of_ne {buffer : UInt8 → UInt8} {offset a : UInt8} {data : List UInt8}
    (h : ∀ i < data.length, a ≠ offset + UInt8.ofNat i) : store buffer offset data a = buffer a := by
  induction data generalizing buffer offset with
  | nil => rfl
  | cons b data ih =>
    have hne : a ≠ offset := by simpa using h 0 (by simp)
    rw [store, ih, Function.update_of_ne hne]
    intro i hi
    have hi' := h (i + 1) (by simpa using hi)
    rw [UInt8.ofNat_add, UInt8.add_comm (UInt8.ofNat i), ← UInt8.add_assoc] at hi'
    exact hi'

private theorem offset_ne {offset : UInt8} {i j : Nat} (hi : i < 256) (hj : j < 256) (hne : i ≠ j) :
    offset + UInt8.ofNat i ≠ offset + UInt8.ofNat j := by
  intro h
  have heq : UInt8.ofNat i = UInt8.ofNat j := (UInt8.add_right_inj offset).1 h
  have hnat := congrArg UInt8.toNat heq
  simp only [UInt8.toNat_ofNat'] at hnat
  omega

private theorem store_at {buffer : UInt8 → UInt8} {offset : UInt8} {data : List UInt8} (hlen : data.length ≤ 256)
    {i : Nat}
    (hi : i < data.length) : store buffer offset data (offset + UInt8.ofNat i) = data[i] := by
  induction data generalizing buffer offset i with
  | nil => exact absurd hi (Nat.not_lt_zero i)
  | cons b data ih =>
    have hdata : data.length + 1 ≤ 256 := hlen
    cases i with
    | zero =>
      rw [store, store_of_ne]
      · simp
      · intro j hj
        have hne := @offset_ne offset 0 (j + 1) (by omega) (by omega) (by omega)
        rwa [UInt8.ofNat_add, UInt8.add_comm (UInt8.ofNat j), ← UInt8.add_assoc] at hne
    | succ i =>
      have hi' : i < data.length := Nat.lt_of_succ_lt_succ hi
      have hstep := @ih (Function.update buffer offset b) (offset + 1) (by omega) i hi'
      rw [store, UInt8.ofNat_add, UInt8.add_comm (UInt8.ofNat i), ← UInt8.add_assoc]
      exact hstep

/-- Every address is written. -/
private theorem store_replicate_zero (buffer : UInt8 → UInt8) (offset : UInt8) :
    store buffer offset (List.replicate 256 0) = fun _ => 0 := by
  funext a
  have ha : a = offset + UInt8.ofNat (a - offset).toNat := by
    rw [UInt8.ofNat_toNat, UInt8.add_comm, UInt8.sub_add_cancel]
  have hlt : (a - offset).toNat < (List.replicate 256 (0 : UInt8)).length := by
    rw [List.length_replicate]
    exact UInt8.toNat_lt _
  rw [ha, store_at (Nat.le_of_eq List.length_replicate) hlt, List.getElem_replicate]

private theorem map_range_getD {α : Type} (n : Nat) (l : List α) (a : α) :
    (List.range n).map (l.getD · a) = l.takeD n a := by
  induction n generalizing l with
  | zero => rfl
  | succ n ih =>
    rw [List.range_succ_eq_map, List.map_cons, List.map_map, List.takeD, ← ih]
    cases l with
    | nil => exact congrArg (a :: ·) (List.map_congr_left fun _ _ => rfl)
    | cons b l => exact congrArg (b :: ·) (List.map_congr_left fun _ _ => rfl)

/-- What is written into an empty buffer is read back, and nothing behind it. -/
theorem window_store {offset : UInt8} {data : List UInt8} (hlen : data.length ≤ 256) {n : Nat} (hn : n ≤ 256) :
    window (store (fun _ => 0) offset data) offset n = data.takeD n 0 := by
  rw [window, ← map_range_getD]
  refine List.map_congr_left fun i hi => ?_
  have hi' : i < n := List.mem_range.1 hi
  by_cases hlt : i < data.length
  · rw [store_at hlen hlt, List.getD_eq_getElem _ _ hlt]
  · rw [store_of_ne, List.getD_eq_default _ _ (Nat.le_of_not_lt hlt)]
    intro j hj
    exact offset_ne (by omega) (by omega) (by omega)

/-! ### The chip -/

/-- The commands whose arguments the chip keeps. -/
def kept : List UInt8 :=
  [opcodeSetPacketType, opcodeSetRfFrequency, opcodeSetModulationParams, opcodeSetPacketParams, opcodeSetTxParams,
    opcodeSetPaConfig, opcodeSetRegulatorMode, opcodeSetDioIrqParams, opcodeSetDio2AsRfswitch]

/-- What the commands of the driver set.  `given` are the arguments of the last command of each kind in `kept`. -/
structure Memory where
  buffer : UInt8 → UInt8
  regs : UInt16 → UInt8
  txBase : UInt8
  rxBase : UInt8
  given : UInt8 → List UInt8

/-- The length of the packets, behind the length of the preamble and the type of the header. -/
def Memory.payloadLength (m : Memory) : UInt8 := (m.given opcodeSetPacketParams).getD 3 0

@[simp] theorem Memory.payloadLength_mk (m : Memory) (buffer : UInt8 → UInt8) (regs : UInt16 → UInt8)
    (txBase rxBase : UInt8) : (Memory.mk buffer regs txBase rxBase m.given).payloadLength = m.payloadLength := rfl

/-- `status` is the status byte, `start` and `len` where the last packet is in the data buffer, `reply` what the chip
answers to the transfers that read, and `air` what it was told to send, the newest first.  `initial` is what a reset
leaves, and `behind` the byte that is sent behind the start of a packet.  `files` is what the parameter store of the
board answers. -/
structure Chip extends Memory where
  status : UInt8
  start : UInt8
  len : UInt8
  reply : Nat → UInt8
  air : List (List UInt8)
  initial : Memory
  behind : UInt8 → UInt8
  files : UInt16 → Nat → Answer := fun _ _ => {}

/-- A command with these arguments is kept. -/
def Memory.give (m : Memory) (opCode : UInt8) (args : List UInt8) : Memory :=
  { m with given := Function.update m.given opCode args }

namespace Chip

def word (hi lo : UInt8) : UInt16 := join16 hi lo

/-- What a command does. -/
def exec (c : Chip) (opCode : UInt8) (args : List UInt8) : Chip :=
  match args with
  | offset :: data =>
    if opCode = opcodeWriteBuffer then { c with buffer := store c.buffer offset data }
    else if opCode = opcodeReadBuffer then
      { c with reply := fun i => if i = 0 then c.status else c.buffer (offset + UInt8.ofNat (i - 1)) }
    else if opCode = opcodeSetBufferBaseAddr then { c with txBase := offset, rxBase := data.getD 0 0 }
    else if opCode = opcodeSetTx then { c with air := window c.buffer c.txBase c.payloadLength.toNat :: c.air }
    else if opCode = opcodeWriteRegister then
      { c with regs := Function.update c.regs (word offset (data.getD 0 0)) (data.getD 1 0) }
    else if opCode = opcodeReadRegister then
      { c with reply := fun i => if i = 1 then c.regs (word offset (data.getD 0 0)) else c.status }
    else if opCode ∈ kept then { c with toMemory := c.toMemory.give opCode (offset :: data) }
    else { c with reply := fun _ => c.status }
  | [] =>
    if opCode = opcodeGetRxBufferStatus then
      { c with reply := fun i =>
          if i = 0 then c.status else if i = 1 then c.len else if i = 2 then c.start else c.behind c.start }
    else if opCode = opcodeGetPacketType then
      { c with reply := fun i => if i = 1 then (c.given opcodeSetPacketType).headD 0 else c.status }
    else { c with reply := fun _ => c.status }

/-- All transfers succeed, and the chip is reset while the line is low. -/
def answer (c : Chip) : Call → Answer × Chip
  | .write (opCode :: args) => ({}, c.exec opCode args)
  | .read _ => ({ bytes := c.reply }, c)
  | .gpioSet .rst false => ({}, { c with toMemory := c.initial })
  | .mmGet id size => (c.files id size, c)
  | _ => ({}, c)

/-- A packet is received from the address `start` on. -/
def receive (c : Chip) (start : UInt8) (packet : List UInt8) : Chip :=
  { c with buffer := store c.buffer start packet, start := start, len := UInt8.ofNat packet.length }

end Chip

/-! ### Programs on a chip -/

section

variable {α β : Type} (c : Chip) (s : State)

/-- The result, the variables and the chip after a program. -/
def onChip (p : Driver α) (c : Chip) (s : State) : α × State × Chip :=
  let o := run Chip.answer c (p.run s)
  (o.result.1, o.result.2, o.state)

@[simp] theorem onChip_pure (a : α) : onChip (pure a) c s = (a, s, c) := rfl

@[simp] theorem onChip_bind (p : Driver α) (f : α → Driver β) :
    onChip (p >>= f) c s = onChip (f (onChip p c s).1) (onChip p c s).2.2 (onChip p c s).2.1 := by
  simp [onChip]

@[simp] theorem onChip_liftM (p : Quiet α) : onChip (liftM p) c s = onChip p.prog c s := rfl

@[simp] theorem onChip_get : onChip get c s = (s, s, c) := rfl

@[simp] theorem onChip_modify (f : State → State) : onChip (modify f) c s = ((), f s, c) := rfl

@[simp] theorem onChip_modifyRadio (f : Instance → Instance) :
    onChip (modifyRadio f) c s = ((), { s with radio := f s.radio }, c) := rfl

@[simp] theorem onChip_askBoard (call : Call) : onChip (askBoard call) c s = ((c.answer call).1, s, (c.answer call).2) :=
  rfl

@[simp] theorem onChip_withChipSelect {a : α} {callBack : Driver (Bool × α)} :
    onChip (withChipSelect a callBack) c s = onChip callBack c s := by
  simp [withChipSelect, Chip.answer]

theorem onChip_sendOpcode (opCode : UInt8) {txArray : List UInt8} (h : txArray.length + 1 < 2 * fifoSize)
    (rxArray : Nat → UInt8) (rxArrayLen : Nat) :
    onChip (sendOpcode opCode txArray rxArray rxArrayLen) c s =
      ((true, overwrite rxArray rxArrayLen (c.exec opCode txArray).reply), s, c.exec opCode txArray) := by
  rw [sendOpcode, onChip_withChipSelect]
  by_cases hlen : 0 < rxArrayLen
  · rw [sendOpcodeProc_read h rxArray hlen]
    simp [Chip.answer]
  · obtain rfl : rxArrayLen = 0 := by omega
    rw [sendOpcodeProc_write h rxArray]
    simp only [onChip_bind, onChip_askBoard, onChip_pure, Chip.answer]
    rfl

theorem onChip_command {opCode : UInt8} (hop : opCode ≠ opcodeSetTx) {txArray : List UInt8}
    (h : txArray.length + 1 < 2 * fifoSize) :
    onChip (command opCode txArray hop).prog c s = (true, s, c.exec opCode txArray) := by
  simp only [command, Quiet.prog_bind, Quiet.prog_sendOpcode, Quiet.prog_pure, onChip_bind, onChip_pure]
  rw [onChip_sendOpcode c s opCode h]

/-- The commands that do something to the chip, or after which it answers with more than its status. -/
def opcodes : List UInt8 :=
  [opcodeWriteBuffer, opcodeReadBuffer, opcodeSetBufferBaseAddr, opcodeSetTx, opcodeWriteRegister, opcodeReadRegister,
    opcodeGetRxBufferStatus, opcodeGetPacketType]

theorem Chip.exec_other {opCode : UInt8} (h : opCode ∉ opcodes) (hkept : opCode ∉ kept) (args : List UInt8) :
    c.exec opCode args = { c with reply := fun _ => c.status } := by
  simp only [opcodes, List.mem_cons, List.not_mem_nil, or_false, not_or] at h
  cases args with
  | nil => simp [Chip.exec, h]
  | cons a args => simp [Chip.exec, h, hkept]

theorem Chip.exec_kept {opCode : UInt8} (h : opCode ∈ kept) (a : UInt8) (args : List UInt8) :
    c.exec opCode (a :: args) = { c with toMemory := c.toMemory.give opCode (a :: args) } := by
  have hall : opcodes.all (fun other => !kept.contains other) = true := rfl
  have hnone : ∀ other ∈ opcodes, opCode ≠ other := by
    rintro other hother rfl
    have hnot := List.all_eq_true.1 hall opCode hother
    rw [List.contains_iff_mem.2 h] at hnot
    cases hnot
  simp only [opcodes, List.forall_mem_cons, List.not_mem_nil, IsEmpty.forall_iff, implies_true, and_true] at hnone
  simp [Chip.exec, hnone, h]

/-! ### What a program leaves -/

/-- What a reset leaves, what is sent behind the start of a packet and the files are always the same. -/
structure Chip.SameBoard (c c' : Chip) : Prop where
  initial : c'.initial = c.initial
  behind : c'.behind = c.behind
  files : c'.files = c.files

private theorem Chip.sameBoard_answer (call : Call) : c.SameBoard (c.answer call).2 := by
  have hexec : ∀ opCode args, c.SameBoard (c.exec opCode args) := by
    intro opCode args
    unfold Chip.exec
    repeat' split
    all_goals exact ⟨rfl, rfl, rfl⟩
  unfold Chip.answer
  split
  · exact hexec _ _
  all_goals exact ⟨rfl, rfl, rfl⟩

theorem onChip_sameBoard (p : Driver α) : c.SameBoard (onChip p c s).2.2 := by
  unfold onChip
  dsimp only
  generalize p.run s = d
  induction d generalizing c with
  | done a => exact ⟨rfl, rfl, rfl⟩
  | ask call next ih =>
    have hcall := c.sameBoard_answer call
    have hrest := ih (c.answer call).1 (c.answer call).2
    exact ⟨hrest.initial.trans hcall.initial, hrest.behind.trans hcall.behind, hrest.files.trans hcall.files⟩

/-! ### The commands of the data buffer -/

@[simp] theorem Chip.exec_writeBuffer (offset : UInt8) (data : List UInt8) :
    c.exec opcodeWriteBuffer (offset :: data) = { c with buffer := store c.buffer offset data } := rfl

@[simp] theorem Chip.exec_setBufferBaseAddr (txBaseAddr rxBaseAddr : UInt8) :
    c.exec opcodeSetBufferBaseAddr [txBaseAddr, rxBaseAddr] = { c with txBase := txBaseAddr, rxBase := rxBaseAddr } := rfl

@[simp] theorem onChip_clearFifo : onChip clearFifo.prog c s = (true, s, { c with buffer := fun _ => 0 }) := by
  have htx : List.replicate (txSize + 1) (0 : UInt8) = 0 :: List.replicate 256 0 := List.replicate_succ
  have hlen : (List.replicate (txSize + 1) (0 : UInt8)).length + 1 < 2 * fifoSize := by
    rw [List.length_replicate]
    decide
  rw [clearFifo, onChip_command c s _ hlen, htx, Chip.exec_writeBuffer, store_replicate_zero]

@[simp] theorem onChip_setBufferBaseAddr (txBaseAddr rxBaseAddr : UInt8) :
    onChip (setBufferBaseAddr txBaseAddr rxBaseAddr).prog c s =
      (true, s, { c with txBase := txBaseAddr, rxBase := rxBaseAddr }) := by
  have hlen : [txBaseAddr, rxBaseAddr].length + 1 < 2 * fifoSize := show 2 + 1 < 2 * fifoSize by decide
  rw [setBufferBaseAddr, onChip_command c s _ hlen, Chip.exec_setBufferBaseAddr]

private theorem onChip_writeBuffer {offset : UInt8} {payload : List UInt8} (h : payload.length ≤ fifoSize) :
    onChip (writeBuffer offset payload).prog c s = (true, s, { c with buffer := store c.buffer offset payload }) := by
  have hlen : (offset :: payload).length + 1 < 2 * fifoSize := by
    have hsize : fifoSize = 256 := rfl
    rw [List.length_cons]
    omega
  rw [writeBuffer, if_pos h, onChip_command c s _ hlen, Chip.exec_writeBuffer]

private theorem onChip_loadFrame {txBuf : List UInt8} (h : 0 < txBuf.length ∧ txBuf.length ≤ sx1262MaxFrameSize) :
    onChip (loadFrame txBuf).prog c s =
      (true, s, { c with buffer := store (fun _ => 0) 0 txBuf, txBase := 0, rxBase := 0 }) := by
  have hlen : txBuf.length ≤ fifoSize := Nat.le_trans h.2 (by decide)
  simp only [loadFrame, if_pos h, Quiet.prog_bind, Quiet.prog_pure, onChip_bind, onChip_pure, onChip_clearFifo,
    onChip_setBufferBaseAddr, setPayload, onChip_writeBuffer _ _ hlen, Bool.and_self]
  rfl

private theorem onChip_setTx (timeoutS : UInt32) :
    onChip (setTx timeoutS) c s =
      (true, s, { c with air := window c.buffer c.txBase c.payloadLength.toNat :: c.air }) := by
  have hlen : (timeoutBytes timeoutS).length + 1 < 2 * fifoSize := show 3 + 1 < 2 * fifoSize by decide
  rw [setTx, onChip_bind, onChip_sendOpcode c s _ hlen]
  rfl

/-- The frame goes on the air with zeros behind it, cut or filled up to the length of the packets. -/
theorem startTx_onChip {txBuf : List UInt8} (h : 0 < txBuf.length ∧ txBuf.length ≤ sx1262MaxFrameSize)
    (hmute : s.radio.txMute = false) (hdone : s.radio.txDone = true) (timeoutS : UInt32) :
    let r := onChip (startTx txBuf timeoutS) c s
    r.1 = true ∧ r.2.1.radio.txMute = false ∧ r.2.2.payloadLength = c.payloadLength ∧
      r.2.2.air = txBuf.takeD c.payloadLength.toNat 0 :: c.air := by
  have hlen : txBuf.length ≤ 256 := Nat.le_trans h.2 (by decide)
  have hmax : c.payloadLength.toNat ≤ 256 := Nat.le_of_lt c.payloadLength.toNat_lt
  simp only [startTx, onChip_bind, onChip_get, hmute, hdone, Bool.false_eq_true, if_false, if_true, onChip_modifyRadio,
    onChip_liftM, onChip_loadFrame _ _ h, onChip_setTx, onChip_pure, Memory.payloadLength_mk, window_store hlen hmax,
    and_self]

/-- What the command to receive leaves: the data buffer is empty. -/
def Memory.listening (m : Memory) : Memory :=
  { m with
    buffer := fun _ => 0
    regs := Function.update m.regs (Chip.word (hi16 addrRxGain) (lo16 addrRxGain)) rxgainBoosted
    txBase := 0
    rxBase := 0 }

def Chip.listening : Chip := { c with toMemory := c.toMemory.listening, reply := fun _ => c.status }

@[simp] theorem onChip_startRx (timeoutS : UInt32) : onChip (startRx timeoutS).prog c s = (true, s, c.listening) := by
  have hgain : [hi16 addrRxGain, lo16 addrRxGain, rxgainBoosted].length + 1 < 2 * fifoSize := by decide
  have htime : (timeoutBytes timeoutS).length + 1 < 2 * fifoSize := show 3 + 1 < 2 * fifoSize by decide
  simp only [startRx, Quiet.prog_bind, Quiet.prog_pure, onChip_bind, onChip_pure, onChip_clearFifo,
    onChip_setBufferBaseAddr, setRxGain, writeReg, onChip_command _ _ _ hgain, onChip_command _ _ _ htime, Bool.and_self]
  rfl

/-! ### What was received -/

private theorem getPrevCircular_eq (addr : UInt8) : getPrevCircular addr = addr - 2 := by
  have hprev : ∀ val : UInt8, (if 0 < val then val - 1 else 255) = val - 1 := by
    intro val
    split
    · rfl
    · next h =>
      have hzero : val = 0 := UInt8.toNat_inj.1 (Nat.eq_zero_of_not_pos h)
      rw [hzero]
      rfl
  simp only [getPrevCircular, hprev]
  rw [UInt8.sub_eq_add_neg, UInt8.sub_eq_add_neg, UInt8.sub_eq_add_neg, UInt8.add_assoc]
  rfl

/-- The driver takes the start for the length, and the byte behind it for the start. -/
private theorem onChip_getRxbuffStatus :
    onChip getRxbuffStatus.prog c s =
      ((true, c.start, getPrevCircular (c.behind c.start)), { s with radio.status := c.len },
        c.exec opcodeGetRxBufferStatus []) := by
  simp only [getRxbuffStatus, query, Quiet.prog_bind, Quiet.prog_sendOpcode, onChip_bind]
  rw [onChip_sendOpcode c s _ (by decide)]
  rfl

private theorem onChip_readBuffer {offset : UInt8} {payloadLen : Nat} (h : payloadLen ≤ fifoSize)
    (outPayload : Nat → UInt8) :
    onChip (readBuffer offset outPayload payloadLen).prog c s =
      ((true, overwrite outPayload payloadLen fun i =>
          overwrite allFF payloadLen (c.exec opcodeReadBuffer [offset]).reply (3 + i)),
        s, c.exec opcodeReadBuffer [offset]) := by
  have hlen : [offset].length + 1 < 2 * fifoSize := show 1 + 1 < 2 * fifoSize by decide
  simp only [readBuffer, if_pos h, Quiet.prog_bind, Quiet.prog_sendOpcode, onChip_bind]
  rw [onChip_sendOpcode c s _ hlen]
  rfl

private theorem Chip.reply_readBuffer (offset : UInt8) (i : Nat) :
    (c.exec opcodeReadBuffer [offset]).reply (i + 1) = c.buffer (offset + UInt8.ofNat i) := rfl

/-- The bytes that are handed up: 252 from where the driver takes the packet to start, and three that were not read. -/
def Chip.handed : List UInt8 := window c.buffer (c.behind c.start) sx1262MaxFrameSize ++ List.replicate 3 0xFF

theorem getRxPayload_onChip (outPayload : Nat → UInt8) :
    let r := onChip (getRxPayload outPayload).prog c s
    r.1.1 = true ∧ (List.range 255).map r.1.2 = c.handed ∧ r.2.1 = { s with radio.status := c.len } ∧
      r.2.2 = (c.exec opcodeGetRxBufferStatus []).exec opcodeReadBuffer [getPrevCircular (c.behind c.start)] := by
  simp only [getRxPayload, Quiet.prog_bind, onChip_bind, onChip_getRxbuffStatus]
  rw [onChip_readBuffer _ _ (by decide)]
  refine ⟨rfl, ?_, rfl, rfl⟩
  have hsplit : List.range 255 = List.range 252 ++ (List.range 3).map (252 + ·) := List.range_add (n := 252) (m := 3)
  rw [hsplit, List.map_append, List.map_map, Chip.handed]
  generalize c.behind c.start = start
  congr 1
  · refine List.map_congr_left fun i hi => ?_
    have hi' : i < 252 := List.mem_range.1 hi
    have hsum : start - 2 + UInt8.ofNat (i + 2) = start + UInt8.ofNat i := by
      rw [UInt8.ofNat_add, UInt8.add_comm (UInt8.ofNat i), ← UInt8.add_assoc]
      exact congrArg (· + UInt8.ofNat i) (UInt8.sub_add_cancel start 2)
    have hread : 3 + i < 255 := by omega
    have hnext : 3 + i = i + 2 + 1 := by omega
    simp only [overwrite, if_pos (show i < 255 by omega), if_pos hread, getPrevCircular_eq, ← hsum]
    rw [hnext, Chip.reply_readBuffer]
    rfl

/-- `is_arr_pat` tells whether all bytes are the pattern. -/
def ArrPat (isArrPat : List UInt8 → UInt8 → Bool) : Prop :=
  ∀ array patt, isArrPat array patt = true ↔ ∀ b ∈ array, b = patt

/-- The check for an empty packet never finds one. -/
theorem ArrPat.handed {isArrPat : List UInt8 → UInt8 → Bool} (h : ArrPat isArrPat) : isArrPat c.handed 0 = false := by
  refine Bool.eq_false_iff.2 fun hzero => ?_
  have hlast : (0xFF : UInt8) = 0 :=
    (h c.handed 0).1 hzero 0xFF (List.mem_append_right _ (List.mem_replicate.2 ⟨by decide, rfl⟩))
  exact absurd hlast (by decide)

/-- The bytes are handed up, whatever is in them, and the data buffer is empty. -/
theorem takePayload_onChip {layers : Layers} (hpat : ArrPat layers.isArrPat) :
    (onChip (takePayload layers) c s).1 = some c.handed := by
  obtain ⟨hok, hbytes, hstate, hchip⟩ :=
    getRxPayload_onChip c { s with radio.rxDoneCnt := s.radio.rxDoneCnt + 1 } allZero
  rw [takePayload, onChip_bind, onChip_modifyRadio, onChip_bind, onChip_liftM]
  generalize onChip (getRxPayload allZero).prog c { s with radio.rxDoneCnt := s.radio.rxDoneCnt + 1 } = g
    at hok hbytes hstate hchip ⊢
  obtain ⟨⟨res, rxPayload⟩, s', c'⟩ := g
  dsimp only at hok hbytes ⊢
  simp only [hok, hbytes, hpat.handed c, Bool.not_false, Bool.and_self, if_true, onChip_bind, onChip_liftM,
    onChip_clearFifo, onChip_modifyRadio, onChip_pure]

end

end TiMcu.Sx1262
