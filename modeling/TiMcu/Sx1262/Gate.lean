import TiMcu.Sx1262.Process

/-!
# One transmission at a time

From power on, whatever the bus answers and whatever the parts above the driver ask for, `sx1262_process` and the
functions that may be called between its calls start a transmission only when the watch `gate` knows that the
transmitter rests (`operations_oneAtATime`).

The invariant is that `tx_done` is set only while the gate is open.  Two places set it that do not look at the chip:
`sx1262_init`, which resets the chip before anything can be sent, and `sx1262_proc_chip_mode`, whose status byte may be
older than a transmission that was started in the same poll; there the invariant holds because such a poll goes on with
`sx1262_start_rx`.
-/

namespace TiMcu.Sx1262

open Dialog

variable {α β : Type} {p : Driver α} {g : Gate} {s : State}

/-! ### Triples -/

/-- Whatever is answered, `p` starts transmissions only through an open gate and takes `pre` to `q`. -/
def Triple (pre : State → Gate → Prop) (p : Driver α) (q : α → State → Gate → Prop) : Prop :=
  ∀ s g, pre s g → Holds gate (fun (r : α × State) g' => q r.1 r.2 g') g (p.run s)

variable {pre pre' : State → Gate → Prop} {q q' : α → State → Gate → Prop}

theorem Triple.bind {f : α → Driver β} {q' : β → State → Gate → Prop} (hp : Triple pre p q)
    (hf : ∀ a, Triple (q a) (f a) q') : Triple pre (p >>= f) q' := by
  intro s g hpre
  change Holds gate _ g (p.run s >>= fun r => (f r.1).run r.2)
  exact (hp s g hpre).bind fun r g' hr => hf r.1 r.2 g' hr

theorem Triple.pure {a : α} (h : ∀ s g, pre s g → q a s g) : Triple pre (pure a) q := fun s g hpre => h s g hpre

theorem Triple.modify {f : State → State} {q : Unit → State → Gate → Prop} (h : ∀ s g, pre s g → q () (f s) g) :
    Triple pre (modify f) q := fun s g hpre => h s g hpre

theorem Triple.modifyRadio {f : Instance → Instance} {q : Unit → State → Gate → Prop}
    (h : ∀ s g, pre s g → q () { s with radio := f s.radio } g) : Triple pre (modifyRadio f) q :=
  fun s g hpre => h s g hpre

theorem Triple.get : Triple pre (get : Driver State) (fun a s g => pre s g ∧ a = s) := fun _ _ hpre => ⟨hpre, rfl⟩

theorem Triple.mono (h : Triple pre p q) (hpre : ∀ s g, pre' s g → pre s g)
    (hpost : ∀ a s g, q a s g → q' a s g) : Triple pre' p q' :=
  fun s g hp => (h s g (hpre s g hp)).mono fun r g' => hpost r.1 r.2 g'

/-- What only `tx_done` and the gate can make false. -/
def Stable (pre : State → Gate → Prop) : Prop :=
  ∀ s g s' g', pre s g → s'.radio.txDone = s.radio.txDone → (g.Open → g'.Open) → pre s' g'

theorem IsQuiet.triple (hp : IsQuiet p) (hpre : Stable pre) : Triple pre p fun _ => pre :=
  fun s g hs => (hp s g).mono fun r g' hr => hpre s g r.2 g' hs hr.1 hr.2

theorem Quiet.triple (p : Quiet α) (hpre : Stable pre) : Triple pre p.prog fun _ => pre := p.isQuiet.triple hpre

/-! ### The invariant -/

/-- The invariant. -/
def Guarded (s : State) (g : Gate) : Prop := s.radio.txDone = true → g.Open

/-- The invariant, with the gate open. -/
def Opened (_ : State) (g : Gate) : Prop := g.Open

/-- Nothing is to be sent. -/
def Waiting (s : State) (_ : Gate) : Prop := s.radio.txDone = false

private theorem stable_guarded : Stable Guarded := fun _ _ _ _ hs htx hopen hdone => hopen (hs (htx ▸ hdone))
private theorem stable_opened : Stable Opened := fun _ _ _ _ hs _ hopen => hopen hs
private theorem stable_waiting : Stable Waiting := fun _ _ _ _ hs htx _ => htx.trans hs

theorem Opened.guarded (h : Opened s g) : Guarded s g := fun _ => h
theorem Waiting.guarded (h : Waiting s g) : Guarded s g := fun hdone => absurd (h.symm.trans hdone) (by decide)

/-- The functions that the parts above the driver may call. -/
def Keeps (p : Driver α) : Prop := Triple Guarded p fun _ => Guarded

theorem Keeps.bind {f : α → Driver β} (hp : Keeps p) (hf : ∀ a, Keeps (f a)) : Keeps (p >>= f) := Triple.bind hp hf

private theorem keeps_pure (a : α) : Keeps (pure a : Driver α) := Triple.pure fun _ _ h => h

theorem Quiet.keeps (p : Quiet α) : Keeps p.prog := p.triple stable_guarded

private theorem stable_and (hpre : Stable pre) (hpre' : Stable pre') : Stable fun s g => pre s g ∧ pre' s g :=
  fun s g s' g' hs htx hopen => ⟨hpre s g s' g' hs.1 htx hopen, hpre' s g s' g' hs.2 htx hopen⟩

/-! ### Commands that move the gate -/

private theorem triple_askBoard (call : Call) (hcall : call.Harmless) (hpre : Stable pre)
    {q : Answer → State → Gate → Prop} (h : ∀ s (g : Gate) r, pre s (g.next call r) → q r s (g.next call r)) :
    Triple pre (askBoard call) q := by
  intro s g hs
  refine ⟨fun array heq hhead => ?_, fun r => ?_⟩
  · subst heq
    exact absurd hhead hcall
  · exact h s g r (hpre s g s _ hs rfl fun ho => ho.next hcall r)

private theorem triple_withChipSelect {a : α} {callBack : Driver (Bool × α)} {q : Bool × α → State → Gate → Prop}
    (hpre : Stable pre) (hpost : ∀ r, Stable (q r)) (hcall : Triple pre callBack q)
    (hrefused : ∀ s g, pre s g → g.refused = true → q (false, a) s g) :
    Triple pre (withChipSelect a callBack) q := by
  have hlast : ∀ r : Bool × α, Triple (q r) (do
      let _ ← askBoard (.chipSelect false)
      pure r) q := fun r =>
    Triple.bind (triple_askBoard (.chipSelect false) trivial (hpost r) fun _ _ _ h => h) fun _ => Triple.pure fun _ _ h => h
  refine Triple.bind (q := fun busy s g => pre s g ∧ (busy.ok = false → g.refused = true)) ?_ fun busy => ?_
  · exact triple_askBoard (.waitOnBusy 100) trivial hpre fun s g r h => ⟨h, fun hok => by simp [Gate.next, hok]⟩
  · split
    · refine Triple.bind (q := fun selected s g => pre s g ∧ (selected.ok = false → g.refused = true)) ?_ fun selected => ?_
      · exact (triple_askBoard (.chipSelect true) trivial hpre fun s g r h => ⟨h, fun hok => by simp [Gate.next, hok]⟩).mono
          (fun _ _ h => h.1) fun _ _ _ h => h
      · split
        · exact Triple.bind (hcall.mono (fun _ _ h => h.1) fun _ _ _ h => h) hlast
        · rename_i hsel
          refine Triple.bind (Triple.pure (q := q) fun s g h => ?_) hlast
          exact hrefused s g h.1 (h.2 (by simpa using hsel))
    · rename_i hbusy
      refine Triple.bind (Triple.modifyRadio (q := fun _ => q (false, a)) fun s g h => ?_) fun _ =>
        Triple.pure fun _ _ h => h
      exact hpost _ s g _ g (hrefused s g h.1 (h.2 (by simpa using hbusy))) rfl id

private theorem opened_startRx (hpre : Stable pre) (timeoutS : UInt32) :
    Triple pre (startRx timeoutS).prog fun _ s g => pre s g ∧ Opened s g := by
  have hstable := stable_and hpre stable_opened
  have hlast : Triple pre (command opcodeSetRx (timeoutBytes timeoutS)).prog fun _ s g => pre s g ∧ Opened s g := by
    refine Triple.bind (q := fun _ s g => pre s g ∧ Opened s g) ?_ fun _ => Triple.pure fun _ _ h => h
    refine triple_withChipSelect hpre (fun _ => hstable) ?_ fun s g hs href => ⟨hs, .inr href⟩
    rw [sendOpcodeProc_write (by simp [timeoutBytes, fifoSize])]
    refine Triple.bind (q := fun _ s g => pre s g ∧ Opened s g) ?_ fun w => Triple.pure fun _ _ h => h
    refine triple_askBoard _ (by simp [Call.Harmless, opcodeSetRx, opcodeSetTx]) hpre fun s g r h => ⟨h, ?_⟩
    cases hok : r.ok
    · exact .inr (by simp [Gate.next, hok, opcodeSetRx, opcodeSetTx])
    · exact .inl (by simp [Gate.next, hok, opcodeSetRx, opcodeSetTx])
  exact Triple.bind (clearFifo.triple hpre) fun _ =>
    Triple.bind ((setBufferBaseAddr txBaseAddress rxBaseAddress).triple hpre) fun _ =>
      Triple.bind ((setRxGain rxgainBoosted).triple hpre) fun _ =>
        Triple.bind hlast fun _ => Triple.pure fun _ _ h => h

/-- A status byte that was read. -/
private theorem opened_getStatus (hpre : Stable pre) :
    Triple pre getStatus.prog fun r s g => pre s g ∧ (r.1 = true → Status.idle r.2 = true → Opened s g) := by
  have hstable : ∀ r : Bool × (Nat → UInt8),
      Stable fun s g => pre s g ∧ (r.1 = true → Status.idle (r.2 1) = true → Opened s g) := by
    intro r s g s' g' hs htx hopen
    exact ⟨hpre s g s' g' hs.1 htx hopen, fun hres hidle => hopen (hs.2 hres hidle)⟩
  have hsend : Triple pre (Sx1262.sendOpcode opcodeGetStatus [0] allFF 2) fun r s g =>
      pre s g ∧ (r.1 = true → Status.idle (r.2 1) = true → Opened s g) := by
    refine triple_withChipSelect hpre hstable ?_ fun s g hs _ => ⟨hs, fun hres => absurd hres (by simp)⟩
    rw [sendOpcodeProc_read (by decide) _ (by decide)]
    refine Triple.bind (q := fun _ s g => pre s g ∧ g.statusAsked = true) ?_ fun w => ?_
    · refine triple_askBoard _ (by simp [Call.Harmless, opcodeGetStatus, opcodeSetTx]) hpre fun s g r h => ⟨h, ?_⟩
      simp [Gate.next]
    · intro s g hs
      refine ⟨fun array heq => by simp at heq, fun r => ?_⟩
      have hread : pre s (g.next (.read 2) r) := hpre s g s _ hs.1 rfl fun ho => @Gate.Open.next g (.read 2) ho trivial r
      refine ⟨hread, fun hres hidle => .inl ?_⟩
      have hok : r.ok = true := (Bool.and_eq_true_iff.1 hres).1
      have hidle' : Status.idle (r.bytes 1) = true := hidle
      change (g.next (.read 2) r).rests = true
      simp [Gate.next, hs.2, hok, hidle']
  exact hsend.bind fun r => Triple.pure fun s g h => h

private theorem waiting_setTx (timeoutS : UInt32) :
    Triple (fun s g => Opened s g ∧ Waiting s g) (setTx timeoutS) fun _ => Waiting := by
  have hpre := stable_and stable_opened stable_waiting
  refine Triple.bind (q := fun _ => Waiting) ?_ fun _ => Triple.pure fun _ _ h => h
  refine triple_withChipSelect hpre (fun _ => stable_waiting) ?_ fun s g hs _ => hs.2
  rw [sendOpcodeProc_write (by simp [timeoutBytes, fifoSize])]
  refine Triple.bind (q := fun _ => Waiting) ?_ fun w => Triple.pure fun _ _ h => h
  exact fun s g hs => ⟨fun _ _ _ => hs.1, fun r => hs.2⟩

/-! ### The functions of the driver -/

private theorem keeps_startTx (txBuf : List UInt8) (timeoutS : UInt32) : Keeps (startTx txBuf timeoutS) := by
  refine Triple.bind Triple.get fun a => ?_
  split
  · exact Triple.pure fun _ _ h => h.1
  split
  · rename_i hdone
    refine Triple.bind (q := fun _ s g => Opened s g ∧ Waiting s g) (Triple.modifyRadio fun s g h => ?_) fun _ => ?_
    · obtain ⟨hguard, rfl⟩ := h
      exact ⟨hguard hdone, rfl⟩
    refine Triple.bind ((loadFrame txBuf).triple (stable_and stable_opened stable_waiting)) fun ok => ?_
    split
    · refine Triple.bind (waiting_setTx timeoutS) fun res => ?_
      split
      · exact Triple.bind (Triple.modifyRadio fun s g h => Waiting.guarded h) fun _ => Triple.pure fun _ _ h => h
      · exact Triple.pure fun s g h => Waiting.guarded h
    · exact Triple.pure fun s g h => h.1.guarded
  · exact Triple.pure fun _ _ h => h.1

private theorem keeps_modifyRadio {f : Instance → Instance} (hf : ∀ r, (f r).txDone = r.txDone) :
    Keeps (modifyRadio f) :=
  (isQuiet_modifyRadio hf).triple stable_guarded

private theorem keeps_retxProc : Keeps retxProc := by
  refine Triple.bind Triple.get fun a => ?_
  split
  · refine Triple.bind (q := fun _ => Guarded) (Triple.modifyRadio fun s g h => h.1) fun _ => ?_
    exact keeps_startTx _ _
  · exact Triple.pure fun _ _ h => h.1

private theorem keeps_startRetx (array : List UInt8) (tryCnt : UInt8) : Keeps (startRetx array tryCnt) := by
  unfold startRetx
  split
  · exact Keeps.bind (keeps_modifyRadio fun _ => rfl) fun _ => keeps_retxProc
  · exact keeps_pure _

/-- The reset opens the gate, and nothing was sent before it. -/
private theorem opened_prepare : Triple (fun _ _ => True) prepare fun _ => Opened := by
  have hany : Stable fun _ _ => True := fun _ _ _ _ _ _ _ => trivial
  have hreset : Triple (fun _ _ => True) reset.prog fun _ => Opened := by
    refine Triple.bind ((isQuiet_askBoard (.gpioSet .rst true) trivial).triple hany) fun _ => ?_
    refine Triple.bind (q := fun _ => Opened) ?_ fun _ => ?_
    · exact fun s g _ => ⟨fun array heq => by simp at heq, fun r => .inl rfl⟩
    · exact Triple.bind ((isQuiet_askBoard (.gpioSet .rst true) trivial).triple stable_opened) fun _ =>
        Triple.pure fun _ _ h => h
  have hmodify : ∀ f : State → State, Triple (fun _ _ => True) (modify f : Driver Unit) fun _ _ _ => True :=
    fun f => Triple.modify fun _ _ _ => trivial
  have hstart : Triple (fun _ _ => True) start fun _ _ _ => True := by
    refine Triple.bind (hmodify _) fun _ => ?_
    refine Triple.bind (hmodify _) fun _ => ?_
    refine Triple.bind (retxInit.triple hany) fun _ => ?_
    exact Triple.bind (hmodify _) fun _ => hmodify _
  refine Triple.bind hstart fun _ => ?_
  refine Triple.bind (loadParams.triple hany) fun _ => ?_
  refine Triple.bind (setTxClampConfigWorkarround.triple hany) fun _ => ?_
  refine Triple.bind ((isQuiet_askBoard (.gpioSet .ss true) trivial).triple hany) fun _ => ?_
  refine Triple.bind ((isQuiet_askBoard (.gpioSet .ss true) trivial).triple hany) fun _ => ?_
  refine Triple.bind ((isQuiet_askBoard (.gpioSet .rst true) trivial).triple hany) fun _ => ?_
  refine Triple.bind hreset fun _ => ?_
  refine Triple.bind ((isQuiet_askBoard (.waitOnBusy 10000) trivial).triple stable_opened) fun busy => ?_
  split
  · exact isExist.triple stable_opened
  · exact Triple.pure fun _ _ h => h

private theorem opened_init : Triple (fun _ _ => True) init fun _ => Opened := by
  refine Triple.bind opened_prepare fun ok => ?_
  have hlast : ∀ res : Bool, Triple Opened (do
      if !res then modify fun s => { s with loraTaskOn := false }
      pure res : Driver Bool) fun _ => Opened := by
    intro res
    cases res
    · exact Triple.bind (Triple.modify fun _ _ h => h) fun _ => Triple.pure fun _ _ h => h
    · exact Triple.pure fun _ _ h => h
  split
  · exact Triple.bind (configure.triple stable_opened) hlast
  · exact Triple.bind (Triple.pure fun _ _ h => h) hlast

private theorem keeps_init : Keeps init := opened_init.mono (fun _ _ _ => trivial) fun _ _ _ h => h.guarded

private theorem keeps_setModulation (modulation : UInt16) : Keeps (setModulation modulation) := by
  have hsave : ∀ (valid : Bool) (parId : UInt16) (val : UInt8), Keeps (if valid then do
      let saved ← askBoard (.paramSet parId val)
      pure saved.ok
    else pure false : Driver Bool) := by
    intro valid parId val
    split
    · exact Keeps.bind ((isQuiet_askBoard (.paramSet parId val) trivial).triple stable_guarded) fun _ => keeps_pure _
    · exact keeps_pure _
  refine Keeps.bind (hsave _ _ _) fun ok0 => Keeps.bind (hsave _ _ _) fun ok1 => Keeps.bind (hsave _ _ _) fun ok2 => ?_
  split
  · exact keeps_init
  · exact keeps_pure _

private theorem keeps_request (request : Request) : Keeps request.serve := by
  cases request with
  | startTx txBuf timeoutS => exact keeps_startTx txBuf timeoutS
  | startRetx array tryCnt => exact keeps_startRetx array tryCnt
  | isRetxIdle => exact Triple.bind Triple.get fun _ => Triple.pure fun _ _ h => h.1
  | startRx timeoutS => exact (startRx timeoutS).keeps
  | setModulation modulation => exact keeps_setModulation modulation
  | init => exact keeps_init

/-- Whatever is above the driver. -/
private theorem keeps_serve (client : Client α) : Keeps (serve client) := by
  induction client with
  | done a => exact keeps_pure a
  | ask request next ih => exact (keeps_request request).bind ih

/-! ### A poll -/

variable (layers : Layers)

private theorem keeps_takePayload : Keeps (takePayload layers) := by
  refine Keeps.bind (keeps_modifyRadio fun _ => rfl) fun _ => (getRxPayload allZero).keeps.bind fun r => ?_
  obtain ⟨res, rxPayload⟩ := r
  dsimp only
  split
  · exact clearFifo.keeps.bind fun _ => Keeps.bind (keeps_modifyRadio fun _ => rfl) fun _ => keeps_pure _
  · exact keeps_pure _

private theorem keeps_procDataAval : Keeps (procDataAval layers) := by
  refine (keeps_takePayload layers).bind fun handed => ?_
  cases handed with
  | some rxPayload => exact (keeps_serve _).bind fun _ => keeps_pure _
  | none => exact keeps_pure _

private theorem opened_procTxDone : Triple Opened (procTxDone layers) fun _ s g => Guarded s g ∧ Opened s g := by
  refine Triple.bind (q := fun _ => Opened) (Triple.modifyRadio fun s g h => h) fun _ => ?_
  refine Triple.bind ((isQuiet_askBoard .getTimeMs32 trivial).triple stable_opened) fun time => ?_
  refine Triple.bind (q := fun _ => Guarded) (Triple.modifyRadio fun s g h => Opened.guarded h) fun _ => ?_
  refine Triple.bind (keeps_serve _) fun _ => ?_
  refine Triple.bind (q := fun _ => Guarded) (Triple.modify fun s g h => h) fun _ => ?_
  exact Triple.bind (opened_startRx stable_guarded _) fun _ => Triple.pure fun _ _ h => h

/-- What `sx1262_proc_chip_mode` finds is no older than the gate. -/
def Fresh (s : State) (g : Gate) : Prop := Guarded s g ∧ (Status.chipMode s.radio.devStatus = chpModeRx → g.Open)

private theorem idle_of_txDone {byte : UInt8} (h : Status.commandStatus byte = comStatComTxDone) :
    Status.idle byte = true := by
  simp [Status.idle, h]

private theorem idle_of_chpModeRx {byte : UInt8} (h : Status.chipMode byte = chpModeRx) : Status.idle byte = true := by
  simp [Status.idle, h]

private theorem fresh_procCommandStatus (byte : UInt8) :
    Triple (fun s g => Guarded s g ∧ s.radio.devStatus = byte ∧ (Status.idle byte = true → g.Open))
      (procCommandStatus layers (Status.commandStatus byte)) fun _ => Fresh := by
  have hfresh : ∀ s g, Guarded s g → s.radio.devStatus = byte → (Status.idle byte = true → g.Open) → Fresh s g :=
    fun s g hg hbyte hidle => ⟨hg, fun hrx => hidle (idle_of_chpModeRx (hbyte ▸ hrx))⟩
  unfold procCommandStatus
  split
  · refine Triple.bind ((keeps_procDataAval layers).mono (fun _ _ h => h.1) fun _ _ _ h => h) fun _ => ?_
    refine Triple.bind (opened_startRx stable_guarded _) fun _ => Triple.pure fun s g h => ?_
    exact ⟨h.1, fun _ => h.2⟩
  split
  · exact Triple.modifyRadio fun s g h => hfresh _ g h.1 h.2.1 h.2.2
  split
  · rename_i hdone
    exact (opened_procTxDone layers).mono (fun s g h => h.2.2 (idle_of_txDone hdone)) fun _ s g h => ⟨h.1, fun _ => h.2⟩
  · exact Triple.pure fun s g h => hfresh s g h.1 h.2.1 h.2.2

private theorem opened_procChpModeRx : Triple Opened procChpModeRx fun _ => Opened := by
  refine Triple.bind (q := fun _ => Opened) (Triple.modifyRadio fun s g h => h) fun _ => ?_
  refine Triple.bind (getRssiInst.triple stable_opened) fun r => ?_
  obtain ⟨res, rssiInst⟩ := r
  dsimp only
  split
  · exact Triple.modifyRadio fun s g h => h
  · exact Triple.pure fun s g h => h

private theorem keeps_procChipMode (chipMode : UInt8) :
    Triple (fun s g => Guarded s g ∧ (chipMode = chpModeRx → g.Open)) (procChipMode chipMode) fun _ => Guarded := by
  refine Triple.bind Triple.get fun a => ?_
  refine Triple.bind (q := fun _ s g => Guarded s g ∧ (chipMode = chpModeRx → g.Open)) ?_ fun _ => ?_
  · exact Triple.modify fun s g h => h.1
  split
  · exact Triple.bind (keeps_init.mono (fun _ _ h => h.1) fun _ _ _ h => h) fun _ => keeps_pure _
  split
  · rename_i hrx
    exact opened_procChpModeRx.mono (fun s g h => h.2 hrx) fun _ s g h => Opened.guarded h
  · exact Triple.pure fun s g h => h.1

private theorem keeps_pollStatus : Keeps (pollStatus layers) := by
  have hend : ∀ res : Bool, Keeps (do
      if (← get).radio.syncRssi then syncRssi
      pure res : Driver Bool) := by
    intro res
    refine Triple.bind (Triple.get.mono (fun _ _ h => h) fun _ _ _ h => h.1) fun a => ?_
    split
    · exact syncRssi.keeps.bind fun _ => keeps_pure _
    · exact keeps_pure _
  refine Triple.bind (opened_getStatus stable_guarded) fun r => ?_
  obtain ⟨res, byte⟩ := r
  dsimp only
  split
  · rename_i hres
    refine Triple.bind (q := fun _ s g => Guarded s g ∧ s.radio.devStatus = byte ∧ (Status.idle byte = true → g.Open))
      (Triple.modifyRadio fun s g h => ⟨h.1, rfl, h.2 hres⟩) fun _ => ?_
    refine Triple.bind (fresh_procCommandStatus layers byte) fun _ => ?_
    refine Triple.bind Triple.get fun a => ?_
    refine Triple.bind (q := fun _ => Guarded) ?_ fun _ => Triple.bind resetStats.keeps hend
    exact (keeps_procChipMode _).mono (fun s g h => by obtain ⟨h, rfl⟩ := h; exact h) fun _ _ _ h => h
  · exact Triple.bind (Triple.pure fun s g h => h.1) hend

private theorem keeps_process : Keeps (process layers) := by
  have hpoll : ∀ time : Answer, Keeps (do
      let _ ← serve (layers.loraTransmitFromQueue time.num (← get).radio.txDoneTimeStampMs)
      let res ← pollStatus layers
      if (← get).radio.syncReg then syncRegisters else pure res : Driver Bool) := by
    intro time
    refine Triple.bind (Triple.get.mono (fun _ _ h => h) fun _ _ _ h => h.1) fun a => ?_
    refine (keeps_serve _).bind fun _ => (keeps_pollStatus layers).bind fun res => ?_
    refine Triple.bind (Triple.get.mono (fun _ _ h => h) fun _ _ _ h => h.1) fun a => ?_
    split
    · exact syncRegisters.keeps
    · exact keeps_pure _
  have hgo : ∀ res : Bool, Keeps (do
      if res then
        if busyCntLimit < (← get).radio.busyCnt then
          modifyRadio fun r => { r with busyCnt := 0 }
          let _ ← init
        let time ← askBoard .getTimeMs32
        let _ ← serve (layers.loraTransmitFromQueue time.num (← get).radio.txDoneTimeStampMs)
        let res ← pollStatus layers
        if (← get).radio.syncReg then syncRegisters else pure res
      else init : Driver Bool) := by
    intro res
    have htime := (isQuiet_askBoard .getTimeMs32 trivial).triple stable_guarded
    cases res
    · exact keeps_init
    refine Triple.bind (Triple.get.mono (fun _ _ h => h) fun _ _ _ h => h.1) fun a => ?_
    split
    · refine Keeps.bind (keeps_modifyRadio fun _ => rfl) fun _ => keeps_init.bind fun _ => ?_
      exact Keeps.bind htime hpoll
    · exact Keeps.bind htime hpoll
  refine Triple.bind (Triple.get.mono (fun _ _ h => h) fun _ _ _ h => h.1) fun a => ?_
  split
  · exact Keeps.bind isConnected.keeps hgo
  · exact Keeps.bind (keeps_pure true) hgo

/-! ### Runs -/

/-- `sx1262_process` of the main loop, and the functions of a `Request`.  The commands of the shell that transfer an
opcode of their own are not among them. -/
inductive Operation
  | process (layers : Layers)
  | request (request : Request)

def Operation.perform : Operation → Driver Bool
  | .process layers => Sx1262.process layers
  | .request r => r.serve

def operate : List Operation → Driver Unit
  | [] => pure ()
  | x :: xs => do
    let _ ← x.perform
    operate xs

private theorem keeps_operate (xs : List Operation) : Keeps (operate xs) := by
  induction xs with
  | nil => exact keeps_pure ()
  | cons x xs ih =>
    have hx : Keeps x.perform := by
      cases x with
      | process layers => exact keeps_process layers
      | request request => exact keeps_request request
    exact hx.bind fun _ => ih

/-! ### What the gate means -/

/-- Nothing is known of the transmitter. -/
def Gate.start : Gate := ⟨false, false, false⟩

def StartsTx (e : Call × Answer) : Prop := ∃ array, e.1 = .write array ∧ array.head? = some opcodeSetTx

/-- The driver does not get through to the chip. -/
inductive Refusal : Call × Answer → Prop
  | busy (timeOutMs : Nat) {r : Answer} (hok : r.ok = false) : Refusal (.waitOnBusy timeOutMs, r)
  | select {r : Answer} (hok : r.ok = false) : Refusal (.chipSelect true, r)
  | startRx {array : List UInt8} {r : Answer} (hhead : array.head? = some opcodeSetRx) (hok : r.ok = false) :
      Refusal (.write array, r)

/-- After this the transmitter rests: a reset, the command to receive, or a status byte that says so. -/
inductive Resting (before : List (Call × Answer)) : Call × Answer → Prop
  | reset (r : Answer) : Resting before (.gpioSet .rst false, r)
  | startRx {array : List UInt8} {r : Answer} (hhead : array.head? = some opcodeSetRx) (hok : r.ok = true) :
      Resting before (.write array, r)
  | status {array : List UInt8} {w r : Answer} {len : Nat} (hlast : before.getLast? = some (.write array, w))
      (hhead : array.head? = some opcodeGetStatus) (hok : r.ok = true) (hidle : Status.idle (r.bytes 1) = true) :
      Resting before (.read len, r)

/-- Something of that kind happened, and nothing was sent since. -/
def SinceTx (kind : List (Call × Answer) → Call × Answer → Prop) (log : List (Call × Answer)) : Prop :=
  ∃ before e after, log = before ++ e :: after ∧ kind before e ∧ ∀ e' ∈ after, ¬StartsTx e'

/-- Between two transmissions the transmitter is brought to rest, or the driver does not get through to the chip. -/
def OneAtATime (log : List (Call × Answer)) : Prop :=
  ∀ before e after, log = before ++ e :: after → StartsTx e →
    SinceTx Resting before ∨ SinceTx (fun _ => Refusal) before

variable {kind : List (Call × Answer) → Call × Answer → Prop} {log : List (Call × Answer)} {e : Call × Answer}

private theorem sinceTx_last (h : kind log e) : SinceTx kind (log ++ [e]) := ⟨log, e, [], rfl, h, by simp⟩

theorem SinceTx.concat (h : SinceTx kind log) (htx : ¬StartsTx e) : SinceTx kind (log ++ [e]) := by
  obtain ⟨before, e', after, rfl, hkind, hafter⟩ := h
  refine ⟨before, e', after ++ [e], by simp, hkind, fun e'' he => ?_⟩
  rcases List.mem_append.1 he with he | he
  · exact hafter e'' he
  · rw [List.mem_singleton.1 he]
    exact htx

private theorem not_startsTx {call : Call} {r : Answer} (h : ∀ array, call ≠ .write array) : ¬StartsTx (call, r) :=
  fun ⟨array, heq, _⟩ => h array heq

private theorem not_startsTx_write {array : List UInt8} {r : Answer} (h : array.head? ≠ some opcodeSetTx) :
    ¬StartsTx (.write array, r) := by
  rintro ⟨array', heq, hhead⟩
  cases heq
  exact h hhead

private theorem after_concat (g : Gate) (log : List (Call × Answer)) (e : Call × Answer) :
    gate.after g (log ++ [e]) = (gate.after g log).next e.1 e.2 := by
  simp [Watch.after, gate]

private theorem statusAsked_after (h : (gate.after Gate.start log).statusAsked = true) :
    ∃ array w, log.getLast? = some (.write array, w) ∧ array.head? = some opcodeGetStatus := by
  rcases List.eq_nil_or_concat log with rfl | ⟨log, e, rfl⟩
  · exact absurd h (by decide)
  · rw [List.concat_eq_append] at h ⊢
    rw [after_concat] at h
    obtain ⟨call, r⟩ := e
    cases call with
    | write array => exact ⟨array, r, by simp, by simpa [Gate.next] using h⟩
    | chipSelect state => cases state <;> simp [Gate.next] at h
    | gpioSet pin state => cases pin <;> cases state <;> simp [Gate.next] at h
    | _ => simp [Gate.next] at h

private theorem refused_after (h : (gate.after Gate.start log).refused = true) : SinceTx (fun _ => Refusal) log := by
  induction log using List.reverseRecOn with
  | nil => exact absurd h (by decide)
  | append_singleton log e ih =>
    rw [after_concat] at h
    obtain ⟨call, r⟩ := e
    cases call with
    | waitOnBusy timeOutMs =>
      simp only [Gate.next, Bool.or_eq_true, Bool.not_eq_true'] at h
      rcases h with h | hok
      · exact (ih h).concat (not_startsTx (by simp))
      · exact sinceTx_last (.busy timeOutMs hok)
    | chipSelect state =>
      cases state
      · exact (ih h).concat (not_startsTx (by simp))
      · simp only [Gate.next, Bool.or_eq_true, Bool.not_eq_true'] at h
        rcases h with h | hok
        · exact (ih h).concat (not_startsTx (by simp))
        · exact sinceTx_last (.select hok)
    | write array =>
      simp only [Gate.next] at h
      split at h
      · exact absurd h (by simp)
      rename_i hhead
      simp only [Bool.or_eq_true, Bool.and_eq_true, decide_eq_true_eq, Bool.not_eq_true'] at h
      rcases h with h | hrx
      · exact (ih h).concat (not_startsTx_write hhead)
      · exact sinceTx_last (.startRx hrx.1 hrx.2)
    | gpioSet pin state => cases pin <;> cases state <;> exact (ih h).concat (not_startsTx (by simp))
    | _ => exact (ih h).concat (not_startsTx (by simp))

private theorem rests_after (h : (gate.after Gate.start log).rests = true) : SinceTx Resting log := by
  induction log using List.reverseRecOn with
  | nil => exact absurd h (by decide)
  | append_singleton log e ih =>
    rw [after_concat] at h
    obtain ⟨call, r⟩ := e
    cases call with
    | write array =>
      simp only [Gate.next] at h
      split at h
      · exact absurd h (by simp)
      rename_i hhead
      split at h
      · rename_i hrx
        exact sinceTx_last (.startRx hrx.1 hrx.2)
      · exact (ih h).concat (not_startsTx_write hhead)
    | read len =>
      simp only [Gate.next, Bool.or_eq_true, Bool.and_eq_true] at h
      rcases h with h | ⟨⟨hasked, hok⟩, hidle⟩
      · exact (ih h).concat (not_startsTx (by simp))
      · obtain ⟨array, w, hw, hhead⟩ := statusAsked_after hasked
        exact sinceTx_last (.status hw hhead hok hidle)
    | gpioSet pin state =>
      cases pin <;> cases state <;>
        first | exact (ih h).concat (not_startsTx (by simp)) | exact sinceTx_last (.reset r)
    | chipSelect state => cases state <;> exact (ih h).concat (not_startsTx (by simp))
    | _ => exact (ih h).concat (not_startsTx (by simp))

/-- From power on, whatever the board answers and whatever is above the driver. -/
theorem operations_oneAtATime {σ : Type} (board : σ → Call → Answer × σ) (b : σ) (xs : List Operation) :
    OneAtATime (run board b ((operate xs).run {})).log := by
  have hguard : Guarded {} Gate.start := fun h => absurd h (by decide)
  have hallows := ((keeps_operate xs {} Gate.start hguard).run board b).1
  intro before e after hlog ⟨array, hwrite, hhead⟩
  rw [hlog] at hallows
  exact (hallows.at array hwrite hhead).imp rests_after refused_after

end TiMcu.Sx1262
