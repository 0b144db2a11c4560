import TiMcu.Sx1262.Registers

/-!
# Setting up the radio

`sx1262_init` on a working chip: what is in the parameter store, or the defaults, ends up in the chip (`init_onChip`),
but for the modulation and the packet parameters when these are not valid.  The result is that of the calls after
`sx1262_set_standby`, and it does not depend on the spreading factor and the coding rate.

The reset comes after the workaround for the clamping of the power amplifier and undoes it.
-/

namespace TiMcu.Sx1262

open Dialog

/-! ### Calls that set something -/

variable {α : Type} {r : Instance} {q : Quiet Bool} {res res' : Bool} {f g : Memory → Memory}

/-- The variables are those, up to the status. -/
def UpToStatus (r r' : Instance) : Prop := ∃ st, r' = { r with status := st }

theorem UpToStatus.refl (r : Instance) : UpToStatus r r := ⟨r.status, rfl⟩

theorem UpToStatus.trans {r r' r'' : Instance} (h : UpToStatus r r') (h' : UpToStatus r' r'') : UpToStatus r r'' := by
  obtain ⟨st, rfl⟩ := h
  obtain ⟨st', rfl⟩ := h'
  exact ⟨st', rfl⟩

/-- What no call of `sx1262_init` changes. -/
structure Frame (c : Chip) (s : State) (o : State × Chip) : Prop where
  radio : UpToStatus s.radio o.1.radio
  state : o.1 = { s with radio := o.1.radio }
  files : o.2.files = c.files
  air : o.2.air = c.air

theorem Frame.refl (c : Chip) (s : State) : Frame c s (s, c) := ⟨.refl _, rfl, rfl, rfl⟩

theorem Frame.trans {c : Chip} {s : State} {o o' : State × Chip} (h : Frame c s o) (h' : Frame o.2 o.1 o') :
    Frame c s o' := by
  refine ⟨h.radio.trans h'.radio, ?_, h'.files.trans h.files, h'.air.trans h.air⟩
  rw [h'.state, h.state]

/-- With the variables `r` of the driver the call has that result and does that to the chip. -/
def Does (r : Instance) (q : Quiet α) (res : α) (f : Memory → Memory) : Prop :=
  ∀ (c : Chip) (s : State), UpToStatus r s.radio →
    (onChip q.prog c s).1 = res ∧ (onChip q.prog c s).2.2.toMemory = f c.toMemory ∧ Frame c s (onChip q.prog c s).2

/-- The call only asks, and its result is such. -/
def Asks (r : Instance) (q : Quiet α) (post : α → Prop) : Prop :=
  ∀ (c : Chip) (s : State), UpToStatus r s.radio →
    post (onChip q.prog c s).1 ∧ (onChip q.prog c s).2.2.toMemory = c.toMemory ∧ Frame c s (onChip q.prog c s).2

/-- The call reads that out of the chip. -/
def Reads (r : Instance) (q : Quiet α) (val : Memory → α) : Prop :=
  ∀ (c : Chip) (s : State), UpToStatus r s.radio →
    (onChip q.prog c s).1 = val c.toMemory ∧ (onChip q.prog c s).2.2.toMemory = c.toMemory ∧
      Frame c s (onChip q.prog c s).2

theorem does_pure (a : α) : Does r (pure a) a id := fun c s _ => ⟨rfl, rfl, .refl c s⟩

private theorem asks_radio : Asks r Quiet.radio (UpToStatus r) := fun c s hs => ⟨hs, rfl, .refl c s⟩

private theorem Does.of_eq {a b : α} {p : Quiet α} (h : Does r p a f) (hab : a = b) (hfg : ∀ m, f m = g m) :
    Does r p b g := by
  rwa [← hab, ← funext hfg]

/-- Two calls one after the other. -/
theorem Does.bind {β : Type} {p : Quiet α} {a : α} {k : α → Quiet β} {b : β} (hp : Does r p a f) (hk : Does r (k a) b g) :
    Does r (p >>= k) b (g ∘ f) := by
  intro c s hs
  obtain ⟨hres, hmemory, hframe⟩ := hp c s hs
  obtain ⟨hres', hmemory', hframe'⟩ := hk (onChip p.prog c s).2.2 (onChip p.prog c s).2.1 (hs.trans hframe.radio)
  rw [Quiet.prog_bind, onChip_bind, hres]
  exact ⟨hres', by rw [hmemory', hmemory, Function.comp_apply], hframe.trans hframe'⟩

/-- A call that does nothing to the chip comes first. -/
private theorem Does.idle_bind {β : Type} {p : Quiet α} {a : α} {k : α → Quiet β} {b : β} (hp : Does r p a id)
    (hk : Does r (k a) b g) : Does r (p >>= k) b g := hp.bind hk

theorem Asks.bind {β : Type} {p : Quiet α} {post : α → Prop} {k : α → Quiet β} {b : β} (hp : Asks r p post)
    (hk : ∀ a, post a → Does r (k a) b g) : Does r (p >>= k) b g := by
  intro c s hs
  obtain ⟨hpost, hmemory, hframe⟩ := hp c s hs
  obtain ⟨hres', hmemory', hframe'⟩ :=
    hk (onChip p.prog c s).1 hpost (onChip p.prog c s).2.2 (onChip p.prog c s).2.1 (hs.trans hframe.radio)
  rw [Quiet.prog_bind, onChip_bind]
  exact ⟨hres', by rw [hmemory', hmemory], hframe.trans hframe'⟩

theorem Reads.bind {β : Type} {p : Quiet α} {val : Memory → α} {k : α → Quiet β} {b : β} {g : Memory → Memory → Memory}
    (hp : Reads r p val) (hk : ∀ m, Does r (k (val m)) b (g m)) : Does r (p >>= k) b fun m => g m m := by
  intro c s hs
  obtain ⟨hval, hmemory, hframe⟩ := hp c s hs
  obtain ⟨hres', hmemory', hframe'⟩ :=
    hk c.toMemory (onChip p.prog c s).2.2 (onChip p.prog c s).2.1 (hs.trans hframe.radio)
  rw [Quiet.prog_bind, onChip_bind, hval]
  exact ⟨hres', by rw [hmemory', hmemory], hframe.trans hframe'⟩

private theorem does_command {opCode : UInt8} (hop : opCode ≠ opcodeSetTx) {txArray : List UInt8}
    (hlen : txArray.length ≤ 500)
    (hexec : ∀ c : Chip, (c.exec opCode txArray).toMemory = f c.toMemory ∧ (c.exec opCode txArray).files = c.files ∧
      (c.exec opCode txArray).air = c.air) : Does r (command opCode txArray hop) true f := by
  have hlt : txArray.length + 1 < 2 * fifoSize := Nat.lt_of_le_of_lt (Nat.succ_le_succ hlen) (by decide)
  intro c s _
  rw [onChip_command c s hop hlt]
  exact ⟨rfl, (hexec c).1, .refl _, rfl, (hexec c).2.1, (hexec c).2.2⟩

/-- A command that does nothing to the chip. -/
private theorem does_other {opCode : UInt8} (hop : opCode ≠ opcodeSetTx) (hother : opCode ∉ opcodes)
    (hkept : opCode ∉ kept)
    {txArray : List UInt8} (hlen : txArray.length ≤ 500) : Does r (command opCode txArray hop) true id := by
  refine does_command hop hlen fun c => ?_
  rw [Chip.exec_other c hother hkept]
  exact ⟨rfl, rfl, rfl⟩

/-- A command whose arguments are kept. -/
private theorem does_give {opCode : UInt8} (hop : opCode ≠ opcodeSetTx) (hkept : opCode ∈ kept) {a : UInt8}
    {args : List UInt8}
    (hlen : (a :: args).length ≤ 500) :
    Does r (command opCode (a :: args) hop) true (·.give opCode (a :: args)) := by
  refine does_command hop hlen fun c => ?_
  rw [Chip.exec_kept c hkept]
  exact ⟨rfl, rfl, rfl⟩

private theorem does_set (x : Setting) : Does r x.set true (·.write x) := by
  intro c s _
  rw [onChip_set]
  exact ⟨rfl, rfl, .refl _, rfl, rfl, rfl⟩

/-- Calls of `allOf`. -/
theorem Does.cons {qs : List (Quiet Bool)} (hq : Does r q res f) (hqs : Does r (allOf qs) res' g) :
    Does r (allOf (q :: qs)) (res && res') (g ∘ f) := by
  have hrest : Does r (allOf qs >>= fun b => pure (res && b)) (res && res') (id ∘ g) :=
    Does.bind hqs (does_pure (res && res'))
  exact Does.bind hq hrest

private theorem Does.prepend {qs : List (Quiet Bool)} (hqs : Does r (allOf qs) res' g) (hq : Does r q res f) :
    Does r (allOf (q :: qs)) (res && res') (g ∘ f) := hq.cons hqs

/-! ### The calls of `sx1262_init` -/

private theorem asks_getStatus : Asks r getStatus fun a => a.1 = true := by
  intro c s _
  have hread := @onChip_sendOpcode c s opcodeGetStatus [0] (by decide) allFF 2
  simp only [getStatus, Quiet.prog_bind, Quiet.prog_pure, Quiet.prog_sendOpcode, onChip_bind, onChip_pure, hread,
    Chip.exec_other c (show opcodeGetStatus ∉ opcodes by decide) (by decide)]
  exact ⟨trivial, trivial, .refl _, rfl, rfl, rfl⟩

private theorem does_setStandby (stdbyConfig : UInt8) : Does r (setStandby stdbyConfig) true id := by
  have hcommand : Does r (command opcodeSetStandby [stdbyConfig]) true id :=
    does_other (by decide) (by decide) (by decide) (by simp)
  have hasks : Asks r getStandby fun _ => True := by
    intro c s hs
    obtain ⟨-, hmemory, hframe⟩ := asks_getStatus c s hs
    rw [getStandby, Quiet.prog_bind, onChip_bind]
    exact ⟨trivial, hmemory, hframe⟩
  refine hcommand.idle_bind ?_
  exact hasks.bind fun _ _ => does_pure true

private theorem does_wakeup : Does r wakeup true id := by
  refine asks_getStatus.bind ?_
  rintro ⟨res, byte⟩ rfl
  exact (does_setStandby stdbyRc).idle_bind (does_pure true)

private theorem does_setPacketType (packetType : UInt8) :
    Does r (setPacketType packetType) true (·.give opcodeSetPacketType [packetType]) := by
  have hcommand : Does r (command opcodeSetPacketType [packetType]) true (·.give opcodeSetPacketType [packetType]) :=
    does_give (by decide) (by decide) (by simp)
  refine (does_setStandby stdbyRc).idle_bind ?_
  rw [if_pos rfl]
  exact hcommand

private theorem does_clearDevError : Does r clearDevError true id := by
  intro c s _
  have hread := @onChip_sendOpcode c s opcodeClearDeviceErrors [0, 0] (by decide) allZero 3
  simp only [clearDevError, query, Quiet.prog_bind, Quiet.prog_pure, Quiet.prog_sendOpcode, onChip_bind, onChip_pure,
    hread, Chip.exec_other c (show opcodeClearDeviceErrors ∉ opcodes by decide) (by decide), if_true]
  exact ⟨trivial, rfl, ⟨_, rfl⟩, rfl, rfl, rfl⟩

private theorem does_clearFifo : Does r clearFifo true fun m => { m with buffer := fun _ => 0 } := by
  intro c s _
  rw [onChip_clearFifo]
  exact ⟨rfl, rfl, .refl _, rfl, rfl, rfl⟩

private theorem does_setBufferBaseAddr (txBaseAddr rxBaseAddr : UInt8) :
    Does r (setBufferBaseAddr txBaseAddr rxBaseAddr) true fun m =>
      { m with txBase := txBaseAddr, rxBase := rxBaseAddr } := by
  intro c s _
  rw [onChip_setBufferBaseAddr]
  exact ⟨rfl, rfl, .refl _, rfl, rfl, rfl⟩

/-- What `sx1262_set_packet_params` sends behind its opcode. -/
def LoRaPacketParam.bytes (packParam : LoRaPacketParam) : List UInt8 :=
  [hi16 packParam.preambleLength, lo16 packParam.preambleLength, packParam.headerType, packParam.payloadLength,
    packParam.crcType, packParam.invertIq]

private theorem does_setPacketParams (packetType : UInt8) (packParam : LoRaPacketParam) :
    Does r (setPacketParams packetType packParam) (decide (packetType = packetTypeLora)) fun m =>
      if packetType = packetTypeLora then m.give opcodeSetPacketParams packParam.bytes else m := by
  unfold setPacketParams
  by_cases h : packetType = packetTypeLora
  · simp only [if_pos h, decide_eq_true h]
    exact does_give (by decide) (by decide) (by simp)
  · simp only [if_neg h, decide_eq_false h]
    exact does_pure false

private theorem does_startRx (timeoutS : UInt32) : Does r (startRx timeoutS) true Memory.listening := by
  intro c s _
  rw [onChip_startRx]
  exact ⟨rfl, rfl, .refl _, rfl, rfl, rfl⟩

private theorem reads_readReg (regAddr : UInt16) (regVal : UInt8) :
    Reads r (Quiet.readReg regAddr regVal) fun m => (true, m.regs regAddr) := by
  intro c s _
  obtain ⟨reply, hread⟩ := onChip_readReg c s regAddr regVal
  rw [Quiet.prog_readReg, hread]
  exact ⟨rfl, rfl, .refl _, rfl, rfl, rfl⟩

private theorem reads_getSyncWord : Reads r getSyncWord fun m => (true, m.settings.syncWord) := by
  intro c s _
  obtain ⟨reply, hread⟩ := onChip_getSyncWord c s
  rw [hread]
  exact ⟨rfl, rfl, .refl _, rfl, rfl, rfl⟩

/-- What the workaround for the bandwidth of 500 kHz makes of the register. -/
def txModulationFor (bandWidth txModulation : UInt8) : UInt8 :=
  if bandWidth = loraBw500 then txModulation &&& 0xFB else txModulation ||| 0x04

private theorem does_setModulationQualityWorkaround (bandWidth : UInt8) :
    Does r (setModulationQualityWorkaround bandWidth) true fun m =>
      m.write (.txModulation (txModulationFor bandWidth m.settings.txModulation)) := by
  refine Reads.bind (g := fun m m' => m'.write (.txModulation (txModulationFor bandWidth m.settings.txModulation)))
    (reads_readReg addrTxModulation 0) fun m => ?_
  dsimp only
  rw [if_pos rfl]
  exact does_set (.txModulation (txModulationFor bandWidth m.settings.txModulation))

/-- What `sx1262_set_lora_modulation_params` sends behind its opcode. -/
def LoRaModulationParams.bytes (modParams : LoRaModulationParams) : List UInt8 :=
  [modParams.spreadingFactor, modParams.bandWidth, modParams.codingRate, modParams.lowDataRateOptimization, 0, 0, 0, 0]

/-- The command is sent. -/
def LoRaModulationParams.Valid (modParams : LoRaModulationParams) : Prop :=
  isValidBandwidth modParams.bandWidth ∧ isValidCodingRate modParams.codingRate ∧
    isValidSpreadingFactor modParams.spreadingFactor

instance (modParams : LoRaModulationParams) : Decidable modParams.Valid := by
  unfold LoRaModulationParams.Valid
  infer_instance

/-- What `sx1262_set_lora_modulation_params` makes of the chip. -/
def Memory.modulated (modParams : LoRaModulationParams) (m : Memory) : Memory :=
  if isValidBandwidth modParams.bandWidth then
    let m := m.write (.txModulation (txModulationFor modParams.bandWidth m.settings.txModulation))
    if modParams.Valid then m.give opcodeSetModulationParams modParams.bytes else m
  else m

/-- The bandwidth alone decides on the result. -/
private theorem does_setLoraModulationParams (modParams : LoRaModulationParams) :
    Does r (setLoraModulationParams modParams) (isValidBandwidth modParams.bandWidth) (·.modulated modParams) := by
  have hcommand : Does r (command opcodeSetModulationParams modParams.bytes) true
      (·.give opcodeSetModulationParams modParams.bytes) := does_give (by decide) (by decide) (by simp)
  by_cases h : isValidBandwidth modParams.bandWidth = true
  · have hworkaround := @does_setModulationQualityWorkaround r modParams.bandWidth
    simp only [setLoraModulationParams, h, if_true, Bool.true_and, Bool.and_eq_true]
    by_cases hvalid : isValidCodingRate modParams.codingRate = true ∧
        isValidSpreadingFactor modParams.spreadingFactor = true
    · simp only [if_pos hvalid]
      refine (hworkaround.bind hcommand).of_eq rfl fun m => ?_
      rw [Memory.modulated, if_pos h, if_pos ⟨h, hvalid⟩]
      rfl
    · simp only [if_neg hvalid]
      refine (hworkaround.bind (does_pure true)).of_eq rfl fun m => ?_
      rw [Memory.modulated, if_pos h, if_neg fun hall => hvalid hall.2]
      rfl
  · simp only [setLoraModulationParams, h, Bool.false_eq_true, if_false, Bool.false_and]
    refine ((does_pure false).idle_bind (does_pure false)).of_eq rfl fun m => ?_
    rw [Memory.modulated, if_neg h]
    rfl

private theorem does_setModulationParams :
    Does r setModulationParams
      (decide (r.packetParamType = packetTypeLora) && isValidBandwidth r.loraModParams.bandWidth) fun m =>
        if r.packetParamType = packetTypeLora then m.modulated r.loraModParams else m := by
  refine asks_radio.bind ?_
  rintro r' ⟨st, rfl⟩
  dsimp only
  by_cases h : r.packetParamType = packetTypeLora
  · simp only [h, if_true, decide_true, Bool.true_and]
    exact does_setLoraModulationParams r.loraModParams
  · simp only [h, if_false, decide_false, Bool.false_and]
    exact does_pure false

/-- The power that `sx1262_conf_tx` sets. -/
def Instance.power (r : Instance) : Int8 := if isPowerValid r.outputPower then r.outputPower else dfltOutPower

private theorem isPowerValid_power (r : Instance) : isPowerValid r.power = true := by
  unfold Instance.power
  split
  · next h => exact h
  · rfl

/-- The base addresses that `sx1262_init` sets. -/
def Memory.based (m : Memory) : Memory := { m with txBase := txBaseAddress, rxBase := rxBaseAddress }

/-- What `sx1262_conf_tx` sends behind its opcode for the power amplifier. -/
def paBytes (power : Int8) : List UInt8 := [(calcPowerParam power.toUInt8).2.1, (calcPowerParam power.toUInt8).2.2, 0, 1]

/-- What `sx1262_conf_tx` sets. -/
def Memory.powered (power : Int8) (m : Memory) : Memory :=
  ((m.give opcodeSetPaConfig (paBytes power)).give opcodeSetTxParams [power.toUInt8, setRamp3400us]).based

private theorem does_confTx (r' : Instance) :
    Does r (confTx r'.outputPower) (calcPowerParam r'.power.toUInt8).1 (·.powered r'.power) := by
  have hpower := isPowerValid_power r'
  have hfold : (if isPowerValid r'.outputPower then r'.outputPower else dfltOutPower) = r'.power := rfl
  unfold confTx
  rw [hfold]
  dsimp only
  generalize r'.power = power at hpower ⊢
  have hpa : Does r (setPaConfig (calcPowerParam power.toUInt8).2.1 (calcPowerParam power.toUInt8).2.2 0 1) true
      (·.give opcodeSetPaConfig (paBytes power)) := does_give (by decide) (by decide) (by simp)
  have htx : Does r (setTxParams power setRamp3400us) true
      (·.give opcodeSetTxParams [power.toUInt8, setRamp3400us]) := by
    rw [setTxParams, if_pos hpower]
    exact does_give (by decide) (by decide) (by simp)
  have hbase : Does r (setBufferBaseAddr txBaseAddress rxBaseAddress) true Memory.based :=
    does_setBufferBaseAddr txBaseAddress rxBaseAddress
  unfold Memory.powered
  generalize paBytes power = bytes at hpa ⊢
  generalize calcPowerParam power.toUInt8 = params at hpa ⊢
  have hlast : Does r (setBufferBaseAddr txBaseAddress rxBaseAddress >>= fun ok3 =>
      pure (ok3 && (true && (true && params.1)))) params.1 (id ∘ Memory.based) := hbase.bind (does_pure params.1)
  have hrest : Does r (setTxParams power setRamp3400us >>= fun ok2 =>
      setBufferBaseAddr txBaseAddress rxBaseAddress >>= fun ok3 => pure (ok3 && (ok2 && (true && params.1)))) params.1
      ((id ∘ Memory.based) ∘ (·.give opcodeSetTxParams [power.toUInt8, setRamp3400us])) := htx.bind hlast
  have hall : Does r (setPaConfig params.2.1 params.2.2 0 1 >>= fun ok1 => setTxParams power setRamp3400us >>= fun ok2 =>
      setBufferBaseAddr txBaseAddress rxBaseAddress >>= fun ok3 => pure (ok3 && (ok2 && (ok1 && params.1)))) params.1
      (((id ∘ Memory.based) ∘ (·.give opcodeSetTxParams [power.toUInt8, setRamp3400us])) ∘
        (·.give opcodeSetPaConfig bytes)) := hpa.bind hrest
  exact hall

private theorem does_setTxClampConfigWorkarround :
    Does r setTxClampConfigWorkarround true fun m =>
      m.write (.txClampConfig (m.settings.txClampConfig ||| 0x1E)) := by
  refine Reads.bind (g := fun m m' => m'.write (.txClampConfig (m.settings.txClampConfig ||| 0x1E)))
    (reads_readReg addrTxClampConfig 0) fun m => ?_
  dsimp only
  rw [if_pos rfl]
  exact does_set (.txClampConfig (m.settings.txClampConfig ||| 0x1E))

/-- On a working chip the word that is read back is the one that was set. -/
private theorem does_checkSyncWord (syncWord : UInt64) :
    Does r (checkSyncWord syncWord) true (·.write (.syncWord syncWord)) := by
  have hset : Does r (setSyncWord syncWord) true (·.write (.syncWord syncWord)) := does_set (.syncWord syncWord)
  intro c s hs
  obtain ⟨hres, hmemory, hframe⟩ := hset c s hs
  obtain ⟨hval, hmemory', hframe'⟩ :=
    reads_getSyncWord (onChip (setSyncWord syncWord).prog c s).2.2 (onChip (setSyncWord syncWord).prog c s).2.1
      (hs.trans hframe.radio)
  have hread : ∀ m : Memory, (m.write (.syncWord syncWord)).settings.syncWord = syncWord := by
    intro m
    rw [settings_write]
    rfl
  rw [hmemory] at hval
  dsimp only at hval
  rw [hread] at hval
  rw [checkSyncWord, Quiet.prog_bind, onChip_bind, hres, if_pos rfl, Quiet.prog_bind, onChip_bind]
  generalize onChip getSyncWord.prog (onChip (setSyncWord syncWord).prog c s).2.2
    (onChip (setSyncWord syncWord).prog c s).2.1 = o at hval hmemory' hframe' ⊢
  obtain ⟨val, s', c'⟩ := o
  dsimp only at hval
  rw [hval]
  simp only [if_true, beq_self_eq_true, Quiet.prog_pure, onChip_pure]
  exact ⟨trivial, hmemory'.trans hmemory, hframe.trans hframe'⟩

/-! ### The configuration -/

/-- What `sx1262_set_rf_frequency` sends behind its opcode. -/
def frequencyBytes (rfFrequencyHz : UInt32) : List UInt8 :=
  let code := frfCode rfFrequencyHz
  [(code >>> 24).toUInt8, (code >>> 16).toUInt8, (code >>> 8).toUInt8, code.toUInt8]

def Memory.emptied (m : Memory) : Memory := { m with buffer := fun _ => 0 }

/-- What the first half of the configuration makes of the chip. -/
def Memory.prepared (r : Instance) (m : Memory) : Memory :=
  let m := ((m.give opcodeSetPacketType [r.packetParamType]).give opcodeSetRfFrequency
    (frequencyBytes r.rfFrequencyHz)).give opcodeSetRegulatorMode [0]
  m.emptied.based.give opcodeSetPacketType [r.packetParamType]

/-- The first half of the configuration. -/
private theorem does_prelude (r : Instance) :
    Does r (allOf [wakeup, setPacketType r.packetParamType, setRfFrequency r.rfFrequencyHz, setRegulatorMode 0, clearFifo,
        setBufferBaseAddr txBaseAddress rxBaseAddress, clearDevError, setPacketType r.packetParamType]) true
      (·.prepared r) := by
  have hfrequency : Does r (setRfFrequency r.rfFrequencyHz) true
      (·.give opcodeSetRfFrequency (frequencyBytes r.rfFrequencyHz)) := by
    unfold setRfFrequency frequencyBytes
    generalize frfCode r.rfFrequencyHz = code
    exact does_give (by decide) (by decide) (by simp)
  have hregulator : Does r (setRegulatorMode 0) true (·.give opcodeSetRegulatorMode [0]) :=
    does_give (by decide) (by decide) (by simp)
  have hempty : Does r clearFifo true Memory.emptied := does_clearFifo
  have hbase : Does r (setBufferBaseAddr txBaseAddress rxBaseAddress) true Memory.based :=
    does_setBufferBaseAddr txBaseAddress rxBaseAddress
  have hnil : Does r (allOf []) true id := does_pure true
  unfold Memory.prepared
  generalize frequencyBytes r.rfFrequencyHz = bytes at hfrequency ⊢
  have h := (((((((hnil.prepend (does_setPacketType r.packetParamType)).prepend does_clearDevError).prepend
    hbase).prepend hempty).prepend hregulator).prepend hfrequency).prepend
    (does_setPacketType r.packetParamType)).prepend does_wakeup
  exact h.of_eq rfl fun m => rfl

/-- What `sx1262_set_dio_irq_params` sends behind its opcode. -/
def irqBytes : List UInt8 := (List.replicate 4 [hi16 iqrMainInt, lo16 iqrMainInt]).flatten

/-- What the second half makes of the chip. -/
def Memory.configured (r : Instance) (m : Memory) : Memory :=
  let m := if r.packetParamType = packetTypeLora then m.modulated r.loraModParams else m
  let m := if r.packetParamType = packetTypeLora then m.give opcodeSetPacketParams r.packetParam.bytes else m
  let m := (m.give opcodeSetDioIrqParams irqBytes).give opcodeSetDio2AsRfswitch [1]
  let m := (((m.write (.crcPoly r.crcPoly)).write (.crcSeed r.crcInit)).write (.syncWord r.setSyncWord)).write
    (.loraSyncWord r.loraSyncWordSet)
  m.listening.powered r.power

/-- What the parameters must be like for `sx1262_init` to succeed. -/
def Instance.Valid (r : Instance) : Prop :=
  r.packetParamType = packetTypeLora ∧ isValidBandwidth r.loraModParams.bandWidth = true ∧
    (calcPowerParam r.power.toUInt8).1 = true

instance (r : Instance) : Decidable r.Valid := by
  unfold Instance.Valid
  infer_instance

private theorem does_main (r : Instance) :
    Does r (allOf [setStandby stdbyXosc, setModulationParams, setPacketParams r.packetParamType r.packetParam,
        setDioIrqParams iqrMainInt iqrMainInt iqrMainInt iqrMainInt, setDio2AsRfSwitchCtrl 1, setCrcPoly r.crcPoly,
        setCrcSeed r.crcInit, Sx1262.setSyncWord r.setSyncWord, setLoraSyncWord r.loraSyncWordSet,
        startRx rxContinuousMode, confTx r.outputPower]) (decide r.Valid) (·.configured r) := by
  have hirq : Does r (setDioIrqParams iqrMainInt iqrMainInt iqrMainInt iqrMainInt) true
      (·.give opcodeSetDioIrqParams irqBytes) := does_give (by decide) (by decide) (by simp)
  have hdio2 : Does r (setDio2AsRfSwitchCtrl 1) true (·.give opcodeSetDio2AsRfswitch [1]) :=
    does_give (by decide) (by decide) (by simp)
  have hcrcPoly : Does r (setCrcPoly r.crcPoly) true (·.write (.crcPoly r.crcPoly)) := does_set (.crcPoly r.crcPoly)
  have hcrcSeed : Does r (setCrcSeed r.crcInit) true (·.write (.crcSeed r.crcInit)) := does_set (.crcSeed r.crcInit)
  have hsyncWord : Does r (Sx1262.setSyncWord r.setSyncWord) true (·.write (.syncWord r.setSyncWord)) :=
    does_set (.syncWord r.setSyncWord)
  have hloraSyncWord : Does r (setLoraSyncWord r.loraSyncWordSet) true (·.write (.loraSyncWord r.loraSyncWordSet)) :=
    does_set (.loraSyncWord r.loraSyncWordSet)
  have hnil : Does r (allOf []) true id := does_pure true
  have h := ((((((((((hnil.prepend (does_confTx r)).prepend (does_startRx rxContinuousMode)).prepend
    hloraSyncWord).prepend hsyncWord).prepend hcrcSeed).prepend hcrcPoly).prepend hdio2).prepend hirq).prepend
    (does_setPacketParams r.packetParamType r.packetParam)).prepend does_setModulationParams).prepend
    (does_setStandby stdbyXosc)
  refine h.of_eq ?_ fun m => rfl
  by_cases htype : r.packetParamType = packetTypeLora
  · simp [Instance.Valid, htype]
  · simp [Instance.Valid, htype]

private theorem onChip_configure (c : Chip) (s : State) :
    (onChip configure.prog c s).1 = decide s.radio.Valid ∧
      (onChip configure.prog c s).2.2.toMemory = ((c.toMemory.prepared s.radio).configured s.radio).listening ∧
      (∃ st, (onChip configure.prog c s).2.1 = { s with radio := { s.radio with status := st, syncReg := true } }) ∧
      (onChip configure.prog c s).2.2.files = c.files ∧ (onChip configure.prog c s).2.2.air = c.air := by
  have hradio : onChip Quiet.radio.prog c s = (s.radio, s, c) := rfl
  obtain ⟨-, hmemory, hframe⟩ := does_prelude s.radio c s (.refl _)
  rw [configure, Quiet.prog_bind, onChip_bind, hradio]
  dsimp only
  rw [Quiet.prog_bind, onChip_bind]
  generalize onChip (allOf [wakeup, setPacketType s.radio.packetParamType, setRfFrequency s.radio.rfFrequencyHz,
    setRegulatorMode 0, clearFifo, setBufferBaseAddr txBaseAddress rxBaseAddress, clearDevError,
    setPacketType s.radio.packetParamType]).prog c s = o at hmemory hframe ⊢
  obtain ⟨res, s', c'⟩ := o
  obtain ⟨hres', hmemory', hframe'⟩ := does_main s.radio c' s' hframe.radio
  rw [Quiet.prog_bind, onChip_bind]
  generalize onChip (allOf [setStandby stdbyXosc, setModulationParams,
    setPacketParams s.radio.packetParamType s.radio.packetParam,
    setDioIrqParams iqrMainInt iqrMainInt iqrMainInt iqrMainInt, setDio2AsRfSwitchCtrl 1, setCrcPoly s.radio.crcPoly,
    setCrcSeed s.radio.crcInit, Sx1262.setSyncWord s.radio.setSyncWord, setLoraSyncWord s.radio.loraSyncWordSet,
    startRx rxContinuousMode, confTx s.radio.outputPower]).prog c' s' = o' at hres' hmemory' hframe' ⊢
  obtain ⟨res', s'', c''⟩ := o'
  simp only [Quiet.prog_bind, Quiet.prog_pure, Quiet.prog_modifyRadio, onChip_bind, onChip_pure, onChip_modifyRadio,
    onChip_startRx, Bool.true_and]
  dsimp only at hres' hmemory hmemory'
  refine ⟨hres', ?_, ?_, hframe'.files.trans hframe.files, hframe'.air.trans hframe.air⟩
  · change c''.toMemory.listening = _
    rw [hmemory', hmemory]
  · have hboth := hframe.trans hframe'
    obtain ⟨st, hst⟩ := hboth.radio
    refine ⟨st, ?_⟩
    have hstate := hboth.state
    dsimp only at hst hstate
    rw [hstate, hst]

/-! ### The parameters -/

/-- The file of a parameter, if there is one of that length. -/
def Chip.file (c : Chip) (p : Param) : Option (Nat → UInt8) :=
  let file := c.files p.parId p.size
  if file.ok && file.num == UInt32.ofNat p.size then some file.bytes else none

/-- The variables with what is in the parameter store, or the defaults. -/
def Chip.load (c : Chip) (r : Instance) : Instance :=
  params.foldl (fun r p => p.set (c.file p) r) { r with setSyncWord := dfltSyncWord }

private theorem onChip_loadAll (ps : List Param) (c : Chip) (s : State) :
    ∃ res, onChip (allOf (ps.map Param.load)).prog c s =
      (res, { s with radio := ps.foldl (fun r p => p.set (c.file p) r) s.radio }, c) := by
  induction ps generalizing s with
  | nil => exact ⟨true, rfl⟩
  | cons p ps ih =>
    have hload : onChip p.load.prog c s =
        ((c.files p.parId p.size).ok && (c.files p.parId p.size).num == UInt32.ofNat p.size,
          { s with radio := p.set (c.file p) s.radio }, c) := rfl
    obtain ⟨res, hrest⟩ := ih { s with radio := p.set (c.file p) s.radio }
    rw [List.map_cons, allOf, Quiet.prog_bind, onChip_bind, hload, Quiet.prog_bind, onChip_bind, hrest]
    exact ⟨_, rfl⟩

private theorem onChip_loadParams (c : Chip) (s : State) :
    ∃ res, onChip loadParams.prog c s = (res, { s with radio := c.load s.radio }, c) := by
  rw [loadParams, Quiet.prog_bind, onChip_bind]
  exact onChip_loadAll params c { s with radio := { s.radio with setSyncWord := dfltSyncWord } }

/-- The variables before the parameters are loaded. -/
def Instance.started (callCnt : UInt8) (r : Instance) : Instance :=
  let r := if callCnt = 0 then {} else r
  { r with
    checkConnectivity := true
    txMute := false
    reTxFsm := { r.reTxFsm with retxCnt := 0, txFrame := [] }
    syncRssi := true
    txDone := true }

private theorem onChip_start (c : Chip) (s : State) :
    onChip start c s = ((), { s with radio := s.radio.started s.callCnt, callCnt := 1 }, c) := rfl

/-- What the variables of `sx1262_init` are when the chip is configured. -/
def Chip.parameters (c : Chip) (s : State) : Instance := c.load (s.radio.started s.callCnt)

private theorem onChip_reset (c : Chip) (s : State) :
    onChip reset.prog c s = ((), s, { c with toMemory := c.initial }) := rfl

/-- The chip is found, and it was reset before. -/
private theorem onChip_prepare (c : Chip) (s : State) :
    ∃ st c', onChip prepare c s = (true, { s with radio := { c.parameters s with status := st }, callCnt := 1 }, c') ∧
      c'.toMemory = c.initial.write (.syncWord 0x0012345678abcdef) ∧ c'.air = c.air := by
  obtain ⟨res, hload⟩ := onChip_loadParams c { s with radio := s.radio.started s.callCnt, callCnt := 1 }
  rw [prepare, onChip_bind, onChip_start]
  dsimp only
  rw [onChip_bind, onChip_liftM, hload]
  dsimp only
  rw [onChip_bind, onChip_liftM]
  obtain ⟨-, -, hframe⟩ := @does_setTxClampConfigWorkarround (c.parameters s) c
    { s with radio := c.parameters s, callCnt := 1 } (.refl _)
  have hboard := onChip_sameBoard c { s with radio := c.parameters s, callCnt := 1 }
    (setTxClampConfigWorkarround.prog : Driver Bool)
  change ∃ st c', onChip _ (onChip setTxClampConfigWorkarround.prog c
    { s with radio := c.parameters s, callCnt := 1 }).2.2 (onChip setTxClampConfigWorkarround.prog c
    { s with radio := c.parameters s, callCnt := 1 }).2.1 = _ ∧ _
  generalize onChip setTxClampConfigWorkarround.prog c { s with radio := c.parameters s, callCnt := 1 } = o
    at hboard hframe ⊢
  obtain ⟨res', s', c'⟩ := o
  have hinitial : c'.initial = c.initial := hboard.initial
  -- what the workaround has set is lost in the reset
  obtain ⟨hres, hmemory, hframe'⟩ := @does_checkSyncWord (c.parameters s) 0x0012345678abcdef
    { c' with toMemory := c'.initial } s' hframe.radio
  simp only [onChip_bind, onChip_askBoard, onChip_liftM, onChip_reset, Chip.answer, if_true]
  change ∃ st c'', onChip (checkSyncWord 0x0012345678abcdef).prog { c' with toMemory := c'.initial } s' = _ ∧ _
  generalize onChip (checkSyncWord 0x0012345678abcdef).prog { c' with toMemory := c'.initial } s' = o
    at hres hmemory hframe' ⊢
  obtain ⟨res'', s'', c''⟩ := o
  obtain ⟨st, hst⟩ := hframe.radio.trans hframe'.radio
  have hstate := hframe'.state
  have hstate' := hframe.state
  dsimp only at hres hmemory hst hstate hstate'
  refine ⟨st, c'', ?_, ?_, hframe'.air.trans hframe.air⟩
  · rw [hres, hstate, hstate', hst]
  · rw [hmemory, hinitial]

/-! ### The chip after `sx1262_init` -/

private theorem settings_listening (m : Memory) :
    m.listening.settings = { m.settings with rxGain := rxgainBoosted } := by
  have hwrite : m.listening = { m.write (.rxGain rxgainBoosted) with buffer := fun _ => 0, txBase := 0, rxBase := 0 } := by
    rw [Memory.listening, Chip.word, join16_hi16_lo16]
    rfl
  have hsettings := settings_write m (.rxGain rxgainBoosted)
  rw [hwrite]
  exact hsettings

private theorem settings_give (m : Memory) (opCode : UInt8) (args : List UInt8) :
    (m.give opCode args).settings = m.settings :=
  rfl

private theorem settings_powered (m : Memory) (power : Int8) : (m.powered power).settings = m.settings := rfl

private theorem settings_prepared (m : Memory) (r : Instance) : (m.prepared r).settings = m.settings := rfl

private theorem settings_modulated (m : Memory) (modParams : LoRaModulationParams) :
    (m.modulated modParams).settings =
      if isValidBandwidth modParams.bandWidth then
        { m.settings with txModulation := txModulationFor modParams.bandWidth m.settings.txModulation }
      else m.settings := by
  unfold Memory.modulated
  split
  · dsimp only
    split
    · rw [settings_give, settings_write]
      rfl
    · rw [settings_write]
      rfl
  · rfl

/-- The settings after the configuration with the parameters `r`, when `v` are those before. -/
def Settings.configured (r : Instance) (v : Settings) : Settings where
  syncWord := r.setSyncWord
  loraSyncWord := r.loraSyncWordSet
  crcPoly := r.crcPoly
  crcSeed := r.crcInit
  rxGain := rxgainBoosted
  txModulation :=
    if r.packetParamType = packetTypeLora ∧ isValidBandwidth r.loraModParams.bandWidth then
      txModulationFor r.loraModParams.bandWidth v.txModulation
    else v.txModulation
  txClampConfig := v.txClampConfig

private theorem settings_configured (r : Instance) (m : Memory) :
    (m.configured r).settings = m.settings.configured r := by
  unfold Memory.configured Settings.configured
  by_cases hlora : r.packetParamType = packetTypeLora
  · by_cases hband : isValidBandwidth r.loraModParams.bandWidth = true
    · simp only [hlora, hband, and_self, if_true, settings_powered, settings_listening, settings_write, settings_give,
        settings_modulated, Setting.apply]
    · simp only [hlora, hband, Bool.false_eq_true, and_false, if_true, if_false, settings_powered, settings_listening,
        settings_write, settings_give, settings_modulated, Setting.apply]
  · simp only [hlora, false_and, if_false, settings_powered, settings_listening, settings_write, settings_give,
      Setting.apply]

private theorem given_modulated (m : Memory) (modParams : LoRaModulationParams) (opCode : UInt8) :
    (m.modulated modParams).given opCode =
      if opCode = opcodeSetModulationParams ∧ modParams.Valid then modParams.bytes else m.given opCode := by
  have hwrite : ∀ x, (m.write x).given = m.given := fun _ => rfl
  unfold Memory.modulated
  by_cases hvalid : modParams.Valid
  · have hband : isValidBandwidth modParams.bandWidth = true := hvalid.1
    simp only [hvalid, hband, if_true, and_true, Memory.give, Function.update_apply, hwrite]
  · simp only [hvalid, and_false, if_false]
    split
    · rfl
    · rfl

/-- What the commands of `sx1262_init` give to the chip. -/
private theorem given_configured (r : Instance) (m : Memory) (opCode : UInt8) :
    ((m.prepared r).configured r).listening.given opCode =
      if opCode = opcodeSetTxParams then [r.power.toUInt8, setRamp3400us]
      else if opCode = opcodeSetPaConfig then paBytes r.power
      else if opCode = opcodeSetDio2AsRfswitch then [1]
      else if opCode = opcodeSetDioIrqParams then irqBytes
      else if opCode = opcodeSetPacketParams ∧ r.packetParamType = packetTypeLora then r.packetParam.bytes
      else if opCode = opcodeSetModulationParams ∧ r.packetParamType = packetTypeLora ∧ r.loraModParams.Valid then
        r.loraModParams.bytes
      else if opCode = opcodeSetPacketType then [r.packetParamType]
      else if opCode = opcodeSetRegulatorMode then [0]
      else if opCode = opcodeSetRfFrequency then frequencyBytes r.rfFrequencyHz
      else m.given opCode := by
  have hprepared : (m.prepared r).given opCode = if opCode = opcodeSetPacketType then [r.packetParamType]
      else if opCode = opcodeSetRegulatorMode then [0]
      else if opCode = opcodeSetRfFrequency then frequencyBytes r.rfFrequencyHz else m.given opCode := by
    simp only [Memory.prepared, Memory.give, Memory.based, Memory.emptied, Function.update_apply]
    split
    · rfl
    · rfl
  have hconfigured : ∀ m' : Memory, (m'.configured r).listening.given opCode =
      if opCode = opcodeSetTxParams then [r.power.toUInt8, setRamp3400us]
      else if opCode = opcodeSetPaConfig then paBytes r.power
      else if opCode = opcodeSetDio2AsRfswitch then [1]
      else if opCode = opcodeSetDioIrqParams then irqBytes
      else if opCode = opcodeSetPacketParams ∧ r.packetParamType = packetTypeLora then r.packetParam.bytes
      else if opCode = opcodeSetModulationParams ∧ r.packetParamType = packetTypeLora ∧ r.loraModParams.Valid then
        r.loraModParams.bytes
      else m'.given opCode := by
    intro m'
    by_cases hlora : r.packetParamType = packetTypeLora
    · simp only [Memory.configured, Memory.powered, Memory.listening, Memory.give, Memory.based, Memory.write, hlora,
        if_true, Function.update_apply, given_modulated, and_true, true_and]
    · simp only [Memory.configured, Memory.powered, Memory.listening, Memory.give, Memory.based, Memory.write, hlora,
        if_false, Function.update_apply, and_false, false_and]
  rw [hconfigured, hprepared]

/-- The parameters `r` are in a chip that was reset to `initial`. -/
structure Memory.Holds (m initial : Memory) (r : Instance) : Prop where
  settings : m.settings = initial.settings.configured r
  packetType : m.given opcodeSetPacketType = [r.packetParamType]
  frequency : m.given opcodeSetRfFrequency = frequencyBytes r.rfFrequencyHz
  modulation : m.given opcodeSetModulationParams =
    if r.packetParamType = packetTypeLora ∧ r.loraModParams.Valid then r.loraModParams.bytes
    else initial.given opcodeSetModulationParams
  packetParams : m.given opcodeSetPacketParams =
    if r.packetParamType = packetTypeLora then r.packetParam.bytes else initial.given opcodeSetPacketParams
  paConfig : m.given opcodeSetPaConfig = paBytes r.power
  txParams : m.given opcodeSetTxParams = [r.power.toUInt8, setRamp3400us]
  irq : m.given opcodeSetDioIrqParams = irqBytes
  regulator : m.given opcodeSetRegulatorMode = [0]
  rfSwitch : m.given opcodeSetDio2AsRfswitch = [1]
  buffer : ∀ a, m.buffer a = 0
  base : m.txBase = 0 ∧ m.rxBase = 0

private theorem holds_configured (r : Instance) (m : Memory) : ((m.prepared r).configured r).listening.Holds m r where
  settings := by
    rw [settings_listening, settings_configured, settings_prepared]
    rfl
  packetType := by rw [given_configured]; rfl
  frequency := by rw [given_configured]; rfl
  modulation := by
    have hne : opcodeSetModulationParams ≠ opcodeSetPacketParams := by decide
    rw [given_configured]
    by_cases h : r.packetParamType = packetTypeLora ∧ r.loraModParams.Valid
    · simp only [h, and_self, and_true, hne, if_true, if_false]
      rfl
    · simp only [h, and_false, hne, false_and, if_false]
      rfl
  packetParams := by
    have hne : opcodeSetPacketParams ≠ opcodeSetModulationParams := by decide
    rw [given_configured]
    by_cases h : r.packetParamType = packetTypeLora
    · simp only [h, and_self, if_true]
      rfl
    · simp only [h, hne, and_false, false_and, if_false]
      rfl
  paConfig := by rw [given_configured]; rfl
  txParams := by rw [given_configured]; rfl
  irq := by rw [given_configured]; rfl
  regulator := by rw [given_configured]; rfl
  rfSwitch := by rw [given_configured]; rfl
  buffer _ := rfl
  base := ⟨rfl, rfl⟩

/-- The check of the connection compares the word of the driver with the one in the chip. -/
private theorem onChip_isConnected (c : Chip) (s : State) :
    (onChip isConnected.prog c s).1 = (s.radio.setSyncWord == c.settings.syncWord) := by
  have hread : ∀ c s, (onChip getSyncWord.prog c s).1 = (true, c.settings.syncWord) ∧
      (onChip getSyncWord.prog c s).2.1 = s := by
    intro c s
    obtain ⟨reply, hread⟩ := onChip_getSyncWord c s
    rw [hread]
    exact ⟨rfl, rfl⟩
  have hradio : ∀ c s, onChip Quiet.radio.prog c s = (s.radio, s, c) := fun _ _ => rfl
  have hlen : ([] : List UInt8).length + 1 < 2 * fifoSize := by decide
  have hexec : (c.exec opcodeGetPacketType []).toMemory = c.toMemory := rfl
  simp only [isConnected, getPacketType, Quiet.prog_bind, Quiet.prog_pure, Quiet.prog_sendOpcode, Quiet.prog_modifyRadio,
    onChip_bind, onChip_pure, onChip_modifyRadio, onChip_sendOpcode _ _ _ hlen, hread, hradio, if_true, Bool.and_true,
    hexec]

/-- `sx1262_init` on a working chip: what the parameters say, stored or by default, is in the chip, the chip receives
into an empty data buffer, nothing was put on the air, and the check of the connection finds the chip. -/
theorem init_onChip (c : Chip) (s : State) :
    let o := onChip init c s
    let cfg := c.parameters s
    (o.1 = true ↔ cfg.Valid) ∧
      (∃ st, o.2.1 = { s with
        radio := { cfg with status := st, syncReg := true }
        callCnt := 1
        loraTaskOn := s.loraTaskOn && o.1 }) ∧
      o.2.2.Holds c.initial cfg ∧ o.2.2.air = c.air ∧ (onChip isConnected.prog o.2.2 o.2.1).1 = true := by
  obtain ⟨st, c', hprepare, hmemory, hair⟩ := onChip_prepare c s
  obtain ⟨hres, hmemory', ⟨st', hstate'⟩, -, hair'⟩ :=
    onChip_configure c' { s with radio := { c.parameters s with status := st }, callCnt := 1 }
  have hinit : onChip init c s = onChip (do
      let res ← (configure : Driver Bool)
      if !res then modify fun s => { s with loraTaskOn := false }
      pure res : Driver Bool) c' { s with radio := { c.parameters s with status := st }, callCnt := 1 } := by
    rw [init, onChip_bind, hprepare]
    rfl
  rw [hinit, onChip_bind, onChip_liftM]
  generalize onChip configure.prog c' { s with radio := { c.parameters s with status := st }, callCnt := 1 } = o
    at hres hmemory' hstate' hair' ⊢
  obtain ⟨res, s'', c''⟩ := o
  dsimp only at hres hmemory' hstate' hair' ⊢
  have hrest : onChip (do
      if !res then modify fun s => { s with loraTaskOn := false }
      pure res : Driver Bool) c'' s'' = (res, { s'' with loraTaskOn := s''.loraTaskOn && res }, c'') := by
    cases res with
    | false => simp [onChip_bind]
    | true => simp
  have hholds : c''.toMemory.Holds c.initial (c.parameters s) := by
    have hlast := holds_configured (c.parameters s) c'.toMemory
    rw [hmemory] at hlast hmemory'
    exact hmemory' ▸ { hlast with settings := hlast.settings.trans (by rw [settings_write]; rfl) }
  rw [hrest]
  refine ⟨?_, ⟨st', ?_⟩, hholds, hair'.trans hair, ?_⟩
  · rw [hres, decide_eq_true_iff]
    rfl
  · rw [hstate']
  · rw [onChip_isConnected, hholds.settings, hstate']
    exact beq_self_eq_true _

end TiMcu.Sx1262
