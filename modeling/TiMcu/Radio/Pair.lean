import TiMcu.Radio.Acts
import TiMcu.Tbfp.AckMatch

/-!
# Two devices with a radio

The radios of two devices hear each other.  What a radio was ever given to send may arrive at the other one at any later
time, any number of times and in any order, or never; it does not change on the way.  Between the frames the two
devices do what they do on their other interfaces, at any speed (`Act`).

`exchange_run` is the protocol: every frame that a device accepts is one that the other one has built, and whatever a
device gets as an acknowledgement is the serial number of one of the frames it has built, which asked for it and which
the other device accepted.
-/

namespace TiMcu.Tbfp

open NorFlash LittleEndian Framing Runs Past

variable {W : Type} {env : Env W}

/-! ### The two devices -/

/-- A device with everything that its radio was given to send. -/
structure Station (W : Type) where
  device : Device W
  air : List (List UInt8)

/-- What the radio was last given comes on the air. -/
def Station.next (s : Station W) (d : Device W) : Station W := ⟨d, d.tx.radio.fifo :: s.air⟩

def Station.start (now : Nat) (world : W) : Station W := ⟨swInit restingRadio now world, []⟩

inductive PairEvent
  /-- something happens on a device -/
  | act (w : Bool) (x : Act)
  /-- the radio of a device receives a frame -/
  | hear (w : Bool) (depth : Nat) (rxPayload : List UInt8)

def pairStep (env : Env W) (p : Bool → Station W) : PairEvent → Bool → Station W
  | .act w x => Function.update p w ((p w).next ((p w).device.perform env x))
  | .hear w depth rxPayload => Function.update p w ((p w).next (loraProcPayload env depth (p w).device rxPayload).2)

/-- A radio receives what the other one was given to send. -/
def PairOk (p : Bool → Station W) : PairEvent → Prop
  | .act _ x => x.Ok
  | .hear w _ rxPayload => rxPayload ∈ (p !w).air

instance (p : Bool → Station W) (e : PairEvent) : Decidable (PairOk p e) :=
  match e with
  | .act _ x => inferInstanceAs (Decidable x.Ok)
  | .hear w _ rxPayload => inferInstanceAs (Decidable (rxPayload ∈ (p !w).air))

/-- The frames that the radio parser of a device completed. -/
def Station.accepted (s : Station W) : List (List UInt8) := acceptedFrames .sx1262 s.device.log

/-! ### The invariant -/

/-- The frame is that of a message. -/
def FrameOf (env : Env W) (sent : List Message) (f : List UInt8) : Prop :=
  ∃ m ∈ sent, f = m.frame env.crc8SaeJ1850Calc tbfpPreambleSx1262

/-- A message with that number, which asks for an acknowledgement, was accepted. -/
def Asked (env : Env W) (sent : List Message) (accepted : List (List UInt8)) (snum : UInt16) : Prop :=
  ∃ m ∈ sent, m.snum = snum ∧ m.AsksAck ∧ m.frame env.crc8SaeJ1850Calc tbfpPreambleSx1262 ∈ accepted

theorem Asked.mono {sent sent' : List Message} {accepted accepted' : List (List UInt8)} {snum : UInt16}
    (h : Asked env sent accepted snum) (hsent : sent <+: sent') (haccepted : accepted <+: accepted') :
    Asked env sent' accepted' snum := by
  obtain ⟨m, hm, hsnum, hasks, hmem⟩ := h
  exact ⟨m, hsent.subset hm, hsnum, hasks, haccepted.subset hmem⟩

/-- The messages of a device and what the other one accepted of them. -/
structure Reaches (env : Env W) (s other : Station W) (sent heard : List Message) : Prop where
  setUp : SetUp s.device
  works : Works env.crc8SaeJ1850Calc (Asked env heard s.accepted) (Asked env sent other.accepted) sent s.device.machine
  air : ∀ f ∈ s.air, FrontOf env.crc8SaeJ1850Calc sent f
  accepted : ∀ f ∈ s.accepted, FrameOf env heard f

/-- `sent w` are the messages of the device `w`. -/
def PairInv (env : Env W) (p : Bool → Station W) (sent : Bool → List Message) : Prop :=
  ∀ w, Reaches env (p w) (p !w) (sent w) (sent !w)

/-! ### What a frame makes the other device do -/

private theorem frameHeader_asksAck {m : Message} {preambleVal : UInt8} :
    (frameHeader (m.frame env.crc8SaeJ1850Calc preambleVal)).ackNeed = .need ↔ m.AsksAck := by
  rw [frameHeader_message]
  unfold TbfHeader.ackNeed Message.AsksAck
  split <;> simp_all

private theorem framePayload_message {m : Message} {preambleVal : UInt8} (hfits : m.Fits) :
    framePayload (m.frame env.crc8SaeJ1850Calc preambleVal) = m.payload := by
  unfold framePayload
  rw [payloadLen_message hfits]
  unfold Message.frame tbfFrame
  dsimp only
  rw [List.append_assoc, List.drop_left' (by rfl : (tbfHeader preambleVal m.flags m.snum _).length = tbfpIndexPayload),
    List.take_left]

/-- A frame of the other device makes only events that are allowed. -/
theorem Caused.allowed {Q G : UInt16 → Prop} {m : Message} {e : Event} (hfits : m.Fits) (hanswers : m.Answers G)
    (hq : m.AsksAck → Q m.snum) (h : Caused (m.frame env.crc8SaeJ1850Calc tbfpPreambleSx1262) e) : Allowed Q G e := by
  have hbody : framePayload (m.frame env.crc8SaeJ1850Calc tbfpPreambleSx1262) = m.payload := framePayload_message hfits
  obtain ⟨b, bytes, hpayload⟩ := List.exists_cons_of_length_pos (Nat.lt_of_lt_of_le Nat.zero_lt_one hfits.1)
  cases h with
  | @ack serNum hid hnum =>
    rw [frameId_message hpayload] at hid
    cases hanswers with
    | other hother => exact absurd (by rw [hpayload, List.head?_cons, hid]) hother
    | @ack snum hg hflags hack =>
      have hlen : payloadLen (m.frame env.crc8SaeJ1850Calc tbfpPreambleSx1262) = 3 := by
        rw [payloadLen_message hfits, hack]
        rfl
      have hbytes : ∀ k < 3, (m.frame env.crc8SaeJ1850Calc tbfpPreambleSx1262).getD (tbfpIndexPayload + k) 0 =
          (ackPayload snum).bytes.getD k 0 := by
        intro k hk
        rw [← hack, ← hbody, framePayload, hlen]
        simp [List.getD_eq_getElem?_getD, hk]
      have hserNum := hnum (by rw [hlen]; decide)
      rw [hbytes 1 (by decide), hbytes 2 (by decide)] at hserNum
      have hsame : serNum = snum := hserNum.trans (join_lo_hi snum)
      exact .ack (hsame ▸ hg)
  | sendAck hneed spi =>
    have hsnum : (frameHeader (m.frame env.crc8SaeJ1850Calc tbfpPreambleSx1262)).snum = m.snum := by
      rw [frameHeader_message]
    rw [hsnum]
    exact .sendAck (hq (frameHeader_asksAck.1 hneed)) spi
  | mesh hlife hbytes ack spi =>
    rw [hbody] at hbytes
    cases hanswers with
    | other hother => exact .send (hbytes ▸ hother) _ ack spi
    | ack hg hflags hack =>
      rw [frameHeader_message, TbfHeader.lifetime, hflags] at hlife
      exact absurd hlife (show ¬(0 : UInt8) < 0 &&& 0x0F by decide)
  | pong hid spi =>
    refine .send ?_ 0 .noNeed spi
    rw [hid]
    decide

/-- A received array makes the machine go on with messages that answer it. -/
private theorem works_hear (depth : Nat) {d : Device W} (hd : SetUp d) {sent heard : List Message} {G : UInt16 → Prop}
    (hworks : Works env.crc8SaeJ1850Calc (Asked env heard (acceptedFrames .sx1262 d.log)) G sent d.machine)
    (hfits : ∀ m ∈ heard, m.Fits) (hanswers : ∀ m ∈ heard, m.Answers G) {rxPayload : List UInt8}
    (hfront : FrontOf env.crc8SaeJ1850Calc heard rxPayload) :
    ∃ sent' fs, sent <+: sent' ∧ (∀ f ∈ fs, FrameOf env heard f) ∧
      acceptedFrames .sx1262 (loraProcPayload env depth d rxPayload).2.log = acceptedFrames .sx1262 d.log ++ fs ∧
      Works env.crc8SaeJ1850Calc (Asked env heard (acceptedFrames .sx1262 d.log ++ fs)) G sent'
        (loraProcPayload env depth d rxPayload).2.machine := by
  have hcount : ∀ r : Bool × Device W,
      (if r.1 then r else (false, r.2.setTx { r.2.tx with loRa.errCnt := r.2.tx.loRa.errCnt + 1 })).2.machine =
        r.2.machine ∧
      (if r.1 then r else (false, r.2.setTx { r.2.tx with loRa.errCnt := r.2.tx.loRa.errCnt + 1 })).2.log = r.2.log := by
    intro r
    split <;> exact ⟨rfl, rfl⟩
  obtain ⟨hmachine, hlog⟩ := hcount (tbfpProc env depth d (.bytes rxPayload) (UInt16.ofNat rxPayload.length) .sx1262 true)
  unfold loraProcPayload Device.procRxPayload
  dsimp only
  rw [hmachine, hlog]
  cases depth with
  | zero =>
    exact ⟨sent, [], List.prefix_refl _, by simp, by simp [tbfpProc, Device.note, acceptedFrames, Seen.acceptedFrame],
      by rw [List.append_nil]; exact hworks⟩
  | succ depth =>
    have hhears : Hears env (frames (tbfpVerdict env.crc8SaeJ1850Calc tbfpPreambleSx1262) [] rxPayload) d
        (tbfpProc env (depth + 1) d (.bytes rxPayload) (UInt16.ofNat rxPayload.length) .sx1262 true).2 :=
      tbfpProc_radio depth hd.configured hd.preambleVal (hfront.length_lt hfits)
    obtain ⟨⟨es, hes, hrun⟩, haccepted⟩ := hhears
    generalize hfs : frames (tbfpVerdict env.crc8SaeJ1850Calc tbfpPreambleSx1262) [] rxPayload = fs at hes haccepted
    have hframes : ∀ f ∈ fs, FrameOf env heard f := by
      subst hfs
      exact fun f hf => hfront.frames hfits hf
    have hmore : Works env.crc8SaeJ1850Calc (Asked env heard (acceptedFrames .sx1262 d.log ++ fs)) G sent d.machine :=
      hworks.mono (fun s hs => hs.mono (List.prefix_refl _) (List.prefix_append _ _)) fun _ => id
    have hallowed : ∀ e ∈ es, Allowed (Asked env heard (acceptedFrames .sx1262 d.log ++ fs)) G e := by
      intro e he
      obtain ⟨f, hf, hcaused⟩ := hes e he
      obtain ⟨m, hm, rfl⟩ := hframes f hf
      refine hcaused.allowed (hfits m hm) (hanswers m hm) fun hasks => ⟨m, hm, rfl, hasks, ?_⟩
      exact List.mem_append_right _ hf
    obtain ⟨sent', hsent, hworks'⟩ := hmore.run hallowed
    exact ⟨sent', fs, hsent, hframes, haccepted, hrun ▸ hworks'⟩

/-! ### Every run of the two -/

section

variable {p : Bool → Station W} {sent : Bool → List Message}

theorem FrameOf.mono {sent sent' : List Message} {f : List UInt8} (h : FrameOf env sent f) (hsent : sent <+: sent') :
    FrameOf env sent' f := by
  obtain ⟨m, hm, hf⟩ := h
  exact ⟨m, hsent.subset hm, hf⟩

/-- One device goes on, and the other one stays. -/
theorem PairInv.next (h : PairInv env p sent) (w : Bool) (fs : List (List UInt8)) {d : Device W} {sent' : List Message}
    (hsent : sent w <+: sent') (hsetUp : SetUp d) (hframes : ∀ f ∈ fs, FrameOf env (sent !w) f)
    (haccepted : acceptedFrames .sx1262 d.log = (p w).accepted ++ fs)
    (hworks : Works env.crc8SaeJ1850Calc (Asked env (sent !w) ((p w).accepted ++ fs))
      (Asked env (sent w) (p !w).accepted) sent' d.machine) :
    PairInv env (Function.update p w ((p w).next d)) (Function.update sent w sent') := by
  have hne : (!w) ≠ w := by simp
  have hnew : ((p w).next d).accepted = (p w).accepted ++ fs := haccepted
  have hmore : (p w).accepted <+: ((p w).next d).accepted := by
    rw [hnew]
    exact List.prefix_append _ _
  intro v
  by_cases hv : v = w
  -- the device that goes on
  · subst hv
    obtain ⟨-, -, hair, hheard⟩ := h v
    rw [Function.update_self, Function.update_self, Function.update_of_ne hne, Function.update_of_ne hne]
    refine ⟨hsetUp, ?_, List.forall_mem_cons.2 ⟨hworks.fifo, fun f hf => (hair f hf).mono hsent⟩, fun f hf => ?_⟩
    · rw [hnew]
      exact hworks.mono (fun _ => id) fun s hs => hs.mono hsent (List.prefix_refl _)
    · rw [hnew, List.mem_append] at hf
      exact hf.elim (hheard f) (hframes f)
  -- the other one
  · have hother : v = !w := Bool.eq_not_of_ne hv
    subst hother
    obtain ⟨hset, hold, hair, hheard⟩ := h (!w)
    rw [Bool.not_not] at hold hheard ⊢
    rw [Function.update_self, Function.update_self, Function.update_of_ne hne, Function.update_of_ne hne]
    refine ⟨hset, ?_, hair, fun f hf => (hheard f hf).mono hsent⟩
    exact hold.mono (fun s hs => hs.mono hsent (List.prefix_refl _)) fun s hs => hs.mono (List.prefix_refl _) hmore

private theorem setUp_hear (depth : Nat) {d : Device W} (hd : SetUp d) (rxPayload : List UInt8) :
    SetUp (loraProcPayload env depth d rxPayload).2 := by
  have heffects : Effects False d (tbfpProc env depth d (.bytes rxPayload) (UInt16.ofNat rxPayload.length) .sx1262 true).2 :=
    tbfpProc_effects depth hd.configured _ _ _ _
  unfold loraProcPayload Device.procRxPayload
  dsimp only
  split
  · exact hd.effects heffects
  · exact hd.effects (heffects.setTx fun _ => ⟨rfl, rfl⟩)

/-- Whatever happens next, there are perhaps more messages. -/
theorem PairInv.step (h : PairInv env p sent) {e : PairEvent} (hok : PairOk p e) :
    ∃ sent', PairInv env (pairStep env p e) sent' := by
  cases e with
  | act w x =>
    obtain ⟨sent', hsent, hworks, haccepted⟩ := works_act (h w).setUp hok (h w).works
    refine ⟨_, h.next w [] hsent (setUp_act (h w).setUp x) (by simp) ?_ ?_⟩
    · rw [List.append_nil]
      exact haccepted
    · rw [List.append_nil]
      exact hworks
  | hear w depth rxPayload =>
    obtain ⟨-, hother, hair, -⟩ := h (!w)
    rw [Bool.not_not] at hother
    obtain ⟨sent', fs, hsent, hframes, haccepted, hworks⟩ :=
      works_hear depth (h w).setUp (h w).works hother.fits hother.answers (hair rxPayload hok)
    exact ⟨_, h.next w fs hsent (setUp_hear depth (h w).setUp rxPayload) hframes haccepted hworks⟩

private theorem pairInv_start (now : Bool → Nat) (world : Bool → W) :
    PairInv env (fun w => Station.start (now w) (world w)) fun _ => [] := by
  intro w
  refine ⟨setUp_swInit _ _ _,
    ⟨rfl, rfl, rfl, rfl, numbered_nil, by simp, by simp, frontOf_zero [], frontOf_nil [], ?_, ?_⟩,
    by simp [Station.start], by simp [Station.start, Station.accepted, swInit, acceptedFrames]⟩
  · intro f hf
    exact absurd hf List.not_mem_nil
  · intro s hs
    exact absurd hs List.not_mem_nil

end

/-! ### What has arrived -/

/-- The frames that a device has built for its radio, the oldest one first. -/
def Station.built (s : Station W) : List (List UInt8) := s.device.machine.tbfp.built.reverse

/-- What the frames that a device has built have to do with what the other one accepted. -/
structure Exchange (p : Bool → Station W) (w : Bool) : Prop where
  /-- the serial numbers count from one -/
  numbered : (p w).built.map frameSerNum = (List.range (p w).built.length).map fun i => UInt16.ofNat (i + 1)
  /-- the machine is given frames that were built -/
  given : ∀ f ∈ givenFrames (p w).device.machine.trace, f ∈ (p w).built
  /-- on the air comes the front of one of them, perhaps with zeros behind it -/
  air : ∀ bytes ∈ (p w).air, ∃ k, bytes <+: List.replicate k 0 ∨ ∃ f ∈ (p w).built, bytes <+: f ++ List.replicate k 0
  /-- the other device accepts nothing else -/
  accepted : ∀ f ∈ (p !w).accepted, f ∈ (p w).built
  /-- an acknowledgement is one of a frame that asked for it and that the other device accepted -/
  acks : ∀ snum, .gotAck snum ∈ (p w).device.machine.trace →
    ∃ f ∈ (p w).built, frameSerNum f = snum ∧ (frameHeader f).ackNeed = .need ∧ f ∈ (p !w).accepted
  /-- before the numbers start again, an acknowledgement that matches the frame the machine works for says that the
  other device has this very frame -/
  arrived : (p w).built.length < 2 ^ 16 → ∀ f, LastGiven f (p w).device.machine.trace →
    AckSince (frameSerNum f) (p w).device.machine.trace → f ∈ (p !w).accepted

theorem LastGiven.mem {f : List UInt8} {trace : List Obs} (h : LastGiven f trace) : f ∈ givenFrames trace := by
  obtain ⟨o, ho, rfl⟩ := Since.exists_mem h
  rw [givenFrames, List.mem_reverse, List.mem_filterMap]
  exact ⟨_, ho, rfl⟩

private theorem frameSerNum_message (m : Message) (preambleVal : UInt8) :
    frameSerNum (m.frame env.crc8SaeJ1850Calc preambleVal) = m.snum := by
  simp [frameSerNum, Message.frame, tbfFrame, tbfHeader, tbfpIndexSerNum]

theorem Reaches.built {s other : Station W} {sent heard : List Message} (h : Reaches env s other sent heard) :
    s.built = sent.map (·.frame env.crc8SaeJ1850Calc tbfpPreambleSx1262) := by
  rw [Station.built, h.works.built, List.reverse_reverse]

/-- A message's frame is one of those built. -/
private theorem Reaches.mem_built {s other : Station W} {sent heard : List Message} (h : Reaches env s other sent heard)
    {f : List UInt8} (hf : FrameOf env sent f) : f ∈ s.built := by
  obtain ⟨m, hm, rfl⟩ := hf
  rw [h.built]
  exact List.mem_map_of_mem hm

private theorem PairInv.exchange {p : Bool → Station W} {sent : Bool → List Message} (h : PairInv env p sent)
    (w : Bool) :
    Exchange p w := by
  have hbuilt : (p w).built = (sent w).map (·.frame env.crc8SaeJ1850Calc tbfpPreambleSx1262) := (h w).built
  obtain ⟨-, hworks, hair, -⟩ := h w
  have haccepted := (h (!w)).accepted
  rw [Bool.not_not] at haccepted
  refine ⟨?_, fun f hf => (h w).mem_built (hworks.given f hf), fun bytes hbytes => ?_,
    fun f hf => (h w).mem_built (haccepted f hf), fun snum hsnum => ?_, fun hlt f hgiven hack => ?_⟩
  · rw [hbuilt, List.map_map, List.length_map, ← hworks.numbered]
    exact List.map_congr_left fun m _ => frameSerNum_message m _
  · obtain ⟨k, -, hzero | ⟨m, hm, hfront⟩⟩ := hair bytes hbytes
    · exact ⟨k, .inl hzero⟩
    · exact ⟨k, .inr ⟨_, (h w).mem_built ⟨m, hm, rfl⟩, hfront⟩⟩
  · obtain ⟨m, hm, hnum, hasks, hmem⟩ := hworks.acks snum hsnum
    refine ⟨_, (h w).mem_built ⟨m, hm, rfl⟩, ?_, frameHeader_asksAck.2 hasks, hmem⟩
    rw [frameSerNum_message, hnum]
  · rw [hbuilt, List.length_map] at hlt
    obtain ⟨m, hm, rfl⟩ := hworks.given f hgiven.mem
    rw [frameSerNum_message] at hack
    obtain ⟨o, ho, rfl⟩ := Since.exists_mem hack
    obtain ⟨m', hm', hsnum, -, hmem⟩ := hworks.acks m.snum ho
    rwa [hworks.numbered.inj hlt hm' hm hsnum] at hmem

/-- Whatever two devices do from their start, and however the air loses, repeats and delays what their radios send. -/
theorem exchange_run (now : Bool → Nat) (world : Bool → W) (es : List PairEvent)
    (h : Guarded (pairStep env) PairOk (fun w => Station.start (now w) (world w)) es) (w : Bool) :
    Exchange (run (pairStep env) (fun w => Station.start (now w) (world w)) es) w := by
  have hstart : ∃ sent, PairInv env (fun w => Station.start (now w) (world w)) sent := ⟨_, pairInv_start now world⟩
  have hstep : ∀ p e, (∃ sent, PairInv env p sent) → PairOk p e → ∃ sent, PairInv env (pairStep env p e) sent := by
    rintro p e ⟨sent, hsent⟩ hok
    exact hsent.step hok
  obtain ⟨sent, hsent⟩ := h.invariant hstart hstep
  exact hsent.exchange w

/-- One device sends a chat frame, the other one accepts it, and its acknowledgement arrives. -/
def chatExchange : List PairEvent :=
  [.act true (.radio false true 100), .act false (.radio false true 100), .act true (.send 1 chatPayload .sx1262 0 .need),
    .act true .txDone, .act true .retxProc, .hear false 1 [30, 128, 1, 0, 1, 0, 67, 195],
    .hear true 1 [30, 0, 1, 0, 3, 0, 65, 1, 0, 110]]

theorem exchange_run_chat :
    (run (pairStep Env.bench) (fun _ => Station.start 0 ()) chatExchange true).built = [[30, 128, 1, 0, 1, 0, 67, 195]] ∧
      .gotAck 1 ∈ (run (pairStep Env.bench) (fun _ => Station.start 0 ()) chatExchange true).device.machine.trace ∧
      Exchange (run (pairStep Env.bench) (fun _ => Station.start 0 ()) chatExchange) true :=
  ⟨by decide +kernel, by decide +kernel,
    exchange_run (fun _ => 0) (fun _ => ()) chatExchange (by decide +kernel) true⟩

end TiMcu.Tbfp
