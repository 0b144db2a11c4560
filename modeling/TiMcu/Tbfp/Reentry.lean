import TiMcu.Tbfp.Handle
import TiMcu.Tbfp.System

/-!
# Tunnels inside tunnels

The payload of a tunnel is fed to the parser of `IF_LORA` while it stands in a `fix_frame`.  When that is the `fix_frame`
of `IF_LORA` itself, the frames completed on the way are saved over the payload.  They do not reach the bytes that are
still to be fed: the parser was reset when the tunnel was complete, so after `k` bytes of the payload no saved frame is
longer than `k`, and the next byte of the payload stands behind the header and the id, at `7 + k`.

The frames saved inside are at least eight bytes shorter than the tunnel, which bounds the depth of the calls.

All this holds as long as the radio hands up nothing while a command runs (`Unpolled`).  `sxp`, in a frame inside a
tunnel on `IF_SX1262`, polls the radio, and a frame that it hands up is saved over the tunnel that is still being fed.
-/

namespace TiMcu.Tbfp

open NorFlash LittleEndian Framing Runs

variable {W : Type} {polls : Bool} {env : Env W polls} {proc : Proc W} {d d' d'' : Device W}
  {slot interface : Interfaces} {ok : Prop}

/-! ### Safe calls -/

/-- The regions have no byte in common. -/
def Region.Apart (region u : Region) : Prop := region.slot = u.slot → region.hi ≤ u.lo ∨ u.hi ≤ region.lo

/-- What the log of a safe call holds; `ok` says that calls from within may go deep enough. -/
def Seen.Fine (ok : Prop) : Seen → Prop
  | .fixed region unfed => region.hi ≤ tbfpMaxFrame ∧ ∀ u ∈ unfed, region.Apart u
  | .tooDeep => ¬ok
  | _ => True

def Seen.HasPayload : Seen → Prop
  | .accepted _ frame => 0 < payloadLen frame
  | _ => True

instance : (x : Seen) → Decidable x.HasPayload
  | .accepted _ frame => inferInstanceAs (Decidable (0 < payloadLen frame))
  | .received .. | .handed .. | .read .. | .fixed .. | .polled _ | .rtcm3 .. | .flag .. | .passed .. | .tooDeep =>
    inferInstanceAs (Decidable True)

/-- Every frame with the right checksum has a payload. -/
def Payloads (log : List Seen) : Prop := ∀ x ∈ log, x.HasPayload

instance (log : List Seen) : Decidable (Payloads log) := by
  unfold Payloads
  infer_instance

def Seen.isPolled : Seen → Bool
  | .polled _ => true
  | _ => false

/-- The radio handed up nothing while a command ran. -/
def Unpolled (log : List Seen) : Prop := ∀ x ∈ log, x.isPolled = false

instance (log : List Seen) : Decidable (Unpolled log) := by
  unfold Unpolled
  infer_instance

structure Clean (log : List Seen) : Prop where
  payloads : Payloads log
  unpolled : Unpolled log

/-- What holds of the device between two bytes. -/
structure Sound (env : Env W polls) (d : Device W) : Prop where
  configured : Configured d
  forwarding : (d.rtcm3 .uart1).forwarding .loopback = false
  loaded : ∀ s, ∃ l, Loaded (tbfpVerdict env.crc8SaeJ1850Calc (d.preambleVal s)) (d.tbfp s).parser l
  stored : ∀ s, ∀ i ∈ (d.tbfp s).parser.stored, i < tbfpMaxFrame

structure Safe (env : Env W polls) (ok : Prop) (d d' : Device W) : Prop where
  sound : Sound env d'
  log : ∃ newer, d'.log = newer ++ d.log ∧ ∀ x ∈ newer, x.Fine ok

theorem Safe.trans (h : Safe env ok d d') (h' : Safe env ok d' d'') : Safe env ok d d'' := by
  obtain ⟨newer, hlog, hfine⟩ := h.log
  obtain ⟨newer', hlog', hfine'⟩ := h'.log
  refine ⟨h'.sound, newer' ++ newer, by rw [hlog', hlog, List.append_assoc], fun x hx => ?_⟩
  rcases List.mem_append.1 hx with hx | hx
  · exact hfine' x hx
  · exact hfine x hx

private theorem safe_refl (h : Sound env d) : Safe env ok d d := ⟨h, [], rfl, by simp⟩

theorem Clean.older {log newer : List Seen} (h : Clean (newer ++ log)) : Clean log :=
  ⟨fun x hx => h.payloads x (List.mem_append_right newer hx),
    fun x hx => h.unpolled x (List.mem_append_right newer hx)⟩

/-- What is still to be fed does not matter for the parsers. -/
theorem Sound.unfed (h : Sound env d) (unfed : List Region) : Sound env { d with unfed := unfed } :=
  ⟨⟨h.configured.tbfp, h.configured.rtcm3⟩, h.forwarding, h.loaded, h.stored⟩

theorem Sound.apart (h : Sound env d) (s : Interfaces) : ¬(d.rtcm3 s).FeedsLoopback := by
  rintro ⟨huart, hforward⟩
  by_cases hs : s = .uart1
  · subst hs
    rw [h.forwarding] at hforward
    cases hforward
  · rw [h.configured.rtcm3_lora hs] at huart
    cases huart

private theorem sound_note (h : Sound env d) (x : Seen) : Sound env (d.note x) :=
  ⟨h.configured.note x, h.forwarding, h.loaded, h.stored⟩

private theorem safe_note (h : Sound env d) {x : Seen} (hx : x.Fine ok) : Safe env ok d (d.note x) :=
  ⟨sound_note h x, [x], rfl, by simpa using hx⟩

/-- One entry of the table changes. -/
private theorem sound_setTbfp (h : Sound env d) {r : TbfpReceiver}
    (hloaded : ∃ l, Loaded (tbfpVerdict env.crc8SaeJ1850Calc (d.preambleVal slot)) r.parser l)
    (hstored : ∀ i ∈ r.parser.stored, i < tbfpMaxFrame) : Sound env (d.setTbfp slot r) := by
  refine ⟨⟨h.configured.tbfp, h.configured.rtcm3⟩, h.forwarding, fun s => ?_, fun s => ?_⟩
  · by_cases hs : s = slot
    · subst hs
      rw [Device.setTbfp_self]
      exact hloaded
    · rw [d.setTbfp_of_ne r hs]
      exact h.loaded s
  · by_cases hs : s = slot
    · subst hs
      rw [Device.setTbfp_self]
      exact hstored
    · rw [d.setTbfp_of_ne r hs]
      exact h.stored s

private theorem safe_setTbfp (h : Sound env d) {r : TbfpReceiver}
    (hloaded : ∃ l, Loaded (tbfpVerdict env.crc8SaeJ1850Calc (d.preambleVal slot)) r.parser l)
    (hstored : ∀ i ∈ r.parser.stored, i < tbfpMaxFrame) : Safe env ok d (d.setTbfp slot r) :=
  ⟨sound_setTbfp h hloaded hstored, [], rfl, by simp⟩

private theorem safe_resetRx (h : Sound env d) (slot : Interfaces) : Safe env ok d (d.resetRx slot) :=
  safe_setTbfp h ⟨[], loaded_resetRx _⟩ (h.stored slot)

theorem Calm.stored_lt {r r' : TbfpReceiver} (h : Calm r r') (hr : ∀ i ∈ r.parser.stored, i < tbfpMaxFrame) :
    ∀ i ∈ r'.parser.stored, i < tbfpMaxFrame := by
  intro i hi
  rcases h.stored i hi with hold | hlt
  · exact hr i hold
  · exact hlt

/-- The handling of a frame that feeds no parser. -/
private theorem safe_handled {n : Nat} (hd : Sound env d) (h : Handled slot n d d') (hn : n ≤ tbfpMaxFrame)
    (hunfed : ∀ u ∈ d.unfed, u.slot = slot → n ≤ u.lo) : Safe env ok d d' := by
  obtain ⟨newer, hlog, hnew⟩ := h.log
  refine ⟨⟨h.configured hd.configured, ?_, fun s => ?_, fun s => ?_⟩, newer, hlog, fun x hx => ?_⟩
  · rw [(h.rtcm3 .uart1).2]
    exact hd.forwarding
  · obtain ⟨l, hl⟩ := hd.loaded s
    rw [show d'.preambleVal s = d.preambleVal s from (h.setup s).2]
    rcases (h.parser s).loaded hl with hl' | hl'
    · exact ⟨l, hl'⟩
    · exact ⟨[], hl'⟩
  · rw [(h.parser s).stored]
    exact hd.stored s
  · have hx' := hnew x hx
    cases x with
    | fixed region unfed =>
      obtain ⟨hslot, hhi, hunfed'⟩ := hx'
      refine ⟨Nat.le_trans hhi hn, fun u hu hsame => .inl ?_⟩
      rw [hunfed'] at hu
      exact Nat.le_trans hhi (hunfed u hu (hsame ▸ hslot))
    | tooDeep => exact absurd hx' id
    | _ => trivial

/-! ### Commands -/

private theorem nothing_polled (_ : polls = false) (_line : List UInt8) (_w : W) : ([] : List (List UInt8)) = [] := rfl

/-- The outside without the radio behind the commands. -/
def Env.quiet (env : Env W polls) : Env W :=
  { env with
    radioPolled := fun _ _ => []
    radioPolled_nil := nothing_polled }

private theorem rtcm3Fed_quiet (src : Source) (n : Nat) :
    d.rtcm3Fed env.quiet proc src interface n = d.rtcm3Fed env proc src interface n := by
  induction n with
  | zero => rfl
  | succ n ih =>
    rw [Device.rtcm3Fed, Device.rtcm3Fed, ih]
    rfl

private theorem rtcm3ProcArray_quiet (src : Source) (size : Nat) :
    d.rtcm3ProcArray env.quiet proc src size interface = d.rtcm3ProcArray env proc src size interface := by
  unfold Device.rtcm3ProcArray
  rw [rtcm3Fed_quiet]

section

variable (heff : ∀ (d : Device W) src len s reset, Configured d → Effects False d (proc d src len s reset).2)

include heff

private theorem tbfpProcCmd_quiet (hd : Configured d) {len : UInt16}
    (hlog : Unpolled (d.tbfpProcCmd env proc slot len).2.log) :
    d.tbfpProcCmd env proc slot len = d.tbfpProcCmd env.quiet proc slot len := by
  unfold Device.tbfpProcCmd at hlog ⊢
  split at hlog
  · rename_i hcmd
    rw [if_pos hcmd, if_pos hcmd]
    have hend : Effects False d ((d.note (.read len.toNat len.toNat)).endString slot len) :=
      (effects_read len.toNat len.toNat).trans (effects_endString slot len)
    dsimp only at hlog ⊢
    generalize (d.note (.read len.toNat len.toNat)).endString slot len = m at hend hlog ⊢
    have hran : Effects False d (m.setTx
        { m.tx with world := (env.processShellCmd (m.commandString slot len) m.tx.world).2 }) :=
      hend.setTx fun _ => ⟨rfl, rfl⟩
    cases hpolled : env.radioPolled (m.commandString slot len) m.tx.world with
    | nil => rfl
    | cons rxPayload rxPayloads =>
      rw [hpolled, List.foldl_cons] at hlog
      have hup := effects_handUp heff (hran.configured hd) rxPayload
      have hups := effects_handUps heff (hup.configured ((hran.configured hd).note _)) rxPayloads
      have hpolls := hlog (.polled rxPayload) (hups.suffix.subset (hup.suffix.subset List.mem_cons_self))
      cases hpolls
  · rename_i hcmd
    rw [if_neg hcmd, if_neg hcmd]

private theorem tbfpProcPayload_quiet (hd : Configured d) {len : UInt16}
    (hlog : Unpolled (d.tbfpProcPayload env proc slot len interface).2.log) :
    d.tbfpProcPayload env proc slot len interface = d.tbfpProcPayload env.quiet proc slot len interface := by
  unfold Device.tbfpProcPayload at hlog ⊢
  dsimp only at hlog ⊢
  by_cases hcmd : d.payload slot 0 = frameIdCmd
  · rw [hcmd] at hlog ⊢
    exact tbfpProcCmd_quiet heff (hd.note _) hlog
  · rw [if_neg hcmd, if_neg hcmd, rtcm3ProcArray_quiet]
    rfl

/-- A frame during whose processing the radio hands up nothing. -/
private theorem tbfpProcFull_quiet (hd : Configured d) {len : UInt16}
    (hlog : Unpolled (d.tbfpProcFull env proc slot len interface).2.log) :
    d.tbfpProcFull env proc slot len interface = d.tbfpProcFull env.quiet proc slot len interface := by
  unfold Device.tbfpProcFull Device.handFrame at hlog ⊢
  dsimp only at hlog ⊢
  by_cases hframe : isTbfpProtocol env (d.tbfp slot).parser.fixFrame len (d.preambleVal interface)
  · rw [if_pos hframe] at hlog ⊢
    refine Eq.trans ?_ (if_pos hframe).symm
    generalize TbfHeader.read (d.tbfp slot).parser.fixFrame = header at hlog ⊢
    have hcount : Configured (d.countFrame interface len header.snum) := configured_countFrame hd interface len _
    have hmesh := (effects_meshFrame (R := False) env heff (true, d.countFrame interface len header.snum) hcount slot
      interface header).configured hcount
    have hack := (effects_ackFrame (R := False) env heff _ hmesh interface header).configured hmesh
    by_cases hflow : (tbfpCheckFlowControl (d.tbfp interface).flow header.snum).1 = true
    · rw [if_pos hflow] at hlog ⊢
      rw [if_pos hflow]
      exact tbfpProcPayload_quiet heff (hack.note _) hlog
    · rw [if_neg hflow, if_neg hflow]
      rfl
  · rw [if_neg hframe]
    exact (if_neg hframe).symm

end

/-! ### A frame -/

section

variable {f : List UInt8} {r : TbfpReceiver} {l : List UInt8} {b : UInt8}

private theorem holdsFrame_length_le (h : HoldsFrame env d slot f) : f.length ≤ tbfpMaxFrame := by
  rw [h.length]
  exact Nat.add_le_add_right h.payloadLen_le tbfpSizeOverhead

private theorem sound_countFrame (h : Sound env d) (interface : Interfaces) (len snum : UInt16) :
    Sound env (d.countFrame interface len snum) := by
  refine sound_note (sound_setTbfp h ?_ ?_) _
  · exact h.loaded interface
  · exact h.stored interface

private theorem safe_countFrame (h : Sound env d) (interface : Interfaces) (len snum : UInt16) :
    Safe env ok d (d.countFrame interface len snum) :=
  ⟨sound_countFrame h interface len snum, [.received interface snum], rfl, by simp [Seen.Fine]⟩

/-- The handling of a frame that does not reach the bytes still to be fed. -/
private theorem safe_tbfpProcFull (hd : Sound env d) (h : HoldsFrame env d slot f)
    (heff : ∀ (d : Device W) src len s reset, Configured d → Effects False d (proc d src len s reset).2)
    (hlog : Unpolled (d.tbfpProcFull env proc slot (UInt16.ofNat f.length) (d.interface slot)).2.log)
    (hunfed : ∀ u ∈ d.unfed, u.slot = slot → f.length ≤ u.lo)
    (hproc : ∀ m, Sound env m → m.unfed = d.unfed → (m.tbfp slot).parser = (d.tbfp slot).parser →
      d.tbfpProcFull env proc slot (UInt16.ofNat f.length) (d.interface slot) =
        proc m (.fixFrame slot (tbfpIndexPayload + 1)) ((frameHeader f).len - 1) .lora false →
      Safe env ok m (proc m (.fixFrame slot (tbfpIndexPayload + 1)) ((frameHeader f).len - 1) .lora false).2) :
    Safe env ok d (d.tbfpProcFull env proc slot (UInt16.ofNat f.length) (d.interface slot)).2 := by
  have hcount : Safe env ok d (d.countFrame (d.interface slot) (UInt16.ofNat f.length) (frameHeader f).snum) :=
    safe_countFrame hd _ _ _
  have hapart := hd.configured.apart slot (frameHeader f) (frameId f)
  by_cases hp : d.preambleVal (d.interface slot) = d.preambleVal slot
  · by_cases htunnel : frameId f = frameIdTunnel
    · by_cases hflow : (d.tbfp (d.interface slot)).flow.prevSNum < (frameHeader f).snum
      · obtain ⟨m, hm, hparser, -, heq⟩ := tbfpProcFull_tunnel (n := 0) proc h (fun hi => (hapart.loopback hi).1)
          htunnel hp hflow
        have hsafe : Safe env ok d m := hcount.trans
          (safe_handled hcount.sound hm (Nat.zero_le _) fun u _ _ => Nat.zero_le _)
        rw [heq]
        exact hsafe.trans (hproc m hsafe.sound hm.unfed (hparser slot) heq)
      · rw [tbfpProcFull_refused h (fun hi => (hapart.loopback hi).1) hp hflow]
        exact hcount.trans (safe_handled hcount.sound (handled_answered h) (holdsFrame_length_le h) hunfed)
    · have hquiet : HoldsFrame env.quiet d slot f := ⟨h.verdict, h.bytes⟩
      rw [tbfpProcFull_quiet heff hd.configured hlog]
      exact hcount.trans (safe_handled hcount.sound (handled_tbfpProcFull hquiet hapart htunnel hp)
        (holdsFrame_length_le h) hunfed)
  · rw [tbfpProcFull_foreign h hp]
    exact safe_refl hd

/-- A complete frame is saved. -/
private theorem safe_acceptFrame (hd : Sound env d)
    (hv : tbfpVerdict env.crc8SaeJ1850Calc (d.preambleVal slot) f = .frame) (hi : r.parser.crc8Index.toNat + 1 = f.length)
    (hc : Calm (d.tbfp slot) r) (hunfed : ∀ u ∈ d.unfed, u.slot = slot → f.length ≤ u.lo) :
    Safe env ok d (d.acceptFrame slot r) := by
  have hmax : f.length ≤ tbfpMaxFrame := by
    obtain ⟨-, hpay, hlen, -⟩ := verdict_frame hv
    rw [hlen]
    exact Nat.add_le_add_right hpay tbfpSizeOverhead
  have htake : Sound env (d.setTbfp slot r.takeFrame) := by
    refine sound_setTbfp hd ⟨[], ?_⟩ ?_
    · exact loaded_resetRx _
    · exact hc.stored_lt (hd.stored slot)
  refine ⟨sound_note (sound_note htake _) _, [.accepted slot _, .fixed ⟨slot, 0, _⟩ d.unfed], rfl, ?_⟩
  intro x hx
  rw [List.mem_cons, List.mem_singleton] at hx
  rcases hx with rfl | rfl
  · trivial
  · rw [show r.parser.crc8Index.toNat + tbfpSizeCrc = f.length from hi]
    exact ⟨hmax, fun u hu hslot => .inl (hunfed u hu hslot.symm)⟩

/-- One byte for a parser that holds `l`, when every byte still to be fed from its own `fix_frame` stands behind
the frame that this byte can complete. -/
private theorem safe_tbfpProcByte (proc : Proc W) (hd : Sound env d)
    (h : Loaded (tbfpVerdict env.crc8SaeJ1850Calc (d.preambleVal slot)) (d.tbfp slot).parser l) (b : UInt8)
    (hunfed : ∀ u ∈ d.unfed, u.slot = slot → l.length + 1 ≤ u.lo)
    (heff : ∀ (d : Device W) src len s reset, Configured d → Effects False d (proc d src len s reset).2)
    (hproc : ∀ m len, Sound env m → m.unfed = d.unfed → len.toNat + tbfpSizeOverhead = l.length →
      len.toNat < tbfpMaxPayload → (slot = .lora → Loaded (tbfpVerdict env.crc8SaeJ1850Calc (m.preambleVal .lora))
        (m.tbfp .lora).parser []) →
      Clean (proc m (.fixFrame slot (tbfpIndexPayload + 1)) len .lora false).2.log →
      Safe env ok m (proc m (.fixFrame slot (tbfpIndexPayload + 1)) len .lora false).2)
    (hpay : Clean (d.tbfpProcByte env proc slot b).2.log) :
    Safe env ok d (d.tbfpProcByte env proc slot b).2 ∧
      ∃ l', Loaded (tbfpVerdict env.crc8SaeJ1850Calc (d.preambleVal slot))
        ((d.tbfpProcByte env proc slot b).2.tbfp slot).parser l' ∧ l'.length ≤ l.length + 1 := by
  have hstep := tbfpProcByte_spec h proc b
  generalize d.tbfpProcByte env proc slot b = res at hstep hpay ⊢
  cases hstep with
  | loads r hv hl hc =>
    refine ⟨safe_setTbfp hd ⟨_, hl⟩ (hc.stored_lt (hd.stored slot)), _, by rw [Device.setTbfp_self]; exact hl, ?_⟩
    refine Nat.le_trans (keep_length_le _ _) ?_
    rw [List.length_append, List.length_singleton]
  | accepts r hv hl hi hc =>
    have hlen : r.parser.crc8Index.toNat + 1 = (l ++ [b]).length := by
      rw [hi, List.length_append, List.length_singleton]
    rw [crc8Index_succ hlen] at hpay ⊢
    generalize hf : l ++ [b] = f at hv hlen hpay ⊢
    have hsize : f.length = l.length + 1 := by
      rw [← hf, List.length_append, List.length_singleton]
    have haccept : Safe env ok d (d.acceptFrame slot r) := safe_acceptFrame hd hv hlen hc (by rwa [hsize])
    have hholds : HoldsFrame env (d.acceptFrame slot r) slot f :=
      holdsFrame_acceptFrame hv (by rw [hsize, hl, hf]) hlen
    have heffects : Effects False (d.acceptFrame slot r) ((d.acceptFrame slot r).tbfpProcFull env proc slot
        (UInt16.ofNat f.length) (d.interface slot)).2 :=
      effects_tbfpProcFull env heff haccept.sound.configured _ (haccept.sound.configured.ne_uart1 slot)
    obtain ⟨newer, hlog, -⟩ := heffects.log
    have hpos : 0 < payloadLen f := by
      refine hpay.payloads (.accepted slot f) ?_
      change _ ∈ ((d.acceptFrame slot r).tbfpProcFull env proc slot (UInt16.ofNat f.length) (d.interface slot)).2.log
      rw [hlog]
      refine List.mem_append_right newer (List.mem_cons.2 (.inl ?_))
      rw [show r.parser.crc8Index.toNat + tbfpSizeCrc = f.length from hlen, hsize, hl, hf]
    have hone := frameHeader_len_pred hpos
    have hfull : Safe env ok (d.acceptFrame slot r) ((d.acceptFrame slot r).tbfpProcFull env proc slot
        (UInt16.ofNat f.length) (d.interface slot)).2 := by
      refine safe_tbfpProcFull haccept.sound hholds heff hpay.unpolled (by rw [hsize]; exact hunfed)
        fun m hm hunfed' hparser heq => ?_
      refine hproc m _ hm hunfed' ?_ ?_ ?_ ?_
      · have hframe := hholds.length
        rw [hone]
        omega
      · have hmax := hholds.payloadLen_le
        rw [hone]
        omega
      · rintro rfl
        rw [hparser]
        exact d.acceptFrame_loaded .lora r
      · rw [← heq]
        exact hpay
    exact ⟨(haccept.trans hfull).trans (safe_resetRx hfull.sound slot), [], Device.resetRx_loaded _ slot, Nat.zero_le _⟩

end

/-! ### An array of bytes -/

theorem Safe.unfed {u u' : List Region} (h : Safe env ok { d with unfed := u } d') :
    Safe env ok d { d' with unfed := u' } := ⟨h.sound.unfed u', h.log⟩

section

variable {src : Source} {len : UInt16} {l : List UInt8}

private theorem countLack_log (d : Device W) (slot : Interfaces) (initRxPkt : UInt32) (isResetParser : Bool) :
    (d.countLack slot initRxPkt isResetParser).log = d.log := by
  unfold Device.countLack
  dsimp only
  split
  · rfl
  · split <;> rfl

private theorem safe_countLack (hd : Sound env d) (slot : Interfaces) (initRxPkt : UInt32) (isResetParser : Bool) :
    Safe env ok d (d.countLack slot initRxPkt isResetParser) ∧
      (d.countLack slot initRxPkt isResetParser).unfed = d.unfed := by
  unfold Device.countLack
  dsimp only
  split
  · exact ⟨safe_refl hd, rfl⟩
  · split
    · exact ⟨safe_setTbfp hd (hd.loaded slot) (hd.stored slot), rfl⟩
    · exact ⟨safe_refl hd, rfl⟩

section

/-! The bytes still to be fed stand behind the frames that the fed ones can complete, and a call for the payload of a
tunnel is safe. -/

variable (proc : Proc W)
  (hrest : ∀ k, ∀ u ∈ src.rest k len.toNat, u.slot = slot → l.length + k ≤ u.lo)
  (hunfed : ∀ u ∈ d.unfed, u.slot = slot → l.length + len.toNat ≤ u.lo)
  (heff : ∀ (d : Device W) src len s reset, Configured d → Effects False d (proc d src len s reset).2)
  (hproc : ∀ k m len', k < len.toNat → Sound env m → m.unfed = src.rest (k + 1) len.toNat ++ d.unfed →
    len'.toNat + tbfpSizeOverhead ≤ l.length + k → len'.toNat < tbfpMaxPayload →
    (slot = .lora → Loaded (tbfpVerdict env.crc8SaeJ1850Calc (m.preambleVal .lora)) (m.tbfp .lora).parser []) →
    Clean (proc m (.fixFrame slot (tbfpIndexPayload + 1)) len' .lora false).2.log →
    Safe env ok m (proc m (.fixFrame slot (tbfpIndexPayload + 1)) len' .lora false).2)

include hrest hunfed heff hproc

/-- The loop of `tbfp_proc`. -/
private theorem safe_fed (hd : Sound env d)
    (h : Loaded (tbfpVerdict env.crc8SaeJ1850Calc (d.preambleVal slot)) (d.tbfp slot).parser l)
    {n : Nat} (hn : n ≤ len.toNat) (hpay : Clean (d.fed env proc src len slot n).2.log) :
    Safe env ok d (d.fed env proc src len slot n).2 ∧ (d.fed env proc src len slot n).2.unfed = d.unfed ∧
      ∃ l', Loaded (tbfpVerdict env.crc8SaeJ1850Calc (d.preambleVal slot))
        ((d.fed env proc src len slot n).2.tbfp slot).parser l' ∧ l'.length ≤ l.length + n := by
  induction n with
  | zero => exact ⟨safe_refl hd, rfl, l, h, Nat.le_refl _⟩
  | succ n ih =>
    have hfed : (d.fed env proc src len slot (n + 1)).2 =
        ((d.fed env proc src len slot n).2.feedByte env proc src len slot n).2 := rfl
    have hpreamble : (d.fed env proc src len slot n).2.preambleVal slot = d.preambleVal slot :=
      (effects_fed env heff hd.configured src len slot n).preambleVal slot
    have hconf : Configured (d.fed env proc src len slot n).2 :=
      (effects_fed env heff hd.configured src len slot n).configured hd.configured
    obtain ⟨newer, hlog, -⟩ := (effects_feedByte env heff hconf src len slot n).log
    rw [hfed] at hpay ⊢
    have hpay' : Clean (d.fed env proc src len slot n).2.log := by
      rw [hlog] at hpay
      exact hpay.older
    obtain ⟨hsafe, hunfed', l', hl', hle⟩ := ih (Nat.le_of_succ_le hn) hpay'
    rw [← hpreamble] at hl' ⊢
    generalize (d.fed env proc src len slot n).2 = m at hsafe hunfed' hl' hpay ⊢
    have hmem : ∀ u ∈ src.rest (n + 1) len.toNat ++ m.unfed, u.slot = slot → l'.length + 1 ≤ u.lo := by
      intro u hu hslot
      rcases List.mem_append.1 hu with hu | hu
      · exact Nat.le_trans (by omega) (hrest (n + 1) u hu hslot)
      · rw [hunfed'] at hu
        exact Nat.le_trans (by omega) (hunfed u hu hslot)
    have hbyte := safe_tbfpProcByte proc (hsafe.sound.unfed (src.rest (n + 1) len.toNat ++ m.unfed)) hl'
      (m.byteAt src n) hmem heff (fun m' len' hm' hunfed'' hsize => hproc n m' len' hn hm'
        (by rw [hunfed'', hunfed']) (by omega)) hpay
    exact ⟨hsafe.trans hbyte.1.unfed, hunfed', hbyte.2.imp fun l'' hl'' => ⟨hl''.1, by omega⟩⟩

/-- A call of `tbfp_proc`. -/
private theorem safe_tbfpProcBody (hd : Sound env d) (isResetParser : Bool)
    (h : if isResetParser then l = []
      else Loaded (tbfpVerdict env.crc8SaeJ1850Calc (d.preambleVal slot)) (d.tbfp slot).parser l)
    (hpay : Clean (tbfpProcBody env proc d src len slot isResetParser).2.log) :
    Safe env ok d (tbfpProcBody env proc d src len slot isResetParser).2 ∧
      (tbfpProcBody env proc d src len slot isResetParser).2.unfed = d.unfed := by
  have hreset : Safe env ok d (if isResetParser then d.resetRx slot else d) ∧
      (if isResetParser then d.resetRx slot else d).unfed = d.unfed ∧
      Loaded (tbfpVerdict env.crc8SaeJ1850Calc ((if isResetParser then d.resetRx slot else d).preambleVal slot))
        ((if isResetParser then d.resetRx slot else d).tbfp slot).parser l := by
    cases isResetParser with
    | true =>
      rw [if_pos rfl] at h ⊢
      subst h
      exact ⟨safe_resetRx hd slot, rfl, d.resetRx_loaded slot⟩
    | false => exact ⟨safe_refl hd, rfl, h⟩
  unfold tbfpProcBody at hpay ⊢
  dsimp only at hpay ⊢
  generalize (if isResetParser then d.resetRx slot else d) = m at hreset hpay ⊢
  obtain ⟨hsafe, hsame, hloaded⟩ := hreset
  rw [← hsame] at hunfed hproc ⊢
  have hpay' : Clean (m.fed env proc src len slot len.toNat).2.log := by
    rwa [countLack_log] at hpay
  obtain ⟨hfed, hfed', -⟩ := safe_fed proc hrest hunfed heff hproc hsafe.sound hloaded (Nat.le_refl _) hpay'
  have hlack : Safe env ok _ _ ∧ _ := safe_countLack hfed.sound slot (d.tbfp slot).rxPktCnt isResetParser
  exact ⟨(hsafe.trans hfed).trans hlack.1, hlack.2.trans hfed'⟩

end

/-- A call of `tbfp_proc` for `IF_LORA`. -/
private theorem safe_tbfpProc_lora (depth : Nat) (hd : Sound env d) (isResetParser : Bool)
    (h : if isResetParser then l = []
      else Loaded (tbfpVerdict env.crc8SaeJ1850Calc (d.preambleVal .lora)) (d.tbfp .lora).parser l)
    (hrest : ∀ k, ∀ u ∈ src.rest k len.toNat, u.slot = .lora → l.length + k ≤ u.lo)
    (hunfed : ∀ u ∈ d.unfed, u.slot = .lora → l.length + len.toNat ≤ u.lo)
    (hdepth : ok → min (l.length + len.toNat) tbfpMaxFrame < 8 * depth)
    (hpay : Clean (tbfpProc env depth d src len .lora isResetParser).2.log) :
    Safe env ok d (tbfpProc env depth d src len .lora isResetParser).2 ∧
      (tbfpProc env depth d src len .lora isResetParser).2.unfed = d.unfed := by
  induction depth generalizing d l src len isResetParser with
  | zero => exact ⟨safe_note hd fun hok => absurd (hdepth hok) (Nat.not_lt_zero _), rfl⟩
  | succ depth ih =>
    refine safe_tbfpProcBody (tbfpProc env depth) hrest hunfed (fun _ _ _ _ _ hd => tbfpProc_effects depth hd _ _ _ _)
      (fun k m len' hk hm hunfed' hsize hmax hloaded hpay' => ?_) hd isResetParser h hpay
    have hover : tbfpSizeOverhead = 7 := rfl
    have hmaxFrame : tbfpMaxFrame = 1046 := rfl
    have hmaxPayload : tbfpMaxPayload = 1039 := rfl
    refine (ih hm false (hloaded rfl) ?_ ?_ (fun hok => ?_) hpay').1
    · intro j u hu _
      rw [Source.rest, List.mem_singleton] at hu
      subst hu
      exact Nat.add_le_add_right (Nat.zero_le _) j
    · intro u hu hslot
      rw [hunfed'] at hu
      rw [List.length_nil]
      rcases List.mem_append.1 hu with hu | hu
      · have := hrest (k + 1) u hu hslot
        omega
      · have := hunfed u hu hslot
        omega
    · have := hdepth hok
      simp only [List.length_nil]
      omega

end

/-! ### Runs -/

/-- How deep the calls of `tbfp_proc` go at most: each tunnel inside a tunnel is at least eight bytes shorter. -/
def tunnelDepth : Nat := tbfpMaxFrame / 8 + 2

/-- The array is in no `fix_frame`. -/
def Source.Free (src : Source) : Prop := ∀ k n, src.rest k n = []

/-- An array that is no payload, for any parser. -/
private theorem safe_tbfpProc {src : Source} (hsrc : src.Free) (depth : Nat) (hd : Sound env d) (hfree : d.unfed = [])
    (len : UInt16) (slot : Interfaces) (isResetParser : Bool) (hdepth : ok → tunnelDepth ≤ depth)
    (hpay : Clean (tbfpProc env depth d src len slot isResetParser).2.log) :
    Safe env ok d (tbfpProc env depth d src len slot isResetParser).2 ∧
      (tbfpProc env depth d src len slot isResetParser).2.unfed = [] := by
  have hbound : tunnelDepth = 132 := rfl
  have hmaxFrame : tbfpMaxFrame = 1046 := rfl
  have hloaded : ∃ l, if isResetParser then l = []
      else Loaded (tbfpVerdict env.crc8SaeJ1850Calc (d.preambleVal slot)) (d.tbfp slot).parser l := by
    cases isResetParser with
    | true => exact ⟨[], rfl⟩
    | false => exact hd.loaded slot
  obtain ⟨l, hl⟩ := hloaded
  have hrest : ∀ k, ∀ u ∈ src.rest k len.toNat, u.slot = slot → l.length + k ≤ u.lo := by
    intro k u hu
    rw [hsrc] at hu
    cases hu
  have hunfed : ∀ u ∈ d.unfed, u.slot = slot → l.length + len.toNat ≤ u.lo := by
    intro u hu
    rw [hfree] at hu
    cases hu
  rw [← hfree]
  by_cases hslot : slot = .lora
  · subst hslot
    exact safe_tbfpProc_lora depth hd isResetParser hl hrest hunfed
      (fun hok => by have := hdepth hok; omega) hpay
  · cases depth with
    | zero => exact ⟨safe_note hd fun hok => absurd (hdepth hok) (by decide), rfl⟩
    | succ depth =>
      refine safe_tbfpProcBody (tbfpProc env depth) hrest hunfed (fun _ _ _ _ _ hd => tbfpProc_effects depth hd _ _ _ _)
        (fun k m len' _ hm hfree' _ _ _ hpay' => ?_) hd isResetParser hl hpay
      obtain ⟨lm, hlm⟩ := hm.loaded .lora
      refine (safe_tbfpProc_lora depth hm false hlm ?_ ?_ (fun hok => by have := hdepth hok; omega) hpay').1
      · intro j u hu hlora
        rw [Source.rest, List.mem_singleton] at hu
        subst hu
        exact absurd hlora hslot
      · intro u hu
        rw [hfree', hsrc, hfree] at hu
        cases hu

/-- Between two inputs no byte is waiting to be fed. -/
structure Ready (env : Env W polls) (d : Device W) : Prop where
  sound : Sound env d
  unfed : d.unfed = []

private theorem ready_swInit (env : Env W polls) (radio : Sx1262) (now : Nat) (world : W) :
    Ready env (swInit radio now world) :=
  ⟨⟨configured_swInit radio now world, rfl, fun _ => ⟨[], loaded_nil rfl rfl⟩, fun _ _ hi => by cases hi⟩, rfl⟩

/-- The calls of `tbfp_proc` for the input may go that deep. -/
def Input.Deep (n : Nat) : Input W → Prop
  | .proc depth .. | .rtcm3 depth _ | .send depth .. => n ≤ depth
  | .moves .. => True

private theorem safe_setTx (hd : Sound env d) {t : Transmitter W} (ht : SameSetup d.tx t) :
    Safe env ok d (d.setTx t) := by
  have h : Handled .lora 0 d (d.setTx t) := (Handled.refl d).setTx ht
  exact safe_handled hd h (Nat.zero_le _) fun _ _ _ => Nat.zero_le _

private theorem safe_sendLoopback (depth : Nat) (hd : Ready env d) (len : UInt16) (hdepth : ok → tunnelDepth ≤ depth)
    (hpay : Clean (d.sendLoopback (tbfpProc env depth) len).2.log) :
    Safe env ok d (d.sendLoopback (tbfpProc env depth) len).2 ∧
      (d.sendLoopback (tbfpProc env depth) len).2.unfed = [] := by
  have hlog : (d.sendLoopback (tbfpProc env depth) len).2.log =
      (tbfpProc env depth d (.txFrame .loopback) len .loopback true).2.log := by
    unfold Device.sendLoopback
    dsimp only
    split <;> rfl
  rw [hlog] at hpay
  have hsent : Safe env ok _ _ ∧ _ :=
    safe_tbfpProc (fun _ _ => rfl) depth hd.sound hd.unfed len .loopback true hdepth hpay
  obtain ⟨hsafe, hfree⟩ := hsent
  unfold Device.sendLoopback
  dsimp only
  split
  · exact ⟨hsafe, hfree⟩
  · exact ⟨hsafe.trans (safe_setTx hsafe.sound fun _ => ⟨rfl, rfl⟩), hfree⟩

private theorem safe_tbfpSend (depth : Nat) (hd : Ready env d) (payload : Payload) (interface : Interfaces)
    (lifetime : UInt8) (ack : TbfpAck) (hdepth : ok → tunnelDepth ≤ depth)
    (hpay : Clean (d.tbfpSend env (tbfpProc env depth) payload interface lifetime ack).2.log) :
    Safe env ok d (d.tbfpSend env (tbfpProc env depth) payload interface lifetime ack).2 ∧
      (d.tbfpSend env (tbfpProc env depth) payload interface lifetime ack).2.unfed = [] := by
  by_cases hloop : interface = .loopback
  · have hbuilt : Safe env ok d (d.setTx (d.tx.setNode interface
        ((d.tx.node interface).buildFrame env.crc8SaeJ1850Calc payload lifetime ack).2)) :=
      safe_setTx hd.sound (sameSetup_setNode (sameNode_buildFrame _ _ payload lifetime ack))
    unfold Device.tbfpSend at hpay ⊢
    dsimp only at hpay ⊢
    split at hpay
    · rename_i hok
      rw [if_pos hok]
      unfold Device.sysSendIf at hpay ⊢
      rw [if_pos hloop] at hpay ⊢
      obtain ⟨hsent, hfree⟩ := safe_sendLoopback depth ⟨hbuilt.sound, hd.unfed⟩ _ hdepth hpay
      exact ⟨hbuilt.trans hsent, hfree⟩
    · rename_i hno
      rw [if_neg hno]
      exact ⟨hbuilt, hd.unfed⟩
  · rw [Device.tbfpSend_of_ne d payload hloop]
    exact ⟨safe_setTx hd.sound (sameSetup_tbfpSend _ _ _ _ _), hd.unfed⟩

private theorem safe_step (hd : Ready env d) (x : Input W) (hdepth : ok → x.Deep tunnelDepth)
    (hpay : Clean (d.step env x).log) : Safe env ok d (d.step env x) ∧ (d.step env x).unfed = [] := by
  cases x with
  | proc depth array interface isResetParser =>
    exact safe_tbfpProc (fun _ _ => rfl) depth hd.sound hd.unfed _ interface isResetParser hdepth hpay
  | rtcm3 depth rxByte =>
    have h : Handled .lora 0 d (d.rtcm3ProcByte env (tbfpProc env depth) .uart1 rxByte).2 :=
      handled_rtcm3ProcByte (hd.sound.apart .uart1) rxByte
    exact ⟨safe_handled hd.sound h (Nat.zero_le _) fun _ _ _ => Nat.zero_le _, h.unfed.trans hd.unfed⟩
  | send depth payload interface lifetime ack =>
    exact safe_tbfpSend depth hd payload interface lifetime ack hdepth hpay
  | moves f h => exact ⟨safe_setTx hd.sound (h d.tx), hd.unfed⟩

/-- Every run whose frames all have a payload is safe. -/
private theorem safe_run (xs : List (Input W)) (hd : Ready env d) (hdepth : ok → ∀ x ∈ xs, x.Deep tunnelDepth)
    (hpay : Clean (run (Device.step env) d xs).log) : Safe env ok d (run (Device.step env) d xs) := by
  induction xs generalizing d with
  | nil => exact safe_refl hd.sound
  | cons x xs ih =>
    have hconf : Configured (d.step env x) := (effects_step hd.sound.configured x).configured hd.sound.configured
    obtain ⟨newer, hlog, -⟩ := (run_effects hconf xs).log
    rw [run_cons] at hpay ⊢
    obtain ⟨hstep, hfree⟩ := safe_step hd x (fun hok => hdepth hok x List.mem_cons_self)
      (by
        rw [hlog] at hpay
        exact hpay.older)
    exact hstep.trans (ih ⟨hstep.sound, hfree⟩ (fun hok y hy => hdepth hok y (List.mem_cons_of_mem x hy)) hpay)

/-- Each store into a buffer stays inside, none into a `fix_frame` meets a byte that is still to be fed from it, and the
calls from within come to an end. -/
structure ReentrySafe (xs : List (Input W)) (d : Device W) : Prop where
  stored : ∀ s, ∀ i ∈ (d.tbfp s).parser.stored, i < tbfpMaxFrame
  fixed : ∀ region unfed, .fixed region unfed ∈ d.log → region.hi ≤ tbfpMaxFrame ∧ ∀ u ∈ unfed, region.Apart u
  ends : (∀ x ∈ xs, x.Deep tunnelDepth) → .tooDeep ∉ d.log

/-- Whatever is fed to the parsers, frames with a payload only, is processed safely as long as the radio hands up
nothing while a command of a frame runs. -/
theorem reentry_safe (env : Env W polls) (radio : Sx1262) (now : Nat) (world : W) (xs : List (Input W))
    (hpay : Payloads (run (Device.step env) (swInit radio now world) xs).log)
    (hpolled : Unpolled (run (Device.step env) (swInit radio now world) xs).log) :
    ReentrySafe xs (run (Device.step env) (swInit radio now world) xs) := by
  have hsafe : Safe env (∀ x ∈ xs, x.Deep tunnelDepth) (swInit radio now world)
      (run (Device.step env) (swInit radio now world) xs) :=
    safe_run xs (ready_swInit env radio now world) id ⟨hpay, hpolled⟩
  obtain ⟨newer, hlog, hfine⟩ := hsafe.log
  rw [show (swInit radio now world).log = [] from rfl, List.append_nil] at hlog
  rw [← hlog] at hfine
  exact ⟨hsafe.sound.stored, fun region unfed hmem => hfine _ hmem, fun hdeep hmem => hfine _ hmem hdeep⟩

/-! ### A command that polls the radio -/

/-- `sxp` -/
def sxp : List UInt8 := [0x73, 0x78, 0x70]

/-- A frame of text, longer than what is fed of `sxpTunnel` when its command runs. -/
def polledFrame : List UInt8 := tbfFrame crc8SaeJ1850 0x1E 0 2 (frameIdChat :: List.replicate 12 0x41)

/-- An outside in which `sxp` polls the radio; the world says whether the radio has received `polledFrame`. -/
def pollingEnv : Env Bool true :=
  { Env.idle fun _ w => w with
    processShellCmd := fun line w => (true, if line = sxp then false else w)
    radioPolled := fun line w => if line = sxp ∧ w = true then [polledFrame] else []
    radioPolled_nil := fun h => absurd h (by decide) }

/-- A tunnel on `IF_SX1262` with the command inside, and one byte more. -/
def sxpTunnel : List UInt8 :=
  tbfFrame crc8SaeJ1850 0x1E 0 1 (frameIdTunnel :: (tbfFrame crc8SaeJ1850 0xA5 0 1 (frameIdCmd :: sxp) ++ [0]))

/-- The same frame is processed safely when the radio has received nothing. -/
theorem sxpTunnel_safe : ReentrySafe [.proc tunnelDepth sxpTunnel .sx1262 true]
    (run (Device.step pollingEnv) (swInit restingRadio 0 false) [.proc tunnelDepth sxpTunnel .sx1262 true]) :=
  reentry_safe pollingEnv restingRadio 0 false [.proc tunnelDepth sxpTunnel .sx1262 true] (by decide +kernel)
    (by decide +kernel)

/-- The frame that the radio hands up is saved over the last byte of the tunnel, which is still to be fed. -/
theorem not_reentry_safe : ¬∀ xs : List (Input Bool),
    Payloads (run (Device.step pollingEnv) (swInit restingRadio 0 true) xs).log →
    ReentrySafe xs (run (Device.step pollingEnv) (swInit restingRadio 0 true) xs) := by
  intro h
  have hsafe := h [.proc tunnelDepth sxpTunnel .sx1262 true] (by decide +kernel)
  have hsaved : .fixed ⟨.sx1262, 0, 20⟩ [⟨.sx1262, 18, 19⟩] ∈ (run (Device.step pollingEnv)
      (swInit restingRadio 0 true) [.proc tunnelDepth sxpTunnel .sx1262 true]).log := by decide +kernel
  have hapart := (hsafe.fixed _ _ hsaved).2 ⟨.sx1262, 18, 19⟩ (by decide) rfl
  exact absurd hapart (by decide)

end TiMcu.Tbfp
