import TiMcu.Tbfp.Alike

/-!
# Two runs that differ in unused bytes

From two alike states `tbfp_proc_full` leads to two alike states with the same result, as long as no handler reads
behind the payload of its frame, whatever frames a tunnel brings (`sameRun_tbfpProcFull`, `alike_tbfpProc`).
-/

namespace TiMcu.Tbfp

open NorFlash LittleEndian Framing

variable {W : Type} {env : Env W} {proc : Proc W} {d d' e m : Device W} {slot : Interfaces} {a : Interfaces → Nat}

/-! ### Reading inside of the payload -/

/-- The handler needs no byte behind the payload. -/
def Seen.InBounds : Seen → Prop
  | .read need len => need ≤ len
  | _ => True

instance : (x : Seen) → Decidable x.InBounds
  | .read need len => inferInstanceAs (Decidable (need ≤ len))
  | .accepted .. | .received .. | .handed .. | .fixed .. | .polled _ | .rtcm3 .. | .flag .. | .passed .. | .tooDeep =>
    inferInstanceAs (Decidable True)

/-- From `d` to `d'` no handler read behind its payload. -/
def Within (d d' : Device W) : Prop := ∃ newer, d'.log = newer ++ d.log ∧ ∀ x ∈ newer, x.InBounds

theorem Within.parts (h : Within d d') (hm : d.log <:+ m.log) (hd' : m.log <:+ d'.log) : Within d m ∧ Within m d' := by
  obtain ⟨newer, hlog, hall⟩ := h
  obtain ⟨older, hold⟩ := hm
  obtain ⟨rest, hrest⟩ := hd'
  have hsplit : newer = rest ++ older := by
    rw [← hrest, ← hold, ← List.append_assoc] at hlog
    exact (List.append_cancel_right hlog).symm
  subst hsplit
  exact ⟨⟨older, hold.symm, fun x hx => hall x (List.mem_append_right _ hx)⟩, rest, hrest.symm,
    fun x hx => hall x (List.mem_append_left _ hx)⟩

theorem Within.note {x : Seen} (h : Within d d') (hx : (d.note x).log <:+ d'.log) : x.InBounds ∧ Within (d.note x) d' := by
  obtain ⟨⟨newer, hlog, hall⟩, hrest⟩ := h.parts (List.suffix_cons x d.log) hx
  refine ⟨hall x ?_, hrest⟩
  have hone : newer = [x] := List.append_cancel_right (hlog.symm.trans (List.singleton_append).symm)
  rw [hone]
  exact List.mem_singleton_self x

/-! ### The handlers of a payload -/

theorem Alike.payload (h : Alike a d e) {k : Nat} (hk : tbfpIndexPayload + k < a slot) :
    e.payload slot k = d.payload slot k := h.fixFrame hk

theorem Alike.payloadBytes (h : Alike a d e) {k len : Nat} (hk : tbfpIndexPayload + k + len ≤ a slot) :
    bytesAt (e.payload slot) k len = bytesAt (d.payload slot) k len :=
  bytesAt_congr fun _ _ hlt => h.payload (by omega)

private theorem sameRun_procAck (h : Alike a d e) {len : UInt16} (hlen : tbfpIndexPayload + len.toNat < a slot)
    (hread : 3 ≤ len.toNat) (interface : Interfaces) :
    SameRun a (d.procAck slot len interface) (e.procAck slot len interface) := by
  unfold Device.procAck
  dsimp only
  rw [h.payload (show tbfpIndexPayload + 1 < a slot by omega), h.payload (show tbfpIndexPayload + 2 < a slot by omega),
    h.tx]
  exact ⟨rfl, (h.note _).setTx _⟩

private theorem sameRun_tbfpProcChat (h : Alike a d e) {len : UInt16} (hlen : tbfpIndexPayload + len.toNat < a slot) :
    SameRun a (d.tbfpProcChat env slot len) (e.tbfpProcChat env slot len) := by
  unfold Device.tbfpProcChat
  split
  · dsimp only
    rw [h.payloadBytes (by omega), h.tx]
    exact ⟨rfl, (h.note _).setTx _⟩
  · exact ⟨rfl, h⟩

/-- A ping is answered without a further entry in the log. -/
theorem tbfpProcPing_log (d : Device W) (slot : Interfaces) (len : UInt16) {interface : Interfaces}
    (hi : interface ≠ .loopback) :
    (d.tbfpProcPing env proc slot len interface).2.log = (d.note (.read env.sizeofPingFrame len.toNat)).log := by
  unfold Device.tbfpProcPing Device.answerPing Device.tbfpSendPing
  dsimp only
  split
  · rw [Device.tbfpSend_of_ne _ _ hi]
    rfl
  · rfl

private theorem sameRun_tbfpProcPing (h : Alike a d e) {len : UInt16} (hlen : tbfpIndexPayload + len.toNat < a slot)
    (hread : env.sizeofPingFrame ≤ len.toNat) {interface : Interfaces} (hi : interface ≠ .loopback) :
    SameRun a (d.tbfpProcPing env proc slot len interface) (e.tbfpProcPing env proc slot len interface) := by
  have hanswer : Alike a
      ((d.note (.read env.sizeofPingFrame len.toNat)).answerPing env proc (d.payload slot 0) interface)
      ((e.note (.read env.sizeofPingFrame len.toNat)).answerPing env proc (d.payload slot 0) interface) := by
    have htx : (e.note (.read env.sizeofPingFrame len.toNat)).tx = (d.note (.read env.sizeofPingFrame len.toNat)).tx := h.tx
    unfold Device.answerPing Device.tbfpSendPing
    split
    · rw [Device.tbfpSend_of_ne _ _ hi, Device.tbfpSend_of_ne _ _ hi, htx]
      exact (h.note _).setTx _
    · exact h.note _
  unfold Device.tbfpProcPing
  dsimp only
  rw [h.payloadBytes (by omega), h.payload (show tbfpIndexPayload + 0 < a slot by omega), hanswer.tx]
  exact ⟨rfl, hanswer.setTx _⟩

private theorem alike_endString (h : Alike a d e) (slot : Interfaces) (len : UInt16) :
    Alike a (d.endString slot len) (e.endString slot len) := by
  unfold Device.endString
  dsimp only
  rw [h.unfed]
  refine (h.setTbfp_same ?_).note _
  obtain ⟨rxFrame, fixFrame, heq, hrx, hfix⟩ := h.tbfp slot
  rw [heq]
  exact ⟨rxFrame, Buffer.store fixFrame (tbfpIndexPayload + len.toNat) 0, rfl, hrx, Buffer.agree_store hfix _ 0⟩

private theorem sameRun_tbfpProcCmd (h : Alike a d e) {len : UInt16} (hlen : tbfpIndexPayload + len.toNat < a slot) :
    SameRun a (d.tbfpProcCmd env proc slot len) (e.tbfpProcCmd env proc slot len) := by
  rw [Device.tbfpProcCmd_env, Device.tbfpProcCmd_env]
  rw [h.payload (show tbfpIndexPayload + 0 < a slot by omega)]
  split
  · have hend := alike_endString (h.note (.read len.toNat len.toNat)) slot len
    have hstring : (((e.note (.read len.toNat len.toNat)).endString slot len).commandString slot len) =
        ((d.note (.read len.toNat len.toNat)).endString slot len).commandString slot len := by
      unfold Device.commandString
      rw [hend.payloadBytes (by omega)]
    dsimp only
    rw [hstring, hend.tx]
    exact ⟨rfl, hend.setTx _⟩
  · exact ⟨rfl, h⟩

/-- Calls of `tbfp_proc` from within lead from alike states to alike states, as far as they read inside. -/
def AlikeProc (env : Env W) (proc : Proc W) : Prop :=
  ∀ (a : Interfaces → Nat) (d e : Device W) (slot : Interfaces) (len : UInt16) (l : List UInt8), Alike a d e →
    Configured d → Loaded (tbfpVerdict env.crc8SaeJ1850Calc (d.preambleVal .lora)) (d.tbfp .lora).parser l →
    tbfpIndexPayload + 1 + len.toNat ≤ a slot →
    Within d (proc d (.fixFrame slot (tbfpIndexPayload + 1)) len .lora false).2 →
    SameRun a (proc d (.fixFrame slot (tbfpIndexPayload + 1)) len .lora false)
      (proc e (.fixFrame slot (tbfpIndexPayload + 1)) len .lora false)

section

variable (env) (hproc : ∀ (d : Device W) src len s reset, Configured d → Effects False d (proc d src len s reset).2)
  (halike : AlikeProc env proc)

include hproc halike

private theorem sameRun_procTunnel (hd : Configured d) (h : Alike a d e) {l : List UInt8}
    (hl : Loaded (tbfpVerdict env.crc8SaeJ1850Calc (d.preambleVal .lora)) (d.tbfp .lora).parser l) {len : UInt16}
    (hlen : tbfpIndexPayload + len.toNat < a slot) (hpos : 1 ≤ len.toNat)
    (hwithin : Within d (d.procTunnel proc slot len).2) :
    SameRun a (d.procTunnel proc slot len) (e.procTunnel proc slot len) := by
  have hone : (len - 1).toNat = len.toNat - 1 := by
    rw [UInt16.toNat_sub_of_le]
    · rfl
    · rw [UInt16.le_iff_toNat_le]
      exact hpos
  have heffects : Effects False (d.note (.read (1 + (len - 1).toNat) len.toNat)) (d.procTunnel proc slot len).2 :=
    hproc _ _ _ _ _ (hd.note _)
  exact halike a _ _ slot (len - 1) l (h.note _) (hd.note _) hl (by omega) (hwithin.note heffects.suffix).2

/-- The payload is handed to its handler. -/
private theorem sameRun_tbfpProcPayload (hd : Configured d) (h : Alike a d e) {l : List UInt8}
    (hl : Loaded (tbfpVerdict env.crc8SaeJ1850Calc (d.preambleVal .lora)) (d.tbfp .lora).parser l) {len : UInt16}
    (hlen : tbfpIndexPayload + len.toNat < a slot) {interface : Interfaces} (hloop : interface ≠ .loopback)
    (huart : interface ≠ .uart1) (hwithin : Within d (d.tbfpProcPayload env proc slot len interface).2) :
    SameRun a (d.tbfpProcPayload env proc slot len interface) (e.tbfpProcPayload env proc slot len interface) := by
  have hd' : Configured (d.note (.read 1 len.toNat)) := hd.note _
  have hnote : Alike a (d.note (.read 1 len.toNat)) (e.note (.read 1 len.toNat)) := h.note _
  unfold Device.tbfpProcPayload at hwithin ⊢
  dsimp only at hwithin ⊢
  rw [h.payload (show tbfpIndexPayload + 0 < a slot by omega)]
  split
  · rename_i hid
    rw [if_pos hid] at hwithin
    have heffects : Effects False (d.note (.read 1 len.toNat)) ((d.note (.read 1 len.toNat)).procAck slot len interface).2 :=
      effects_procAck len interface
    have hread := (hwithin.note heffects.suffix).2.note (x := .read 3 len.toNat) (List.suffix_refl _)
    exact sameRun_procAck hnote hlen hread.1 interface
  rename_i hack
  rw [if_neg hack] at hwithin
  split
  · rename_i hid
    rw [if_pos hid] at hwithin
    have heffects : Effects False (d.note (.read 1 len.toNat)) ((d.note (.read 1 len.toNat)).procTunnel proc slot len).2 :=
      effects_procTunnel hproc hd' len
    obtain ⟨hpos, hrest⟩ := hwithin.note heffects.suffix
    exact sameRun_procTunnel env hproc halike hd' hnote hl hlen hpos hrest
  rename_i htunnel
  rw [if_neg htunnel] at hwithin
  split
  · exact sameRun_rtcm3ProcArray env hproc (hd'.note _) huart (hnote.note _) (by omega)
  rename_i hrtcm3
  rw [if_neg hrtcm3] at hwithin
  split
  · exact sameRun_tbfpProcChat hnote hlen
  rename_i hchat
  rw [if_neg hchat] at hwithin
  split
  · rename_i hid
    rw [if_pos hid] at hwithin
    have hlog : ((d.note (.read 1 len.toNat)).tbfpProcPing env proc slot len interface).2.log = _ :=
      tbfpProcPing_log _ slot len hloop
    have hread : Within d ((d.note (.read 1 len.toNat)).note (.read env.sizeofPingFrame len.toNat)) := by
      unfold Within at hwithin ⊢
      rwa [hlog] at hwithin
    have hsize := (hread.note (List.suffix_cons _ _)).2.note (x := .read env.sizeofPingFrame len.toNat) (List.suffix_refl _)
    exact sameRun_tbfpProcPing hnote hlen hsize.1 hloop
  rename_i hping
  rw [if_neg hping] at hwithin
  split
  · exact sameRun_tbfpProcCmd hnote hlen
  · exact ⟨rfl, hnote⟩

/-! ### A whole frame -/

omit hproc halike in
private theorem Alike.holdsFrame (h : Alike a d e) {f : List UInt8} (hf : HoldsFrame env d slot f)
    (ha : f.length ≤ a slot) :
    HoldsFrame env e slot f := by
  refine ⟨by rw [h.preambleVal]; exact hf.verdict, ?_⟩
  rw [← hf.bytes, bytesAt_length]
  exact bytesAt_congr fun _ _ hlt => h.fixFrame (by omega)

omit hproc halike in
private theorem alike_countFrame (h : Alike a d e) (interface : Interfaces) (len snum : UInt16) :
    Alike a (d.countFrame interface len snum) (e.countFrame interface len snum) := by
  obtain ⟨rxFrame, fixFrame, heq, hrx, hfix⟩ := h.tbfp interface
  refine (h.setTbfp_same ?_).note _
  rw [heq]
  exact ⟨rxFrame, fixFrame, rfl, hrx, hfix⟩

omit hproc halike in
private theorem Alike.payload_at (h : Alike a d e) {f : List UInt8} (hf : HoldsFrame env d slot f)
    (ha : f.length ≤ a slot) :
    Payload.at (e.tbfp slot).parser.fixFrame tbfpIndexPayload (frameHeader f).len =
      Payload.at (d.tbfp slot).parser.fixFrame tbfpIndexPayload (frameHeader f).len := by
  have hlen := hf.length
  have hover : tbfpSizeOverhead = 7 := rfl
  have hindex : tbfpIndexPayload = 6 := rfl
  have hbytes : bytesAt (e.tbfp slot).parser.fixFrame tbfpIndexPayload (frameHeader f).len.toNat =
      bytesAt (d.tbfp slot).parser.fixFrame tbfpIndexPayload (frameHeader f).len.toNat := by
    refine bytesAt_congr fun _ _ hlt => h.fixFrame ?_
    rw [frameHeader_len] at hlt
    omega
  simp only [Payload.at, hbytes]

omit hproc halike in
private theorem alike_answered (h : Alike a d e) {f : List UInt8} (hf : HoldsFrame env d slot f)
    (ha : f.length ≤ a slot)
    (interface : Interfaces) : Alike a (d.answered env slot (UInt16.ofNat f.length) interface)
      (e.answered env slot (UInt16.ofNat f.length) interface) := by
  have hf' := h.holdsFrame env hf ha
  have hpayload := h.payload_at env hf ha
  unfold Device.answered
  rw [hf.header, hf'.header]
  dsimp only
  rw [hpayload, h.tx]
  exact (alike_countFrame h interface _ _).setTx _

/-- `tbfp_proc_full` of a frame that both states hold. -/
theorem sameRun_tbfpProcFull (hd : Configured d) (h : Alike a d e) {f : List UInt8} (hf : HoldsFrame env d slot f)
    (ha : f.length ≤ a slot) {l : List UInt8}
    (hl : Loaded (tbfpVerdict env.crc8SaeJ1850Calc (d.preambleVal .lora)) (d.tbfp .lora).parser l)
    {interface : Interfaces} (hloop : interface ≠ .loopback) (huart : interface ≠ .uart1)
    (hwithin : Within d (d.tbfpProcFull env proc slot (UInt16.ofNat f.length) interface).2) :
    SameRun a (d.tbfpProcFull env proc slot (UInt16.ofNat f.length) interface)
      (e.tbfpProcFull env proc slot (UInt16.ofNat f.length) interface) := by
  have hf' := h.holdsFrame env hf ha
  have hanswered := alike_answered env h hf ha interface
  by_cases hp : d.preambleVal interface = d.preambleVal slot
  · have hp' : e.preambleVal interface = e.preambleVal slot := by
      rw [h.preambleVal, h.preambleVal]
      exact hp
    by_cases hflow : (d.tbfp interface).flow.prevSNum < (frameHeader f).snum
    · have hflow' : (e.tbfp interface).flow.prevSNum < (frameHeader f).snum := by rwa [h.flow]
      rw [tbfpProcFull_handed hf (fun hc => absurd hc hloop) hp hflow] at hwithin ⊢
      rw [tbfpProcFull_handed hf' (fun hc => absurd hc hloop) hp' hflow']
      have hhandled : Handled slot 0 (d.countFrame interface (UInt16.ofNat f.length) (frameHeader f).snum)
          ((d.answered env slot (UInt16.ofNat f.length) interface).note (.handed interface (frameHeader f).snum)) :=
        handled_handed hf _
      have hmalike := hanswered.note (.handed interface (frameHeader f).snum)
      have hparser : (((d.answered env slot (UInt16.ofNat f.length) interface).note
          (.handed interface (frameHeader f).snum)).tbfp .lora).parser = (d.tbfp .lora).parser :=
        parser_answered env d slot interface .lora _
      generalize (d.answered env slot (UInt16.ofNat f.length) interface).note
        (.handed interface (frameHeader f).snum) = m at hhandled hmalike hparser hwithin ⊢
      have hconf := hhandled.configured (configured_countFrame hd _ _ _)
      have hcount : d.log <:+ (d.countFrame interface (UInt16.ofNat f.length) (frameHeader f).snum).log :=
        List.suffix_cons _ _
      have heffects : Effects False m (m.tbfpProcPayload env proc slot (frameHeader f).len interface).2 :=
        effects_tbfpProcPayload env hproc hconf (frameHeader f).len huart
      have hlm : Loaded (tbfpVerdict env.crc8SaeJ1850Calc (m.preambleVal .lora)) (m.tbfp .lora).parser l := by
        rw [hparser, show m.preambleVal .lora = d.preambleVal .lora from (hhandled.setup .lora).2]
        exact hl
      have hlen : tbfpIndexPayload + (frameHeader f).len.toNat < a slot := by
        have hlength := hf.length
        have hover : tbfpSizeOverhead = 7 := rfl
        have hindex : tbfpIndexPayload = 6 := rfl
        rw [frameHeader_len]
        omega
      exact sameRun_tbfpProcPayload env hproc halike hconf hmalike hlm hlen hloop huart
        (hwithin.parts (hcount.trans hhandled.suffix) heffects.suffix).2
    · have hflow' : ¬(e.tbfp interface).flow.prevSNum < (frameHeader f).snum := by rwa [h.flow]
      rw [tbfpProcFull_refused_eq hf (fun hc => absurd hc hloop) hp hflow,
        tbfpProcFull_refused_eq hf' (fun hc => absurd hc hloop) hp' hflow', h.payload_at env hf ha, h.tx]
      exact ⟨rfl, hanswered⟩
  · have hp' : e.preambleVal interface ≠ e.preambleVal slot := by
      rw [h.preambleVal, h.preambleVal]
      exact hp
    rw [tbfpProcFull_foreign hf hp, tbfpProcFull_foreign hf' hp']
    exact ⟨rfl, h⟩

/-! ### Bytes for the parser of `IF_LORA` -/

omit hproc halike in
theorem TbfpReceiver.Alike.loadCrc8 {n : Nat} {r q : TbfpReceiver} (h : r.Alike n q) (b : UInt8) :
    ∃ rxFrame fixFrame, q.loadCrc8 b =
        { r.loadCrc8 b with parser.rxFrame := rxFrame, parser.fixFrame := fixFrame } ∧
      Agree rxFrame (r.loadCrc8 b).parser.rxFrame 0 (r.parser.loadLen + 1) ∧
      Agree fixFrame (r.loadCrc8 b).parser.fixFrame 0 n := by
  obtain ⟨rxFrame, fixFrame, rfl, hrx, hfix⟩ := h
  exact ⟨Buffer.store rxFrame r.parser.loadLen b, fixFrame, rfl, Buffer.agree_load hrx b, hfix⟩

omit hproc halike in
/-- The same frame is saved in both. -/
private theorem alike_acceptFrame (h : Alike a d e) {n len : Nat} {r : TbfpReceiver} {rxFrame fixFrame : Mem}
    (hlen : r.parser.crc8Index.toNat + tbfpSizeCrc = len) (hrx : Agree rxFrame r.parser.rxFrame 0 len)
    (hfix : Agree fixFrame r.parser.fixFrame 0 n) :
    Alike (Function.update a slot (max n len)) (d.acceptFrame slot r)
      (e.acceptFrame slot { r with parser.rxFrame := rxFrame, parser.fixFrame := fixFrame }) := by
  subst hlen
  have hframe : bytesAt rxFrame 0 (r.parser.crc8Index.toNat + tbfpSizeCrc) =
      bytesAt r.parser.rxFrame 0 (r.parser.crc8Index.toNat + tbfpSizeCrc) :=
    bytesAt_congr (hrx.mono (Nat.le_refl 0) (by omega))
  have htake : TbfpReceiver.Alike (max n (r.parser.crc8Index.toNat + tbfpSizeCrc)) r.takeFrame
      (TbfpReceiver.takeFrame { r with parser.rxFrame := rxFrame, parser.fixFrame := fixFrame }) :=
    ⟨rxFrame, Buffer.copy fixFrame rxFrame (r.parser.crc8Index.toNat + tbfpSizeCrc), rfl,
      fun x _ hx => absurd hx (Nat.not_lt_zero x), Buffer.agree_copy hfix hrx⟩
  unfold Device.acceptFrame
  dsimp only
  rw [h.unfed, show TbfpParser.crc8Index { r.parser with rxFrame := rxFrame, fixFrame := fixFrame } =
    r.parser.crc8Index from rfl, hframe]
  exact ((h.setTbfp htake).note _).note _

omit hproc halike in
theorem Alike.resetRx (h : Alike a d e) (slot : Interfaces) : Alike a (d.resetRx slot) (e.resetRx slot) :=
  h.setTbfp_same (h.tbfp slot).resetRx

/-- A complete frame is handled in both. -/
private theorem alike_accepted (hd : Configured d) (h : Alike a d e) {f : List UInt8} {r : TbfpReceiver}
    {rxFrame fixFrame : Mem}
    (hv : tbfpVerdict env.crc8SaeJ1850Calc (d.preambleVal .lora) f = .frame)
    (hbytes : bytesAt r.parser.rxFrame 0 f.length = f) (hi : r.parser.crc8Index.toNat + 1 = f.length)
    (hrx : Agree rxFrame r.parser.rxFrame 0 f.length) (hfix : Agree fixFrame r.parser.fixFrame 0 (a .lora))
    (hwithin : Within d ((d.acceptFrame .lora r).tbfpProcFull env proc .lora (r.parser.crc8Index + 1)
      ((d.acceptFrame .lora r).interface .lora)).2) :
    let r' := { r with parser.rxFrame := rxFrame, parser.fixFrame := fixFrame }
    Alike a
      (((d.acceptFrame .lora r).tbfpProcFull env proc .lora (r.parser.crc8Index + 1)
        ((d.acceptFrame .lora r).interface .lora)).2.resetRx .lora)
      (((e.acceptFrame .lora r').tbfpProcFull env proc .lora (r'.parser.crc8Index + 1)
        ((e.acceptFrame .lora r').interface .lora)).2.resetRx .lora) := by
  intro r'
  have haccept : Alike (Function.update a .lora (max (a .lora) f.length)) (d.acceptFrame .lora r)
      (e.acceptFrame .lora r') := alike_acceptFrame h hi hrx hfix
  have hconf : Configured (d.acceptFrame .lora r) := ⟨hd.tbfp, hd.rtcm3⟩
  have hfree : Loaded (tbfpVerdict env.crc8SaeJ1850Calc ((d.acceptFrame .lora r).preambleVal .lora))
      ((d.acceptFrame .lora r).tbfp .lora).parser [] := d.acceptFrame_loaded .lora r
  have hholds : HoldsFrame env (d.acceptFrame .lora r) .lora f := holdsFrame_acceptFrame hv hbytes hi
  rw [show r'.parser.crc8Index = r.parser.crc8Index from rfl, haccept.interface]
  rw [crc8Index_succ hi] at hwithin ⊢
  have heffects : Effects False (d.acceptFrame .lora r) ((d.acceptFrame .lora r).tbfpProcFull env proc .lora
      (UInt16.ofNat f.length) ((d.acceptFrame .lora r).interface .lora)).2 :=
    effects_tbfpProcFull env hproc hconf _ (hconf.ne_uart1 .lora)
  have hpast : d.log <:+ (d.acceptFrame .lora r).log :=
    (List.suffix_cons _ d.log).trans (List.suffix_cons _ _)
  have hfull := sameRun_tbfpProcFull env hproc halike hconf haccept hholds
    (by
      rw [Function.update_self]
      exact Nat.le_max_right _ _)
    hfree (hconf.ne_loopback .lora) (hconf.ne_uart1 .lora) (hwithin.parts hpast heffects.suffix).2
  refine (hfull.state.resetRx .lora).mono fun s => ?_
  by_cases hs : s = .lora
  · rw [hs, Function.update_self]
    exact Nat.le_max_left _ _
  · rw [Function.update_of_ne hs]

/-- The last byte of a frame. -/
private theorem sameRun_waitCrc (hd : Configured d) (h : Alike a d e) {l : List UInt8}
    (hl : Loaded (tbfpVerdict env.crc8SaeJ1850Calc (d.preambleVal .lora)) (d.tbfp .lora).parser l)
    (hstate : loadState l = .waitCrc) (b : UInt8)
    (hwithin : Within d (d.tbfpParserProcWaitCrc8 env proc .lora b).2) :
    SameRun a (d.tbfpParserProcWaitCrc8 env proc .lora b) (e.tbfpParserProcWaitCrc8 env proc .lora b) := by
  obtain ⟨hsix, hpayload⟩ := length_of_waitCrc hstate
  have hindex : ((d.tbfp .lora).loadCrc8 b).parser.crc8Index.toNat = l.length := hl.crc8Index hsix hpayload
  obtain ⟨rxFrame, fixFrame, heq, hrx, hfix⟩ := (h.tbfp .lora).loadCrc8 b
  have hbytes := hl.loadCrc8 b
  have hcrc := (hl.crcOk_iff hsix hpayload b).1
  have hloaded : (d.tbfp .lora).parser.loadLen = (d.tbfp .lora).parser.crc8Index.toNat := hl.loadLen.trans hindex.symm
  have hloaded' : (e.tbfp .lora).parser.loadLen = (e.tbfp .lora).parser.crc8Index.toNat := by
    obtain ⟨_, _, hq, -⟩ := h.tbfp .lora
    rw [hq]
    exact hloaded
  rw [hl.loadLen] at hrx
  unfold Device.tbfpParserProcWaitCrc8 Device.tbfpCheckCrc8 at hwithin ⊢
  rw [if_pos hloaded, if_pos hloaded', heq]
  rw [if_pos hloaded] at hwithin
  generalize (d.tbfp .lora).loadCrc8 b = r at hwithin hrx hfix hbytes hcrc hindex ⊢
  have hsame : TbfpParser.crcOk env { r.parser with rxFrame := rxFrame, fixFrame := fixFrame } ↔ r.parser.crcOk env := by
    unfold TbfpParser.crcOk
    rw [show TbfpParser.crc8Index { r.parser with rxFrame := rxFrame, fixFrame := fixFrame } = r.parser.crc8Index from rfl,
      bytesAt_congr (hrx.mono (Nat.le_refl 0) (by omega))]
  dsimp only at hwithin ⊢
  by_cases hok : r.parser.crcOk env
  · rw [if_pos hok, if_pos (hsame.2 hok)]
    rw [if_pos hok] at hwithin
    have hsize : (l ++ [b]).length = l.length + 1 := by rw [List.length_append, List.length_singleton]
    exact ⟨rfl, alike_accepted env hproc halike hd h (hcrc.1 hok) (by rwa [hsize]) (by rw [hindex, hsize])
      (by rwa [hsize]) hfix hwithin⟩
  · rw [if_neg hok, if_neg fun hc => hok (hsame.1 hc)]
    exact ⟨rfl, h.setTbfp_same ⟨rxFrame, fixFrame, rfl, fun x _ hx => absurd hx (Nat.not_lt_zero x), hfix⟩⟩

private theorem sameRun_tbfpProcByte (hd : Configured d) (h : Alike a d e) {l : List UInt8}
    (hl : Loaded (tbfpVerdict env.crc8SaeJ1850Calc (d.preambleVal .lora)) (d.tbfp .lora).parser l) (b : UInt8)
    (hwithin : Within d (d.tbfpProcByte env proc .lora b).2) :
    SameRun a (d.tbfpProcByte env proc .lora b) (e.tbfpProcByte env proc .lora b) := by
  have hr := h.tbfp .lora
  have hsame : (e.tbfp .lora).parser.rxState = (d.tbfp .lora).parser.rxState := by
    obtain ⟨_, _, hq, -⟩ := hr
    rw [hq]
  have hstate := hl.rxState
  unfold Device.tbfpProcByte at hwithin ⊢
  rw [hsame, h.preambleVal]
  generalize (d.tbfp .lora).parser.rxState = rxState at hstate hwithin ⊢
  cases rxState with
  | waitPreamble => exact sameRun_stepTbfp h (alike_waitPreamble hr (d.preambleVal .lora) b)
  | waitRetxCnt => exact sameRun_stepTbfp h (alike_retransmitCnt hr b)
  | waitSerialNum => exact sameRun_stepTbfp h (alike_waitSerialNum hr b)
  | waitLen => exact sameRun_stepTbfp h (alike_waitLen hr b)
  | waitPayload => exact sameRun_stepTbfp h (alike_waitPayload hr b)
  | waitCrc => exact sameRun_waitCrc env hproc halike hd h hl hstate.symm b hwithin
  | waitUndef | rxDone | waitInit => exact ⟨rfl, h.resetRx .lora⟩

/-! ### An array for the parser of `IF_LORA` -/

omit hproc halike in
private theorem Alike.unfedSet (h : Alike a d e) (unfed : List Region) :
    Alike a { d with unfed := unfed } { e with unfed := unfed } :=
  ⟨h.tx, h.log, rfl, h.tbfp, h.rtcm3⟩

omit hproc halike in
/-- What the parser holds behind one more byte. -/
theorem loaded_feedByte (proc : Proc W) {l : List UInt8}
    (hl : Loaded (tbfpVerdict env.crc8SaeJ1850Calc (d.preambleVal slot)) (d.tbfp slot).parser l) (src : Source)
    (len : UInt16) (i : Nat) : Loaded (tbfpVerdict env.crc8SaeJ1850Calc (d.preambleVal slot))
      ((d.feedByte env proc src len slot i).2.tbfp slot).parser
      (keep (tbfpVerdict env.crc8SaeJ1850Calc (d.preambleVal slot)) (l ++ [d.byteAt src i])) := by
  have hl' : Loaded (tbfpVerdict env.crc8SaeJ1850Calc
      ({ d with unfed := src.rest (i + 1) len.toNat ++ d.unfed }.preambleVal slot))
      ({ d with unfed := src.rest (i + 1) len.toNat ++ d.unfed }.tbfp slot).parser l := hl
  have hstep := tbfpProcByte_spec hl' proc (d.byteAt src i)
  unfold Device.feedByte
  dsimp only
  generalize Device.tbfpProcByte env proc { d with unfed := src.rest (i + 1) len.toNat ++ d.unfed } slot
    (d.byteAt src i) = r at hstep ⊢
  cases hstep with
  | loads r hv hl hc =>
    rw [Device.setTbfp_self]
    exact hl
  | accepts r hv hl hi hc =>
    have hv' : tbfpVerdict env.crc8SaeJ1850Calc (d.preambleVal slot) (l ++ [d.byteAt src i]) = .frame := hv
    rw [keep_frame hv']
    exact Device.resetRx_loaded _ slot

private theorem sameRun_feedByte (hd : Configured d) (h : Alike a d e) {l : List UInt8}
    (hl : Loaded (tbfpVerdict env.crc8SaeJ1850Calc (d.preambleVal .lora)) (d.tbfp .lora).parser l) {offset i : Nat}
    (len : UInt16) (hi : offset + i < a slot)
    (hwithin : Within d (d.feedByte env proc (.fixFrame slot offset) len .lora i).2) :
    SameRun a (d.feedByte env proc (.fixFrame slot offset) len .lora i)
      (e.feedByte env proc (.fixFrame slot offset) len .lora i) := by
  unfold Device.feedByte at hwithin ⊢
  dsimp only at hwithin ⊢
  rw [h.byteAt hi, h.unfed]
  generalize hm : { d with unfed := Source.rest (.fixFrame slot offset) (i + 1) len.toNat ++ d.unfed } = m at hwithin ⊢
  have hmalike : Alike a m { e with unfed := Source.rest (.fixFrame slot offset) (i + 1) len.toNat ++ d.unfed } :=
    hm ▸ h.unfedSet _
  have hwithin' : Within m (m.tbfpProcByte env proc .lora (d.byteAt (.fixFrame slot offset) i)).2 := by
    subst hm
    exact hwithin
  have hconf : Configured m := by
    subst hm
    exact ⟨hd.tbfp, hd.rtcm3⟩
  have hloaded : Loaded (tbfpVerdict env.crc8SaeJ1850Calc (m.preambleVal .lora)) (m.tbfp .lora).parser l := by
    subst hm
    exact hl
  have hstep := sameRun_tbfpProcByte env hproc halike hconf hmalike hloaded _ hwithin'
  exact ⟨hstep.result, hstep.state.unfedSet d.unfed⟩

private theorem sameRun_fed (hd : Configured d) (h : Alike a d e) {l : List UInt8}
    (hl : Loaded (tbfpVerdict env.crc8SaeJ1850Calc (d.preambleVal .lora)) (d.tbfp .lora).parser l) {offset n : Nat}
    (len : UInt16) (hn : offset + n ≤ a slot)
    (hwithin : Within d (d.fed env proc (.fixFrame slot offset) len .lora n).2) :
    ((e.fed env proc (.fixFrame slot offset) len .lora n).1 = (d.fed env proc (.fixFrame slot offset) len .lora n).1 ∧
      Alike a (d.fed env proc (.fixFrame slot offset) len .lora n).2
        (e.fed env proc (.fixFrame slot offset) len .lora n).2) ∧
      ∃ l', Loaded (tbfpVerdict env.crc8SaeJ1850Calc
        ((d.fed env proc (.fixFrame slot offset) len .lora n).2.preambleVal .lora))
        ((d.fed env proc (.fixFrame slot offset) len .lora n).2.tbfp .lora).parser l' := by
  induction n with
  | zero => exact ⟨⟨rfl, h⟩, l, hl⟩
  | succ n ih =>
    have hconf : Configured (d.fed env proc (.fixFrame slot offset) len .lora n).2 :=
      (effects_fed env hproc hd _ len .lora n).configured hd
    have hsplit := hwithin.parts (effects_fed env hproc hd _ len .lora n).suffix
      (effects_feedByte env hproc hconf (.fixFrame slot offset) len .lora n).suffix
    obtain ⟨⟨hcount, halike'⟩, l', hl'⟩ := ih (by omega) hsplit.1
    have hbyte := sameRun_feedByte env hproc halike hconf halike' hl' len (by omega) hsplit.2
    refine ⟨⟨?_, hbyte.state⟩, ⟨_, (effects_feedByte env hproc hconf _ len .lora n).preambleVal .lora ▸
      loaded_feedByte env proc hl' (.fixFrame slot offset) len n⟩⟩
    rw [Device.fed, Device.fed, hbyte.result, hcount]

private theorem sameRun_tbfpProcBody (hd : Configured d) (h : Alike a d e) {l : List UInt8}
    (hl : Loaded (tbfpVerdict env.crc8SaeJ1850Calc (d.preambleVal .lora)) (d.tbfp .lora).parser l) {offset : Nat}
    (len : UInt16) (hlen : offset + len.toNat ≤ a slot)
    (hwithin : Within d (tbfpProcBody env proc d (.fixFrame slot offset) len .lora false).2) :
    SameRun a (tbfpProcBody env proc d (.fixFrame slot offset) len .lora false)
      (tbfpProcBody env proc e (.fixFrame slot offset) len .lora false) := by
  have hcnt : ∀ {d e : Device W}, Alike a d e → (e.tbfp .lora).rxPktCnt = (d.tbfp .lora).rxPktCnt := by
    intro d e h
    obtain ⟨_, _, heq, -⟩ := h.tbfp .lora
    rw [heq]
  unfold tbfpProcBody Device.countLack at hwithin ⊢
  simp only [Bool.false_eq_true, if_false, ite_self] at hwithin ⊢
  obtain ⟨⟨hcount, hfed⟩, -⟩ := sameRun_fed env hproc halike hd h hl len hlen hwithin
  exact ⟨by rw [hcount], hfed⟩

end

/-- Calls of `tbfp_proc` from within, up to any depth. -/
theorem alike_tbfpProc (env : Env W) (depth : Nat) : AlikeProc env (tbfpProc env depth) := by
  induction depth with
  | zero => exact fun _ _ _ _ _ _ h _ _ _ _ => ⟨rfl, h.note .tooDeep⟩
  | succ depth ih =>
    intro a d e slot len l h hd hl hlen hwithin
    exact sameRun_tbfpProcBody env (fun _ _ _ _ _ hd => tbfpProc_effects depth hd _ _ _ _) ih hd h hl len hlen hwithin

end TiMcu.Tbfp
