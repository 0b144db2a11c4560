import TiMcu.Tbfp.RoundTrip

/-!
# Forwarding in a mesh

`tbfp_proc_full` sends a frame again when its lifetime is 1, 2 or 3, with a lifetime one less, so a payload is forwarded
three times in a row at most (`relays_length`).  Unlike the payload handler the forwarding does not ask the flow control:
every copy of a frame that is received is forwarded (`meshOk_iff`).
-/

namespace TiMcu.Tbfp

open NorFlash LittleEndian Runs

variable {W : Type} {env : Env W} {d : Device W} {slot interface : Interfaces}

/-! ### The frame that is sent again -/

/-- The frame that `Device.meshFrame` hands to `sys_send_if`. -/
def Device.meshBuilt (env : Env W) (d : Device W) (slot interface : Interfaces) (header : TbfHeader) : Option Frame :=
  let payload := Payload.at (d.tbfp slot).parser.fixFrame tbfpIndexPayload header.len
  if 0 < header.lifetime ∧ header.lifetime < 4 then
    let r := (d.tx.node interface).buildFrame env.crc8SaeJ1850Calc payload (header.lifetime - 1) header.ackNeed
    if r.1 then some (r.2.builtFrame payload.bytes.length) else none
  else none

/-- `sys_send_if` is called for the frame, in a device with other transmitting parts. -/
private theorem meshFrame_of_some (proc : Proc W) {header : TbfHeader} {frame : Frame} (r : Bool × Device W)
    (h : r.2.meshBuilt env slot interface header = some frame) :
    ∃ tx, Device.meshFrame env proc r slot interface header =
      (r.2.setTx tx).sysSendIf env proc frame interface header.ackNeed.retx := by
  unfold Device.meshBuilt at h
  unfold Device.meshFrame Device.tbfpSend
  dsimp only at h ⊢
  split at h
  · next hlife =>
    rw [if_pos hlife]
    split at h
    · next hbuilt =>
      rw [if_pos hbuilt, ← Option.some.inj h]
      exact ⟨_, rfl⟩
    · simp at h
  · simp at h

/-- Otherwise only the transmitting half changes. -/
private theorem meshFrame_of_none (proc : Proc W) {header : TbfHeader} (r : Bool × Device W)
    (h : r.2.meshBuilt env slot interface header = none) :
    ∃ res tx, Device.meshFrame env proc r slot interface header = (res, r.2.setTx tx) := by
  unfold Device.meshBuilt at h
  unfold Device.meshFrame Device.tbfpSend
  dsimp only at h ⊢
  split at h
  · next hlife =>
    rw [if_pos hlife]
    split at h
    · simp at h
    · next hbuilt =>
      rw [if_neg hbuilt]
      exact ⟨false, _, rfl⟩
  · next hlife =>
    rw [if_neg hlife]
    exact ⟨r.1, r.2.tx, rfl⟩

/-- A frame that is forwarded: the lifetime is 1, 2 or 3, and `tbfp_send` takes the payload. -/
def TbfHeader.Forwardable (header : TbfHeader) : Prop :=
  1 ≤ header.lifetime.toNat ∧ header.lifetime.toNat ≤ 3 ∧ 1 ≤ header.len.toNat ∧ header.len.toNat ≤ 1038

instance (header : TbfHeader) : Decidable header.Forwardable := by
  unfold TbfHeader.Forwardable
  infer_instance

private theorem lifetime_iff (header : TbfHeader) :
    (0 < header.lifetime ∧ header.lifetime < 4) ↔ 1 ≤ header.lifetime.toNat ∧ header.lifetime.toNat ≤ 3 := by
  rw [UInt8.lt_iff_toNat_lt, UInt8.lt_iff_toNat_lt]
  exact ⟨fun h => ⟨h.1, Nat.le_of_lt_succ h.2⟩, fun h => ⟨h.1, Nat.lt_succ_of_le h.2⟩⟩

private theorem passesSizeTest_of_le {n : Nat} (hpos : 1 ≤ n) (hmax : n ≤ 1038) : PassesSizeTest n := by
  have hframe : tbfpMaxFrame = 1046 := rfl
  have hover : tbfpSizeOverhead = 7 := rfl
  unfold PassesSizeTest
  omega

/-- A frame is built if and only if it is one to be forwarded. -/
private theorem meshBuilt_isSome_iff (env : Env W) (d : Device W) (slot interface : Interfaces) (header : TbfHeader) :
    (d.meshBuilt env slot interface header).isSome = true ↔ header.Forwardable := by
  have hlen : (Payload.at (d.tbfp slot).parser.fixFrame tbfpIndexPayload header.len).bytes.length = header.len.toNat :=
    bytesAt_length _ _ _
  unfold Device.meshBuilt TbfHeader.Forwardable
  dsimp only
  rw [← and_assoc, ← lifetime_iff]
  by_cases hlife : 0 < header.lifetime ∧ header.lifetime < 4
  · rw [if_pos hlife]
    constructor
    · intro h
      split at h
      · next hbuilt =>
        obtain ⟨hpos, hmax⟩ := (buildFrame_message hbuilt).1
        dsimp only at hpos hmax
        rw [hlen] at hpos hmax
        exact ⟨hlife, hpos, hmax⟩
      · simp at h
    · rintro ⟨-, hpos, hmax⟩
      have hlt : header.len.toNat < tbfpMaxPayload := Nat.lt_succ_of_le hmax
      unfold Node.buildFrame
      rw [hlen, if_pos (passesSizeTest_of_le hpos hmax)]
      simp [tbfpMakeHeader, hlt]
  · rw [if_neg hlife]
    simp [hlife]

/-- The lifetime that `tbfp_make_header` writes. -/
private theorem lifetime_tbfpFlags {lifetime : UInt8} (h : lifetime < 3) (ack : TbfpAck) :
    tbfpFlags lifetime ack &&& 0x0F = lifetime := by
  have hcases : lifetime = 0 ∨ lifetime = 1 ∨ lifetime = 2 := by
    rw [UInt8.lt_iff_toNat_lt] at h
    have hthree : (3 : UInt8).toNat = 3 := rfl
    rw [← UInt8.toNat_inj, ← UInt8.toNat_inj, ← UInt8.toNat_inj]
    have h0 : (0 : UInt8).toNat = 0 := rfl
    have h1 : (1 : UInt8).toNat = 1 := rfl
    have h2 : (2 : UInt8).toNat = 2 := rfl
    omega
  rcases hcases with rfl | rfl | rfl <;> cases ack <;> decide

/-- The frame that is sent again carries the payload, with a lifetime one less. -/
private theorem meshBuilt_spec {header : TbfHeader} {frame : Frame}
    (h : d.meshBuilt env slot interface header = some frame) :
    (frameHeader frame.bytes).lifetime.toNat + 1 = header.lifetime.toNat ∧
      (frame.bytes.drop tbfpIndexPayload).take header.len.toNat =
        bytesAt (d.tbfp slot).parser.fixFrame tbfpIndexPayload header.len.toNat ∧
      frame.bytes.length = header.len.toNat + tbfpSizeOverhead := by
  have hfor := (meshBuilt_isSome_iff env d slot interface header).1 (by rw [h]; rfl)
  have hlen : (Payload.at (d.tbfp slot).parser.fixFrame tbfpIndexPayload header.len).bytes.length = header.len.toNat :=
    bytesAt_length _ _ _
  unfold Device.meshBuilt at h
  dsimp only at h
  rw [if_pos ((lifetime_iff header).2 ⟨hfor.1, hfor.2.1⟩)] at h
  split at h
  · next hbuilt =>
    have hframe := (buildFrame_message hbuilt).2
    rw [Option.some.inj h] at hframe
    have hone : (1 : UInt8) ≤ header.lifetime := UInt8.le_iff_toNat_le.2 hfor.1
    have hpred : (header.lifetime - 1).toNat = header.lifetime.toNat - 1 := by
      rw [UInt8.toNat_sub_of_le _ _ hone]
      rfl
    refine ⟨?_, ?_, ?_⟩
    · rw [hframe, frameHeader_message, TbfHeader.lifetime, lifetime_tbfpFlags, hpred]
      · have hpos := hfor.1
        omega
      · rw [UInt8.lt_iff_toNat_lt, hpred]
        have hmax := hfor.2.1
        have hthree : (3 : UInt8).toNat = 3 := rfl
        omega
    · rw [hframe, Message.frame, tbfFrame, List.append_assoc, List.drop_left' (by rfl), List.take_left' hlen]
      rfl
    · rw [hframe, Message.frame, tbfFrame_length, hlen]
  · simp at h

/-! ### Arrivals -/

/-- The frame that `tbfp_proc_full` forwards. -/
def Device.forwards (env : Env W) (d : Device W) (slot : Interfaces) (len : UInt16) (interface : Interfaces) :
    Option Frame :=
  if isTbfpProtocol env (d.tbfp slot).parser.fixFrame len (d.preambleVal interface) then
    let header := TbfHeader.read (d.tbfp slot).parser.fixFrame
    (d.countFrame interface len header.snum).meshBuilt env slot interface header
  else none

/-- What `tbfp_proc_full` forwards goes to `sys_send_if`, before the acknowledgement and the payload handler. -/
theorem tbfpProcFull_of_forwards (proc : Proc W) {len : UInt16} {frame : Frame}
    (h : d.forwards env slot len interface = some frame) :
    let header := TbfHeader.read (d.tbfp slot).parser.fixFrame
    let flowOk := (tbfpCheckFlowControl (d.tbfp interface).flow header.snum).1
    ∃ tx, d.tbfpProcFull env proc slot len interface = Device.handFrame env proc flowOk (Device.ackFrame env proc
      (((d.countFrame interface len header.snum).setTx tx).sysSendIf env proc frame interface header.ackNeed.retx)
      interface header) slot interface header := by
  unfold Device.forwards at h
  split at h
  · next hwell =>
    obtain ⟨tx, hmesh⟩ := meshFrame_of_some proc (true, d.countFrame interface len _) h
    refine ⟨tx, ?_⟩
    rw [Device.tbfpProcFull, if_pos hwell]
    dsimp only
    rw [hmesh]
  · simp at h

/-- When it forwards nothing, only the transmitting half changes there. -/
theorem tbfpProcFull_of_not_forwards (proc : Proc W) {len : UInt16} (h : d.forwards env slot len interface = none)
    (hwell : isTbfpProtocol env (d.tbfp slot).parser.fixFrame len (d.preambleVal interface)) :
    let header := TbfHeader.read (d.tbfp slot).parser.fixFrame
    let flowOk := (tbfpCheckFlowControl (d.tbfp interface).flow header.snum).1
    ∃ res tx, d.tbfpProcFull env proc slot len interface = Device.handFrame env proc flowOk (Device.ackFrame env proc
      (res, (d.countFrame interface len header.snum).setTx tx) interface header) slot interface header := by
  unfold Device.forwards at h
  rw [if_pos hwell] at h
  obtain ⟨res, tx, hmesh⟩ := meshFrame_of_none proc (true, d.countFrame interface len _) h
  refine ⟨res, tx, ?_⟩
  rw [Device.tbfpProcFull, if_pos hwell]
  dsimp only
  rw [hmesh]

/-- An array arrives, and what happened before. -/
structure Arrival (W : Type) where
  before : Device W → Device W
  array : List UInt8

/-- The array is in `fix_frame`. -/
def Device.arrive (d : Device W) (slot : Interfaces) (a : Arrival W) : Device W :=
  let d := a.before d
  let r := d.tbfp slot
  d.setTbfp slot { r with parser.fixFrame := Buffer.write r.parser.fixFrame 0 a.array }

def Arrival.len (a : Arrival W) : UInt16 := UInt16.ofNat a.array.length

/-- The array goes to `tbfp_proc_full`. -/
def Device.takeArrival (env : Env W) (proc : Proc W) (slot interface : Interfaces) (d : Device W) (a : Arrival W) :
    Device W := ((d.arrive slot a).tbfpProcFull env proc slot a.len interface).2

/-- A well-formed frame was received. -/
structure Receipt where
  header : TbfHeader
  payload : List UInt8
  forwarded : Option Frame

/-- What is seen of an arrival. -/
def Device.receipt (env : Env W) (slot interface : Interfaces) (d : Device W) (a : Arrival W) : List Receipt :=
  let d := d.arrive slot a
  let fixFrame := (d.tbfp slot).parser.fixFrame
  let header := TbfHeader.read fixFrame
  if isTbfpProtocol env fixFrame a.len (d.preambleVal interface) then
    [⟨header, bytesAt fixFrame tbfpIndexPayload header.len.toNat, d.forwards env slot a.len interface⟩]
  else []

/-- The well-formed frames of a run. -/
def receipts (env : Env W) (proc : Proc W) (slot interface : Interfaces) (d : Device W) (arrivals : List (Arrival W)) :
    List Receipt :=
  emitted (Device.takeArrival env proc slot interface) (Device.receipt env slot interface) d arrivals

/-- The payload of a serial number is forwarded at most once; what is forwarded has a lifetime of 1, 2 or 3 and goes on
with one less. -/
structure MeshOk (rs : List Receipt) : Prop where
  once : ∀ snum, (rs.filter fun r => r.header.snum = snum ∧ r.forwarded.isSome).length ≤ 1
  relayed : ∀ r ∈ rs, ∀ frame, r.forwarded = some frame →
    1 ≤ r.header.lifetime.toNat ∧ r.header.lifetime.toNat ≤ 3 ∧
      (frameHeader frame.bytes).lifetime.toNat + 1 = r.header.lifetime.toNat ∧
      (frame.bytes.drop tbfpIndexPayload).take r.header.len.toNat = r.payload

/-- No serial number is received twice with a frame to be forwarded. -/
def NoSecondCopy (headers : List TbfHeader) : Prop :=
  ((headers.filter fun h => h.Forwardable).map TbfHeader.snum).Nodup

instance (headers : List TbfHeader) : Decidable (NoSecondCopy headers) := by
  unfold NoSecondCopy
  infer_instance

/-- What holds of each frame that is received. -/
structure Receipt.Ok (r : Receipt) : Prop where
  forwarded : r.forwarded.isSome = true ↔ r.header.Forwardable
  relayed : ∀ frame, r.forwarded = some frame →
    (frameHeader frame.bytes).lifetime.toNat + 1 = r.header.lifetime.toNat ∧
      (frame.bytes.drop tbfpIndexPayload).take r.header.len.toNat = r.payload

private theorem receipt_ok (env : Env W) (slot interface : Interfaces) (d : Device W) (a : Arrival W) :
    ∀ r ∈ d.receipt env slot interface a, r.Ok := by
  intro r hr
  unfold Device.receipt at hr
  dsimp only at hr
  split at hr
  · next hwell =>
    rw [List.mem_singleton] at hr
    subst hr
    unfold Device.forwards
    rw [if_pos hwell]
    refine ⟨meshBuilt_isSome_iff _ _ _ _ _, fun frame hframe => ?_⟩
    obtain ⟨hlife, hpayload, -⟩ := meshBuilt_spec hframe
    rw [parser_countFrame] at hpayload
    exact ⟨hlife, hpayload⟩
  · exact absurd hr List.not_mem_nil

private theorem receipts_ok (env : Env W) (proc : Proc W) (slot interface : Interfaces) (d : Device W)
    (arrivals : List (Arrival W)) : ∀ r ∈ receipts env proc slot interface d arrivals, r.Ok := by
  induction arrivals generalizing d with
  | nil => exact fun r hr => absurd hr List.not_mem_nil
  | cons a arrivals ih =>
    intro r hr
    rcases List.mem_append.1 hr with hr | hr
    · exact receipt_ok env slot interface d a r hr
    · exact ih _ r hr

/-- The receipts of a serial number that were forwarded are its copies. -/
private theorem once_iff {rs : List Receipt} (hok : ∀ r ∈ rs, r.Ok) :
    (∀ snum, (rs.filter fun r => r.header.snum = snum ∧ r.forwarded.isSome).length ≤ 1) ↔
      NoSecondCopy (rs.map Receipt.header) := by
  rw [NoSecondCopy, List.nodup_iff_count_le_one]
  refine forall_congr' fun snum => ?_
  have hcount : (((rs.map Receipt.header).filter fun h => h.Forwardable).map TbfHeader.snum).count snum =
      (rs.filter fun r => r.header.snum = snum ∧ r.forwarded.isSome).length := by
    rw [List.count, List.countP_map, List.countP_filter, List.countP_map, List.countP_eq_length_filter]
    congr 1
    refine List.filter_congr fun r hr => ?_
    have hiff := (hok r hr).forwarded
    simp only [Function.comp_apply]
    by_cases hsnum : r.header.snum = snum
    · simp [hsnum, hiff]
    · simp [hsnum]
  rw [hcount]

private theorem Receipt.Ok.relaysOnce_iff {rs : List Receipt} (hok : ∀ r ∈ rs, r.Ok) :
    MeshOk rs ↔ NoSecondCopy (rs.map Receipt.header) := by
  rw [← once_iff hok]
  refine ⟨MeshOk.once, fun honce => ⟨honce, fun r hr frame hframe => ?_⟩⟩
  have hfor := (hok r hr).forwarded.1 (by rw [hframe]; rfl)
  obtain ⟨hlife, hpayload⟩ := (hok r hr).relayed frame hframe
  exact ⟨hfor.1, hfor.2.1, hlife, hpayload⟩

/-! ### Chains of nodes -/

/-- A node that receives the one frame forwards the other. -/
def Relays (env : Env W) (f g : List UInt8) : Prop :=
  ∃ (d : Device W) (slot interface : Interfaces) (frame : Frame),
    tbfpSizeOverhead ≤ f.length ∧ bytesAt (d.tbfp slot).parser.fixFrame 0 f.length = f ∧
      d.forwards env slot (UInt16.ofNat f.length) interface = some frame ∧ frame.bytes = g

theorem Relays.lifetime {f g : List UInt8} (h : Relays env f g) :
    (frameHeader f).lifetime.toNat ≤ 3 ∧ (frameHeader g).lifetime.toNat + 1 = (frameHeader f).lifetime.toNat := by
  obtain ⟨d, slot, interface, frame, hlen, hbytes, hforwards, rfl⟩ := h
  have hheader : TbfHeader.read (d.tbfp slot).parser.fixFrame = frameHeader f := by
    refine read_congr fun x hx hlt => Buffer.agree_ofBytes hbytes x hx (Nat.lt_of_lt_of_le hlt ?_)
    exact Nat.le_trans (by decide) hlen
  unfold Device.forwards at hforwards
  split at hforwards
  · rw [hheader] at hforwards
    have hfor := (meshBuilt_isSome_iff env _ slot interface (frameHeader f)).1 (by rw [hforwards]; rfl)
    exact ⟨hfor.2.1, (meshBuilt_spec hforwards).1⟩
  · simp at hforwards

/-- Each frame of a chain uses up one of the lifetimes of the first. -/
private theorem relays_length_le {f : List UInt8} {fs : List (List UInt8)} (h : (f :: fs).IsChain (Relays env)) :
    fs.length ≤ (frameHeader f).lifetime.toNat := by
  induction fs generalizing f with
  | nil => exact Nat.zero_le _
  | cons g fs ih =>
    obtain ⟨hfg, hrest⟩ := List.isChain_cons_cons.1 h
    have hle := ih hrest
    have hlife := hfg.lifetime.2
    rw [List.length_cons]
    omega

/-- A payload is forwarded three times in a row at most. -/
theorem relays_length {f : List UInt8} {fs : List (List UInt8)} (h : (f :: fs).IsChain (Relays env)) :
    fs.length ≤ 3 := by
  cases fs with
  | nil => exact Nat.zero_le 3
  | cons g fs =>
    have hfg := (List.isChain_cons_cons.1 h).1
    exact (relays_length_le h).trans hfg.lifetime.1

/-! ### The mesh -/

/-- In every run the forwarding is free of duplicates and takes one from the lifetime if and only if no serial number is
received twice with a frame to be forwarded; and no chain of forwards is longer than 3. -/
theorem meshOk_iff (env : Env W) (proc : Proc W) (slot interface : Interfaces) (d : Device W)
    (arrivals : List (Arrival W)) :
    (MeshOk (receipts env proc slot interface d arrivals) ↔
        NoSecondCopy ((receipts env proc slot interface d arrivals).map Receipt.header)) ∧
      ∀ f fs, (f :: fs).IsChain (Relays env) → fs.length ≤ 3 :=
  ⟨Receipt.Ok.relaysOnce_iff (receipts_ok env proc slot interface d arrivals), fun _ _ => relays_length⟩

/-- A frame of text with a lifetime of 2 arrives. -/
def chatArrival : Arrival Unit := ⟨id, Message.frame crc8SaeJ1850 0xA5 ⟨0x02, 1, [frameIdChat]⟩⟩

/-- The frame and a copy of it are both forwarded. -/
theorem not_meshOk :
    ¬MeshOk (receipts .bench (tbfpProc .bench 1) .lora .lora (swInit restingRadio 0 ()) [chatArrival, chatArrival]) := by
  rw [Receipt.Ok.relaysOnce_iff (receipts_ok .bench (tbfpProc .bench 1) .lora .lora _ _)]
  decide +kernel

end TiMcu.Tbfp
