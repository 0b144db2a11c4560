import TiMcu.Rtcm3.Agree
import TiMcu.Tbfp.Handle

/-!
# The relay of RTCM3 frames

The base station passes each frame of its GNSS receiver to `tbfp_send`, and the rover writes each frame that comes as a
payload on `IF_LORA` to its GNSS receiver.  The forwarding loop of the base station runs up to `IF_CNT` inclusive, so for
every frame it reads a flag behind the table (`relaysExactly_iff`).
-/

namespace TiMcu.Tbfp

open NorFlash LittleEndian Framing Runs

variable {W : Type} {env : Env W} {proc : Proc W} {d : Device W} {interface : Interfaces} {f F : List UInt8}

/-! ### What a send leaves alone -/

private theorem tbfpSend_uart (t : Transmitter W) (payload : Payload) (hi : interface ≠ .uart1) (lifetime : UInt8)
    (ack : TbfpAck) : (t.tbfpSend env payload interface lifetime ack).2.uart = t.uart := by
  have hsend : ∀ (t : Transmitter W) array retx, (t.sysSendIf env array interface retx).2.uart = t.uart := by
    intro t array retx
    have hif : (t.sendIf env array interface retx).2.uart = t.uart := by
      unfold Transmitter.sendIf
      split
      · rfl
      · unfold loraSendQueue
        split
        · dsimp only
          split <;> rfl
        · rfl
      · exact absurd rfl hi
      · rfl
    unfold Transmitter.sysSendIf Transmitter.countSendErr
    split
    · exact hif
    · exact hif
  unfold Transmitter.tbfpSend
  dsimp only
  split
  · exact hsend _ _ _
  · rfl

private theorem tbfpSendAck_uart (t : Transmitter W) (hi : interface ≠ .uart1) (snum : UInt16) :
    (t.tbfpSendAck env snum interface).2.uart = t.uart := by
  have hsend : (t.tbfpSend env (ackPayload snum) interface 0 .noNeed).2.uart = t.uart := tbfpSend_uart t _ hi _ _
  unfold Transmitter.tbfpSendAck
  dsimp only
  split
  · exact hsend
  · exact hsend

private theorem answer_uart (t : Transmitter W) (payload : Payload) (hi : interface ≠ .uart1) (header : TbfHeader) :
    (t.answer env payload interface header).2.uart = t.uart := by
  have hmesh : (t.meshFrame env payload interface header).2.uart = t.uart := by
    unfold Transmitter.meshFrame
    split
    · exact tbfpSend_uart t payload hi _ _
    · rfl
  unfold Transmitter.answer
  dsimp only
  split
  · rw [tbfpSendAck_uart _ hi, hmesh]
  · exact hmesh

/-! ### The rover -/

/-- The parser of `IF_LORA` completed a TBFP frame with that payload, and the frame passes the flow control. -/
structure Delivered (env : Env W) (d : Device W) (F f : List UInt8) : Prop where
  holds : HoldsFrame env d .lora F
  payload : bytesAt (Buffer.ofBytes F) tbfpIndexPayload (payloadLen F) = f
  flow : (d.tbfp .lora).flow.prevSNum < (frameHeader F).snum

/-- Of what is sent for the TBFP frame, the UARTs get just the payload, for the GNSS receiver. -/
def WritesOnce (env : Env W) (depth : Nat) (d : Device W) (F f : List UInt8) : Prop :=
  (d.tbfpProcFull env (tbfpProc env depth) .lora (UInt16.ofNat F.length) .lora).2.tx.uart =
    (uartNumZedF9p, f) :: d.tx.uart

/-- An RTCM3 frame in the payload of a frame in `fix_frame` is written to the UART. -/
private theorem rtcm3ProcArray_uart
    (hproc : ∀ (d : Device W) src len s reset, Configured d → Effects False d (proc d src len s reset).2)
    (hd : Rtcm3Ready d) (hf : Rtcm3Whole env f)
    (hbytes : ∀ i, i < f.length → (d.tbfp .lora).parser.fixFrame (tbfpIndexPayload + i) = f.getD i 0) :
    (d.rtcm3ProcArray env proc (.fixFrame .lora tbfpIndexPayload) f.length .lora).2.tx.uart =
      (uartNumZedF9p, f) :: d.tx.uart := by
  have hfeeds : ∀ d : Device W, Rtcm3Ready d → ¬(d.rtcm3 .lora).FeedsLoopback := by
    intro d hd hfeeds
    have hlora := hd.configured.rtcm3_lora (show Interfaces.lora ≠ .uart1 by decide)
    rw [hfeeds.1] at hlora
    cases hlora
  -- the relay to the UART leaves the frame that is read where it is
  have hkept : ∀ i, i < f.length → ((d.setRtcm3 .lora (rtcm3ResetRx (d.rtcm3 .lora))).rtcm3Fed env proc
      (.fixFrame .lora tbfpIndexPayload) .lora i).2.byteAt (.fixFrame .lora tbfpIndexPayload) i = f.getD i 0 := by
    intro i hi
    generalize hm : d.setRtcm3 .lora (rtcm3ResetRx (d.rtcm3 .lora)) = m
    have hset : Effects True d m :=
      hm ▸ effects_setRtcm3 rfl rfl (fun hok => hok.resetRx) fun _ => trivial
    have hhandled : Handled .sx1262 0 m (m.rtcm3Fed env proc (.fixFrame .lora tbfpIndexPayload) .lora i).2 :=
      handled_rtcm3Fed (hfeeds m (hset.ready hd)) _ i
    rw [← hbytes i hi]
    have hfix := hhandled.fixFrame .lora (tbfpIndexPayload + i) (by simp)
    rw [← hm] at hfix ⊢
    exact hfix
  have hrelayed := rtcm3ProcArray_relayed env hproc hd hkept
  rw [hf.isFrame.fed.2] at hrelayed
  exact hrelayed.uart (by decide)

private theorem writesOnce (env : Env W) (depth : Nat) (hd : Rtcm3Ready d) (hf : Rtcm3Whole env f)
    (h : Delivered env d F f) :
    WritesOnce env depth d F f := by
  have hholds := h.holds
  have hlen : (frameHeader F).len.toNat = f.length := by
    rw [frameHeader_len, ← h.payload, bytesAt_length]
  have hfix : ∀ i, i < f.length → (d.tbfp .lora).parser.fixFrame (tbfpIndexPayload + i) = f.getD i 0 := by
    have hlength := hholds.length
    have hover : tbfpSizeOverhead = 7 := rfl
    have hindex : tbfpIndexPayload = 6 := rfl
    intro i hi
    rw [← hlen, frameHeader_len] at hi
    rw [hholds.agree _ (Nat.zero_le _) (by omega), ← h.payload, Buffer.getD_bytesAt hi]
  have hpos : 0 < f.length := Nat.lt_of_lt_of_le (by decide) hf.length_ge
  have hid : f.getD 0 0 = frameIdRtcm3 := by
    obtain ⟨hhead, -⟩ := hf
    cases f with
    | nil => simp at hpos
    | cons b f => simpa [show frameIdRtcm3 = rtcm3Preamble from rfl] using hhead
  unfold WritesOnce
  rw [tbfpProcFull_handed hholds (fun hc => absurd hc (by decide)) rfl h.flow]
  generalize hm : (d.answered env .lora (UInt16.ofNat F.length) .lora).note (.handed .lora (frameHeader F).snum) = m
  have hparser : (m.tbfp .lora).parser = (d.tbfp .lora).parser := hm ▸ parser_answered env d .lora .lora .lora _
  have huart : m.tx.uart = d.tx.uart := hm ▸ answer_uart _ _ (by decide) _
  have hready : Rtcm3Ready m := by
    have hhandled : Handled .lora 0
        (d.countFrame .lora (UInt16.ofNat F.length) (frameHeader F).snum) m := hm ▸ handled_handed hholds _
    refine ⟨hhandled.configured (configured_countFrame hd.configured _ _ _), ?_⟩
    rw [← hm]
    exact hd.ok
  have hpayload : m.payload .lora 0 = frameIdRtcm3 := by
    simp only [Device.payload, hparser]
    rw [hfix 0 hpos, hid]
  unfold Device.tbfpProcPayload
  dsimp only
  rw [hpayload, if_neg (by decide), if_neg (by decide), if_pos rfl, hlen, ← huart]
  refine rtcm3ProcArray_uart (fun _ _ _ _ _ hd => tbfpProc_effects depth hd _ _ _ _) ?_ hf ?_
  · exact ⟨(hready.configured.note _).note _, hready.ok⟩
  · intro i hi
    rw [← hfix i hi]
    exact congrArg (fun p : TbfpParser => p.fixFrame (tbfpIndexPayload + i)) hparser

/-! ### The base station -/

/-- The interfaces below `IF_CNT`. -/
def interfacesBelowCnt : List Interfaces := [.lora, .sx1262, .uart1, .loopback]

/-- The frames are relayed by a base station and written by every rover, each once. -/
structure RelaysExactly (env : Env W) (depth : Nat) (d : Device W) (fs : List (List UInt8)) : Prop where
  passed : relayLog (d.rtcm3ProcBytes env (tbfpProc env depth) .uart1 fs.flatten).log = relayLog d.log ++
    fs.flatMap fun f => .rtcm3 .uart1 f :: forwarded (d.rtcm3 .uart1).forwarding interfacesBelowCnt f
  written : ∀ rover : Device W, Rtcm3Ready rover → ∀ f ∈ fs, ∀ F, Delivered env rover F f →
    WritesOnce env depth rover F f

private theorem flag_mem_forwarded {forwarding : Interfaces → Bool} {is : List Interfaces} {i : Interfaces} :
    .flag i ∈ forwarded forwarding is f ↔ i ∈ is := by
  unfold forwarded
  rw [List.mem_flatMap]
  constructor
  · rintro ⟨k, hk, hmem⟩
    rcases List.mem_cons.1 hmem with heq | hpassed
    · cases heq
      exact hk
    · split at hpassed <;> simp at hpassed
  · exact fun hi => ⟨i, hi, List.mem_cons_self⟩

section

variable (hd : Rtcm3Ready d) {fs : List (List UInt8)} (hfs : ∀ f ∈ fs, Rtcm3Accepted env f)
  (hidle : (d.rtcm3 .uart1).rxState = .waitPreamble)

include hd hfs hidle

/-- What the base station does: the forwarding loop runs over `IF_CNT` as well. -/
private theorem relayLog_accepted (depth : Nat) :
    relayLog (d.rtcm3ProcBytes env (tbfpProc env depth) .uart1 fs.flatten).log = relayLog d.log ++
      fs.flatMap fun f => .rtcm3 .uart1 f :: forwarded (d.rtcm3 .uart1).forwarding forwardInterfaces f := by
  have hrelayed : Relayed .uart1 (frames (rtcm3Verdict env) [] fs.flatten) d
      (d.rtcm3ProcBytes env (tbfpProc env depth) .uart1 fs.flatten) :=
    (rtcm3ProcBytes_relayed env (fun _ _ _ _ _ hd => tbfpProc_effects depth hd _ _ _ _) hd ((hd.ok _).idle hidle) _).1
  rw [hrelayed.relay rfl, frames_accepted hfs]

/-- The first frame already makes the loop read the flag of `IF_CNT`. -/
private theorem not_relaysExactly (depth : Nat) (hne : fs ≠ []) : ¬RelaysExactly env depth d fs := by
  intro h
  have hsame := (relayLog_accepted hd hfs hidle depth).symm.trans h.passed
  obtain ⟨f, hf⟩ := List.exists_mem_of_ne_nil fs hne
  have hread : .flag .cnt ∈ fs.flatMap fun f => .rtcm3 .uart1 f ::
      forwarded (d.rtcm3 .uart1).forwarding forwardInterfaces f := by
    refine List.mem_flatMap.2 ⟨f, hf, List.mem_cons_of_mem _ (flag_mem_forwarded.2 ?_)⟩
    simp [forwardInterfaces]
  rw [List.append_cancel_left hsame] at hread
  obtain ⟨g, -, hg⟩ := List.mem_flatMap.1 hread
  rcases List.mem_cons.1 hg with heq | hmem
  · cases heq
  · have hbelow := flag_mem_forwarded.1 hmem
    simp [interfacesBelowCnt] at hbelow

end

/-- RTCM3 frames are relayed exactly when there is none; otherwise the flag of `IF_CNT` is read for each, and all the
rest is as it should be. -/
theorem relaysExactly_iff (env : Env W) (radio : Sx1262) (now : Nat) (world : W) (xs : List (Action W)) (depth : Nat)
    (fs : List (List UInt8)) (hfs : ∀ f ∈ fs, Rtcm3Accepted env f)
    (hidle : ((run (Device.act env) (swInit radio now world) xs).rtcm3 .uart1).rxState = .waitPreamble) :
    let d := run (Device.act env) (swInit radio now world) xs
    (RelaysExactly env depth d fs ↔ fs = []) ∧
      relayLog (d.rtcm3ProcBytes env (tbfpProc env depth) .uart1 fs.flatten).log = relayLog d.log ++
        fs.flatMap (fun f => .rtcm3 .uart1 f ::
          forwarded (d.rtcm3 .uart1).forwarding (interfacesBelowCnt ++ [.cnt]) f) ∧
      ∀ rover : Device W, Rtcm3Ready rover → ∀ f ∈ fs, ∀ F, Delivered env rover F f →
        WritesOnce env depth rover F f := by
  intro d
  have hd : Rtcm3Ready d := ready_run_rtcm3 env (ready_swInit_rtcm3 radio now world) xs
  have hpassed := relayLog_accepted hd hfs hidle depth
  have hwritten : ∀ rover : Device W, Rtcm3Ready rover → ∀ f ∈ fs, ∀ F, Delivered env rover F f →
      WritesOnce env depth rover F f := fun rover hrover f hf F hF => writesOnce env depth hrover (hfs f hf).whole hF
  refine ⟨⟨fun h => ?_, fun hnil => ⟨?_, hwritten⟩⟩, hpassed, hwritten⟩
  · by_contra hne
    exact not_relaysExactly hd hfs hidle depth hne h
  · subst hnil
    exact hpassed

/-- The shortest frame, right after the start. -/
theorem shortestFrame_passed :
    relayLog ((swInit restingRadio 0 ()).rtcm3ProcBytes Env.bench (tbfpProc Env.bench 0) .uart1
      [0xD3, 0, 1, 0, 10, 24, 141]).log =
      [.rtcm3 .uart1 [0xD3, 0, 1, 0, 10, 24, 141], .flag .lora, .passed .lora [0xD3, 0, 1, 0, 10, 24, 141],
        .flag .sx1262, .flag .uart1, .flag .loopback, .flag .cnt] := by
  have hwhole : Rtcm3Whole Env.bench [0xD3, 0, 1, 0, 10, 24, 141] := by decide +kernel
  exact (relaysExactly_iff Env.bench restingRadio 0 () [] 0 [[0xD3, 0, 1, 0, 10, 24, 141]]
    (fun f hf => List.mem_singleton.1 hf ▸ rtcm3Accepted_of_whole hwhole) rfl).2.1

/-- The same frame: the flag behind the table is read. -/
theorem shortestFrame_not_relaysExactly :
    ¬RelaysExactly Env.bench 0 (swInit restingRadio 0 ()) [[0xD3, 0, 1, 0, 10, 24, 141]] := by
  have hwhole : Rtcm3Whole Env.bench [0xD3, 0, 1, 0, 10, 24, 141] := by decide +kernel
  exact not_relaysExactly (ready_swInit_rtcm3 restingRadio 0 ())
    (fun f hf => List.mem_singleton.1 hf ▸ rtcm3Accepted_of_whole hwhole) rfl 0 (by simp)

end TiMcu.Tbfp
