import TiMcu.Can.Send
import TiMcu.Tcan4550.Received

/-!
# The chunks on the controller

`can_send` with the controller behind `tcan4550_send_std`: the frames that are asked for carry the array, and nothing
that the controller sends or receives meanwhile changes them.
-/

namespace TiMcu.Can

open Tcan4550 Dialog Live Checked LittleEndian

private theorem getElem_bytesOf (n w i : Nat) (hi : i < (bytesOf n w).length) :
    (bytesOf n w)[i] = UInt8.ofNat (w / 256 ^ i) := by
  induction n generalizing w i with
  | zero => exact absurd hi (by simp [bytesOf])
  | succ n ih =>
    cases i with
    | zero => simp [bytesOf]
    | succ i =>
      have hrest := ih (w / 256) i (Nat.lt_of_succ_lt_succ hi)
      rw [Nat.div_div_eq_div_mul, ← Nat.pow_succ'] at hrest
      exact hrest

/-- A byte of a word in memory. -/
private theorem ofBitVec_dataByte (d : BitVec 64) (i : Nat) :
    UInt8.ofBitVec (dataByte d i) = UInt8.ofNat (d.toNat / 256 ^ i) := by
  apply UInt8.toNat_inj.1
  have hpow : 256 ^ i = 2 ^ (8 * i) := by rw [Nat.pow_mul]
  change (d.extractLsb' (8 * i) 8).toNat = _
  rw [BitVec.extractLsb'_toNat, Nat.shiftRight_eq_div_pow, ← hpow, UInt8.toNat_ofNat']

section

variable (uint8Limiter : BitVec 8 → BitVec 8 → BitVec 8) (mask11bit mask29bit : BitVec 32)

/-- The frame of a chunk. -/
def Chunk.frame (c : Chunk) : CanFrame :=
  (sendHeader uint8Limiter 0 c.id.toBitVec c.len.toBitVec).frame mask11bit mask29bit (dataByte c.data64.toBitVec)

/-- `tcan4550_send_std` on the controller. -/
def sendChunk (id : UInt32) (data64 : UInt64) (len : UInt8) (a : Amid Controller BusEvent) :
    Bool × Amid Controller BusEvent :=
  controller.perform (sendStd uint8Limiter mask11bit mask29bit id.toBitVec data64.toBitVec len.toBitVec) a

/-- The array that `can_send` is given: its length is cut to 16 bits. -/
def given (data : List UInt8) : List UInt8 := data.take (UInt16.ofNat data.length).toNat

/-- `can_send` on the controller. -/
def canSendOn (data : List UInt8) : StateM (Amid Controller BusEvent) Bool := fun a =>
  let len := UInt16.ofNat data.length
  match canSend (sendChunk uint8Limiter mask11bit mask29bit) (given data) len (len.toNat + 1) a with
  | some (res, a', _) => (res, a')
  | none => (false, a)

/-- The calls for chunks, one after the other. -/
def sendChunks : List Chunk → StateM (Amid Controller BusEvent) Unit
  | [] => pure ()
  | c :: cs => do
    let _ ← controller.perform (sendStd uint8Limiter mask11bit mask29bit c.id.toBitVec c.data64.toBitVec c.len.toBitVec)
    sendChunks cs

private theorem Calls.sendChunks_eq {cs : List Chunk} {a a' : Amid Controller BusEvent}
    (h : Calls (sendChunk uint8Limiter mask11bit mask29bit) a cs a') :
    (sendChunks uint8Limiter mask11bit mask29bit cs a).2 = a' := by
  induction cs generalizing a with
  | nil => exact h.symm
  | cons c cs ih => exact ih h.2

private theorem honest_sendChunks (cs : List Chunk) : Honest (sendChunks uint8Limiter mask11bit mask29bit cs) := by
  induction cs with
  | nil => exact honest_pure ()
  | cons c cs ih => exact (controller.honest_perform _).bind fun _ => ih

/-- What `can_send` does are the calls for its chunks. -/
private theorem canSendOn_calls (data : List UInt8) (a : Amid Controller BusEvent) :
    ∃ res cs,
      canSendOn uint8Limiter mask11bit mask29bit data a = (res, (sendChunks uint8Limiter mask11bit mask29bit cs a).2) ∧
      (cs.map Chunk.bytes).flatten = given data ∧ ∀ c ∈ cs, c.len ≤ 8 := by
  have hlen : (given data).length = (UInt16.ofNat data.length).toNat := by
    rw [given, List.length_take, UInt16.toNat_ofNat']
    omega
  obtain ⟨⟨_, _, _, res, a', cs⟩, hrun, hexact⟩ := canSend_run (sendChunk uint8Limiter mask11bit mask29bit) hlen a
    (Nat.lt_succ_self _)
  dsimp only at hrun hexact
  refine ⟨res, cs, ?_, hexact.joined, fun c hc => ?_⟩
  · rw [canSendOn, hrun, hexact.called.sendChunks_eq]
  · rcases List.eq_nil_or_concat cs with rfl | ⟨front, last, rfl⟩
    · cases hc
    · rw [List.concat_eq_append] at hexact hc
      rcases List.mem_append.1 hc with hfront | hlast
      · have hfull := hexact.full c
        rw [List.dropLast_concat] at hfull
        exact hfull hfront ▸ UInt8.le_refl 8
      · have hends := hexact.last c
        rw [List.getLast?_concat, List.mem_singleton.1 hlast] at hends
        rw [List.mem_singleton.1 hlast]
        exact (hends rfl).2

theorem honest_canSendOn (data : List UInt8) : Honest (canSendOn uint8Limiter mask11bit mask29bit data) := by
  intro a
  obtain ⟨res, cs, hcalls, -⟩ := canSendOn_calls uint8Limiter mask11bit mask29bit data a
  rw [hcalls]
  exact honest_sendChunks uint8Limiter mask11bit mask29bit cs a

section

variable {uint8Limiter} (hlimiter : ∀ val max, (uint8Limiter val max).toNat = min val.toNat max.toNat)

include hlimiter

/-- The frame carries the bytes of the chunk. -/
private theorem Chunk.frame_data {c : Chunk} (hlen : c.len ≤ 8) :
    (c.frame uint8Limiter mask11bit mask29bit).data = c.bytes := by
  have hle : c.len.toNat ≤ 8 := UInt8.le_iff_toNat_le.1 hlen
  have hcut : (uint8Limiter c.len.toBitVec 8).toNat = c.len.toNat := by
    rw [hlimiter]
    exact Nat.min_eq_left hle
  have hbytes : dataLen (sendHeader uint8Limiter 0 c.id.toBitVec c.len.toBitVec).dlc = c.len.toNat := by
    rw [toNat_bytes, sendHeader_bytes hlimiter, hcut]
    exact Nat.min_eq_left hle
  rw [Chunk.frame, CanTxHeader.frame, Chunk.bytes, hbytes, payloadBytes]
  refine List.ext_getElem (by simp [hle]) fun i hi hi' => ?_
  rw [List.getElem_map, List.getElem_range, List.getElem_take, getElem_bytesOf]
  exact ofBitVec_dataByte c.data64.toBitVec i

variable {r : Registers} (hr : r.Inside) {acked asked known : List CanFrame}

include hr

private theorem triple_sendChunks (cs : List Chunk) :
    Triple (Fine r acked asked known) (sendChunks uint8Limiter mask11bit mask29bit cs) fun _ c =>
      Fine r acked (asked ++ cs.map (Chunk.frame uint8Limiter mask11bit mask29bit)) known c := by
  induction cs generalizing asked with
  | nil =>
    refine triple_pure fun c h => ?_
    rw [List.map_nil, List.append_nil]
    exact h
  | cons c cs ih =>
    have hfirst : Triple (Fine r acked asked known)
        (controller.perform
          (sendStd uint8Limiter mask11bit mask29bit c.id.toBitVec c.data64.toBitVec c.len.toBitVec)) fun res c' =>
          res = true ∧ Fine r acked (asked ++ [c.frame uint8Limiter mask11bit mask29bit]) known c' :=
      triple_sendFrame mask11bit mask29bit hlimiter hr 0 _ _ _
    refine hfirst.bind (fun _ => ?_) fun _ => honest_sendChunks uint8Limiter mask11bit mask29bit cs
    refine ih.mono (fun c h => h.2) fun _ c' h => ?_
    rw [List.map_cons, List.append_cons]
    exact h

/-- The frames that are asked for carry the array. -/
theorem triple_canSendOn (data : List UInt8) :
    Triple (Fine r acked asked known) (canSendOn uint8Limiter mask11bit mask29bit data) fun _ c =>
      ∃ frames : List CanFrame, frames.flatMap CanFrame.data = given data ∧ Fine r acked (asked ++ frames) known c := by
  intro a
  obtain ⟨res, cs, hcalls, hjoined, hlen⟩ := canSendOn_calls uint8Limiter mask11bit mask29bit data a
  rw [hcalls]
  intro _ ha hfair hfine
  refine ⟨cs.map (Chunk.frame uint8Limiter mask11bit mask29bit), ?_,
    triple_sendChunks mask11bit mask29bit hlimiter hr cs a ha hfair hfine⟩
  have hdata : cs.map (CanFrame.data ∘ Chunk.frame uint8Limiter mask11bit mask29bit) = cs.map Chunk.bytes :=
    List.map_congr_left fun c hc => Chunk.frame_data mask11bit mask29bit hlimiter (hlen c hc)
  rw [← hjoined, List.flatMap_def, List.map_map, hdata]

end

end

end TiMcu.Can
