import TiMcu.Lib.Preamble
import TiMcu.Ubx.RoundTrip

/-!
# UBX frames behind noise

The first sync byte that breaks a sync pair is not examined as the start of the next pair: `proc_ublox_wait_sync1` resets
the parser and forgets it.  So a frame behind bytes without the pair is received when an even number of first sync bytes
ends them, and lost when the number is odd.
-/

namespace TiMcu.Ubx

open Framing Runs

variable {W : Type} {env : UbxEnv W} {u : Receiver W} {m : UbxPacket} {noise : List UInt8}

private theorem ubxVerdict_preamble : Preamble ubxVerdict ubxSyn0 ubxSyn1 where
  ne := by decide
  first := by decide
  other b hb := by simp [ubxVerdict, hb]
  broken b hb := by simp [ubxVerdict, hb]

/-- A frame of the parser is as long as it declares. -/
private theorem length_of_frame {f : List UInt8} (h : ubxVerdict f = .frame) : f.length = frameLen f := by
  unfold ubxVerdict at h
  split at h
  · simp at h
  split at h
  · simp at h
  split at h
  · simp at h
  split at h
  · simp at h
  split at h
  · simp at h
  split at h
  · simp at h
  split at h
  · simp at h
  split at h
  · simp at h
  split at h
  · next hok => exact hok.1
  · simp at h

/-- The packets of a stream that begins in front of a sync pair have the lengths of the frames in it. -/
private theorem length_of_mem_ubxPackets (hstate : u.proto.rxState = .waitSyc0) {bytes : List UInt8}
    (h : m ∈ ubxPackets env u bytes) :
    ∃ f ∈ frames ubxVerdict [] bytes, f.length = ubxHeaderSize + m.payload.length + ubxLenSize := by
  obtain ⟨-, hcarries⟩ := run_loaded env (loaded_nil hstate) bytes
  obtain ⟨f, hf, hm⟩ := carries_of_mem hcarries h
  have hlen := length_of_frame (verdict_of_mem_frames hf)
  exact ⟨f, hf, by rw [hlen, frameLen, hm.length]⟩

/-- The packets of a frame behind noise that ends with an even number of first sync bytes. -/
private theorem ubxPackets_of_even (hstate : u.proto.rxState = .waitSyc0) (hpair : ¬[ubxSyn0, ubxSyn1] <:+: noise)
    (hpos : 1 ≤ m.payload.length) (hmax : m.payload.length ≤ 92) (heven : Even (trailing ubxSyn0 noise)) :
    ubxPackets env u (noise ++ ubxFrame m) = [m] := by
  have hne : m.payload ≠ [] := List.length_pos_iff.1 hpos
  have hframes := ubxVerdict_preamble.frames_of_even hpair (isFrame_ubxFrame hmax hne) heven
  obtain ⟨-, hcarries⟩ := run_loaded env (loaded_nil hstate) (noise ++ ubxFrame m)
  rw [hframes] at hcarries
  have hfits : ∀ f ∈ [ubxFrame m], ubxHeaderSize + (declaredLen f).toNat ≤ ubxRxFrameSize := by
    intro f hf
    rw [List.mem_singleton.1 hf, declaredLen_ubxFrame, toNat_len (by omega), show ubxHeaderSize = 6 from rfl,
      show ubxRxFrameSize = 100 from rfl]
    omega
  rw [carries_map hcarries hfits, List.map_singleton, packetOf_ubxFrame hmax]

/-- A frame behind bytes without a sync pair is received if and only if an even number of first sync bytes ends them. -/
theorem received_behind_iff (env : UbxEnv W) (u : Receiver W) (hstate : u.proto.rxState = .waitSyc0)
    (noise : List UInt8) (hpair : ¬[ubxSyn0, ubxSyn1] <:+: noise) (m : UbxPacket) (hpos : 1 ≤ m.payload.length)
    (hmax : m.payload.length ≤ 92) :
    m ∈ ubxPackets env u (noise ++ ubxFrame m) ↔ Even (trailing ubxSyn0 noise) := by
  constructor
  · intro hmem
    by_contra hodd
    obtain ⟨f, hf, hlen⟩ := length_of_mem_ubxPackets hstate hmem
    -- the frame begins with the byte that the parser drops
    obtain ⟨rest, hrest⟩ : ∃ rest, ubxFrame m = ubxSyn0 :: rest := ⟨_, rfl⟩
    have htotal := ubxFrame_length m
    rw [hrest] at hf htotal
    have hshort := ubxVerdict_preamble.length_lt_of_odd hpair hodd hf
    rw [List.length_cons] at htotal
    rw [hlen, show ubxLenSize = 2 from rfl] at hshort
    omega
  · intro heven
    rw [ubxPackets_of_even hstate hpair hpos hmax heven]
    exact List.mem_singleton_self m

theorem pollBehind_received :
    (⟨0x06, 0x01, [0xFF]⟩ : UbxPacket) ∈
      ubxPackets idleEnv (.init 0 ()) ([0x24, 0xB5, 0xB5] ++ ubxFrame ⟨0x06, 0x01, [0xFF]⟩) :=
  (received_behind_iff idleEnv (.init 0 ()) rfl [0x24, 0xB5, 0xB5] (by decide) ⟨0x06, 0x01, [0xFF]⟩ (by decide)
    (by decide)).2 (by decide)

/-- One first sync byte in front of a frame. -/
theorem not_received_behind : ¬∀ noise : List UInt8, ¬[ubxSyn0, ubxSyn1] <:+: noise →
    (⟨0x06, 0x01, [0xFF]⟩ : UbxPacket) ∈
      ubxPackets idleEnv (.init 0 ()) (noise ++ ubxFrame ⟨0x06, 0x01, [0xFF]⟩) := by
  intro h
  have hnone : ubxPackets idleEnv (.init 0 ()) ([0xB5] ++ ubxFrame ⟨0x06, 0x01, [0xFF]⟩) = [] := by decide +kernel
  have hmem := h [0xB5] (by decide)
  rw [hnone] at hmem
  exact absurd hmem List.not_mem_nil

end TiMcu.Ubx
