import TiMcu.Lib.Checked
import TiMcu.Lib.LittleEndian

/-!
# Sending over CAN

`can_send` cuts an array into chunks of at most eight bytes.  Each is copied to a 64-bit word and passed to
`tcan4550_send_std`, which is a parameter here and acts on the state behind it.

The array is the memory that may be read: a read behind it is `none`, and so is a store behind the word.
-/

namespace TiMcu.Can

open Checked LittleEndian

/-! ### Data -/

/-- A call of `tcan4550_send_std` with its result. -/
structure Chunk where
  id : UInt32
  data64 : UInt64
  len : UInt8
  res : Bool
  deriving DecidableEq, Repr

/-- The bytes that a chunk carries. -/
def Chunk.bytes (c : Chunk) : List UInt8 := (bytesOf 8 c.data64.toNat).take c.len.toNat

/-- `memcpy` to a 64-bit word. -/
def copyTo64 (data64 : UInt64) (src : List UInt8) : Option UInt64 :=
  if src.length ≤ 8 then some (UInt64.ofNat (wordOf (src ++ (bytesOf 8 data64.toNat).drop src.length))) else none

/-- The variables of `can_send`; `sent` are the calls so far. -/
structure CanSend (W : Type) where
  i : UInt16
  txLen : UInt16
  data64 : UInt64
  outRes : Bool
  world : W
  sent : List Chunk

section

variable {W : Type} (sendStd : UInt32 → UInt64 → UInt8 → W → Bool × W) (data : List UInt8) (len : UInt16)

/-- A chunk is passed on. -/
def CanSend.pass (s : CanSend W) (data64 : UInt64) (n : UInt16) : CanSend W :=
  let r := sendStd 0xD3 data64 n.toUInt8 s.world
  { s with
    txLen := s.txLen + n
    data64 := data64
    outRes := if r.1 then s.outRes else false
    world := r.2
    sent := s.sent ++ [⟨0xD3, data64, n.toUInt8, r.1⟩] }

/-- `i<(len-8)` in `int` -/
def CanSend.more (s : CanSend W) : Option Bool := some (decide ((s.i.toNat : Int) < len.toNat - 8))

/-- The body of the loop, with `i+=8` behind it. -/
def CanSend.round (s : CanSend W) : Option (CanSend W) :=
  (slice data s.i.toNat 8).bind fun src =>
    (copyTo64 s.data64 src).map fun data64 => { s.pass sendStd data64 8 with i := s.i + 8 }

/-- The chunk behind the loop. -/
def CanSend.last (s : CanSend W) : Option (CanSend W) :=
  let rem := len - s.txLen
  if 0 < rem then
    (slice data s.txLen.toNat rem.toNat).bind fun src => (copyTo64 0 src).map fun data64 => s.pass sendStd data64 rem
  else some s

/-- `can_send`: the result, the state behind `tcan4550_send_std` and the calls. -/
def canSend (fuel : Nat) (w : W) : Option (Bool × W × List Chunk) :=
  let s : CanSend W := ⟨0, 0, 0, true, w, []⟩
  ((if 8 < len then loop (CanSend.more len) (CanSend.round sendStd data) fuel s else some s).bind fun s =>
    s.last sendStd data len).map fun s => (s.outRes, s.world, s.sent)

end

/-! ### The specification -/

section

variable {W : Type} (sendStd : UInt32 → UInt64 → UInt8 → W → Bool × W)

/-- One call of `tcan4550_send_std` after the other leads from `w` to `w'`, each with the result that its chunk has. -/
def Calls : W → List Chunk → W → Prop
  | w, [], w' => w' = w
  | w, c :: cs, w' =>
    (sendStd c.id c.data64 c.len w).1 = c.res ∧ Calls (sendStd c.id c.data64 c.len w).2 cs w'

/-- The calls of `tcan4550_send_std` from `w` to `w'` are those for the chunks, and the data are cut exactly into
them. -/
structure SegmentsExactly (data : List UInt8) (w w' : W) (res : Bool) (sent : List Chunk) : Prop where
  called : Calls sendStd w sent w'
  joined : (sent.map Chunk.bytes).flatten = data
  full : ∀ c ∈ sent.dropLast, c.len = 8
  last : ∀ c ∈ sent.getLast?, 1 ≤ c.len ∧ c.len ≤ 8
  res : res = true ↔ ∀ c ∈ sent, c.res = true

end

/-! ### One chunk -/

private theorem copyTo64_spec (data64 : UInt64) {src : List UInt8} (h : src.length ≤ 8) :
    ∃ d, copyTo64 data64 src = some d ∧ (bytesOf 8 d.toNat).take src.length = src := by
  let bs := src ++ (bytesOf 8 data64.toNat).drop src.length
  have hlen : bs.length = 8 := by
    rw [List.length_append, List.length_drop, length_bytesOf]
    omega
  have hlt : wordOf bs < 2 ^ 64 := by
    have h256 := wordOf_lt bs
    rw [hlen] at h256
    exact h256
  have hword : (UInt64.ofNat (wordOf bs)).toNat = wordOf bs := by
    rw [UInt64.toNat_ofNat', Nat.mod_eq_of_lt hlt]
  refine ⟨UInt64.ofNat (wordOf bs), if_pos h, ?_⟩
  have hbytes := bytesOf_wordOf bs
  rw [hlen] at hbytes
  rw [hword, hbytes, List.take_left]

section

variable {W : Type} {sendStd : UInt32 → UInt64 → UInt8 → W → Bool × W} {data : List UInt8} {len : UInt16}
  {w w' : W} {s : CanSend W}

theorem Calls.concat {cs : List Chunk} {c : Chunk} (h : Calls sendStd w cs w')
    (hres : (sendStd c.id c.data64 c.len w').1 = c.res) :
    Calls sendStd w (cs ++ [c]) (sendStd c.id c.data64 c.len w').2 := by
  induction cs generalizing w with
  | nil =>
    subst h
    exact ⟨hres, rfl⟩
  | cons c' cs ih => exact ⟨h.1, ih h.2⟩

/-- The chunks so far carry the front of the data, and there is something left. -/
structure CanSend.Sending (sendStd : UInt32 → UInt64 → UInt8 → W → Bool × W) (data : List UInt8) (w : W)
    (s : CanSend W) : Prop where
  called : Calls sendStd w s.sent s.world
  i : s.i = s.txLen
  lt : s.txLen.toNat < data.length
  joined : (s.sent.map Chunk.bytes).flatten = data.take s.txLen.toNat
  full : ∀ c ∈ s.sent, c.len = 8
  outRes : s.outRes = true ↔ ∀ c ∈ s.sent, c.res = true

/-- One chunk more: what it carries, and the result so far. -/
theorem CanSend.Sending.pass (h : s.Sending sendStd data w) {n : UInt16} (hn : n.toNat ≤ 8) {data64 : UInt64}
    (hd : (bytesOf 8 data64.toNat).take n.toNat = (data.drop s.txLen.toNat).take n.toNat) :
    Calls sendStd w (s.pass sendStd data64 n).sent (s.pass sendStd data64 n).world ∧
      ((s.pass sendStd data64 n).sent.map Chunk.bytes).flatten = data.take (s.txLen.toNat + n.toNat) ∧
      ((s.pass sendStd data64 n).outRes = true ↔ ∀ c ∈ (s.pass sendStd data64 n).sent, c.res = true) := by
  have hn8 : n.toUInt8.toNat = n.toNat := by
    rw [UInt16.toNat_toUInt8]
    omega
  refine ⟨h.called.concat rfl, ?_, ?_⟩
  · rw [CanSend.pass, List.map_append, List.flatten_append, h.joined, List.take_add]
    simp [Chunk.bytes, hn8, hd]
  · simp only [CanSend.pass, List.mem_append, List.mem_singleton]
    split
    · next hres =>
      rw [h.outRes]
      constructor
      · rintro hall c (hc | rfl)
        · exact hall c hc
        · exact hres
      · exact fun hall c hc => hall c (.inl hc)
    · next hres =>
      constructor
      · exact fun hfalse => absurd hfalse (by decide)
      · exact fun hall => absurd (hall _ (.inr rfl)) hres

theorem CanSend.Sending.round (h : s.Sending sendStd data w) (hlen : data.length = len.toNat)
    (hmore : s.more len = some true) :
    ∃ s', s.round sendStd data = some s' ∧ s'.Sending sendStd data w ∧
      len.toNat - s'.i.toNat < len.toNat - s.i.toNat := by
  have hlt := len.toNat_lt
  have hroom : s.i.toNat + 8 < len.toNat := by
    simp only [CanSend.more, Option.some.injEq, decide_eq_true_eq] at hmore
    omega
  have hi := h.i
  have hslice := slice_of_le (l := data) (by omega : s.i.toNat + 8 ≤ data.length)
  have hsrc : ((data.drop s.i.toNat).take 8).length = 8 := by
    rw [List.length_take, List.length_drop]
    omega
  obtain ⟨d, hcopy, hd⟩ := copyTo64_spec s.data64 (le_of_eq hsrc)
  rw [hsrc] at hd
  have hnext : (s.i + 8).toNat = s.i.toNat + 8 := by
    rw [UInt16.toNat_add]
    have : (8 : UInt16).toNat = 8 := rfl
    omega
  rw [hi] at hd
  obtain ⟨hcalled, hjoined, hres⟩ := h.pass (by decide : (8 : UInt16).toNat ≤ 8) hd
  refine ⟨{ s.pass sendStd d 8 with i := s.i + 8 }, ?_, ?_, ?_⟩
  · rw [CanSend.round, hslice, Option.bind_some, hcopy]
    rfl
  · exact
      { called := hcalled
        i := by rw [hi]; rfl
        lt := by
          show (s.txLen + 8).toNat < data.length
          rw [← hi, hnext]
          omega
        joined := by
          rw [← hi] at hjoined
          show _ = data.take (s.txLen + 8).toNat
          rw [← hi, hnext]
          exact hjoined
        full := by
          intro c hc
          rcases List.mem_append.1 hc with hc | hc
          · exact h.full c hc
          · rw [List.mem_singleton.1 hc]
            rfl
        outRes := hres }
  · show len.toNat - (s.i + 8).toNat < len.toNat - s.i.toNat
    omega

/-- The chunk behind the loop carries what is left. -/
theorem CanSend.Sending.last (h : s.Sending sendStd data w) (hlen : data.length = len.toNat)
    (hrem : len.toNat ≤ s.txLen.toNat + 8) :
    ∃ s', s.last sendStd data len = some s' ∧ SegmentsExactly sendStd data w s'.world s'.outRes s'.sent := by
  have hlt := h.lt
  have hn : (len - s.txLen).toNat = len.toNat - s.txLen.toNat :=
    UInt16.toNat_sub_of_le _ _ (UInt16.le_iff_toNat_le.2 (by omega))
  have hpos : 0 < len - s.txLen := by
    rw [UInt16.lt_iff_toNat_lt, hn]
    have : (0 : UInt16).toNat = 0 := rfl
    omega
  have hslice := slice_of_le (l := data) (by omega : s.txLen.toNat + (len - s.txLen).toNat ≤ data.length)
  have hsrc : ((data.drop s.txLen.toNat).take (len - s.txLen).toNat).length = (len - s.txLen).toNat := by
    rw [List.length_take, List.length_drop]
    omega
  have hlast : ((data.drop s.txLen.toNat).take (len - s.txLen).toNat).length ≤ 8 := by omega
  obtain ⟨d, hcopy, hd⟩ := copyTo64_spec 0 hlast
  rw [hsrc] at hd
  have hle : (len - s.txLen).toNat ≤ 8 := by omega
  obtain ⟨hcalled, hjoined, hres⟩ := h.pass hle hd
  have hn8 : (len - s.txLen).toUInt8.toNat = (len - s.txLen).toNat := by
    rw [UInt16.toNat_toUInt8]
    omega
  refine ⟨s.pass sendStd d (len - s.txLen), ?_, ?_⟩
  · rw [CanSend.last, if_pos hpos, hslice, Option.bind_some, hcopy]
    rfl
  · exact
      { called := hcalled
        joined := by
          rw [hjoined, List.take_of_length_le (by omega)]
        full := by
          intro c hc
          rw [CanSend.pass, List.dropLast_concat] at hc
          exact h.full c hc
        last := by
          intro c hc
          rw [CanSend.pass, List.getLast?_concat, Option.mem_some_iff] at hc
          rw [← hc, UInt8.le_iff_toNat_le, UInt8.le_iff_toNat_le, hn8, hn]
          have h1 : (1 : UInt8).toNat = 1 := rfl
          have h8 : (8 : UInt8).toNat = 8 := rfl
          omega
        res := hres }

/-- The loop leaves at most eight bytes. -/
theorem CanSend.Sending.loop (h : s.Sending sendStd data w) (hzero : s.i = 0) (hlen : data.length = len.toNat)
    {fuel : Nat} (hfuel : len.toNat < fuel) :
    ∃ s', (if 8 < len then Checked.loop (CanSend.more len) (CanSend.round sendStd data) fuel s else some s) = some s' ∧
      s'.Sending sendStd data w ∧ len.toNat ≤ s'.txLen.toNat + 8 := by
  by_cases hlong : 8 < len
  · have hstep : ∀ s : CanSend W, s.Sending sendStd data w → s.more len = some false ∨ s.more len = some true ∧
        ∃ s', s.round sendStd data = some s' ∧ s'.Sending sendStd data w ∧
          len.toNat - s'.i.toNat < len.toNat - s.i.toNat := by
      intro s hs
      by_cases hmore : s.more len = some true
      · exact .inr ⟨hmore, hs.round hlen hmore⟩
      · left
        simpa [CanSend.more] using hmore
    obtain ⟨s', hrun, hs, hmore⟩ := loop_total hstep h (Nat.lt_of_le_of_lt (Nat.sub_le ..) hfuel)
    refine ⟨s', by rw [if_pos hlong, hrun], hs, ?_⟩
    rw [← hs.i]
    simp only [CanSend.more, Option.some.injEq, decide_eq_false_iff_not] at hmore
    omega
  · refine ⟨s, if_neg hlong, h, ?_⟩
    have h8 : (8 : UInt16).toNat = 8 := rfl
    rw [UInt16.lt_iff_toNat_lt, h8] at hlong
    rw [← h.i, hzero]
    show len.toNat ≤ (0 : UInt16).toNat + 8
    omega

/-- What `can_send` ends with. -/
theorem canSend_run (sendStd : UInt32 → UInt64 → UInt8 → W → Bool × W) (hlen : data.length = len.toNat) (w : W)
    {fuel : Nat} (hfuel : len.toNat < fuel) :
    ∃ s : CanSend W, canSend sendStd data len fuel w = some (s.outRes, s.world, s.sent) ∧
      SegmentsExactly sendStd data w s.world s.outRes s.sent := by
  let s₀ : CanSend W := ⟨0, 0, 0, true, w, []⟩
  by_cases hzero : len = 0
  · subst hzero
    have hnil : data = [] := List.length_eq_zero_iff.1 hlen
    subst hnil
    have hrun : canSend sendStd [] 0 fuel w = some (true, w, []) := by
      rw [canSend, if_neg (by decide), Option.bind_some, CanSend.last, if_neg (by simp)]
      rfl
    exact ⟨s₀, hrun, ⟨rfl, rfl, by simp [s₀], by simp [s₀], by simp [s₀]⟩⟩
  have hpos : 0 < len.toNat := by
    rcases Nat.eq_zero_or_pos len.toNat with h0 | h0
    · exact absurd (UInt16.toNat_inj.1 h0) hzero
    · exact h0
  have hstart : s₀.Sending sendStd data w := ⟨rfl, rfl, by rw [hlen]; exact hpos, rfl, by simp [s₀], by simp [s₀]⟩
  obtain ⟨s, hrun, hs, hrem⟩ := hstart.loop rfl hlen hfuel
  obtain ⟨s', hlast, hexact⟩ := hs.last hlen hrem
  exact ⟨s', by rw [canSend, hrun, Option.bind_some, hlast]; rfl, hexact⟩

end

variable {W : Type}

/-- `can_send` cuts every array exactly and passes the chunks on, for every behaviour of `tcan4550_send_std`. -/
theorem canSend_segmentsExactly (sendStd : UInt32 → UInt64 → UInt8 → W → Bool × W) (data : List UInt8) (len : UInt16)
    (hlen : data.length = len.toNat) (w : W) (fuel : Nat) (hfuel : len.toNat < fuel) :
    ∃ res w' sent, canSend sendStd data len fuel w = some (res, w', sent) ∧
      SegmentsExactly sendStd data w w' res sent := by
  obtain ⟨s, hrun, hexact⟩ := canSend_run sendStd hlen w hfuel
  exact ⟨s.outRes, s.world, s.sent, hrun, hexact⟩

/-- A bus that takes the first frame only and keeps what it is asked to send. -/
def firstOnly (id : UInt32) (data64 : UInt64) (len : UInt8) (asked : List (UInt32 × UInt64 × UInt8)) :
    Bool × List (UInt32 × UInt64 × UInt8) :=
  (asked.isEmpty, asked ++ [(id, data64, len)])

theorem canSend_segmentsExactly_nine : ∃ res w' sent,
    canSend firstOnly [1, 2, 3, 4, 5, 6, 7, 8, 9] 9 10 [] = some (res, w', sent) ∧
      SegmentsExactly firstOnly [1, 2, 3, 4, 5, 6, 7, 8, 9] [] w' res sent :=
  canSend_segmentsExactly firstOnly _ 9 (by decide) [] 10 (by decide)

end TiMcu.Can
