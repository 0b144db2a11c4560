import TiMcu.Rtcm3.Stream

/-!
# The RTCM3 parser, the check of a whole frame and the generator

`is_rtcm3_frame` accepts exactly the arrays that make `rtcm3_proc_array` count a frame, and both accept what
`rtcm3_generate_frame` writes (`rtcm3_agree`).  For an array without a payload the two get there by different ways: the
check asks for the length, and the parser drops the header at the next byte.
-/

namespace TiMcu.Tbfp

open NorFlash LittleEndian Framing Runs

variable {W : Type} {env : Env W} {d : Device W} {slot : Interfaces} {l : List UInt8}

/-! ### The frames of an array -/

theorem Rtcm3Whole.length_ge (h : Rtcm3Whole env l) : 7 ≤ l.length := by
  obtain ⟨-, hpos, hlen, -⟩ := h
  have hover : rtcm3Overhead = 6 := rfl
  omega

private theorem rtcm3Verdict_frame (h : rtcm3Verdict env l = .frame) : Rtcm3Whole env l := by
  unfold rtcm3Verdict at h
  split at h
  · simp at h
  · split at h
    · assumption
    · simp at h

private theorem prefix_head {q : List UInt8} (hq : q <+: l) (hne : q ≠ []) : q.head? = l.head? := by
  obtain ⟨t, rfl⟩ := hq
  rw [List.head?_append_of_ne_nil _ hne]

/-- A header that declares no payload is dropped at the next byte, and what is left is too short for a frame. -/
private theorem frames_of_zero (env : Env W) (hhead : l.head? = some rtcm3Preamble) (hlen : l.length = rtcm3Overhead)
    (hzero : rtcm3Len l = 0) : frames (rtcm3Verdict env) [] l = [] := by
  have hheader : rtcm3HeaderSize = 3 := rfl
  have hover : rtcm3Overhead = 6 := rfl
  obtain ⟨p, b, rest, hsplit, hp⟩ : ∃ p b rest, l = p ++ b :: rest ∧ p.length = rtcm3HeaderSize := by
    refine ⟨l.take 3, l.get ⟨3, by omega⟩, l.drop 4, ?_, ?_⟩
    · rw [List.get_eq_getElem, List.getElem_cons_drop, List.take_append_drop]
    · rw [List.length_take]
      omega
  have hfront : ∀ q, q ≠ [] → q <+: p → rtcm3Verdict env q = .more := by
    intro q hne hq
    refine verdict_of_front ⟨?_, .inl (hp ▸ hq.length_le)⟩
    rw [prefix_head (hsplit ▸ hq.trans (List.prefix_append p (b :: rest))) hne, hhead]
  obtain ⟨hheld, hframes⟩ := front_of_more hfront
  have hlenp : rtcm3Len (p ++ [b]) = 0 := by
    rw [rtcm3Len_append (Nat.le_of_eq hp.symm), ← rtcm3Len_append (Nat.le_of_eq hp.symm) (b :: rest), ← hsplit, hzero]
  have hdrop : rtcm3Verdict env (p ++ [b]) = .drop := by
    refine verdict_of_not ?_ fun hw => hw.2.1 hlenp
    rintro ⟨-, hle | ⟨hne, -⟩⟩
    · rw [List.length_append, List.length_singleton] at hle
      omega
    · exact hne hlenp
  have hrest : frames (rtcm3Verdict env) [] rest = [] := by
    rw [List.eq_nil_iff_forall_not_mem]
    intro f hf
    have hshort := length_of_mem_frames hf
    have hlong := (rtcm3Verdict_frame (verdict_of_mem_frames hf)).length_ge
    rw [hsplit, List.length_append, List.length_cons] at hlen
    simp only [List.length_nil] at hshort
    omega
  rw [hsplit, frames_append, hheld, hframes, frames, keep_drop hdrop, hrest]
  simp [complete, hdrop]

/-- A frame with the wrong checksum is loaded up to its last byte. -/
private theorem frames_of_wrong (env : Env W) (hhead : l.head? = some rtcm3Preamble)
    (hlen : l.length = rtcm3Len l + rtcm3Overhead) (hpos : rtcm3Len l ≠ 0) (hw : ¬Rtcm3Whole env l) :
    frames (rtcm3Verdict env) [] l = [] := by
  have hheader : rtcm3HeaderSize = 3 := rfl
  have hover : rtcm3Overhead = 6 := rfl
  obtain ⟨p, b, hsplit⟩ : ∃ p b, l = p ++ [b] := by
    obtain ⟨p, b, h⟩ := (List.eq_nil_or_concat l).resolve_left (by rintro rfl; simp at hhead)
    exact ⟨p, b, by rw [h, List.concat_eq_append]⟩
  have hlenp : l.length = p.length + 1 := by rw [hsplit, List.length_append, List.length_singleton]
  have hfront : ∀ q, q ≠ [] → q <+: p → rtcm3Verdict env q = .more := by
    intro q hne hq
    obtain ⟨t, ht⟩ := hsplit ▸ hq.trans (List.prefix_append p [b])
    have hle := hq.length_le
    refine verdict_of_front ⟨by rw [prefix_head ⟨t, ht⟩ hne, hhead], ?_⟩
    by_cases hl : q.length ≤ rtcm3HeaderSize
    · exact .inl hl
    · have hq : rtcm3Len q = rtcm3Len l := by rw [← ht, rtcm3Len_append (by omega)]
      exact .inr ⟨by omega, by omega⟩
  obtain ⟨hheld, hframes⟩ := front_of_more hfront
  have hdrop : rtcm3Verdict env (p ++ [b]) = .drop := by
    rw [← hsplit]
    refine verdict_of_not ?_ hw
    rintro ⟨-, hle | ⟨-, hlt⟩⟩ <;> omega
  rw [hsplit, frames_append, hheld, hframes, frames, frames_nil]
  simp [complete, hdrop]

/-- In an array that ends with the frame in its header there is no other frame. -/
private theorem frames_array (env : Env W) (hhead : l.head? = some rtcm3Preamble)
    (hlen : l.length = rtcm3Len l + rtcm3Overhead) :
    frames (rtcm3Verdict env) [] l = if Rtcm3Whole env l then [l] else [] := by
  by_cases hw : Rtcm3Whole env l
  · rw [if_pos hw]
    exact hw.isFrame.fed.2
  · rw [if_neg hw]
    by_cases hzero : rtcm3Len l = 0
    · exact frames_of_zero env hhead (by rw [hlen, hzero, Nat.zero_add]) hzero
    · exact frames_of_wrong env hhead hlen hzero hw

/-! ### The generator -/

/-- The length survives the reserved bits. -/
private theorem fieldLen_reserved (res len16 : UInt16) :
    fieldLen ((res &&& 0xFC00) ||| fieldLen len16) = fieldLen len16 := by
  have hreserved : (0xFC00 : UInt16).toNat &&& (0x3FF : UInt16).toNat = 0 := by decide
  apply UInt16.toNat_inj.1
  simp only [fieldLen, UInt16.toNat_and, UInt16.toNat_or]
  rw [Nat.and_or_distrib_right, Nat.and_assoc, hreserved, Nat.and_zero, Nat.zero_or, Nat.and_assoc, Nat.and_self]

/-- `rtcm3_generate_frame` writes a frame with the right checksum. -/
private theorem rtcm3Whole_generate (env : Env W) (res : UInt16) (arr : Mem) {size : Nat} (hmin : 7 ≤ size)
    (hmax : size ≤ 1029) :
    Rtcm3Whole env (bytesAt (rtcm3GenerateFrame env res arr size) 0 size) := by
  have hheader : rtcm3HeaderSize = 3 := rfl
  have hsizeCrc : rtcm3Crc24Size = 3 := rfl
  have hover : rtcm3Overhead = 6 := rfl
  generalize hg : rtcm3GenerateFrame env res arr size = g
  unfold rtcm3GenerateFrame at hg
  dsimp only at hg
  generalize hlen : (res &&& 0xFC00) ||| fieldLen (UInt16.ofNat (size - rtcm3Crc24Size - rtcm3HeaderSize)) = exLen at hg
  generalize harr : Buffer.store (Buffer.store (Buffer.store arr 0 rtcm3Preamble) 1 (hi exLen)) 2 (lo exLen) = arr' at hg
  have hmod : (size - rtcm3Crc24Size) % 2 ^ 16 = size - 3 := by omega
  rw [hmod, hsizeCrc] at hg
  generalize hcrc : env.calcCrc24Q (bytesAt arr' 0 (size - 3)) = crc at hg
  -- what the generator stores
  have hbody : bytesAt g 0 (size - 3) = bytesAt arr' 0 (size - 3) := by
    rw [← hg, Buffer.bytesAt_store_of_le _ (by omega), Buffer.bytesAt_store_of_le _ (by omega),
      Buffer.bytesAt_store_of_le _ (by omega)]
  have hget : ∀ i, i < size - 3 → g i = arr' i := by
    intro i hi
    rw [← Buffer.getD_of_bytesAt hbody hi, Buffer.getD_of_bytesAt rfl hi]
  have hbytes : ∀ i, i < size → (bytesAt g 0 size).getD i 0 = g i := fun i hi => Buffer.getD_of_bytesAt rfl hi
  have hfield : rtcm3Len (bytesAt g 0 size) = size - 6 := by
    have h1 : arr' 1 = hi exLen := by rw [← harr, Buffer.store_of_ne _ (by decide), Buffer.store_self]
    have h2 : arr' 2 = lo exLen := by rw [← harr, Buffer.store_self]
    rw [rtcm3Len, hbytes 1 (by omega), hbytes 2 (by omega), hget 1 (by omega), hget 2 (by omega), h1, h2, join_lo_hi,
      ← hlen, fieldLen_reserved, fieldLen_toNat, UInt16.toNat_ofNat', hsizeCrc, hheader]
    omega
  have hhead : (bytesAt g 0 size).head? = some rtcm3Preamble := by
    have h0 : arr' 0 = rtcm3Preamble := by
      rw [← harr, Buffer.store_of_ne _ (by decide), Buffer.store_of_ne _ (by decide), Buffer.store_self]
    rw [show size = 1 + (size - 1) by omega, bytesAt_add, List.head?_append_of_ne_nil _ (by simp [Buffer.bytesAt_one]),
      Buffer.bytesAt_one, hget 0 (by omega), h0]
    rfl
  have hlast : g (size - 3) = (crc >>> 16).toUInt8 ∧ g (size - 3 + 1) = (crc >>> 8).toUInt8 ∧
      g (size - 3 + 2) = crc.toUInt8 := by
    rw [← hg]
    refine ⟨?_, ?_, Buffer.store_self _ _ _⟩
    · rw [Buffer.store_of_ne _ (by omega), Buffer.store_of_ne _ (by omega), Buffer.store_self]
    · rw [Buffer.store_of_ne _ (by omega), Buffer.store_self]
  obtain ⟨hlast0, hlast1, hlast2⟩ := hlast
  have hindex : rtcm3HeaderSize + (size - 6) = size - 3 := by omega
  refine ⟨hhead, by omega, by rw [bytesAt_length, hfield]; omega, ?_⟩
  dsimp only
  rw [hfield, hindex, take_bytesAt (by omega), hbody, hcrc, hbytes _ (by omega), hbytes (size - 3 + 1) (by omega),
    hbytes (size - 3 + 2) (by omega), hlast0, hlast1, hlast2, env.reverseByteOrderUint24_join24, join24_bytes]
  rw [← hcrc]
  exact env.calcCrc24Q_lt _

/-! ### The three agree -/

/-- An array that begins with the preamble and ends with the frame in its header. -/
structure Rtcm3Array (arr : Mem) (size : Nat) : Prop where
  preamble : arr 0 = rtcm3Preamble
  size : size = (fieldLen (join (arr 2) (arr 1))).toNat + rtcm3Overhead

theorem Rtcm3Array.bytes {arr : Mem} {size : Nat} (h : Rtcm3Array arr size) :
    (bytesAt arr 0 size).head? = some rtcm3Preamble ∧
      (bytesAt arr 0 size).length = rtcm3Len (bytesAt arr 0 size) + rtcm3Overhead := by
  have hover : rtcm3Overhead = 6 := rfl
  have hsize := h.size
  constructor
  · rw [show size = 1 + (size - 1) by omega, bytesAt_add, List.head?_append_of_ne_nil _ (by simp [Buffer.bytesAt_one]),
      Buffer.bytesAt_one, h.preamble]
    rfl
  · rw [bytesAt_length, rtcm3Len, Buffer.getD_of_bytesAt rfl (show 2 < size by omega),
      Buffer.getD_of_bytesAt rfl (show 1 < size by omega)]
    exact hsize

/-- The check of a whole frame. -/
theorem Rtcm3Array.isRtcm3Frame_iff {arr : Mem} {size : Nat} (h : Rtcm3Array arr size) :
    isRtcm3Frame env arr (UInt16.ofNat size) ↔ Rtcm3Whole env (bytesAt arr 0 size) := by
  have hlen := bytesAt_length arr 0 size
  have hiff : isRtcm3Frame env arr (UInt16.ofNat (bytesAt arr 0 size).length) ↔
      Rtcm3Whole env (bytesAt arr 0 size) := Tbfp.isRtcm3Frame_iff (by rw [hlen]) h.bytes.1 h.bytes.2
  rwa [hlen] at hiff

/-- A parser that waits for a preamble holds nothing. -/
theorem Rtcm3Protocol.Ok.idle {p : Rtcm3Protocol} (h : p.Ok) (hidle : p.rxState = .waitPreamble) : Rtcm3Loaded p [] := by
  rcases h.loaded with hdone | ⟨l, hl⟩
  · rw [hdone] at hidle
    cases hidle
  · have hstate := hl.rxState
    rw [hidle, rtcm3State] at hstate
    split at hstate
    · rename_i hlen
      rwa [List.length_eq_zero_iff.1 hlen] at hl
    · split at hstate
      · cases hstate
      · split at hstate <;> cases hstate

/-- A frame that `is_rtcm3_frame` accepts, with the length in its header. -/
structure Rtcm3Accepted (env : Env W) (f : List UInt8) : Prop where
  array : Rtcm3Array (Buffer.ofBytes f) f.length
  frame : isRtcm3Frame env (Buffer.ofBytes f) (UInt16.ofNat f.length)

theorem Rtcm3Accepted.whole (h : Rtcm3Accepted env l) : Rtcm3Whole env l := by
  have hframe := h.frame
  rwa [h.array.isRtcm3Frame_iff, Buffer.bytesAt_ofBytes] at hframe

theorem rtcm3Accepted_of_whole (h : Rtcm3Whole env l) : Rtcm3Accepted env l := by
  have hover : rtcm3Overhead = 6 := rfl
  have hge := h.length_ge
  obtain ⟨hhead, -, hlen, -⟩ := id h
  have harray : Rtcm3Array (Buffer.ofBytes l) l.length := by
    refine ⟨?_, hlen⟩
    cases l with
    | nil => simp at hhead
    | cons b l => simpa [Buffer.ofBytes_apply] using hhead
  refine ⟨harray, ?_⟩
  rwa [harray.isRtcm3Frame_iff, Buffer.bytesAt_ofBytes]

/-- A concatenation of accepted frames is received as these frames. -/
theorem frames_accepted {fs : List (List UInt8)} (h : ∀ f ∈ fs, Rtcm3Accepted env f) :
    frames (rtcm3Verdict env) [] fs.flatten = fs :=
  (frames_flatten fun f hf => (h f hf).whole.isFrame).2

/-- The frames that `rtcm3_proc_array` has counted after an array outside of the tables. -/
def Device.rtcm3Counted (env : Env W) (depth : Nat) (d : Device W) (slot : Interfaces) (array : List UInt8) : UInt32 :=
  ((d.rtcm3ProcArray env (tbfpProc env depth) (.bytes array) array.length slot).2.rtcm3 slot).rxPktCnt

section

variable (env) (hd : Rtcm3Ready d) (depth : Nat) (slot : Interfaces)

include hd

private theorem rtcm3Counted_eq (hhead : l.head? = some rtcm3Preamble) (hlen : l.length = rtcm3Len l + rtcm3Overhead) :
    d.rtcm3Counted env depth slot l = (d.rtcm3 slot).rxPktCnt + if Rtcm3Whole env l then 1 else 0 := by
  have hrelayed : Relayed slot (frames (rtcm3Verdict env) [] l) d
      (d.rtcm3ProcArray env (tbfpProc env depth) (.bytes l) l.length slot).2 :=
    rtcm3ProcArray_relayed env (fun _ _ _ _ _ hd => tbfpProc_effects depth hd _ _ _ _) hd fun _ _ => rfl
  rw [Device.rtcm3Counted, hrelayed.rxPktCnt, frames_array env hhead hlen]
  split
  · rfl
  · rfl

/-- The parser counts an array when the check accepts it. -/
private theorem rtcm3Counted_iff {arr : Mem} {size : Nat} (harr : Rtcm3Array arr size) :
    (d.rtcm3Counted env depth slot (bytesAt arr 0 size) ≠ (d.rtcm3 slot).rxPktCnt ↔
        isRtcm3Frame env arr (UInt16.ofNat size)) ∧
      (d.rtcm3Counted env depth slot (bytesAt arr 0 size) ≠ (d.rtcm3 slot).rxPktCnt →
        d.rtcm3Counted env depth slot (bytesAt arr 0 size) = (d.rtcm3 slot).rxPktCnt + 1) := by
  rw [rtcm3Counted_eq env hd depth slot harr.bytes.1 harr.bytes.2, harr.isRtcm3Frame_iff]
  by_cases hw : Rtcm3Whole env (bytesAt arr 0 size)
  · rw [if_pos hw]
    exact ⟨⟨fun _ => hw, fun _ => by simp⟩, fun _ => rfl⟩
  · rw [if_neg hw, UInt32.add_zero]
    exact ⟨⟨fun hne => absurd rfl hne, fun h => absurd h hw⟩, fun hne => absurd rfl hne⟩

/-- Both accept what the generator writes. -/
private theorem rtcm3GenerateFrame_accepted (res : UInt16) (arr : Mem) {size : Nat} (hmin : 7 ≤ size)
    (hmax : size ≤ 1029) :
    isRtcm3Frame env (rtcm3GenerateFrame env res arr size) (UInt16.ofNat size) ∧
      d.rtcm3Counted env depth slot (bytesAt (rtcm3GenerateFrame env res arr size) 0 size) =
        (d.rtcm3 slot).rxPktCnt + 1 := by
  have hw := rtcm3Whole_generate env res arr hmin hmax
  generalize rtcm3GenerateFrame env res arr size = g at hw ⊢
  have hlen := bytesAt_length g 0 size
  have hiff : isRtcm3Frame env g (UInt16.ofNat (bytesAt g 0 size).length) ↔ Rtcm3Whole env (bytesAt g 0 size) :=
    Tbfp.isRtcm3Frame_iff (by rw [hlen]) hw.1 hw.2.2.1
  rw [hlen] at hiff
  refine ⟨hiff.2 hw, ?_⟩
  rw [rtcm3Counted_eq env hd depth slot hw.1 hw.2.2.1, if_pos hw]

end

theorem rtcm3_agree (env : Env W) (radio : Sx1262) (now : Nat) (world : W) (xs : List (Action W)) (depth : Nat)
    (slot : Interfaces) :
    let d := run (Device.act env) (swInit radio now world) xs
    let cnt := (d.rtcm3 slot).rxPktCnt
    (∀ arr size, Rtcm3Array arr size →
      (d.rtcm3Counted env depth slot (bytesAt arr 0 size) ≠ cnt ↔ isRtcm3Frame env arr (UInt16.ofNat size)) ∧
        (d.rtcm3Counted env depth slot (bytesAt arr 0 size) ≠ cnt →
          d.rtcm3Counted env depth slot (bytesAt arr 0 size) = cnt + 1)) ∧
    (∀ res arr size, 7 ≤ size → size ≤ 1029 →
      isRtcm3Frame env (rtcm3GenerateFrame env res arr size) (UInt16.ofNat size) ∧
        d.rtcm3Counted env depth slot (bytesAt (rtcm3GenerateFrame env res arr size) 0 size) = cnt + 1) ∧
    (∀ fs : List (List UInt8), (∀ f ∈ fs, Rtcm3Accepted env f) → (d.rtcm3 slot).rxState = .waitPreamble →
      rtcm3Frames slot (d.rtcm3ProcBytes env (tbfpProc env depth) slot fs.flatten).log =
        rtcm3Frames slot d.log ++ fs) ∧
    ∀ bytes, ∀ i ∈ ((d.rtcm3ProcBytes env (tbfpProc env depth) slot bytes).rtcm3 slot).stored,
      i < rtcm3RxMaxFrameSize := by
  intro d cnt
  have hd : Rtcm3Ready d := ready_run_rtcm3 env (ready_swInit_rtcm3 radio now world) xs
  have hproc : ∀ (d : Device W) src len s reset, Configured d →
      Effects False d (tbfpProc env depth d src len s reset).2 := fun _ _ _ _ _ hd => tbfpProc_effects depth hd _ _ _ _
  refine ⟨fun arr size harr => rtcm3Counted_iff env hd depth slot harr, fun res arr size hmin hmax =>
    rtcm3GenerateFrame_accepted env hd depth slot res arr hmin hmax, fun fs hfs hidle => ?_, fun bytes => ?_⟩
  · obtain ⟨hrelayed, -⟩ := rtcm3ProcBytes_relayed env hproc hd ((hd.ok slot).idle hidle) fs.flatten
    rw [hrelayed.frames, frames_accepted hfs]
  · have heffects : Effects (slot = .uart1) d (d.rtcm3ProcBytes env (tbfpProc env depth) slot bytes) :=
      effects_rtcm3ProcBytes env hproc hd.configured bytes
    exact ((heffects.ready hd).ok slot).stored

/-- The shortest frame, with all reserved bits set, comes from `IF_UART1` right after the start. -/
theorem shortest_agree :
    isRtcm3Frame Env.bench (rtcm3GenerateFrame Env.bench 0xFC00 (fun _ => 0) 7) 7 ∧
      (swInit restingRadio 0 ()).rtcm3Counted Env.bench 0 .uart1
        (bytesAt (rtcm3GenerateFrame Env.bench 0xFC00 (fun _ => 0) 7) 0 7) = 1 :=
  (rtcm3_agree Env.bench restingRadio 0 () [] 0 .uart1).2.1 0xFC00 (fun _ => 0) 7 (by decide) (by decide)

end TiMcu.Tbfp
