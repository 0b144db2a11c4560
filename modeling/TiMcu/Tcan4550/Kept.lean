import Mathlib.Data.List.GetD
import TiMcu.Tcan4550.Controller

/-!
# What the controller keeps

The frames that wait stand in the ring of the FIFO, and what was asked for is what was sent and what is pending.  This
is kept by everything that happens to the controller as long as it is fair.
-/

namespace TiMcu.Tcan4550

open Dialog Ring

variable {mem mem' : Nat → BitVec 32} {a x : Nat} {f : CanFrame}

/-! ### Words in memory -/

private theorem storeWords_outside {ws : List (BitVec 32)} (h : x < a ∨ a + 4 * ws.length ≤ x) :
    storeWords mem a ws x = mem x := by
  induction ws generalizing mem a with
  | nil => rfl
  | cons w ws ih =>
    rw [List.length_cons] at h
    rw [storeWords, ih (by omega), Function.update_of_ne (by omega)]

private theorem storeWords_at {ws : List (BitVec 32)} {k : Nat} (hk : k < ws.length) :
    storeWords mem a ws (a + 4 * k) = ws[k] := by
  induction ws generalizing mem a k with
  | nil => exact absurd hk (Nat.not_lt_zero k)
  | cons w ws ih =>
    rw [storeWords]
    cases k with
    | zero =>
      rw [storeWords_outside (by omega), Nat.mul_zero, Nat.add_zero, Function.update_self]
      rfl
    | succ k =>
      have hshift : a + 4 * (k + 1) = a + 4 + 4 * k := by omega
      rw [hshift, ih (Nat.lt_of_succ_lt_succ hk)]
      rfl

private theorem byte_wordOfBytes (b : Nat → UInt8) (k : Nat) {j : Nat} (hj : j < 4) :
    UInt8.ofBitVec ((wordOfBytes b k).extractLsb' (8 * j) 8) = b (4 * k + j) := by
  have hcases : j = 0 ∨ j = 1 ∨ j = 2 ∨ j = 3 := by omega
  have hbyte : (wordOfBytes b k).extractLsb' (8 * j) 8 = (b (4 * k + j)).toBitVec := by
    unfold wordOfBytes
    rcases hcases with rfl | rfl | rfl | rfl
    · exact BitVec.extractLsb'_append_eq_right
    · exact (BitVec.extractLsb'_append_eq_of_le (Nat.le_refl 8)).trans BitVec.extractLsb'_append_eq_right
    · exact (BitVec.extractLsb'_append_eq_of_le (by omega)).trans
        ((BitVec.extractLsb'_append_eq_of_le (Nat.le_refl 8)).trans BitVec.extractLsb'_append_eq_right)
    · exact (BitVec.extractLsb'_append_eq_of_le (by omega)).trans
        ((BitVec.extractLsb'_append_eq_of_le (by omega)).trans BitVec.extractLsb'_append_eq_left)
  rw [hbyte]

/-- The element at an address stands for the frame. -/
structure Stands (mem : Nat → BitVec 32) (a : Nat) (f : CanFrame) : Prop where
  head : mem a = f.head
  dlc : (mem (a + 4)).extractLsb' 16 4 = f.dlc
  data : ∀ i (h : i < f.data.length), byteAt mem (a + 8) i = f.data[i]

theorem CanFrame.Classic.length_le (h : f.Classic) : f.data.length ≤ 8 := h.2.1

theorem CanFrame.Classic.length_pos (h : f.Classic) : 0 < f.data.length := List.length_pos_iff.2 h.1

private theorem dataLen_le (dlc : BitVec 4) : dataLen dlc ≤ 8 := Nat.min_le_right _ _

private theorem CanFrame.length_words (f : CanFrame) (mark : BitVec 32) (pad : List UInt8) :
    (f.words mark pad).length = 2 + (f.data.length + 3) / 4 := by
  simp [CanFrame.words]
  omega

/-- An element whose words have the bytes of the data. -/
theorem stands_of_words {b : Nat → UInt8} (hhead : mem a = f.head) (hdlc : (mem (a + 4)).extractLsb' 16 4 = f.dlc)
    (hwords : ∀ k < (f.data.length + 3) / 4, mem (a + 8 + 4 * k) = wordOfBytes b k)
    (hb : ∀ i (h : i < f.data.length), b i = f.data[i]) : Stands mem a f := by
  refine ⟨hhead, hdlc, fun i hi => ?_⟩
  rw [byteAt, hwords (i / 4) (by omega), byte_wordOfBytes b _ (Nat.mod_lt i (by decide)), Nat.div_add_mod, hb i hi]

private theorem stands_words (f : CanFrame) (mark : BitVec 32) (pad : List UInt8) :
    Stands (storeWords mem a (f.words mark pad)) a f := by
  have hlen := f.length_words mark pad
  have hword : ∀ k (h : k < (f.words mark pad).length),
      storeWords mem a (f.words mark pad) (a + 4 * k) = (f.words mark pad)[k] := fun k h => storeWords_at h
  have hbytes : ∀ i (h : i < f.data.length), (f.data ++ pad).getD i 0 = f.data[i] := by
    intro i h
    rw [List.getD_append _ _ _ _ h, List.getD_eq_getElem _ _ h]
  refine stands_of_words (b := fun i => (f.data ++ pad).getD i 0) (hword 0 (by omega)) ?_ (fun k hk => ?_) hbytes
  · have hctrl := hword 1 (by omega)
    rw [Nat.mul_one] at hctrl
    rw [hctrl]
    exact (BitVec.extractLsb'_append_eq_of_le (Nat.le_refl 16)).trans BitVec.extractLsb'_append_eq_right
  · have haddress : a + 8 + 4 * k = a + 4 * (k + 2) := by omega
    rw [haddress, hword (k + 2) (by omega)]
    simp [CanFrame.words]

/-- An element takes up four words at most. -/
theorem Stands.congr (h : Stands mem a f) (hf : f.Classic) (hmem : ∀ x, a ≤ x → x < a + 16 → mem' x = mem x) :
    Stands mem' a f := by
  have hlen := hf.length_le
  refine ⟨?_, ?_, fun i hi => ?_⟩
  · rw [hmem a (by omega) (by omega), h.head]
  · rw [hmem (a + 4) (by omega) (by omega), h.dlc]
  · rw [← h.data i hi, byteAt, byteAt, hmem _ (by omega) (by omega)]

private theorem frameAt_congr (hmem : ∀ x, a ≤ x → x < a + 16 → mem' x = mem x) : frameAt mem' a = frameAt mem a := by
  have hctrl := hmem (a + 4) (by omega) (by omega)
  have hdata : (List.range (dataLen ((mem (a + 4)).extractLsb' 16 4))).map (byteAt mem' (a + 8)) =
      (List.range (dataLen ((mem (a + 4)).extractLsb' 16 4))).map (byteAt mem (a + 8)) := by
    refine List.map_congr_left fun i hi => ?_
    have hi8 := Nat.lt_of_lt_of_le (List.mem_range.1 hi) (dataLen_le _)
    rw [byteAt, byteAt, hmem _ (by omega) (by omega)]
  unfold frameAt
  rw [hctrl, hmem a (by omega) (by omega), hdata]

theorem Stands.frameAt_eq (h : Stands mem a f) (hlen : f.data.length = dataLen f.dlc) : frameAt mem a = f := by
  have hdata : (List.range (dataLen f.dlc)).map (byteAt mem (a + 8)) = f.data := by
    refine List.ext_getElem (by simp [hlen]) fun i hi hi' => ?_
    rw [List.getElem_map, List.getElem_range, h.data i hi']
  unfold frameAt
  rw [h.head, h.dlc, hdata]

/-! ### The sections -/

private theorem raise_of_ne {bits : BitVec 32} (h : x ≠ addrMcanIr.toNat) : Controller.raise mem bits x = mem x :=
  Function.update_of_ne h ..

theorem le_dataBytes : ∀ size : BitVec 3, 8 ≤ dataBytes size := by decide

namespace Registers

variable {r : Registers} {k l : Nat}

theorem le_elementSize (r : Registers) : 16 ≤ 8 + r.fifoSize ∧ 16 ≤ 8 + r.txSize :=
  ⟨Nat.add_le_add_left (le_dataBytes _) 8, Nat.add_le_add_left (le_dataBytes _) 8⟩

theorem le_slotStart (r : Registers) (k : Nat) : 0x8000 ≤ r.slotStart k := by
  have hbase : addrMram.toNat = 0x8000 := rfl
  rw [slotStart, fifoStart, hbase]
  omega

theorem le_txStart (r : Registers) : 0x8000 ≤ r.txStart := by
  have hbase : addrMram.toNat = 0x8000 := rfl
  rw [txStart, hbase]
  omega

private theorem slotStart_le (r : Registers) (h : k < l) : r.slotStart k + (8 + r.fifoSize) ≤ r.slotStart l := by
  have hmul : (8 + r.fifoSize) * (k + 1) ≤ (8 + r.fifoSize) * l := Nat.mul_le_mul_left _ h
  rw [Nat.mul_add, Nat.mul_one] at hmul
  rw [slotStart, slotStart]
  omega

/-- Different elements have no byte in common. -/
private theorem slots_apart (r : Registers) (h : k ≠ l) :
    r.slotStart k + (8 + r.fifoSize) ≤ r.slotStart l ∨ r.slotStart l + (8 + r.fifoSize) ≤ r.slotStart k := by
  rcases Nat.lt_or_gt_of_ne h with h | h
  · exact .inl (r.slotStart_le h)
  · exact .inr (r.slotStart_le h)

theorem Inside.slot_le (h : r.Inside) (hk : k < r.count) : r.slotStart k + (8 + r.fifoSize) ≤ 0x8800 := by
  have hend : addrMram.toNat + mramSz.toNat = 0x8800 := rfl
  have hlast := r.slotStart_le hk
  have hfifo := h.fifo
  rw [slotStart] at hlast ⊢
  rw [slotStart] at hlast
  omega

end Registers

private theorem registers_congr {c c' : Controller} (h : ∀ x < 0x8000, x ≠ addrMcanIr.toNat → c'.mem x = c.mem x) :
    c'.registers = c.registers := by
  unfold Controller.registers
  rw [h addrMcanRxf0c.toNat (by decide) (by decide), h addrMcanRxesc.toNat (by decide) (by decide),
    h addrMcanTxbc.toNat (by decide) (by decide), h addrMcanTxesc.toNat (by decide) (by decide)]

/-! ### The invariant -/

/-- The frames that wait stand in their slots, and not in the transmit buffer when it holds a frame; the frame that is
pending stands in the transmit buffer. -/
structure Good (r : Registers) (c : Controller) : Prop where
  registers : c.registers = r
  get : c.getIndex < r.count
  fill : c.fill ≤ r.count
  waits : ∀ i (h : i < c.waiting.length),
    c.waiting[i].Classic ∧ Stands c.mem (r.slotStart (slot r.count c.getIndex i)) c.waiting[i]
  pending : c.pending = true → c.loaded = true
  asked : c.asked = c.sentOut ++ if c.pending then [frameAt c.mem r.txStart] else []
  apart : c.loaded = true → ∀ i < c.fill, r.Apart (slot r.count c.getIndex i)

/-- Besides, the frames that were read, those that were asked for, and the first ones that were received. -/
structure Fine (r : Registers) (acked asked known : List CanFrame) (c : Controller) : Prop where
  good : Good r c
  acked : c.acked = acked
  asked : c.asked = asked
  known : known <+: c.taken

variable {r : Registers} {c c' : Controller} {acked asked known : List CanFrame}

/-- What is not memory stays, and the memory of the elements stays. -/
theorem Good.congr_mem (h : Good r c) {m : Nat → BitVec 32}
    (hregs : ∀ x < 0x8000, x ≠ addrMcanIr.toNat → m x = c.mem x)
    (hslots : ∀ i < c.fill, ∀ x, r.slotStart (slot r.count c.getIndex i) ≤ x →
      x < r.slotStart (slot r.count c.getIndex i) + 16 → m x = c.mem x)
    (htx : c.pending = true → ∀ x, r.txStart ≤ x → x < r.txStart + 16 → m x = c.mem x) :
    Good r { c with mem := m } where
  registers := (registers_congr hregs).trans h.registers
  get := h.get
  fill := h.fill
  waits i hi := by
    obtain ⟨hclassic, hstands⟩ := h.waits i hi
    exact ⟨hclassic, hstands.congr hclassic (hslots i hi)⟩
  pending := h.pending
  asked := by
    rw [h.asked]
    dsimp only
    split
    · next hp => rw [frameAt_congr (htx hp)]
    · rfl
  apart := h.apart

theorem Good.transmit (h : Good r c) (hp : c.pending = true) : Good r (c.happen .transmit) := by
  have hraise : ∀ x, 0x8000 ≤ x → Controller.raise c.mem 0x200 x = c.mem x := by
    intro x hx
    apply raise_of_ne
    rintro rfl
    exact absurd hx (by decide)
  have hmem : Good r { c with mem := Controller.raise c.mem 0x200 } :=
    h.congr_mem (fun x _ hne => raise_of_ne hne)
      (fun i _ x hx _ => hraise x (Nat.le_trans (r.le_slotStart _) hx))
      (fun _ x hx _ => hraise x (Nat.le_trans r.le_txStart hx))
  have hasked := h.asked
  rw [if_pos hp] at hasked
  rw [Controller.happen, if_pos hp, h.registers]
  exact
    { registers := hmem.registers
      get := h.get
      fill := h.fill
      waits := hmem.waits
      pending := Bool.noConfusion
      asked := by rw [hasked]; simp
      apart := Bool.noConfusion }

theorem fair_receive (hc : c.registers = r) (mark : BitVec 32) (pad : List UInt8) :
    c.fair (.receive f mark pad) = true ↔
      c.fill < r.count ∧ f.Classic ∧ (c.loaded = true → r.Apart (slot r.count c.getIndex c.fill)) := by
  simp only [Controller.fair, Controller.slot, hc, Bool.and_eq_true, Bool.or_eq_true, Bool.not_eq_true',
    decide_eq_true_eq, and_assoc]
  cases c.loaded <;> simp

theorem happen_receive (hc : c.registers = r) (hroom : c.fill < r.count) (mark : BitVec 32) (pad : List UInt8) :
    c.happen (.receive f mark pad) = { c with
      mem := Controller.raise (storeWords c.mem (r.slotStart (slot r.count c.getIndex c.fill)) (f.words mark pad)) 1
      waiting := c.waiting ++ [f] } := by
  change c.receive f mark pad = _
  unfold Controller.receive
  dsimp only
  rw [Controller.slot, hc, if_pos hroom]

/-- Outside of its slot a frame changes no element. -/
theorem receive_outside (hf : f.Classic) (hx : 0x8000 ≤ x) (hout : x < a ∨ a + 16 ≤ x) (mark : BitVec 32)
    (pad : List UInt8) : Controller.raise (storeWords mem a (f.words mark pad)) 1 x = mem x := by
  have hlen := f.length_words mark pad
  have hlen8 := hf.length_le
  have hne : x ≠ addrMcanIr.toNat := by
    rintro rfl
    exact absurd hx (by decide)
  rw [raise_of_ne hne, storeWords_outside (by omega)]

theorem Good.receive (h : Good r c) (hroom : c.fill < r.count) (hf : f.Classic)
    (hapart : c.loaded = true → r.Apart (slot r.count c.getIndex c.fill)) (mark : BitVec 32) (pad : List UInt8) :
    Good r (c.happen (.receive f mark pad)) := by
  obtain ⟨hsize, hsizeTx⟩ := r.le_elementSize
  have hlen := f.length_words mark pad
  rw [happen_receive h.registers hroom]
  generalize hput : r.slotStart (slot r.count c.getIndex c.fill) = put
  have hputRam : 0x8000 ≤ put := hput ▸ r.le_slotStart _
  generalize hm : Controller.raise (storeWords c.mem put (f.words mark pad)) 1 = m
  have hout : ∀ x, 0x8000 ≤ x → x < put ∨ put + 16 ≤ x → m x = c.mem x := by
    intro x hx hout
    rw [← hm]
    exact receive_outside hf hx hout mark pad
  have hmem : Good r { c with mem := m } := by
    refine h.congr_mem (fun x hx hne => ?_) (fun i hi x hlo hhi => ?_) fun hp x hlo hhi => ?_
    · rw [← hm, raise_of_ne hne, storeWords_outside (.inl (by omega))]
    · have hne : slot r.count c.getIndex i ≠ slot r.count c.getIndex c.fill := fun heq =>
        absurd (slot_inj (by omega) hroom heq) (Nat.ne_of_lt hi)
      have hapart := r.slots_apart hne
      rw [hput] at hapart
      refine hout x (Nat.le_trans (r.le_slotStart _) hlo) ?_
      omega
    · have hapart := hapart (h.pending hp)
      rw [Registers.Apart, hput] at hapart
      refine hout x (Nat.le_trans r.le_txStart hlo) ?_
      omega
  have hstands : Stands m put f := by
    have hstored : Stands (storeWords c.mem put (f.words mark pad)) put f := stands_words f mark pad
    refine hstored.congr hf fun x hlo _ => ?_
    rw [← hm]
    apply raise_of_ne
    rintro rfl
    have hir : addrMcanIr.toNat = 0x1050 := rfl
    omega
  exact
    { registers := hmem.registers
      get := h.get
      fill := by
        change (c.waiting ++ [f]).length ≤ r.count
        rw [List.length_append]
        exact hroom
      waits := by
        intro i hi
        dsimp only at hi ⊢
        rcases Nat.lt_or_ge i c.waiting.length with hlt | hge
        · rw [List.getElem_append_left hlt]
          exact hmem.waits i hlt
        · have heq : i = c.waiting.length := by
            rw [List.length_append, List.length_singleton] at hi
            omega
          subst heq
          rw [List.getElem_append_right (Nat.le_refl _)]
          simp only [Nat.sub_self, List.getElem_cons_zero]
          rw [← hput] at hstands
          exact ⟨hf, hstands⟩
      pending := h.pending
      asked := hmem.asked
      apart := by
        intro hloaded i hi
        change i < (c.waiting ++ [f]).length at hi
        rw [List.length_append, List.length_singleton] at hi
        rcases Nat.lt_or_ge i c.waiting.length with hlt | hge
        · exact h.apart hloaded i hlt
        · have heq : i = c.fill := Nat.le_antisymm (Nat.le_of_lt_succ hi) hge
          rw [heq]
          exact hapart hloaded }

/-- Everything fair keeps the invariant. -/
theorem Good.happen (h : Good r c) {e : BusEvent} (hfair : c.fair e = true) : Good r (c.happen e) := by
  cases e with
  | transmit => exact h.transmit hfair
  | receive f mark pad =>
    obtain ⟨hroom, hf, hapart⟩ := (fair_receive h.registers mark pad).1 hfair
    exact h.receive hroom hf hapart mark pad

/-- What was received is added to, and what was asked for stays. -/
private theorem happen_records {e : BusEvent} (hfair : c.fair e = true) :
    (c.happen e).acked = c.acked ∧ (c.happen e).asked = c.asked ∧ c.taken <+: (c.happen e).taken := by
  cases e with
  | transmit =>
    have hp : c.pending = true := hfair
    rw [Controller.happen, if_pos hp]
    exact ⟨rfl, rfl, List.prefix_refl _⟩
  | receive f mark pad =>
    simp only [Controller.fair, Bool.and_eq_true, decide_eq_true_eq] at hfair
    change (c.receive f mark pad).acked = _ ∧ (c.receive f mark pad).asked = _ ∧ _ <+: (c.receive f mark pad).taken
    unfold Controller.receive
    dsimp only
    rw [if_pos hfair.1.1]
    refine ⟨rfl, rfl, ?_⟩
    change _ <+: c.acked ++ (c.waiting ++ [f])
    rw [← List.append_assoc]
    exact List.prefix_append _ _

theorem Fine.stable : controller.Stable (Fine r acked asked known) := by
  intro c e h hfair
  obtain ⟨hacked, hasked, htaken⟩ := happen_records hfair
  exact ⟨h.good.happen hfair, hacked.trans h.acked, hasked.trans h.asked, h.known.trans htaken⟩

end TiMcu.Tcan4550
