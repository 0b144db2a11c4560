import TiMcu.Tcan4550.Sent

/-!
# A frame is read from the FIFO

`TCAN4x5x_MCAN_ReadNextFIFO` hands out the frame that has waited longest and gives its element back, while the
controller goes on to receive.
-/

namespace TiMcu.Tcan4550

open Dialog Ring Live

/-! ### The status of the FIFO -/

section

variable {w : BitVec 32} {x y z : Nat}

private theorem status_fill (hw : w.toNat = x + 0x100 * z) (hx : x < 128) :
    (w &&& 0x7F).toNat = x ∧ (w.extractLsb' 0 7).toNat = x := by
  have hmask : (0x7F#32).toNat = 2 ^ 7 - 1 := rfl
  constructor
  · change (w &&& 0x7F#32).toNat = x
    rw [BitVec.toNat_and, hmask, Nat.and_two_pow_sub_one_eq_mod]
    omega
  · rw [BitVec.extractLsb'_toNat]
    omega

private theorem status_get (hw : w.toNat = x + 0x100 * (y + 0x100 * z)) (hx : x < 128) (hy : y < 64) :
    (((w &&& 0x3F00) >>> 8).setWidth 8).toNat = y := by
  have hmask : (0x3F00#32).toNat >>> 8 = 2 ^ 6 - 1 := rfl
  change (((w &&& 0x3F00#32) >>> 8).setWidth 8).toNat = y
  rw [BitVec.toNat_setWidth, BitVec.toNat_ushiftRight, BitVec.toNat_and, Nat.shiftRight_and_distrib, hmask,
    Nat.and_two_pow_sub_one_eq_mod, Nat.shiftRight_eq_div_pow]
  omega

end

section

variable {r : Registers} {c : Controller} {acked asked known : List CanFrame} {a : BitVec 16} {g : Nat} {f : CanFrame}

theorem Good.status (hr : r.Inside) (h : Good r c) :
    ∃ z, c.status.toNat = c.fill + 0x100 * (c.getIndex + 0x100 * z) := by
  have hslot : c.slot c.fill < r.count := by
    rw [Controller.slot, h.registers]
    exact slot_lt hr.some _ _
  have hcount := hr.count
  have hget := h.get
  have hfill := h.fill
  refine ⟨c.slot c.fill + 0x100 * (if c.fill = c.registers.count then 1 else 0), ?_⟩
  have hfull : (if c.fill = c.registers.count then 1 else 0) ≤ 1 := by split <;> decide
  rw [Controller.status, BitVec.toNat_ofNat]
  omega

/-! ### The oldest frame -/

/-- The oldest frame that waits, and its element. -/
structure Oldest (r : Registers) (acked asked known : List CanFrame) (g : Nat) (f : CanFrame) (c : Controller) :
    Prop where
  fine : Fine r acked asked known c
  get : c.getIndex = g
  front : c.waiting.head? = some f

private theorem free_oldest :
    Free (Oldest r acked asked known g f) := fun c o a h => ⟨free_fine c o a h.fine, h.get, h.front⟩

private theorem stable_oldest : controller.Stable (Oldest r acked asked known g f) := by
  intro c e h hfair
  have hfine := Fine.stable c e h.fine hfair
  cases e with
  | transmit =>
    have hp : c.pending = true := hfair
    have hhappen : controller.happen c .transmit = _ := if_pos hp
    refine ⟨hfine, ?_, ?_⟩
    · rw [hhappen]
      exact h.get
    · rw [hhappen]
      exact h.front
  | receive f' mark pad =>
    have hregs := h.fine.good.registers
    obtain ⟨hroom, -, -⟩ := (fair_receive hregs mark pad).1 hfair
    have hhappen : controller.happen c (.receive f' mark pad) = _ := happen_receive hregs hroom mark pad
    refine ⟨hfine, ?_, ?_⟩
    · rw [hhappen]
      exact h.get
    · rw [hhappen]
      dsimp only
      rw [List.head?_append, h.front]
      rfl

/-- Its element stands for it. -/
theorem Oldest.stands (h : Oldest r acked asked known g f c) : f.Classic ∧ Stands c.mem (r.slotStart g) f := by
  obtain ⟨rest, hrest⟩ := List.head?_eq_some_iff.1 h.front
  have hlen : 0 < c.waiting.length := by rw [hrest]; exact Nat.succ_pos _
  have hwaits := h.fine.good.waits 0 hlen
  have hfirst : c.waiting[0] = f := by simp [hrest]
  rwa [hfirst, slot_zero h.fine.good.get, h.get] at hwaits

/-- Its element is given back. -/
theorem Oldest.acknowledge (h : Oldest r acked asked known g f c) (o : BitVec 8) (x : BitVec 16) :
    Fine r (acked ++ [f]) asked known ({ c with opCode := o, address := x }.acknowledge g) := by
  obtain ⟨rest, hrest⟩ := List.head?_eq_some_iff.1 h.front
  have hgood := h.fine.good
  have hget := hgood.get
  have hregs : ({ c with opCode := o, address := x } : Controller).registers = r := hgood.registers
  have hfill : c.fill = rest.length + 1 := by rw [Controller.fill, hrest, List.length_cons]
  have hk : (g + r.count - c.getIndex) % r.count + 1 = 1 := by
    rw [h.get, Nat.add_sub_cancel_left, Nat.mod_self]
  have hack : ({ c with opCode := o, address := x } : Controller).acknowledge g = { c with
      opCode := o
      address := x
      getIndex := slot r.count g 1
      acked := c.acked ++ [f]
      waiting := rest } := by
    unfold Controller.acknowledge
    dsimp only
    rw [hregs, hk, if_pos ⟨h.get ▸ hget, by change 1 ≤ c.fill; omega⟩, hrest]
    rfl
  have hslots : ∀ i, slot r.count (slot r.count g 1) i = slot r.count c.getIndex (i + 1) := by
    intro i
    rw [slot_slot, h.get, Nat.add_comm]
  rw [hack]
  refine ⟨⟨hregs, slot_lt (Nat.lt_of_le_of_lt (Nat.zero_le _) hget) _ _, ?_, fun i hi => ?_, hgood.pending, hgood.asked,
    fun hloaded i hi => ?_⟩, ?_, h.fine.asked, ?_⟩
  · have hle := hgood.fill
    change rest.length ≤ r.count
    omega
  · have hi' : i + 1 < c.waiting.length := by
      rw [hrest, List.length_cons]
      exact Nat.succ_lt_succ hi
    have hwaits := hgood.waits (i + 1) hi'
    have hitem : c.waiting[i + 1] = rest[i] := by simp [hrest]
    rw [hitem] at hwaits
    rw [hslots]
    exact hwaits
  · change i < rest.length at hi
    rw [hslots]
    exact hgood.apart hloaded (i + 1) (by omega)
  · exact congrArg (· ++ [f]) h.fine.acked
  · have hknown := h.fine.known
    rw [Controller.taken, hrest] at hknown
    rw [Controller.taken]
    simpa using hknown

private theorem wordAt_ram (c : Controller) (ha : 0x8000 ≤ a.toNat) : c.wordAt a = c.mem a.toNat := by
  rw [Controller.wordAt, if_neg]
  rintro rfl
  exact absurd ha (by decide)

/-- A read from memory. -/
private theorem triple_readOldest {R : BitVec 32 → Prop} {op : BitVec 8} (ha : 0x8000 ≤ a.toNat)
    (hR : ∀ c, Oldest r acked asked known g f c → R (c.mem a.toNat)) :
    Triple (On op a (Oldest r acked asked known g f)) (controller.perform readSpiBurst) fun w c =>
      R w ∧ On op (a + 4) (Oldest r acked asked known g f) c := by
  have hread : Triple (On op a (Oldest r acked asked known g f)) _ _ :=
    triple_read (R := fun w c => R w ∧ On op (a + 4) (Oldest r acked asked known g f) c) stable_oldest
      fun c h => ⟨wordAt_ram c ha ▸ hR c h.holds, h.opCode, rfl, free_oldest c _ _ h.holds⟩
  exact hread.andThen _ fun x => triple_pure fun c h => h.2

/-- The bytes of word `k` of the data. -/
def WordOf (f : CanFrame) (k : Nat) (w : BitVec 32) : Prop :=
  ∀ j < 4, 4 * k + j < f.data.length → UInt8.ofBitVec (w.extractLsb' (8 * j) 8) = f.data.getD (4 * k + j) 0

theorem Oldest.wordOf (h : Oldest r acked asked known g f c) (k : Nat) :
    WordOf f k (c.mem (r.slotStart g + 8 + 4 * k)) := by
  intro j hj hlen
  obtain ⟨-, hstands⟩ := h.stands
  have hbyte := hstands.data (4 * k + j) hlen
  have hdiv : (4 * k + j) / 4 = k := by omega
  have hmod : (4 * k + j) % 4 = j := by omega
  rw [byteAt, hdiv, hmod] at hbyte
  rw [hbyte, List.getD_eq_getElem _ _ hlen]

/-- Byte by byte: a word is read for the first of four. -/
private theorem triple_readPayload (n i : Nat) (hn : i + n = f.data.length) (hlen : f.data.length ≤ 8)
    {readData : BitVec 32}
    {dataPayload : Nat → BitVec 8} {op : BitVec 8} (hword : i % 4 ≠ 0 → WordOf f (i / 4) readData)
    (hbytes : ∀ j < i, UInt8.ofBitVec (dataPayload j) = f.data.getD j 0)
    (ha : a.toNat = r.slotStart g + 8 + 4 * ((i + 3) / 4)) (hend : r.slotStart g + 16 ≤ 0x8800) :
    Triple (On op a (Oldest r acked asked known g f))
      (controller.perform (readPayload n i readData dataPayload)) fun p c =>
        (∀ j < f.data.length, UInt8.ofBitVec (p j) = f.data.getD j 0) ∧ Oldest r acked asked known g f c := by
  induction n generalizing i readData dataPayload a with
  | zero =>
    refine triple_pure fun c h => ⟨fun j hj => hbytes j (by omega), h.holds⟩
  | succ n ih =>
    have hram := r.le_slotStart g
    have hrest : ∀ (next : BitVec 16) (w : BitVec 32), next.toNat = r.slotStart g + 8 + 4 * ((i + 1 + 3) / 4) →
        WordOf f (i / 4) w → Triple (On op next (Oldest r acked asked known g f))
          (controller.perform
            (readPayload n (i + 1) w (Function.update dataPayload i (w.extractLsb' (8 * (i % 4)) 8)))) fun p c =>
              (∀ j < f.data.length, UInt8.ofBitVec (p j) = f.data.getD j 0) ∧ Oldest r acked asked known g f c := by
      intro next w hnext hw
      refine ih (i + 1) (by omega) (fun hmod => ?_) (fun j hj => ?_) hnext
      · rw [show (i + 1) / 4 = i / 4 by omega]
        exact hw
      · rcases Nat.lt_succ_iff_lt_or_eq.1 hj with hlt | rfl
        · rw [Function.update_of_ne (Nat.ne_of_lt hlt)]
          exact hbytes j hlt
        · rw [Function.update_self, hw (j % 4) (Nat.mod_lt _ (by decide)) (by omega), Nat.div_add_mod]
    rw [readPayload]
    by_cases hi : i % 4 = 0
    · rw [if_pos hi]
      have haddress : a.toNat = r.slotStart g + 8 + 4 * (i / 4) := by omega
      have hadvance : (a + 4).toNat = a.toNat + 4 := toNat_advance rfl rfl (by omega)
      have hread : Triple (On op a (Oldest r acked asked known g f)) _ _ :=
        triple_readOldest (R := WordOf f (i / 4)) (by omega) fun c h => haddress ▸ h.wordOf (i / 4)
      refine hread.andThen _ fun w => ?_
      refine Triple.of_fact (c := WordOf f (i / 4) w) (fun c h => h.1) fun hw => ?_
      exact (hrest (a + 4) w (by omega) hw).mono (fun c h => h.2) fun _ _ h => h
    · rw [if_neg hi]
      exact hrest a readData (by omega) (hword hi)

/-- The status says that the FIFO is empty, or which element is the oldest one. -/
def StatusShows (r : Registers) (acked asked known : List CanFrame) (status : BitVec 32) (c : Controller) : Prop :=
  (status &&& 0x7F = 0 ∧ known.length ≤ acked.length ∧ Fine r acked asked known c) ∨
    (status &&& 0x7F ≠ 0 ∧ ∃ f, Oldest r acked asked known (getIndexOf status).toNat f c)

theorem Fine.status (hr : r.Inside) (h : Fine r acked asked known c) : StatusShows r acked asked known c.status c := by
  obtain ⟨z, hz⟩ := h.good.status hr
  have hcount := hr.count
  have hfill := h.good.fill
  have hget := h.good.get
  obtain ⟨hlevel, -⟩ := status_fill hz (by omega)
  have hindex : (getIndexOf c.status).toNat = c.getIndex := status_get hz (by omega) (by omega)
  cases hwaiting : c.waiting with
  | nil =>
    have hknown := h.known
    rw [Controller.taken, hwaiting, List.append_nil, h.acked] at hknown
    refine .inl ⟨BitVec.eq_of_toNat_eq ?_, hknown.length_le, h⟩
    rw [hlevel, Controller.fill, hwaiting]
    rfl
  | cons f rest =>
    refine .inr ⟨fun hzero => ?_, f, h, hindex.symm, ?_⟩
    · rw [hzero, Controller.fill, hwaiting] at hlevel
      exact absurd hlevel (by simp)
    · rw [hwaiting]
      rfl

private theorem free_statusShows (status : BitVec 32) : Free (StatusShows r acked asked known status) := by
  rintro c o x (⟨hzero, hlen, h⟩ | ⟨hsome, f, h⟩)
  · exact .inl ⟨hzero, hlen, free_fine c o x h⟩
  · exact .inr ⟨hsome, f, free_oldest c o x h⟩

private theorem triple_readStatus (hr : r.Inside) :
    Triple (Fine r acked asked known) (controller.perform (readReg addrMcanRxf0s)) fun x c =>
      x.1 = true ∧ StatusShows r acked asked known x.2 c :=
  triple_readReg Fine.stable free_fine (fun _ h => h.status hr) free_statusShows

private theorem triple_readSame (address : BitVec 16) (word : BitVec 32) {P : Controller → Prop}
    (hP : controller.Stable P)
    (hfree : Free P) (hword : ∀ c, P c → c.wordAt address = word) :
    Triple P (controller.perform (readReg address)) fun x c => x.2 = word ∧ P c := by
  have hread := triple_readReg (R := fun w c => w = word ∧ P c) hP hfree (fun c h => ⟨hword c h, h⟩)
    fun w c o x h => ⟨h.1, hfree c o x h.2⟩
  exact hread.mono (fun _ h => h) fun _ _ h => h.2

/-- What `TCAN4x5x_MCAN_ReadNextFIFO` hands out. -/
def Handed (r : Registers) (acked asked known : List CanFrame) (n : BitVec 8) (dataPayload : Nat → BitVec 8)
    (c : Controller) : Prop :=
  (n = 0 ∧ known.length ≤ acked.length ∧ Fine r acked asked known c) ∨
    ∃ f, n ≠ 0 ∧ payloadBytes dataPayload n.toNat = f.data ∧ Fine r (acked ++ [f]) asked known c

private theorem triple_acknowledge {index : BitVec 8} (hg : index.toNat = g) (hlt : g < 64) :
    Triple (Oldest r acked asked known g f) (controller.perform (writeReg addrMcanRxf0a (index.setWidth 32)))
      fun _ c => Fine r (acked ++ [f]) asked known c := by
  have hindex : (index.setWidth 32).toNat % 64 = g := by
    rw [BitVec.toNat_setWidth_of_le (by decide), hg, Nat.mod_eq_of_lt hlt]
  refine (triple_writeReg stable_oldest free_oldest fun c h _ => ?_).mono (fun _ h => h) fun _ _ h => h.2
  unfold Controller.store
  rw [if_pos h.address, hindex]
  exact h.holds.acknowledge c.opCode (c.address + 4)

private theorem elementSize_rxFifo0 (word : BitVec 32) :
    (RxFifo.rxFifo0.elementSize word).toNat = dataBytes (word.extractLsb' 0 3) := by
  have hbits : (word &&& 0x07).setWidth 8 = (word.extractLsb' 0 3).setWidth 8 := by
    apply BitVec.eq_of_toNat_eq
    have hmask : (7#32).toNat = 2 ^ 3 - 1 := rfl
    change ((word &&& 7#32).setWidth 8).toNat = _
    rw [BitVec.toNat_setWidth, BitVec.toNat_and, hmask, Nat.and_two_pow_sub_one_eq_mod, BitVec.toNat_setWidth,
      BitVec.extractLsb'_toNat]
    omega
  change (txrxesc2dataBytes ((word &&& 0x07).setWidth 8)).toNat = _
  rw [hbits]
  rfl

/-- Where the element is read. -/
private theorem toNat_elementAddress (hr : r.Inside) {index : BitVec 8} (hg : index.toNat = g) (hlt : g < r.count) :
    (r.rxf0c.setWidth 16 + addrMram.setWidth 16 +
      (((RxFifo.rxFifo0.elementSize r.rxesc).setWidth 32 + 8) * index.setWidth 32).setWidth 16 : BitVec 16).toNat =
        r.slotStart g := by
  have hsize := elementSize_rxFifo0 r.rxesc
  have hend := hr.slot_le hlt
  have hle := dataBytes_le (r.rxesc.extractLsb' 0 3)
  have hcount := hr.count
  have hmul : (8 + dataBytes (r.rxesc.extractLsb' 0 3)) * g ≤ 72 * 64 := Nat.mul_le_mul (by omega) (by omega)
  generalize RxFifo.rxFifo0.elementSize r.rxesc = elementSize at hsize ⊢
  have hconfig : (r.rxf0c.setWidth 16).toNat = (r.rxf0c.extractLsb' 0 16).toNat := by simp
  have hbase : (addrMram.setWidth 16).toNat = addrMram.toNat := rfl
  have hoffset : (((elementSize.setWidth 32 + 8) * index.setWidth 32).setWidth 16).toNat =
      (8 + dataBytes (r.rxesc.extractLsb' 0 3)) * g := by
    have height : (8 : BitVec 32).toNat = 8 := rfl
    have hsum : (elementSize.setWidth 32 + 8).toNat = 8 + dataBytes (r.rxesc.extractLsb' 0 3) := by
      rw [BitVec.toNat_add, BitVec.toNat_setWidth_of_le (by decide), hsize, height]
      omega
    rw [BitVec.toNat_setWidth, BitVec.toNat_mul, hsum, BitVec.toNat_setWidth_of_le (by decide), hg]
    omega
  rw [Registers.slotStart, Registers.fifoStart, Registers.fifoSize] at hend ⊢
  have hstart := toNat_advance hconfig hbase (by omega)
  rw [toNat_advance hstart hoffset (by omega), Nat.add_comm (BitVec.toNat _)]

/-- The element is read and given back. -/
private theorem triple_readElement (hr : r.Inside) (garbage : BitVec 8) (dataPayload : Nat → BitVec 8)
    {index : BitVec 8}
    (hg : index.toNat = g) :
    Triple (Oldest r acked asked known g f) (controller.perform (readElement garbage .rxFifo0 index dataPayload))
      fun x c => Handed r acked asked known x.1 x.2.2 c := by
  unfold readElement
  refine Triple.of_fact (c := g < r.count ∧ f.Classic) (fun c h => ⟨h.get ▸ h.fine.good.get, h.stands.1⟩) ?_
  rintro ⟨hlt, hf⟩
  have hlen := hf.length_le
  refine (triple_readSame addrMcanRxf0c r.rxf0c stable_oldest free_oldest fun c h =>
    congrArg Registers.rxf0c h.fine.good.registers).andThen _ ?_
  rintro ⟨ok, config⟩
  refine Triple.of_fact (c := config = r.rxf0c) (fun c h => h.1) fun hconfig => ?_
  subst hconfig
  refine ((triple_readSame addrMcanRxesc r.rxesc stable_oldest free_oldest fun c h =>
    congrArg Registers.rxesc h.fine.good.registers).mono (fun c h => h.2) fun _ _ h => h).andThen _ ?_
  rintro ⟨ok', sizes⟩
  refine Triple.of_fact (c := sizes = r.rxesc) (fun c h => h.1) fun hsizes => ?_
  subst hsizes
  have haddress := toNat_elementAddress hr hg hlt
  have hsize := elementSize_rxFifo0 r.rxesc
  have hend := hr.slot_le hlt
  have hmin := le_dataBytes (r.rxesc.extractLsb' 0 3)
  have h16 := r.le_elementSize.1
  dsimp only
  generalize RxFifo.rxFifo0.elementSize r.rxesc = elementSize at haddress hsize ⊢
  generalize r.rxf0c.setWidth 16 + addrMram.setWidth 16 +
    ((elementSize.setWidth 32 + 8) * index.setWidth 32).setWidth 16 = a at haddress ⊢
  have hram := r.le_slotStart g
  have hcount := hr.count
  have hnext : (a + 4).toNat = a.toNat + 4 := toNat_advance rfl rfl (by omega)
  have hnext8 : (a + 8).toNat = a.toNat + 8 := toNat_advance rfl rfl (by omega)
  -- the header words
  have hheader : ∀ (x : BitVec 16) words, Triple (Oldest r acked asked known g f)
      (controller.perform (sendSpiHeader opCodeRead x words)) fun ok c =>
        ok = true ∧ On opCodeRead x (Oldest r acked asked known g f) c :=
    fun x words => triple_header stable_oldest free_oldest opCodeRead x words
  refine ((hheader a 2).mono (fun c h => h.2) fun _ _ h => h).andThen _ fun _ => ?_
  have hw0 : Triple (On opCodeRead a (Oldest r acked asked known g f)) _ _ :=
    triple_readOldest (R := fun _ => True) (by omega) fun _ _ => trivial
  refine (hw0.mono (fun c h => h.2) fun _ _ h => h).andThen _ fun w0 => ?_
  have hw1 : Triple (On opCodeRead (a + 4) (Oldest r acked asked known g f)) _ _ :=
    triple_readOldest (R := fun w => w.extractLsb' 16 4 = f.dlc) (by omega) fun c h => by
      rw [hnext, haddress]
      exact h.stands.2.dlc
  refine (hw1.mono (fun c h => h.2) fun _ _ h => h).andThen _ fun w1 => ?_
  refine Triple.of_fact (c := w1.extractLsb' 16 4 = f.dlc) (fun c h => h.1) fun hdlc => ?_
  have hbytes : (dlc2bytes ((RxHeader.ofWords w0 w1).dlc.setWidth 8)).toNat = f.data.length := by
    change (dlc2bytes ((w1.extractLsb' 16 4).setWidth 8)).toNat = _
    rw [hdlc]
    exact hf.2.2
  generalize dlc2bytes ((RxHeader.ofWords w0 w1).dlc.setWidth 8) = bytes at hbytes ⊢
  have hcut : (if bytes < elementSize then bytes else elementSize).toNat = f.data.length := by
    split
    · exact hbytes
    · next hge =>
      rw [BitVec.lt_def] at hge
      omega
  generalize (if bytes < elementSize then bytes else elementSize) = n at hcut ⊢
  have hpos := hf.length_pos
  have hn : 0 < n := by
    rw [BitVec.lt_def, hcut]
    exact hpos
  rw [if_pos hn]
  -- the data
  refine ((hheader (a + 8) ((n + 3) >>> 2)).mono (fun c h => h.2.holds) fun _ _ h => h).andThen _ fun _ => ?_
  have hdata : Triple (On opCodeRead (a + 8) (Oldest r acked asked known g f))
      (controller.perform (readPayload n.toNat 0 w1 dataPayload)) _ :=
    triple_readPayload n.toNat 0 (by omega) hlen (fun h => absurd rfl h) (fun j hj => absurd hj (Nat.not_lt_zero j))
      (by omega) (by omega)
  refine (hdata.mono (fun c h => h.2) fun _ _ h => h).andThen _ fun p => ?_
  refine Triple.of_fact (c := ∀ j < f.data.length, UInt8.ofBitVec (p j) = f.data.getD j 0) (fun c h => h.1) fun hp => ?_
  refine ((triple_acknowledge hg (by omega)).mono (fun c h => h.2) fun _ _ h => h).andThen _ fun _ => ?_
  refine triple_pure fun c h => .inr ⟨f, ?_, ?_, h⟩
  · rintro rfl
    exact absurd hcut (Nat.ne_of_lt hpos)
  · rw [payloadBytes, hcut]
    refine List.ext_getElem (by simp) fun j hj hj' => ?_
    rw [List.getElem_map, List.getElem_range, hp j hj', List.getD_eq_getElem _ _ hj']

theorem triple_readNextFifo (hr : r.Inside) (garbage : BitVec 8) (header : RxHeader) (dataPayload : Nat → BitVec 8) :
    Triple (Fine r acked asked known) (controller.perform (readNextFifo garbage .rxFifo0 header dataPayload))
      fun x c => Handed r acked asked known x.1 x.2.2 c := by
  unfold readNextFifo
  refine (triple_readStatus hr).andThen _ ?_
  rintro ⟨ok, status⟩
  dsimp only
  by_cases hzero : status &&& 0x7F = 0
  · rw [if_pos hzero]
    refine triple_pure fun c h => ?_
    rcases h.2 with h | h
    · exact .inl ⟨rfl, h.2⟩
    · exact absurd hzero h.1
  · rw [if_neg hzero]
    have helement : ∀ f, Triple (Oldest r acked asked known (getIndexOf status).toNat f) _ _ :=
      fun f => triple_readElement hr garbage dataPayload rfl
    refine (Triple.of_exists helement).mono (fun c h => ?_) fun _ _ h => h
    rcases h.2 with h | h
    · exact absurd h.1 hzero
    · exact h.2

/-! ### The other registers -/

/-- The number of elements that wait. -/
theorem triple_getFifoCnt (hr : r.Inside) :
    Triple (Fine r acked asked known) (controller.perform (getFifoCnt 0)) fun n c =>
      known.length ≤ acked.length + n.toNat ∧ Fine r acked asked known c := by
  let Level := fun (w : BitVec 32) (c : Controller) =>
    known.length ≤ acked.length + (w.extractLsb' 0 7).toNat ∧ Fine r acked asked known c
  have hlevel : ∀ c, Fine r acked asked known c → Level c.status c := by
    intro c h
    obtain ⟨z, hz⟩ := h.good.status hr
    have hcount := hr.count
    have hfill := h.good.fill
    obtain ⟨-, hlow⟩ := status_fill hz (by omega)
    have hlen := h.known.length_le
    rw [Controller.taken, List.length_append, h.acked] at hlen
    exact ⟨by rw [hlow]; exact hlen, h⟩
  have hread : Triple (Fine r acked asked known) (controller.perform (readReg addrMcanRxf0s)) fun x c =>
      x.1 = true ∧ Level x.2 c :=
    triple_readReg Fine.stable free_fine hlevel fun w c o x h => ⟨h.1, free_fine c o x h.2⟩
  rw [getFifoCnt, if_pos rfl]
  refine hread.andThen _ ?_
  rintro ⟨res, word⟩
  refine triple_pure fun c h => ?_
  obtain ⟨hres, hlen, hfine⟩ := h
  have hres' : res = true := hres
  subst hres'
  refine ⟨?_, hfine⟩
  change known.length ≤ acked.length + ((word.extractLsb' 0 7).setWidth 8).toNat
  rw [BitVec.toNat_setWidth_of_le (by decide)]
  exact hlen

theorem triple_readAny (address : BitVec 16) :
    Triple (Fine r acked asked known) (controller.perform (readReg address)) fun _ c => Fine r acked asked known c :=
  (triple_readReg (R := fun _ c => Fine r acked asked known c) Fine.stable free_fine (fun _ h => h)
    fun _ => free_fine).mono (fun _ h => h) fun _ _ h => h.2

/-- Interrupts are cleared. -/
theorem triple_clearIr (intReg : BitVec 32) :
    Triple (Fine r acked asked known) (controller.perform (writeReg addrMcanIr intReg)) fun _ c =>
      Fine r acked asked known c := by
  refine (triple_writeReg Fine.stable free_fine fun c h _ => ?_).mono (fun _ h => h) fun _ _ h => h.2
  have hstore : c.store intReg = { c with
      address := c.address + 4
      mem := Function.update c.mem addrMcanIr.toNat (c.mem addrMcanIr.toNat &&& ~~~intReg) } := by
    unfold Controller.store
    rw [h.address, if_neg (by decide), if_neg (by decide), if_pos rfl]
  have hout : ∀ x, 0x8000 ≤ x →
      Function.update c.mem addrMcanIr.toNat (c.mem addrMcanIr.toNat &&& ~~~intReg) x = c.mem x := by
    intro x hx
    apply Function.update_of_ne
    rintro rfl
    exact absurd hx (by decide)
  have hgood := h.holds.good.congr_mem (fun x _ hne => Function.update_of_ne hne ..)
    (fun i _ x hlo _ => hout x (Nat.le_trans (r.le_slotStart _) hlo))
    fun _ x hlo _ => hout x (Nat.le_trans r.le_txStart hlo)
  rw [hstore]
  exact free_fine _ c.opCode (c.address + 4) ⟨hgood, h.holds.acked, h.holds.asked, h.holds.known⟩

end

end TiMcu.Tcan4550
