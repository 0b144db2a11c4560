import TiMcu.Tcan4550.Kept

/-!
# A frame is put up for sending

Rules for the transfers of the driver on a controller that acts on its own, and from them what `tcan4550_send_std` does:
the frame that it is given is asked for, whatever the controller sends and receives meanwhile.
-/

namespace TiMcu.Tcan4550

open Dialog Ring Live

/-! ### Transfers -/

section

variable {P : Controller → Prop} {op : BitVec 8} {a : BitVec 16}

/-- The assertion does not look at the transfer that goes on. -/
def Free (P : Controller → Prop) : Prop := ∀ c o a, P c → P { c with opCode := o, address := a }

/-- The next word of the transfer is at that address. -/
structure On (op : BitVec 8) (a : BitVec 16) (P : Controller → Prop) (c : Controller) : Prop where
  opCode : c.opCode = op
  address : c.address = a
  holds : P c

private theorem happen_transfer (c : Controller) (e : BusEvent) :
    (c.happen e).opCode = c.opCode ∧ (c.happen e).address = c.address := by
  cases e with
  | transmit =>
    rw [Controller.happen]
    split <;> exact ⟨rfl, rfl⟩
  | receive f mark pad =>
    change (c.receive f mark pad).opCode = _ ∧ (c.receive f mark pad).address = _
    unfold Controller.receive
    dsimp only
    split
    · exact ⟨rfl, rfl⟩
    · split <;> exact ⟨rfl, rfl⟩

private theorem stable_on (hP : controller.Stable P) : controller.Stable (On op a P) := by
  intro c e h hfair
  obtain ⟨hop, haddress⟩ := happen_transfer c e
  exact ⟨hop.trans h.opCode, haddress.trans h.address, hP c e h.holds hfair⟩

theorem triple_header (hP : controller.Stable P) (hfree : Free P) (op : BitVec 8) (a : BitVec 16) (words : BitVec 8) :
    Triple P (controller.perform (sendSpiHeader op a words)) fun ok c => ok = true ∧ On op a P c := by
  refine Triple.andThen (Q := fun r c => r.ok = true ∧ On op a P c) _ ?_ fun r => triple_pure fun c h => h
  exact triple_question _ hP fun c h _ => ⟨rfl, rfl, rfl, hfree c _ _ h⟩

private theorem triple_burst {Q : Controller → Prop} (hP : controller.Stable P) (word : BitVec 32)
    (hQ : ∀ c, On opCodeWrite a P c → c.timely (.burst word) = true → Q (c.store word)) :
    Triple (On opCodeWrite a P) (controller.perform (sendSpiBurst word)) fun ok c => ok = true ∧ Q c := by
  refine Triple.andThen (Q := fun r c => r.ok = true ∧ Q c) _ ?_ fun r => triple_pure fun c h => h
  refine triple_question _ (stable_on hP) fun c h htimely => ⟨rfl, ?_⟩
  change Q (if c.opCode = opCodeWrite then c.store word else c)
  rw [if_pos h.opCode]
  exact hQ c h htimely

theorem triple_read {R : BitVec 32 → Controller → Prop} (hP : controller.Stable P)
    (hR : ∀ c, On op a P c → R (c.wordAt a) { c with address := a + 4 }) :
    Triple (On op a P) (controller.perform spiRead) fun x c => x.1 = true ∧ R x.2 c := by
  refine Triple.andThen (Q := fun r c => r.ok = true ∧ R r.word c) _ ?_ fun r => triple_pure fun c h => h
  refine triple_question _ (stable_on hP) fun c h _ => ⟨rfl, ?_⟩
  have haddress := h.address
  change R (c.wordAt c.address) { c with address := c.address + 4 }
  rw [haddress]
  exact hR c h

theorem triple_readReg {R : BitVec 32 → Controller → Prop} (hP : controller.Stable P) (hfree : Free P)
    {address : BitVec 16} (hR : ∀ c, P c → R (c.wordAt address) c) (hRfree : ∀ w, Free (R w)) :
    Triple P (controller.perform (readReg address)) fun x c => x.1 = true ∧ R x.2 c := by
  have hproc : Triple P (controller.perform (readRegProc address)) fun x c => R x.2 c := by
    refine (triple_header hP hfree opCodeRead address 1).andThen _ fun res => ?_
    refine Triple.andThen (Q := fun x c => x.1 = true ∧ R x.2 c) _ ?_ fun x => triple_pure fun c h => h.2
    refine (triple_read hP fun c h => ?_).mono (fun c h => h.2) fun _ _ h => h
    exact hRfree _ c c.opCode (address + 4) (hR c h.holds)
  exact hproc.andThen _ fun x => triple_pure fun c h => ⟨rfl, h⟩

theorem triple_writeReg {Q : Controller → Prop} (hP : controller.Stable P) (hfree : Free P) {address : BitVec 16}
    {regVal : BitVec 32}
    (hQ : ∀ c, On opCodeWrite address P c → c.timely (.burst regVal) = true → Q (c.store regVal)) :
    Triple P (controller.perform (writeReg address regVal)) fun ok c => ok = true ∧ Q c := by
  have hproc : Triple P (controller.perform (writeRegProc address regVal)) fun _ c => Q c := by
    refine (triple_header hP hfree opCodeWrite address 1).andThen _ fun res => ?_
    refine Triple.andThen (Q := fun ok c => ok = true ∧ Q c) _ ?_ fun ok => triple_pure fun c h => h.2
    exact (triple_burst hP regVal hQ).mono (fun c h => h.2) fun _ _ h => h
  have hselect : Triple P (controller.perform (withChipSelect (writeRegProc address regVal)))
      fun x c => x.1 = true ∧ Q c := hproc.andThen _ fun x => triple_pure fun c h => ⟨rfl, h⟩
  exact hselect.andThen _ fun x => triple_pure fun c h => h

end

/-! ### The transmit buffer -/

section

variable {r : Registers} {c : Controller} {acked asked known : List CanFrame} {a : BitVec 16}

theorem free_fine : Free (Fine r acked asked known) := fun _ _ _ h =>
  ⟨⟨h.good.registers, h.good.get, h.good.fill, h.good.waits, h.good.pending, h.good.asked, h.good.apart⟩, h.acked,
    h.asked, h.known⟩

/-- The transmit buffer is being filled, with these words so far. -/
structure Loading (r : Registers) (acked asked known : List CanFrame) (ws : List (BitVec 32)) (c : Controller) :
    Prop where
  fine : Fine r acked asked known c
  idle : c.pending = false
  loaded : c.loaded = true
  words : ∀ k (h : k < ws.length), c.mem (r.txStart + 4 * k) = ws[k]

private theorem free_loading {ws : List (BitVec 32)} : Free (Loading r acked asked known ws) := fun c o a h =>
  ⟨free_fine c o a h.fine, h.idle, h.loaded, h.words⟩

/-- Nothing is received into the transmit buffer. -/
private theorem stable_loading {ws : List (BitVec 32)} (hlen : ws.length ≤ 4) :
    controller.Stable (Loading r acked asked known ws) := by
  intro c e h hfair
  have hfine := Fine.stable c e h.fine hfair
  cases e with
  | transmit =>
    have hp : c.pending = true := hfair
    rw [h.idle] at hp
    cases hp
  | receive f mark pad =>
    have hregs := h.fine.good.registers
    obtain ⟨hroom, hf, hapart⟩ := (fair_receive hregs mark pad).1 hfair
    have happ := hapart h.loaded
    obtain ⟨hsize, hsizeTx⟩ := r.le_elementSize
    have hram := r.le_txStart
    have hhappen := happen_receive hregs hroom (f := f) mark pad
    refine ⟨hfine, ?_, ?_, fun k hk => ?_⟩
    · exact (congrArg Controller.pending hhappen).trans h.idle
    · exact (congrArg Controller.loaded hhappen).trans h.loaded
    · refine (congrFun (congrArg Controller.mem hhappen) _).trans ?_
      dsimp only
      rw [Registers.Apart] at happ
      rw [receive_outside hf (by omega) (by omega), h.words k hk]

/-- A word that is written to the transmit buffer. -/
theorem Fine.store {k : Nat} (h : On opCodeWrite a (Fine r acked asked known) c) (ha : a.toNat = r.txStart + 4 * k)
    (hk : k < 4) {word : BitVec 32} (htimely : c.timely (.burst word) = true) :
    On opCodeWrite (a + 4) (fun c' => Fine r acked asked known c' ∧ c'.pending = false ∧ c'.loaded = true ∧
      c'.mem = Function.update c.mem (r.txStart + 4 * k) word) (c.store word) := by
  obtain ⟨hop, haddress, hfine⟩ := h
  have hgood := hfine.good
  have hram := r.le_txStart
  obtain ⟨hsize, hsizeTx⟩ := r.le_elementSize
  have hin : c.InTx c.address.toNat := by
    rw [Controller.InTx, hgood.registers, haddress, ha]
    omega
  obtain ⟨hidle, hapart⟩ : c.pending = false ∧ ∀ i < c.fill, r.Apart (slot r.count c.getIndex i) := by
    simp only [Controller.timely, hop, hin, Controller.slot, hgood.registers, decide_true, Bool.and_self,
      Bool.not_true, Bool.false_or, Bool.and_eq_true, Bool.not_eq_true', decide_eq_true_eq] at htimely
    exact htimely
  have hreg : ∀ address : BitVec 16, address.toNat < 0x8000 → c.address ≠ address := by
    rintro address hlt rfl
    rw [haddress] at hlt
    omega
  have hstore : c.store word = { c with
      address := a + 4
      mem := Function.update c.mem (r.txStart + 4 * k) word
      loaded := true } := by
    unfold Controller.store
    rw [if_neg (hreg addrMcanRxf0a (by decide)), if_neg (hreg addrMcanTxbar (by decide)),
      if_neg (hreg addrMcanIr (by decide)), decide_eq_true hin, Bool.or_true, haddress, ha]
  have hout : ∀ x, x < r.txStart ∨ r.txStart + 16 ≤ x →
      Function.update c.mem (r.txStart + 4 * k) word x = c.mem x :=
    fun x hx => Function.update_of_ne (by omega) ..
  have hmem : Good r { c with mem := Function.update c.mem (r.txStart + 4 * k) word } := by
    refine hgood.congr_mem (fun x hx _ => hout x (.inl (by omega))) (fun i hi x hlo hhi => hout x ?_) fun hp => ?_
    · rcases hapart i hi with h | h
      · exact .inl (by omega)
      · exact .inr (by omega)
    · rw [hidle] at hp
      cases hp
  rw [hstore]
  refine ⟨hop, rfl, ⟨⟨?_, hfine.acked, hfine.asked, hfine.known⟩, hidle, rfl, rfl⟩⟩
  exact ⟨hmem.registers, hmem.get, hmem.fill, hmem.waits, fun _ => rfl, hmem.asked, fun _ => hapart⟩

theorem Loading.first (h : On opCodeWrite a (Fine r acked asked known) c) (ha : a.toNat = r.txStart) {word : BitVec 32}
    (htimely : c.timely (.burst word) = true) :
    On opCodeWrite (a + 4) (Loading r acked asked known [word]) (c.store word) := by
  obtain ⟨hop, haddress, hfine, hidle, hloaded, hmem⟩ := Fine.store (k := 0) h ha (by decide) htimely
  refine ⟨hop, haddress, hfine, hidle, hloaded, fun k hk => ?_⟩
  rw [List.length_singleton, Nat.lt_one_iff] at hk
  subst hk
  rw [hmem, Function.update_self]
  rfl

theorem Loading.store {ws : List (BitVec 32)} (h : On opCodeWrite a (Loading r acked asked known ws) c)
    (ha : a.toNat = r.txStart + 4 * ws.length) (hlen : ws.length < 4) {word : BitVec 32}
    (htimely : c.timely (.burst word) = true) :
    On opCodeWrite (a + 4) (Loading r acked asked known (ws ++ [word])) (c.store word) := by
  obtain ⟨hop, haddress, hfine, hidle, hloaded, hmem⟩ := Fine.store ⟨h.opCode, h.address, h.holds.fine⟩ ha hlen htimely
  refine ⟨hop, haddress, hfine, hidle, hloaded, fun k hk => ?_⟩
  rw [hmem]
  rw [List.length_append, List.length_singleton] at hk
  rcases Nat.lt_or_ge k ws.length with hlt | hge
  · rw [Function.update_of_ne (by omega), List.getElem_append_left hlt]
    exact h.holds.words k hlt
  · have heq : k = ws.length := by omega
    subst heq
    rw [Function.update_self, List.getElem_append_right (Nat.le_refl _)]
    simp

/-- The words of the data, from word `k` on. -/
def payloadWords (dataPayload : Nat → BitVec 8) (k n : Nat) : List (BitVec 32) :=
  (List.range' k n).map (wordOfBytes fun i => UInt8.ofBitVec (dataPayload i))

private theorem triple_writePayload (dataPayload : Nat → BitVec 8) (n k : Nat) {ws : List (BitVec 32)}
    (hlen : ws.length = 2 + k) (hn : k + n ≤ 2) (ha : a.toNat = r.txStart + 4 * ws.length)
    (hend : r.txStart + 16 ≤ 0x8800) :
    Triple (On opCodeWrite a (Loading r acked asked known ws))
      (controller.perform (writePayload dataPayload n (4 * k) true)) fun res c =>
        res = true ∧ Loading r acked asked known (ws ++ payloadWords dataPayload k n) c := by
  induction n generalizing k ws a with
  | zero =>
    refine triple_pure fun c h => ⟨rfl, ?_⟩
    rw [payloadWords, List.range'_zero, List.map_nil, List.append_nil]
    exact h.holds
  | succ n ih =>
    have hnext : (a + 4).toNat = a.toNat + 4 := toNat_advance rfl rfl (by omega)
    let word := wordOfBytes (fun i => UInt8.ofBitVec (dataPayload i)) k
    have hburst := triple_burst (P := Loading r acked asked known ws) (a := a) (stable_loading (by omega)) word
      fun c h htimely => Loading.store h ha (by omega) htimely
    have hword : payloadWords dataPayload k (n + 1) =
        wordOfBytes (fun i => UInt8.ofBitVec (dataPayload i)) k :: payloadWords dataPayload (k + 1) n := by
      rw [payloadWords, List.range'_succ, List.map_cons]
      rfl
    refine hburst.andThen _ fun res => ?_
    refine Triple.of_fact (c := res = true) (fun c h => h.1) fun hres => ?_
    subst hres
    have hlen' : (ws ++ [word]).length = 2 + (k + 1) := by
      rw [List.length_append, List.length_singleton]
      omega
    have hrest := ih (k + 1) (a := a + 4) hlen' (by omega) (by omega)
    rw [List.append_assoc, List.singleton_append, ← hword] at hrest
    exact hrest.mono (fun c h => h.2) fun _ _ h => h

/-! ### A frame -/

variable (mask11bit mask29bit : BitVec 32) (header : CanTxHeader) (dataPayload : Nat → BitVec 8)

/-- The frame that a header and its data stand for. -/
def CanTxHeader.frame : CanFrame where
  head := header.w0 mask11bit mask29bit
  dlc := header.dlc
  data := payloadBytes dataPayload (dataLen header.dlc)

/-- The words of an element. -/
def CanTxHeader.element : List (BitVec 32) :=
  header.w0 mask11bit mask29bit :: header.w1 :: payloadWords dataPayload 0 ((header.bytes.toNat + 3) / 4)

private theorem triple_writeTxElement (hbytes : header.bytes.toNat ≤ 8) (ha : a.toNat = r.txStart)
    (hend : r.txStart + 16 ≤ 0x8800) :
    Triple (Fine r acked asked known)
      (controller.perform (writeTxElement mask11bit mask29bit a header dataPayload)) fun res c =>
        res = true ∧ Loading r acked asked known (header.element mask11bit mask29bit dataPayload) c := by
  have hnext : (a + 4).toNat = a.toNat + 4 := toNat_advance rfl rfl (by omega)
  have hnext' : (a + 4 + 4).toNat = a.toNat + 4 + 4 := toNat_advance hnext rfl (by omega)
  unfold writeTxElement
  refine (triple_header Fine.stable free_fine opCodeWrite a _).andThen _ fun res => ?_
  refine Triple.of_fact (c := res = true) (fun c h => h.1) fun hres => ?_
  subst hres
  have hw0 := triple_burst (P := Fine r acked asked known) (a := a) Fine.stable (header.w0 mask11bit mask29bit)
    fun c h htimely => Loading.first h ha htimely
  refine (hw0.mono (fun c h => h.2) fun _ _ h => h).andThen _ fun _ => ?_
  have hw1 := triple_burst (P := Loading r acked asked known [header.w0 mask11bit mask29bit]) (a := a + 4)
    (stable_loading (by simp)) header.w1 fun c h htimely => Loading.store h (by rw [hnext, ha]; rfl) (by simp) htimely
  refine (hw1.mono (fun c h => h.2) fun _ _ h => h).andThen _ fun _ => ?_
  let ws := [header.w0 mask11bit mask29bit] ++ [header.w1]
  have hws : ws.length = 2 + 0 := rfl
  have hdata : Triple (On opCodeWrite (a + 4 + 4) (Loading r acked asked known ws)) _ _ :=
    triple_writePayload dataPayload ((header.bytes.toNat + 3) / 4) 0 hws (by omega)
      (hnext'.trans (by rw [ha]; rfl)) hend
  exact hdata.mono (fun c h => h.2) fun _ _ h => h

theorem toNat_bytes (header : CanTxHeader) : dataLen header.dlc = min header.bytes.toNat 8 := by
  have htable : ∀ dlc : BitVec 4, dataLen dlc = min (dlc2bytes (dlc.setWidth 8 &&& 0x0F)).toNat 8 := by decide
  exact htable header.dlc

/-- The element stands for the frame. -/
theorem Loading.stands (hbytes : header.bytes.toNat ≤ 8)
    (h : Loading r acked asked known (header.element mask11bit mask29bit dataPayload) c) :
    Stands c.mem r.txStart (header.frame mask11bit mask29bit dataPayload) := by
  have hlen : (header.frame mask11bit mask29bit dataPayload).data.length = header.bytes.toNat := by
    rw [CanTxHeader.frame, payloadBytes, List.length_map, List.length_range, toNat_bytes]
    omega
  have hwords : (header.element mask11bit mask29bit dataPayload).length = 2 + (header.bytes.toNat + 3) / 4 := by
    simp [CanTxHeader.element, payloadWords]
    omega
  refine stands_of_words (b := fun i => UInt8.ofBitVec (dataPayload i)) (h.words 0 (by omega)) ?_ (fun k hk => ?_) ?_
  · rw [h.words 1 (by omega)]
    exact (BitVec.extractLsb'_append_eq_of_le (Nat.le_refl 16)).trans BitVec.extractLsb'_append_eq_right
  · rw [hlen] at hk
    have haddress : r.txStart + 8 + 4 * k = r.txStart + 4 * (k + 2) := by omega
    rw [haddress, h.words (k + 2) (by omega)]
    simp [CanTxHeader.element, payloadWords]
  · intro i hi
    simp [CanTxHeader.frame, payloadBytes]

/-- The frame in the transmit buffer is asked for. -/
theorem Loading.request {f : CanFrame} {ws : List (BitVec 32)} (h : Loading r acked asked known ws c)
    (hf : frameAt c.mem r.txStart = f) (o : BitVec 8) (x : BitVec 16) :
    Fine r acked (asked ++ [f]) known
      { c with
        opCode := o
        address := x
        pending := true
        asked := c.asked ++ [frameAt c.mem c.registers.txStart] } := by
  have hgood := h.fine.good
  have hasked := hgood.asked
  rw [h.idle, if_neg (by decide), List.append_nil] at hasked
  refine ⟨⟨hgood.registers, hgood.get, hgood.fill, hgood.waits, fun _ => h.loaded, ?_, hgood.apart⟩, h.fine.acked, ?_,
    h.fine.known⟩
  · dsimp only
    rw [if_pos rfl, hasked, hgood.registers]
  · dsimp only
    rw [h.fine.asked, hgood.registers, hf]

private theorem triple_txBuffContent {f : CanFrame} {ws : List (BitVec 32)} (hlen : ws.length ≤ 4)
    (hf : ∀ c, Loading r acked asked known ws c → frameAt c.mem r.txStart = f) :
    Triple (Loading r acked asked known ws) (controller.perform (txBuffContent 0)) fun res c =>
      res = true ∧ Fine r acked (asked ++ [f]) known c := by
  rw [txBuffContent, if_pos (by decide)]
  refine triple_writeReg (stable_loading hlen) free_loading fun c h _ => ?_
  have hstore : c.store (1#32 <<< (0 : BitVec 8).toNat) = { c with
      address := c.address + 4
      pending := true
      asked := c.asked ++ [frameAt c.mem c.registers.txStart] } := by
    unfold Controller.store
    rw [h.address, if_neg (by decide), if_pos rfl, if_pos (by decide)]
  rw [hstore]
  exact h.holds.request (hf c h.holds) c.opCode (c.address + 4)

section

variable {uint8Limiter : BitVec 8 → BitVec 8 → BitVec 8}
  (hlimiter : ∀ val max, (uint8Limiter val max).toNat = min val.toNat max.toNat)

include hlimiter

private theorem triple_writeTxBuff (hr : r.Inside) (hbytes : header.bytes.toNat ≤ 8) :
    Triple (Fine r acked asked known)
      (controller.perform (writeTxBuff uint8Limiter mask11bit mask29bit 0 header dataPayload)) fun res c =>
        res = true ∧ Loading r acked asked known (header.element mask11bit mask29bit dataPayload) c := by
  have hsize := r.le_elementSize
  have htx := hr.tx
  have hend : addrMram.toNat + mramSz.toNat = 0x8800 := rfl
  have hinside := mt (beyond_iff hlimiter 0 (TxBufCfg.ofWord r.txbc)).1 (Nat.not_le.2 hr.bufs)
  have hread : ∀ (address : BitVec 16) (word : BitVec 32),
      (∀ c, Fine r acked asked known c → c.wordAt address = word) →
        Triple (Fine r acked asked known) (controller.perform (readReg address)) fun x c =>
          x.1 = true ∧ x.2 = word ∧ Fine r acked asked known c := by
    intro address word hword
    exact triple_readReg (R := fun w c => w = word ∧ Fine r acked asked known c) Fine.stable free_fine
      (fun c h => ⟨hword c h, h⟩) fun w c o x h => ⟨h.1, free_fine c o x h.2⟩
  unfold writeTxBuff
  refine (hread addrMcanTxbc r.txbc fun c h => congrArg Registers.txbc h.good.registers).andThen _ fun x => ?_
  refine Triple.of_fact (c := x = (true, r.txbc)) (fun c h => Prod.ext h.1 h.2.1) fun hx => ?_
  subst hx
  dsimp only
  rw [decide_eq_false hinside, if_pos (show (true && !false) = true from rfl)]
  refine ((hread addrMcanTxesc r.txesc fun c h => congrArg Registers.txesc h.good.registers).mono
    (fun c h => h.2.2) fun _ _ h => h).andThen _ fun x => ?_
  refine Triple.of_fact (c := x = (true, r.txesc)) (fun c h => Prod.ext h.1 h.2.1) fun hx => ?_
  subst hx
  refine (triple_writeTxElement mask11bit mask29bit header dataPayload hbytes ?_ (by omega)).mono
    (fun c h => h.2.2) fun _ _ h => h
  have hoffset : ∀ x : BitVec 32, (x * BitVec.setWidth 32 (0 : BitVec 8)).setWidth 16 = 0#16 := by simp
  rw [hoffset, BitVec.add_zero]
  have hbase : (addrMram.setWidth 16).toNat = addrMram.toNat := rfl
  rw [toNat_advance hbase rfl, Registers.txStart]
  rw [Registers.txStart] at htx
  omega

/-- At most eight bytes. -/
theorem sendHeader_bytes (xtd : BitVec 1) (id : BitVec 32) (len : BitVec 8) :
    (sendHeader uint8Limiter xtd id len).bytes = uint8Limiter len 8 := by
  have htable : ∀ n : BitVec 8, n ≤ 8 → dlc2bytes (((bytes2dlc n).setWidth 4).setWidth 8 &&& 0x0F) = n := by
    decide +kernel
  refine htable _ ?_
  rw [BitVec.le_def, hlimiter]
  exact Nat.min_le_right _ _

/-- `tcan4550_send_std` and `tcan4550_send_ext` ask for the frame. -/
theorem triple_sendFrame (hr : r.Inside) (xtd : BitVec 1) (id : BitVec 32) (data : BitVec 64) (len : BitVec 8) :
    Triple (Fine r acked asked known)
      (controller.perform (sendFrame uint8Limiter mask11bit mask29bit xtd id data len)) fun res c =>
        res = true ∧ Fine r acked
          (asked ++ [(sendHeader uint8Limiter xtd id len).frame mask11bit mask29bit (dataByte data)]) known c := by
  let header := sendHeader uint8Limiter xtd id len
  have hbytes : header.bytes.toNat ≤ 8 := by
    rw [sendHeader_bytes hlimiter, hlimiter]
    exact Nat.min_le_right _ _
  have hlen : (header.element mask11bit mask29bit (dataByte data)).length ≤ 4 := by
    simp [CanTxHeader.element, payloadWords]
    omega
  have hframe : ∀ c, Loading r acked asked known (header.element mask11bit mask29bit (dataByte data)) c →
      frameAt c.mem r.txStart = header.frame mask11bit mask29bit (dataByte data) := by
    intro c h
    refine (Loading.stands mask11bit mask29bit header (dataByte data) hbytes h).frameAt_eq ?_
    simp [CanTxHeader.frame, payloadBytes]
  refine (triple_writeTxBuff mask11bit mask29bit header (dataByte data) hlimiter hr hbytes).andThen _ fun res => ?_
  refine Triple.of_fact (c := res = true) (fun c h => h.1) fun hres => ?_
  subst hres
  rw [if_pos rfl]
  exact (triple_txBuffContent hlen hframe).mono (fun c h => h.2) fun _ _ h => h

end

end

end TiMcu.Tcan4550
