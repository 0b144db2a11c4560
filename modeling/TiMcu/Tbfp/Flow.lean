import TiMcu.Tbfp.RoundTrip

/-!
# The flow control over whole runs

The flow control of an interface remembers the last serial number only, and a frame passes when its number is larger.
So a number is handed on each time it is received directly behind a smaller one: a duplicate that follows its original
is refused, one that follows an older frame is not (`handed_once_iff`), and of the numbers that a peer counts up the
zero behind 65535 is refused (`inOrder_handed_iff`).
-/

namespace TiMcu.Tbfp

open NorFlash LittleEndian Framing Runs

variable {W : Type} {env : Env W}

/-- The flow control and the log of a run from the start. -/
theorem flowLog_run (env : Env W) (radio : Sx1262) (now : Nat) (world : W) (xs : List (Input W)) (i : Interfaces) :
    FlowLog i {} ((run (Device.step env) (swInit radio now world) xs).tbfp i).flow
      (run (Device.step env) (swInit radio now world) xs).log := by
  obtain ⟨newer, hlog, hflow, -⟩ := (run_effects (configured_swInit radio now world) xs).log
  rw [show (swInit radio now world).log = [] from rfl, List.append_nil] at hlog
  rw [hlog]
  exact hflow i

/-! ### Duplicates -/

/-- No serial number is received twice directly behind a smaller one. -/
def NoSecondRise (snums : List UInt16) : Prop :=
  ((0 :: snums).zip snums).Pairwise fun x y => x.1 < x.2 → y.1 < y.2 → x.2 ≠ y.2

instance (snums : List UInt16) : Decidable (NoSecondRise snums) := by
  unfold NoSecondRise
  infer_instance

private theorem passes_eq_filterMap (prev : UInt16) (snums : List UInt16) :
    passes prev snums = ((prev :: snums).zip snums).filterMap fun x => if x.1 < x.2 then some x.2 else none := by
  induction snums generalizing prev with
  | nil => rfl
  | cons snum snums ih =>
    rw [passes, ih, List.zip_cons_cons, List.filterMap_cons]
    split
    · rfl
    · rfl

private theorem passes_nodup_iff (snums : List UInt16) : (passes 0 snums).Nodup ↔ NoSecondRise snums := by
  rw [passes_eq_filterMap, List.Nodup, List.pairwise_filterMap, NoSecondRise]
  apply iff_of_eq
  congr 1
  funext x y
  by_cases hx : x.1 < x.2
  · by_cases hy : y.1 < y.2
    · simp [hx, hy]
    · simp [hy]
  · simp [hx]

/-- A serial number is handed on at most once in a run if and only if it is not received twice behind a smaller one. -/
theorem handed_once_iff (env : Env W) (radio : Sx1262) (now : Nat) (world : W) (xs : List (Input W))
    (i : Interfaces) :
    (∀ v, (handed i (run (Device.step env) (swInit radio now world) xs).log).count v ≤ 1) ↔
      NoSecondRise (received i (run (Device.step env) (swInit radio now world) xs).log) := by
  have hflow := flowLog_run env radio now world xs i
  rw [← passes_nodup_iff, List.nodup_iff_count_le_one]
  constructor
  · intro h v
    exact hflow.count v ▸ h v
  · intro h v
    exact (hflow.count v).symm ▸ h v

/-! ### Runs of frames -/

/-- A frame of text with that serial number. -/
def chat (snum : UInt16) : Message := ⟨0, snum, [frameIdChat]⟩

/-- The frames of text arrive on `IF_LORA` one after the other. -/
def chats (env : Env W) (snums : List UInt16) : List (Input W) :=
  snums.map fun snum => .proc 1 ((chat snum).frame env.crc8SaeJ1850Calc 0xA5) .lora true

private theorem chats_took {d : Device W} (hd : Configured d) (hp : d.preambleVal .lora = 0xA5) (snums : List UInt16) :
    received .lora (run (Device.step env) d (chats env snums)).log = received .lora d.log ++ snums := by
  induction snums generalizing d with
  | nil => simp [chats]
  | cons snum snums ih =>
    have hlora : d.interface .lora = .lora := hd.tbfp .lora
    have hframe : IsFrame (tbfpVerdict env.crc8SaeJ1850Calc 0xA5) ((chat snum).frame env.crc8SaeJ1850Calc 0xA5) :=
      Message.Fits.isFrame (by simp [Message.Fits, chat])
    obtain ⟨-, hframes⟩ := hframe.fed
    have htook : Took .lora [(chat snum).frame env.crc8SaeJ1850Calc 0xA5] d
        (d.step env (.proc 1 ((chat snum).frame env.crc8SaeJ1850Calc 0xA5) .lora true)) := by
      rw [← hframes]
      refine (tbfpProcBody_took (tbfpProc env 0) hp ?_ ?_ (fun i _ => rfl) true rfl ?_).1
      · trivial
      · simp [Message.frame, chat, tbfpSizeOverhead, tbfpSizeHeader, tbfpSizeCrc]
      · rw [hframes]
        intro f hf
        rw [List.mem_singleton] at hf
        subst hf
        refine FeedsNone.alone ⟨hd.apart .lora _ _, ?_⟩
        rw [frameId_message rfl]
        decide
    have hreceived := htook.received (by rw [hlora])
    rw [hlora] at hreceived
    have hrest := ih ((effects_step hd _).configured hd) ((htook.preambleVal .lora).trans hp)
    rw [chats, List.map_cons, run_cons]
    rw [chats] at hrest
    rw [hrest, hreceived, List.map_singleton, frameHeader_message, List.append_assoc]
    rfl

/-- What becomes of frames of text after the start. -/
theorem chats_handed (env : Env W) (radio : Sx1262) (now : Nat) (world : W) (snums : List UInt16) :
    let d := run (Device.step env) (swInit radio now world) (chats env snums)
    received .lora d.log = snums ∧ ∀ v, (handed .lora d.log).count v = (passes 0 snums).count v := by
  intro d
  have hreceived : received .lora d.log = snums := chats_took (configured_swInit radio now world) rfl snums
  refine ⟨hreceived, fun v => ?_⟩
  have hv := (flowLog_run env radio now world (chats env snums) .lora).count v
  change _ = (passes 0 (received .lora d.log)).count v at hv
  rwa [hreceived] at hv

/-- Of the two frames and their duplicates the second one is handed on twice. -/
theorem duplicates_handed_twice :
    let d := run (Device.step .bench) (swInit restingRadio 0 ()) (chats .bench [1, 2, 1, 2])
    received .lora d.log = [1, 2, 1, 2] ∧ ¬∀ v, (handed .lora d.log).count v ≤ 1 := by
  obtain ⟨hreceived, hhanded⟩ := chats_handed .bench restingRadio 0 () [1, 2, 1, 2]
  refine ⟨hreceived, fun h => ?_⟩
  have htwo := h 2
  rw [hhanded] at htwo
  exact absurd htwo (by decide)

/-! ### Numbers in order -/

/-- The first `n` serial numbers that a peer gives its frames. -/
def inOrder (n : Nat) : List UInt16 := (List.range n).map fun k => UInt16.ofNat (k + 1)

private theorem inOrder_succ (n : Nat) : inOrder (n + 1) = inOrder n ++ [UInt16.ofNat (n + 1)] := by
  simp [inOrder, List.range_succ]

/-- The numbers wrap after 65535. -/
private theorem zero_mem_inOrder (n : Nat) : 0 ∈ inOrder n ↔ 2 ^ 16 ≤ n := by
  unfold inOrder
  rw [List.mem_map]
  constructor
  · rintro ⟨k, hk, hzero⟩
    rw [List.mem_range] at hk
    have hnat := congrArg UInt16.toNat hzero
    rw [UInt16.toNat_ofNat'] at hnat
    simp at hnat
    omega
  · intro h
    exact ⟨2 ^ 16 - 1, List.mem_range.2 (by omega), by decide⟩

/-- The next number is larger unless it is zero. -/
private theorem ofNat_lt_succ (n : Nat) : UInt16.ofNat n < UInt16.ofNat (n + 1) ↔ UInt16.ofNat (n + 1) ≠ 0 := by
  rw [UInt16.lt_iff_toNat_lt, ← UInt16.toNat_inj.ne, UInt16.toNat_ofNat', UInt16.toNat_ofNat']
  simp
  omega

private theorem after_inOrder (n : Nat) :
    (FlowControl.after {} (inOrder n)).prevSNum = UInt16.ofNat n ∧
      (FlowControl.after {} (inOrder n)).lostRxFrames = 0 := by
  induction n with
  | zero => exact ⟨rfl, rfl⟩
  | succ n ih =>
    obtain ⟨hprev, hlost⟩ := ih
    rw [inOrder_succ, FlowControl.after_append]
    generalize FlowControl.after {} (inOrder n) = f at hprev hlost ⊢
    refine ⟨tbfpCheckFlowControl_prevSNum f _, ?_⟩
    change (tbfpCheckFlowControl f (UInt16.ofNat (n + 1))).2.lostRxFrames = 0
    unfold tbfpCheckFlowControl
    split
    · exact hlost
    · split
      · exact hlost
      · split
        · rename_i hgap
          rw [hprev, UInt16.toNat_ofNat', UInt16.toNat_ofNat'] at hgap
          omega
        · exact hlost

/-- Of the numbers in order every one passes but zero. -/
private theorem passes_inOrder (n : Nat) : passes 0 (inOrder n) = (inOrder n).filter (· ≠ 0) := by
  induction n with
  | zero => rfl
  | succ n ih =>
    have happend := passes_append {} (inOrder n) [UInt16.ofNat (n + 1)]
    rw [(after_inOrder n).1, passes, passes, show (({} : FlowControl).prevSNum) = 0 from rfl, ih] at happend
    have hlt := ofNat_lt_succ n
    rw [inOrder_succ, happend, List.filter_append, List.filter_singleton]
    generalize UInt16.ofNat (n + 1) = snum at hlt ⊢
    congr 1
    by_cases hzero : snum = 0
    · rw [if_neg (hlt.not.2 (not_not.2 hzero))]
      simp [hzero]
    · rw [if_pos (hlt.2 hzero)]
      simp [hzero]

private theorem count_passes_inOrder (n : Nat) :
    (∀ v, (passes 0 (inOrder n)).count v = (inOrder n).count v) ↔ n < 2 ^ 16 := by
  rw [passes_inOrder]
  constructor
  · intro h
    have hzero := h 0
    rw [List.count_eq_zero_of_not_mem (by simp)] at hzero
    have hnot := List.count_eq_zero.1 hzero.symm
    rw [zero_mem_inOrder] at hnot
    omega
  · intro hn v
    rw [List.filter_eq_self.2]
    intro x hx
    rw [decide_eq_true_eq]
    rintro rfl
    exact absurd ((zero_mem_inOrder n).1 hx) (by omega)

/-- The frames of a peer that counts up from one are all handed on, and none is taken for lost, if and only if there
are fewer than 65536. -/
theorem inOrder_handed_iff (env : Env W) (radio : Sx1262) (now : Nat) (world : W) (xs : List (Input W))
    (i : Interfaces) (n : Nat)
    (h : received i (run (Device.step env) (swInit radio now world) xs).log = inOrder n) :
    ((∀ v, (handed i (run (Device.step env) (swInit radio now world) xs).log).count v =
        (received i (run (Device.step env) (swInit radio now world) xs).log).count v) ∧
      ((run (Device.step env) (swInit radio now world) xs).tbfp i).flow.lostRxFrames = 0) ↔ n < 2 ^ 16 := by
  have hflow := flowLog_run env radio now world xs i
  have hlost : ((run (Device.step env) (swInit radio now world) xs).tbfp i).flow.lostRxFrames = 0 := by
    rw [hflow.after, h]
    exact (after_inOrder n).2
  rw [← count_passes_inOrder n]
  constructor
  · rintro ⟨hall, -⟩ v
    have hv := hall v
    rwa [hflow.count, h] at hv
  · intro hall
    refine ⟨fun v => ?_, hlost⟩
    rw [hflow.count, h]
    exact hall v

/-- Three frames in order. -/
theorem three_inOrder_handed :
    let d := run (Device.step .bench) (swInit restingRadio 0 ()) (chats .bench (inOrder 3))
    (∀ v, (handed .lora d.log).count v = (received .lora d.log).count v) ∧ (d.tbfp .lora).flow.lostRxFrames = 0 :=
  (inOrder_handed_iff .bench restingRadio 0 () (chats .bench (inOrder 3)) .lora 3
    (chats_handed .bench restingRadio 0 () (inOrder 3)).1).2 (by decide)

/-- Of 65536 frames in order the last one is not handed on. -/
theorem wrapped_not_handed :
    let d := run (Device.step .bench) (swInit restingRadio 0 ()) (chats .bench (inOrder (2 ^ 16)))
    received .lora d.log = inOrder (2 ^ 16) ∧ ¬∀ v, (handed .lora d.log).count v = (received .lora d.log).count v := by
  obtain ⟨hreceived, hhanded⟩ := chats_handed .bench restingRadio 0 () (inOrder (2 ^ 16))
  refine ⟨hreceived, fun h => ?_⟩
  have hcount := (count_passes_inOrder (2 ^ 16)).1 fun v => by
    rw [← hhanded, h, hreceived]
  exact absurd hcount (Nat.lt_irrefl _)

end TiMcu.Tbfp
