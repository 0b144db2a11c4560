import TiMcu.Lib.Streaks
import TiMcu.Tbfp.Flow

/-!
# The figures of the flow control

For serial numbers that rise, `lost_rx_frames` and `con_flow` are what their names say.  `max_con_flow` is updated only
with a frame that directly follows the one before: the first frame of a streak leaves it alone, unless it has the number
1 and so follows the initial 0.  So it is 0 as long as no two frames followed each other.
-/

namespace TiMcu.Tbfp

open Runs Streaks

variable {W : Type} {snums : List UInt16} {f : FlowControl} {snum : UInt16}

/-- The number that comes next. -/
def Follows (a b : UInt16) : Prop := b.toNat = a.toNat + 1

instance : DecidableRel Follows := fun a b => inferInstanceAs (Decidable (b.toNat = a.toNat + 1))

/-- The numbers rise, from 1 on. -/
structure Rising (snums : List UInt16) : Prop where
  sorted : snums.Pairwise (· < ·)
  first : ∀ snum ∈ snums.head?, 1 ≤ snum

/-- The last number, or the initial 0. -/
def lastNum (snums : List UInt16) : Nat := (snums.getLast?.getD 0).toNat

/-- The figures are those of the numbers: how many are missing, the length of the streak at the end and the length of the
longest one. -/
structure Exact (f : FlowControl) (snums : List UInt16) : Prop where
  lost : f.lostRxFrames.toNat + snums.length = lastNum snums
  con : IsGreatest {n | ∃ s, s <:+ snums ∧ s.IsChain Follows ∧ s.length = n} f.conFlow.toNat
  max : IsGreatest {n | ∃ s, s <:+: snums ∧ s.IsChain Follows ∧ s.length = n} f.maxConFlow.toNat

/-- A frame followed the one before, or the first one the initial 0. -/
def Noticed (snums : List UInt16) : Prop := snums.head? = some 1 ∨ 2 ≤ (tally Follows snums).longest

/-- What the flow control has counted. -/
structure Counted (f : FlowControl) (snums : List UInt16) : Prop where
  prev : f.prevSNum.toNat = lastNum snums
  lost : f.lostRxFrames.toNat + snums.length = lastNum snums
  con : f.conFlow.toNat = (tally Follows snums).current
  noticed : Noticed snums → f.maxConFlow.toNat = (tally Follows snums).longest
  unnoticed : ¬Noticed snums → f.maxConFlow.toNat = 0

/-! ### One number more -/

private theorem lastNum_concat (snums : List UInt16) (snum : UInt16) : lastNum (snums ++ [snum]) = snum.toNat := by
  rw [lastNum, List.getLast?_concat, Option.getD_some]

private theorem Rising.of_concat (h : Rising (snums ++ [snum])) : Rising snums ∧ lastNum snums < snum.toNat := by
  have hsorted := List.pairwise_append.1 h.sorted
  cases snums using List.reverseRecOn with
  | nil =>
    refine ⟨⟨List.Pairwise.nil, by simp⟩, ?_⟩
    have hone : 1 ≤ snum := h.first snum (by simp)
    rw [UInt16.le_iff_toNat_le] at hone
    exact hone
  | append_singleton snums prev _ =>
    refine ⟨⟨hsorted.1, fun a ha => h.first a ?_⟩, ?_⟩
    · rw [List.head?_append_of_ne_nil _ (by simp)]
      exact ha
    · rw [lastNum_concat]
      exact UInt16.lt_iff_toNat_lt.1 (hsorted.2.2 prev (by simp) snum (List.mem_singleton_self snum))

/-- The streak at the end when one more number comes. -/
private theorem grown_follows (snums : List UInt16) (snum : UInt16) :
    (tally Follows snums).grown Follows snum =
      if snum.toNat = lastNum snums + 1 then (tally Follows snums).current + 1 else 1 := by
  rw [Tally.grown, tally_last, lastNum]
  cases hlast : snums.getLast? with
  | none =>
    rw [List.getLast?_eq_none_iff.1 hlast]
    simp [tally]
  | some prev =>
    simp only [Option.any_some, Option.getD_some, decide_eq_true_eq]
    rfl

private theorem tally_le_length (snums : List UInt16) :
    (tally Follows snums).current ≤ snums.length ∧ (tally Follows snums).longest ≤ snums.length := by
  obtain ⟨s, hs, -, hlen⟩ := (longest_isGreatest Follows snums).1
  have hle : (tally Follows snums).longest ≤ snums.length := hlen ▸ hs.length_le
  exact ⟨(current_le_longest snums).trans hle, hle⟩

/-- A stream has a streak. -/
private theorem current_pos (hne : snums ≠ []) : 1 ≤ (tally Follows snums).current := by
  cases snums using List.reverseRecOn with
  | nil => exact absurd rfl hne
  | append_singleton snums snum _ =>
    rw [tally_concat, Tally.next, grown_follows]
    dsimp only
    split <;> omega

private theorem toNat_truncate32 {x : UInt32} (h : x.toNat < 2 ^ 16) : x.toUInt16.toNat = x.toNat := by
  rw [UInt32.toNat_toUInt16]
  exact Nat.mod_eq_of_lt h

private theorem toNat_max16 (a b : UInt16) : (max a b).toNat = max a.toNat b.toNat := by
  rw [show max a b = if a ≤ b then b else a from rfl]
  split
  · next hle => exact (max_eq_right (UInt16.le_iff_toNat_le.1 hle)).symm
  · next hle => exact (max_eq_left (le_of_not_ge (UInt16.le_iff_toNat_le.not.1 hle))).symm

/-- The next number. -/
theorem Counted.consecutive (h : Counted f snums) (hnext : snum.toNat = lastNum snums + 1) :
    Counted (tbfpCheckFlowControl f snum).2 (snums ++ [snum]) := by
  have hsnum := snum.toNat_lt
  obtain ⟨hcurrent, hlongest⟩ := tally_le_length snums
  have hlost := h.lost
  have hcon : (f.conFlow.toUInt16 + 1).toNat = (tally Follows snums).current + 1 := by
    have hone : (1 : UInt16).toNat = 1 := rfl
    rw [UInt16.toNat_add, toNat_truncate32 (by rw [h.con]; omega), h.con, hone]
    omega
  have hstep : (tbfpCheckFlowControl f snum).2 = { f.truncate.consecutive with prevSNum := snum } := by
    have hprev := h.prev
    unfold tbfpCheckFlowControl
    rw [if_neg (by rw [UInt16.lt_iff_toNat_lt]; omega), if_pos (by omega)]
  have hmaxConFlow : f.maxConFlow.toNat < 2 ^ 16 := by
    by_cases hnoticed : Noticed snums
    · rw [h.noticed hnoticed]
      omega
    · rw [h.unnoticed hnoticed]
      decide
  have hmax : (tbfpCheckFlowControl f snum).2.maxConFlow.toNat =
      max f.maxConFlow.toNat ((tally Follows snums).current + 1) := by
    rw [hstep, ← hcon, ← toNat_truncate32 hmaxConFlow, ← toNat_max16]
    simp only [FlowControl.consecutive, FlowControl.truncate, UInt16.toUInt16_toUInt32, UInt16.toNat_toUInt32]
  have hgrown := grown_follows snums snum
  rw [if_pos hnext] at hgrown
  have htally : tally Follows (snums ++ [snum]) =
      ⟨some snum, (tally Follows snums).current + 1,
        max (tally Follows snums).longest ((tally Follows snums).current + 1)⟩ := by
    rw [tally_concat, Tally.next, hgrown]
  -- the streak is noticed now
  have hnoticed : Noticed (snums ++ [snum]) := by
    obtain rfl | hne := eq_or_ne snums []
    · left
      have hone : snum = 1 := UInt16.toNat_inj.1 hnext
      rw [hone]
      rfl
    · right
      have hpos := current_pos hne
      rw [htally]
      exact (Nat.succ_le_succ hpos).trans (le_max_right _ _)
  refine ⟨?_, ?_, ?_, fun _ => ?_, fun hnot => absurd hnoticed hnot⟩
  · rw [tbfpCheckFlowControl_prevSNum, lastNum_concat]
  · rw [lastNum_concat, hnext, List.length_append, List.length_singleton, hstep]
    change f.lostRxFrames.toNat + (snums.length + 1) = _
    omega
  · rw [htally, hstep]
    change ((f.truncate.conFlow.toUInt16 + 1).toUInt32).toNat = _
    rw [UInt16.toNat_toUInt32, ← hcon]
    simp [FlowControl.truncate]
  · rw [hmax, htally]
    by_cases hold : Noticed snums
    · rw [h.noticed hold]
    · have hshort : (tally Follows snums).longest ≤ 1 := by
        by_contra hlong
        exact hold (.inr (by omega))
      rw [h.unnoticed hold]
      dsimp only
      omega

/-- A number behind a gap. -/
theorem Counted.torn (h : Counted f snums) (hgap : lastNum snums + 1 < snum.toNat) :
    Counted (tbfpCheckFlowControl f snum).2 (snums ++ [snum]) := by
  have hsnum := snum.toNat_lt
  have hprev := h.prev
  have hlost := h.lost
  obtain ⟨-, hlongest⟩ := tally_le_length snums
  have hstep : (tbfpCheckFlowControl f snum).2 = { f.truncate.torn snum with prevSNum := snum } := by
    unfold tbfpCheckFlowControl
    rw [if_neg (by rw [UInt16.lt_iff_toNat_lt]; omega), if_neg (by omega), if_pos (by omega)]
  have hprint : flowCtrlPrintLost { f.truncate with flowTornCnt := f.truncate.flowTornCnt + 1 } snum =
      { f.truncate with
        flowTornCnt := f.truncate.flowTornCnt + 1
        lostRxFrames := f.lostRxFrames + UInt32.ofNat (snum.toNat - f.prevSNum.toNat - 1) } := by
    have hgap' : (f.prevSNum.toNat : Int) < (snum.toNat : Int) - 1 := by omega
    unfold flowCtrlPrintLost
    exact if_pos hgap'
  have hgrown := grown_follows snums snum
  rw [if_neg (by omega)] at hgrown
  have htally : tally Follows (snums ++ [snum]) = ⟨some snum, 1, max (tally Follows snums).longest 1⟩ := by
    rw [tally_concat, Tally.next, hgrown]
  have hmax : (tbfpCheckFlowControl f snum).2.maxConFlow = f.maxConFlow.toUInt16.toUInt32 := by
    rw [hstep, FlowControl.torn, hprint]
    rfl
  have hmaxConFlow : f.maxConFlow.toNat < 2 ^ 16 := by
    by_cases hnoticed : Noticed snums
    · rw [h.noticed hnoticed]
      omega
    · rw [h.unnoticed hnoticed]
      decide
  have hsame : (tbfpCheckFlowControl f snum).2.maxConFlow.toNat = f.maxConFlow.toNat := by
    rw [hmax, UInt16.toNat_toUInt32, toNat_truncate32 hmaxConFlow]
  -- the first number of a streak does not change what is noticed
  have hiff : Noticed (snums ++ [snum]) ↔ Noticed snums := by
    unfold Noticed
    rw [htally]
    obtain rfl | hne := eq_or_ne snums []
    · have hone : snum ≠ 1 := by
        rintro rfl
        exact absurd hgap (by decide)
      simp [tally, hone]
    · rw [List.head?_append_of_ne_nil _ hne]
      dsimp only
      rw [show 2 ≤ max (tally Follows snums).longest 1 ↔ 2 ≤ (tally Follows snums).longest by omega]
  refine ⟨?_, ?_, ?_, fun hnoticed => ?_, fun hnot => ?_⟩
  · rw [tbfpCheckFlowControl_prevSNum, lastNum_concat]
  · rw [lastNum_concat, List.length_append, List.length_singleton, hstep, FlowControl.torn, hprint]
    dsimp only
    rw [UInt32.toNat_add, UInt32.toNat_ofNat']
    omega
  · rw [htally, hstep]
    rfl
  · rw [hsame, h.noticed (hiff.1 hnoticed), htally]
    have hpos : 1 ≤ (tally Follows snums).longest := by
      obtain rfl | hne := eq_or_ne snums []
      · rcases hiff.1 hnoticed with hhead | hlong
        · simp at hhead
        · exact absurd hlong (by decide)
      · exact (current_pos hne).trans (current_le_longest snums)
    exact (max_eq_left hpos).symm
  · rw [hsame, h.unnoticed fun hnoticed => hnot (hiff.2 hnoticed)]

/-- The flow control behind numbers that rise. -/
theorem after_counted (h : Rising snums) : Counted (FlowControl.after {} snums) snums := by
  induction snums using List.reverseRecOn with
  | nil => exact ⟨rfl, rfl, rfl, fun _ => rfl, fun _ => rfl⟩
  | append_singleton snums snum ih =>
    obtain ⟨hrising, hlast⟩ := h.of_concat
    have hcounted := ih hrising
    rw [FlowControl.after_append]
    change Counted (tbfpCheckFlowControl (FlowControl.after {} snums) snum).2 (snums ++ [snum])
    by_cases hnext : snum.toNat = lastNum snums + 1
    · exact hcounted.consecutive hnext
    · exact hcounted.torn (by omega)

/-! ### The figures -/

/-- The figures are exact if and only if no frame came, the first one had the number 1, or two frames followed each
other. -/
private theorem Counted.exact_iff (h : Counted f snums) :
    Exact f snums ↔ snums = [] ∨ snums.head? = some 1 ∨ ∃ a b, [a, b] <:+: snums ∧ Follows a b := by
  have hcon := current_isGreatest Follows snums
  have hlongest := longest_isGreatest Follows snums
  rw [← two_le_longest_iff (R := Follows), ← Noticed]
  constructor
  · intro hexact
    by_contra hnot
    obtain ⟨hne, hunnoticed⟩ := not_or.1 hnot
    have hzero := hexact.max.unique hlongest
    rw [h.unnoticed hunnoticed] at hzero
    have hpos := (current_pos hne).trans (current_le_longest snums)
    omega
  · intro hwhen
    refine ⟨h.lost, by rw [h.con]; exact hcon, ?_⟩
    rcases hwhen with rfl | hnoticed
    · have hunnoticed : ¬Noticed [] := by
        rintro (hhead | hlong)
        · simp at hhead
        · exact absurd hlong (by decide)
      rw [h.unnoticed hunnoticed]
      exact hlongest
    · rw [h.noticed hnoticed]
      exact hlongest

/-- The figures of an interface that received numbers that rise. -/
theorem figures_exact_iff (env : Env W) (radio : Sx1262) (now : Nat) (world : W) (xs : List (Input W))
    (i : Interfaces) (snums : List UInt16) (hrising : Rising snums)
    (h : received i (run (Device.step env) (swInit radio now world) xs).log = snums) :
    Exact ((run (Device.step env) (swInit radio now world) xs).tbfp i).flow snums ↔
      snums = [] ∨ snums.head? = some 1 ∨ ∃ a b, [a, b] <:+: snums ∧ Follows a b := by
  have hflow := flowLog_run env radio now world xs i
  rw [hflow.after, h]
  exact (after_counted hrising).exact_iff

theorem chats_figures_exact :
    Exact ((run (Device.step .bench) (swInit restingRadio 0 ()) (chats .bench [5, 6])).tbfp .lora).flow [5, 6] :=
  (figures_exact_iff .bench restingRadio 0 () (chats .bench [5, 6]) .lora [5, 6] ⟨by decide, by simp⟩
    (chats_handed .bench restingRadio 0 () [5, 6]).1).2 (.inr (.inr ⟨5, 6, List.infix_rfl, rfl⟩))

/-- A single frame with the number 5 is a streak that `max_con_flow` does not show. -/
theorem not_figures_exact :
    let d := run (Device.step .bench) (swInit restingRadio 0 ()) (chats .bench [5])
    received .lora d.log = [5] ∧ ¬Exact (d.tbfp .lora).flow [5] := by
  obtain ⟨hreceived, -⟩ := chats_handed .bench restingRadio 0 () [5]
  refine ⟨hreceived, fun hexact => ?_⟩
  have hflow := flowLog_run .bench restingRadio 0 () (chats .bench [5]) .lora
  have hmax := hexact.max
  rw [hflow.after, hreceived] at hmax
  exact absurd (hmax.2 ⟨[5], List.infix_rfl, List.isChain_singleton 5, rfl⟩) (by decide)

end TiMcu.Tbfp
