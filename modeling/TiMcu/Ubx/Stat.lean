import Mathlib.Data.Nat.ModEq
import TiMcu.Lib.OpenTable
import TiMcu.Ubx.Parser

/-!
# The statistics of the UBX classes

`ubx_update_stat` counts the class bytes of the received frames in `tableRxClass`, an array of `UBX_CLA_CNT` slots.  It is
an open table whose free slots carry the class 0, so a received class 0 is counted in a free slot: the count is gone when
another class takes the slot, and no slot is its own.
-/

namespace TiMcu.Ubx

open OpenTable

def ubxClaCnt : Nat := 15

structure StatClass where
  classVal : UInt8
  cnt : UInt16
  deriving DecidableEq, Repr

/-- `tableRxClass` after `ublox_protocol_init`. -/
def tableRxClass : List StatClass := List.replicate ubxClaCnt ⟨0, 0⟩

def ubxUpdateStat (table : List StatClass) (valClass : UInt8) : Bool × List StatClass :=
  match changeFirst (fun e => e.classVal = valClass) (fun e => { e with cnt := e.cnt + 1 }) table with
  | some table => (true, table)
  | none =>
    match changeFirst (fun e => e.classVal = 0) (fun _ => ⟨valClass, 1⟩) table with
    | some table => (true, table)
    | none => (false, table)

/-- The table after these class bytes. -/
def ubxUpdateStats (table : List StatClass) (classes : List UInt8) : List StatClass :=
  classes.foldl (fun table valClass => (ubxUpdateStat table valClass).2) table

/-! ### The open table -/

/-- A slot with a counter of 16 bits. -/
def StatClass.ofSlot (e : Slot UInt8) : StatClass := ⟨e.key, UInt16.ofNat e.cnt⟩

/-- `ubx_update_stat` records the class in the open table. -/
private theorem ubxUpdateStat_map (table : List (Slot UInt8)) (valClass : UInt8) :
    (ubxUpdateStat (table.map StatClass.ofSlot) valClass).2 = (record 0 table valClass).map StatClass.ofSlot := by
  have hcount := changeFirst_map (p := fun e => decide (e.key = valClass)) (f := Slot.bump)
    (q := fun e : StatClass => decide (e.classVal = valClass)) (g := fun e => { e with cnt := e.cnt + 1 })
    StatClass.ofSlot (fun _ => rfl) (fun e => by simp [StatClass.ofSlot, Slot.bump]) table
  have htake := changeFirst_map (p := fun e => decide (e.key = 0)) (f := fun _ => ⟨valClass, 1⟩)
    (q := fun e : StatClass => decide (e.classVal = 0)) (g := fun _ => ⟨valClass, 1⟩)
    StatClass.ofSlot (fun _ => rfl) (fun _ => rfl) table
  rw [ubxUpdateStat, record, hcount, htake]
  cases changeFirst (fun e => decide (e.key = valClass)) Slot.bump table with
  | some t => rfl
  | none =>
    cases changeFirst (fun e => decide (e.key = 0)) (fun _ => (⟨valClass, 1⟩ : Slot UInt8)) table with
    | some t => rfl
    | none => rfl

private theorem ubxUpdateStats_map (table : List (Slot UInt8)) (classes : List UInt8) :
    ubxUpdateStats (table.map StatClass.ofSlot) classes = (classes.foldl (record 0) table).map StatClass.ofSlot := by
  induction classes generalizing table with
  | nil => rfl
  | cons valClass classes ih =>
    change ubxUpdateStats (ubxUpdateStat (table.map StatClass.ofSlot) valClass).2 classes = _
    rw [ubxUpdateStat_map, ih]
    rfl

/-! ### The counts -/

/-- One entry of the table has the class, and it counts to the number. -/
def Tallied (table : List StatClass) (valClass : UInt8) (n : Nat) : Prop :=
  ∃ e, table.filter (fun e => e.classVal = valClass) = [e] ∧ e.cnt.toNat = n % 2 ^ 16

/-- The entries of the class are those of the open table. -/
private theorem filter_map_ofSlot (table : List (Slot UInt8)) (valClass : UInt8) :
    (table.map StatClass.ofSlot).filter (fun e => e.classVal = valClass) =
      (table.filter fun e => e.key = valClass).map StatClass.ofSlot := List.filter_map ..

/-- The table after a stream with room for its classes. -/
theorem ubxUpdateStats_eq {classes : List UInt8} (h : (log 0 classes).keys.length ≤ ubxClaCnt) :
    ubxUpdateStats tableRxClass classes =
      (taken 0 classes ++ opens 0 (ubxClaCnt - (log 0 classes).keys.length) (log 0 classes).since).map
        StatClass.ofSlot := by
  have hinit : tableRxClass = (empty (0 : UInt8) ubxClaCnt).map StatClass.ofSlot := rfl
  rw [hinit, ubxUpdateStats_map, records_eq h]

/-- A class other than 0 is counted. -/
private theorem tallied_of_ne {classes : List UInt8} {valClass : UInt8} (h : (log 0 classes).keys.length ≤ ubxClaCnt)
    (hmem : valClass ∈ classes) (hne : valClass ≠ 0) :
    Tallied (ubxUpdateStats tableRxClass classes) valClass (classes.count valClass) := by
  refine ⟨⟨valClass, UInt16.ofNat (classes.count valClass)⟩, ?_, UInt16.toNat_ofNat'⟩
  rw [ubxUpdateStats_eq h, filter_map_ofSlot, filter_taken (mem_log_keys.2 ⟨hne, hmem⟩)]
  rfl

/-- The class 0 is counted if one slot is free and no count of it was lost. -/
private theorem tallied_zero_iff {classes : List UInt8} (h : (log 0 classes).keys.length ≤ ubxClaCnt) (n : Nat) :
    Tallied (ubxUpdateStats tableRxClass classes) 0 n ↔
      (log 0 classes).keys.length + 1 = ubxClaCnt ∧ (log 0 classes).since ≡ n [MOD 2 ^ 16] := by
  have hentries : (ubxUpdateStats tableRxClass classes).filter (fun e => e.classVal = 0) =
      (opens 0 (ubxClaCnt - (log 0 classes).keys.length) (log 0 classes).since).map StatClass.ofSlot := by
    rw [ubxUpdateStats_eq h, filter_map_ofSlot, filter_free]
  rw [Tallied, hentries]
  constructor
  · rintro ⟨e, hone, hcnt⟩
    have hlen := congrArg List.length hone
    rw [List.length_map, opens_length, List.length_singleton] at hlen
    rw [hlen] at hone
    obtain rfl : StatClass.ofSlot ⟨0, (log 0 classes).since⟩ = e := (List.cons.inj hone).1
    exact ⟨by omega, UInt16.toNat_ofNat'.symm.trans hcnt⟩
  · rintro ⟨hlast, hsince⟩
    rw [show ubxClaCnt - (log 0 classes).keys.length = 1 by omega]
    exact ⟨⟨0, UInt16.ofNat (log 0 classes).since⟩, rfl, UInt16.toNat_ofNat'.trans hsince⟩

/-- With at most `UBX_CLA_CNT` different classes every class that came has one entry with its count if and only if 0 did
not come, or it is one of exactly `UBX_CLA_CNT` classes and, up to the width of the counter, always came behind the first
arrivals of the others. -/
theorem classes_counted_iff {classes : List UInt8} (h : classes.dedup.length ≤ ubxClaCnt) :
    (∀ valClass ∈ classes, Tallied (ubxUpdateStats tableRxClass classes) valClass (classes.count valClass)) ↔
      (0 ∈ classes → classes.dedup.length = ubxClaCnt ∧ (log 0 classes).since ≡ classes.count 0 [MOD 2 ^ 16]) := by
  have hdedup := dedup_length 0 classes
  have hroom : (log 0 classes).keys.length ≤ ubxClaCnt := by omega
  constructor
  · intro hall hzero
    rw [if_pos hzero] at hdedup
    obtain ⟨hlast, hsince⟩ := (tallied_zero_iff hroom _).1 (hall 0 hzero)
    exact ⟨by omega, hsince⟩
  · intro hzero valClass hmem
    by_cases hne : valClass = 0
    · subst hne
      obtain ⟨hlast, hsince⟩ := hzero hmem
      rw [if_pos hmem] at hdedup
      exact (tallied_zero_iff hroom _).2 ⟨by omega, hsince⟩
    · exact tallied_of_ne hroom hmem hne

theorem navAckNav_counted : Tallied (ubxUpdateStats tableRxClass [0x01, 0x05, 0x01]) 0x01 2 :=
  (classes_counted_iff (by decide)).2 (fun hzero => absurd hzero (by decide)) 0x01 (by decide)

/-- The class 0 and then the class 1: the slot of the first is taken by the second. -/
theorem not_classes_counted : ¬∀ classes : List UInt8, classes.dedup.length ≤ ubxClaCnt →
    ∀ valClass ∈ classes, Tallied (ubxUpdateStats tableRxClass classes) valClass (classes.count valClass) := by
  intro h
  obtain ⟨e, hone, hcnt⟩ := h [0, 1] (by decide) 0 (by decide)
  have hentries : (ubxUpdateStats tableRxClass [0, 1]).filter (fun e => e.classVal = 0) =
      List.replicate 14 ⟨0, 0⟩ := by decide
  rw [hentries] at hone
  exact absurd (congrArg List.length hone) (by simp)

end TiMcu.Ubx
