import Mathlib.Data.List.Dedup
import Mathlib.Data.List.Induction

/-!
# Tables of counters with free slots

A table is a list of slots, each with a key and a counter.  A key that is recorded raises the counter of the first slot
that carries it; a key that no slot carries takes the first free slot, with the counter at 1.  A slot is free when it
carries the key `free`.

`records_eq` says what an empty table is after a stream of keys: the keys other than `free` have their slots in the order
of their first arrival, with their counts.  The key `free` itself is counted in the first free slot, and this count is
gone when the slot is taken.
-/

namespace OpenTable

/-! ### The first that passes a test -/

section ChangeFirst

variable {α β : Type*} {p : α → Bool} {f : α → α}

/-- The first element that passes the test is changed; none when no element does. -/
def changeFirst (p : α → Bool) (f : α → α) : List α → Option (List α)
  | [] => none
  | a :: l => if p a then some (f a :: l) else (changeFirst p f l).map (a :: ·)

theorem changeFirst_append {l : List α} (h : ∀ a ∈ l, p a = false) (l' : List α) :
    changeFirst p f (l ++ l') = (changeFirst p f l').map (l ++ ·) := by
  induction l with
  | nil => simp
  | cons a l ih =>
    obtain ⟨ha, hl⟩ := List.forall_mem_cons.1 h
    rw [List.cons_append, changeFirst, ha, if_neg Bool.false_ne_true, ih hl, Option.map_map]
    rfl

theorem changeFirst_middle {l : List α} {a : α} (h : ∀ a ∈ l, p a = false) (ha : p a = true) (l' : List α) :
    changeFirst p f (l ++ a :: l') = some (l ++ f a :: l') := by
  rw [changeFirst_append h, changeFirst, if_pos ha, Option.map_some]

theorem changeFirst_none {l : List α} (h : ∀ a ∈ l, p a = false) : changeFirst p f l = none := by
  have happend := changeFirst_append (f := f) h []
  rwa [List.append_nil] at happend

/-- The same change in another representation. -/
theorem changeFirst_map {q : β → Bool} {g : β → β} (e : α → β) (hq : ∀ a, q (e a) = p a)
    (hg : ∀ a, g (e a) = e (f a)) (l : List α) :
    changeFirst q g (l.map e) = (changeFirst p f l).map (List.map e) := by
  induction l with
  | nil => rfl
  | cons a l ih =>
    rw [List.map_cons, changeFirst, changeFirst, hq, ih]
    cases p a with
    | true => simp [hg]
    | false => simp [Function.comp_def]

end ChangeFirst

/-! ### The table -/

variable {κ : Type*} {free k : κ} {s : List κ} {n : Nat}

structure Slot (κ : Type*) where
  key : κ
  cnt : Nat
  deriving DecidableEq, Repr

def Slot.bump (e : Slot κ) : Slot κ := { e with cnt := e.cnt + 1 }

def empty (free : κ) (n : Nat) : List (Slot κ) := List.replicate n ⟨free, 0⟩

/-- The free slots behind some keys: the first of them counts `free`. -/
def opens (free : κ) : Nat → Nat → List (Slot κ)
  | 0, _ => []
  | m + 1, since => ⟨free, since⟩ :: empty free m

theorem opens_zero (m : Nat) : opens free m 0 = empty free m := by
  cases m <;> rfl

theorem opens_length (m since : Nat) : (opens free m since).length = m := by
  cases m <;> simp [opens, empty]

theorem key_of_mem_opens {m since : Nat} {e : Slot κ} (h : e ∈ opens free m since) : e.key = free := by
  cases m with
  | zero => simp [opens] at h
  | succ m =>
    rcases List.mem_cons.1 h with rfl | h
    · rfl
    · rw [List.eq_of_mem_replicate h]

variable [DecidableEq κ]

/-- A key is recorded. -/
def record (free : κ) (t : List (Slot κ)) (k : κ) : List (Slot κ) :=
  match changeFirst (fun e => e.key = k) Slot.bump t with
  | some t => t
  | none => (changeFirst (fun e => e.key = free) (fun _ => ⟨k, 1⟩) t).getD t

/-! ### The order of arrival -/

/-- The keys other than `free` in the order of their first arrival, and how often `free` came behind the last of these
arrivals. -/
structure Log (κ : Type*) where
  keys : List κ
  since : Nat
  deriving DecidableEq, Repr

def Log.next (free : κ) (g : Log κ) (k : κ) : Log κ :=
  if k = free then { g with since := g.since + 1 }
  else if k ∈ g.keys then g
  else ⟨g.keys ++ [k], 0⟩

def log (free : κ) (s : List κ) : Log κ := s.foldl (Log.next free) ⟨[], 0⟩

theorem log_concat (s : List κ) (k : κ) : log free (s ++ [k]) = (log free s).next free k := List.foldl_concat ..

theorem mem_log_keys {k' : κ} : k' ∈ (log free s).keys ↔ k' ≠ free ∧ k' ∈ s := by
  induction s using List.reverseRecOn with
  | nil => simp [log]
  | append_singleton s k ih =>
    rw [log_concat, Log.next, List.mem_append, List.mem_singleton]
    by_cases hfree : k = free
    · rw [if_pos hfree, ih]
      constructor
      · rintro ⟨hne, hmem⟩
        exact ⟨hne, .inl hmem⟩
      · rintro ⟨hne, hmem | rfl⟩
        · exact ⟨hne, hmem⟩
        · exact absurd hfree hne
    · rw [if_neg hfree]
      by_cases hold : k ∈ (log free s).keys
      · rw [if_pos hold, ih]
        constructor
        · rintro ⟨hne, hmem⟩
          exact ⟨hne, .inl hmem⟩
        · rintro ⟨hne, hmem | rfl⟩
          · exact ⟨hne, hmem⟩
          · exact ⟨hne, (ih.1 hold).2⟩
      · rw [if_neg hold, List.mem_append, List.mem_singleton, ih]
        constructor
        · rintro (⟨hne, hmem⟩ | rfl)
          · exact ⟨hne, .inl hmem⟩
          · exact ⟨hfree, .inr rfl⟩
        · rintro ⟨hne, hmem | rfl⟩
          · exact .inl ⟨hne, hmem⟩
          · exact .inr rfl

theorem log_keys_nodup (free : κ) (s : List κ) : (log free s).keys.Nodup := by
  induction s using List.reverseRecOn with
  | nil => exact List.nodup_nil
  | append_singleton s k ih =>
    rw [log_concat, Log.next]
    split
    · exact ih
    · split
      · exact ih
      · next hnew => exact List.Nodup.append ih (List.nodup_singleton k) (by simpa using hnew)

/-- The keys of a longer stream are at least as many. -/
theorem log_keys_length_le (s : List κ) (k : κ) :
    (log free s).keys.length ≤ (log free (s ++ [k])).keys.length := by
  rw [log_concat, Log.next]
  split
  · exact Nat.le_refl _
  · split
    · exact Nat.le_refl _
    · simp

/-- The different values of a stream. -/
theorem dedup_length (free : κ) (s : List κ) :
    s.dedup.length = (log free s).keys.length + if free ∈ s then 1 else 0 := by
  by_cases hfree : free ∈ s
  · have hnodup : (free :: (log free s).keys).Nodup :=
      List.nodup_cons.2 ⟨fun hmem => (mem_log_keys.1 hmem).1 rfl, log_keys_nodup free s⟩
    have hperm : s.dedup.Perm (free :: (log free s).keys) := by
      rw [List.perm_ext_iff_of_nodup (List.nodup_dedup s) hnodup]
      intro k
      rw [List.mem_dedup, List.mem_cons, mem_log_keys]
      by_cases hk : k = free
      · simp [hk, hfree]
      · simp [hk]
    rw [hperm.length_eq, List.length_cons, if_pos hfree]
  · have hperm : s.dedup.Perm (log free s).keys := by
      rw [List.perm_ext_iff_of_nodup (List.nodup_dedup s) (log_keys_nodup free s)]
      intro k
      rw [List.mem_dedup, mem_log_keys]
      exact ⟨fun hmem => ⟨fun heq => hfree (heq ▸ hmem), hmem⟩, And.right⟩
    rw [hperm.length_eq, if_neg hfree, Nat.add_zero]

/-! ### The table after a stream -/

/-- The slots that are taken. -/
def taken (free : κ) (s : List κ) : List (Slot κ) := (log free s).keys.map fun k => ⟨k, s.count k⟩

theorem key_of_mem_taken {e : Slot κ} (h : e ∈ taken free s) : e.key ∈ (log free s).keys := by
  obtain ⟨k, hk, rfl⟩ := List.mem_map.1 h
  exact hk

/-- The counts of other keys stay. -/
theorem map_count_concat {l : List κ} (h : k ∉ l) (s : List κ) :
    (l.map fun k' => (⟨k', (s ++ [k]).count k'⟩ : Slot κ)) = l.map fun k' => ⟨k', s.count k'⟩ := by
  refine List.map_congr_left fun k' hk' => ?_
  have hne : k' ≠ k := fun heq => h (heq ▸ hk')
  simp [List.count_append, Ne.symm hne]

/-- A key that has its slot. -/
theorem record_taken (h : k ∈ (log free s).keys) (rest : List (Slot κ)) :
    record free (taken free s ++ rest) k = (log free s).keys.map (fun k' => ⟨k', (s ++ [k]).count k'⟩) ++ rest := by
  obtain ⟨l, l', hl⟩ := List.append_of_mem h
  have hnodup := log_keys_nodup free s
  rw [hl] at hnodup
  have hnotl : k ∉ l := fun hmem => (List.disjoint_of_nodup_append hnodup) hmem (List.mem_cons_self ..)
  have hnotl' : k ∉ l' := (List.nodup_cons.1 hnodup.of_append_right).1
  have hother : ∀ e ∈ l.map fun k' => (⟨k', s.count k'⟩ : Slot κ), decide (e.key = k) = false := by
    intro e he
    obtain ⟨k', hk', rfl⟩ := List.mem_map.1 he
    exact decide_eq_false fun heq => hnotl (heq ▸ hk')
  rw [record, taken, hl, List.map_append, List.map_cons, List.append_assoc, List.cons_append,
    changeFirst_middle hother (by simp)]
  dsimp only
  rw [List.map_append, List.map_cons, map_count_concat hnotl, map_count_concat hnotl', List.append_assoc]
  simp [Slot.bump, List.count_append]

/-- A key without a slot. -/
theorem record_new (hfree : k ≠ free) (h : k ∉ (log free s).keys) {m : Nat} (since : Nat) :
    record free (taken free s ++ opens free (m + 1) since) k = taken free s ++ ⟨k, 1⟩ :: empty free m := by
  have hnone : changeFirst (fun e => decide (e.key = k)) Slot.bump (taken free s ++ opens free (m + 1) since) = none := by
    refine changeFirst_none fun e he => decide_eq_false fun heq => ?_
    rcases List.mem_append.1 he with he | he
    · exact h (heq ▸ key_of_mem_taken he)
    · exact hfree (heq ▸ key_of_mem_opens he)
  have hother : ∀ e ∈ taken free s, decide (e.key = free) = false := fun e he =>
    decide_eq_false (mem_log_keys.1 (key_of_mem_taken he)).1
  rw [record, hnone, opens, changeFirst_middle hother (by simp)]
  rfl

/-- The key of the free slots. -/
theorem record_free (m since : Nat) :
    record free (taken free s ++ opens free m since) free = taken free s ++ opens free m (since + 1) := by
  have hother : ∀ e ∈ taken free s, decide (e.key = free) = false := fun e he =>
    decide_eq_false (mem_log_keys.1 (key_of_mem_taken he)).1
  cases m with
  | zero =>
    rw [opens, opens, List.append_nil, record, changeFirst_none hother, changeFirst_none hother]
    rfl
  | succ m =>
    rw [opens, opens, record, changeFirst_middle hother (by simp)]
    rfl

/-- An empty table after a stream of keys that finds room. -/
theorem records_eq (h : (log free s).keys.length ≤ n) :
    s.foldl (record free) (empty free n) =
      taken free s ++ opens free (n - (log free s).keys.length) (log free s).since := by
  induction s using List.reverseRecOn with
  | nil =>
    change empty free n = [] ++ opens free n 0
    rw [opens_zero, List.nil_append]
  | append_singleton s k ih =>
    rw [List.foldl_concat, ih (Nat.le_trans (log_keys_length_le s k) h)]
    rw [log_concat] at h
    unfold taken
    rw [log_concat]
    unfold Log.next at h ⊢
    by_cases hfree : k = free
    · subst hfree
      have hnot : k ∉ (log k s).keys := fun hmem => (mem_log_keys.1 hmem).1 rfl
      rw [if_pos rfl, map_count_concat hnot]
      exact record_free _ _
    · rw [if_neg hfree] at h ⊢
      by_cases hold : k ∈ (log free s).keys
      · rw [if_pos hold]
        exact record_taken hold _
      · rw [if_neg hold] at h ⊢
        simp only [List.length_append, List.length_singleton] at h ⊢
        have hzero : s.count k = 0 := List.count_eq_zero.2 fun hmem => hold (mem_log_keys.2 ⟨hfree, hmem⟩)
        rw [show n - (log free s).keys.length = n - ((log free s).keys.length + 1) + 1 by omega, opens_zero]
        refine (record_new hfree hold _).trans ?_
        rw [List.map_append, map_count_concat hold]
        simp [taken, List.count_append, hzero]

/-! ### The slots of a key -/

/-- A key other than `free` that came has one slot, with its count. -/
theorem filter_taken (h : k ∈ (log free s).keys) (m since : Nat) :
    (taken free s ++ opens free m since).filter (fun e => e.key = k) = [⟨k, s.count k⟩] := by
  have hfree := (mem_log_keys.1 h).1
  have hopens : (opens free m since).filter (fun e => decide (e.key = k)) = [] := by
    refine List.filter_eq_nil_iff.2 fun e he => ?_
    rw [key_of_mem_opens he]
    simpa using hfree.symm
  rw [List.filter_append, hopens, List.append_nil, taken, List.filter_map]
  have hkeys : (log free s).keys.filter ((fun e : Slot κ => decide (e.key = k)) ∘ fun k' => ⟨k', s.count k'⟩) = [k] := by
    have hone := List.filter_eq (l := (log free s).keys) k
    rw [List.count_eq_one_of_mem (log_keys_nodup free s) h] at hone
    exact hone
  rw [hkeys]
  rfl

/-- The slots that carry `free`. -/
theorem filter_free (m since : Nat) :
    (taken free s ++ opens free m since).filter (fun e => e.key = free) = opens free m since := by
  have htaken : (taken free s).filter (fun e => decide (e.key = free)) = [] := by
    refine List.filter_eq_nil_iff.2 fun e he => ?_
    simpa using (mem_log_keys.1 (key_of_mem_taken he)).1
  rw [List.filter_append, htaken, List.nil_append]
  exact List.filter_eq_self.2 fun e he => by simpa using key_of_mem_opens he

end OpenTable
