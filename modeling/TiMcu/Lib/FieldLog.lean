import Mathlib.Logic.Function.Iterate
import TiMcu.Lib.FieldWalk

/-!
# The texts that the fields of a walk are given

A walk is run beside a log: a field with a label notes the label, the text that it is given, and whether it changes
the data.  The log leaves the walk as it is (`walk_logged`).  In a sound text the fields are given the texts behind the
separators, one after the other, as long as there are separators (`log_eq`).
-/

namespace FieldWalk

variable {α D S : Type} [DecidableEq α]

/-! ### Behind the separators -/

section Behind

variable {sep : α} {text : List α}

theorem count_behind (text : List α) : (behind sep text).count sep = text.count sep - 1 := by
  induction text with
  | nil => rfl
  | cons c text ih =>
    by_cases hc : c = sep
    · rw [behind, if_pos hc, hc, List.count_cons_self, Nat.add_sub_cancel]
    · rw [behind, if_neg hc, ih, List.count_cons_of_ne hc]

theorem count_iterate_behind (k : Nat) (text : List α) :
    ((behind sep)^[k] text).count sep = text.count sep - k := by
  induction k with
  | zero => rfl
  | succ k ih => rw [Function.iterate_succ_apply', count_behind, ih, Nat.sub_sub]

/-- The texts behind different separators are different. -/
theorem iterate_behind_inj {j k : Nat} (hj : j ≤ text.count sep) (hk : k ≤ text.count sep)
    (h : (behind sep)^[j] text = (behind sep)^[k] text) : j = k := by
  have hcount := congrArg (List.count sep) h
  rw [count_iterate_behind, count_iterate_behind] at hcount
  omega

end Behind

/-! ### The log -/

/-- What a field did: its label, the text that it was given, and whether it changed the data. -/
structure Entry (S α : Type) where
  label : S
  text : List α
  stored : Prop

/-- The field with a log beside the data. -/
def Field.logged (label : Option S) (f : Field α D) : Field α (D × List (Entry S α)) where
  guarded := f.guarded
  place := f.place
  act text w := (f.act text w.1, w.2 ++ (label.map fun s => ⟨s, text, f.act text w.1 ≠ w.1⟩).toList)
  advance := f.advance

def logged (fields : List (Option S × Field α D)) : List (Field α (D × List (Entry S α))) :=
  fields.map fun x => x.2.logged x.1

/-- The entries of the fields, when each finds its separator. -/
def entries (sep : α) : List (Option S × Field α D) → List α → D → List (Entry S α)
  | [], _, _ => []
  | x :: fields, text, d =>
    let text' := (sep :: behind sep text).drop x.2.place
    (x.1.map fun s => ⟨s, text', x.2.act text' d ≠ d⟩).toList ++
      entries sep fields (behind sep text) (x.2.act text' d)

/-- The labels and the texts of these entries. -/
def given (sep : α) : List (Option S × Field α D) → List α → List (S × List α)
  | [], _ => []
  | x :: fields, text =>
    (x.1.map fun s => (s, (sep :: behind sep text).drop x.2.place)).toList ++ given sep fields (behind sep text)

/-- The number of separators in front of what each label is given, from `k` of them on. -/
def indexed : Nat → List (Option S × Field α D) → List (Nat × S)
  | _, [] => []
  | k, x :: fields => (x.1.map (k + 1, ·)).toList ++ indexed (k + 1) fields

variable {sep stop : α} {closed : Bool} {room : Nat} {text : List α} {fields : List (Option S × Field α D)} {d d' : D}
  {log log' : List (Entry S α)} {ptr : Option (List α)}

omit [DecidableEq α] in
theorem logged_append (fields rest : List (Option S × Field α D)) :
    logged (fields ++ rest) = logged fields ++ logged rest := List.map_append

omit [DecidableEq α] in
theorem logged_use (label : Option S) (f : Field α D) (ptr : Option (List α)) (d : D) (log : List (Entry S α)) :
    ((f.logged label).use ptr (d, log)).map (fun w => (w.1, w.2.1)) = f.use ptr d := by
  cases ptr with
  | none =>
    rw [Field.use, Field.use]
    by_cases hadvance : f.advance = .always
    · rw [if_pos hadvance, if_pos (show (f.logged label).advance = .always from hadvance)]
      rfl
    · rw [if_neg hadvance, if_neg (show ¬(f.logged label).advance = .always from hadvance)]
      rfl
  | some text =>
    rw [Field.use, Field.use]
    by_cases hplace : f.place < text.length
    · rw [if_pos hplace, if_pos (show (f.logged label).place < text.length from hplace)]
      rfl
    · rw [if_neg hplace, if_neg (show ¬(f.logged label).place < text.length from hplace)]
      rfl

/-- The log leaves the walk as it is. -/
theorem walk_logged (fields : List (Option S × Field α D)) (ptr : Option (List α)) (d : D)
    (log : List (Entry S α)) :
    (walk sep stop (logged fields) ptr (d, log)).map (fun w => (w.1, w.2.1)) =
      walk sep stop (fields.map (·.2)) ptr d := by
  induction fields generalizing ptr d log with
  | nil => rfl
  | cons x fields ih =>
    rw [logged, List.map_cons, List.map_cons, walk, walk]
    have hfind : (x.2.logged x.1).find sep stop ptr = x.2.find sep stop ptr := rfl
    rw [hfind]
    cases x.2.find sep stop ptr with
    | none => rfl
    | some ptr =>
      change (((x.2.logged x.1).use ptr (d, log)).bind fun w => walk sep stop (logged fields) w.1 w.2).map _ =
        (x.2.use ptr d).bind fun w => walk sep stop (fields.map (·.2)) w.1 w.2
      rw [← logged_use x.1 x.2 ptr d log]
      cases (x.2.logged x.1).use ptr (d, log) with
      | none => rfl
      | some w => exact ih w.1 w.2.1 w.2.2

theorem entries_given (fields : List (Option S × Field α D)) (text : List α) (d : D) :
    (entries sep fields text d).map (fun e => (e.label, e.text)) = given sep fields text := by
  induction fields generalizing text d with
  | nil => rfl
  | cons x fields ih =>
    rw [entries, given, List.map_append, ih]
    cases x.1 with
    | none => rfl
    | some s => rfl

/-- Fields that read right behind their separators are given the texts there. -/
theorem given_eq (hplace : ∀ x ∈ fields, x.1.isSome → x.2.place = 1) (k : Nat) :
    given sep fields ((behind sep)^[k] text) = (indexed k fields).map fun q => (q.2, (behind sep)^[q.1] text) := by
  induction fields generalizing k with
  | nil => rfl
  | cons x fields ih =>
    obtain ⟨hx, hfields⟩ := List.forall_mem_cons.1 hplace
    rw [given, indexed, List.map_append, ← Function.iterate_succ_apply' (behind sep) k text, ih hfields (k + 1)]
    congr 1
    cases hlabel : x.1 with
    | none => rfl
    | some s =>
      rw [hx (by rw [hlabel]; rfl)]
      rfl

omit [DecidableEq α] in
theorem indexed_append (k : Nat) (fields rest : List (Option S × Field α D)) :
    indexed k (fields ++ rest) = indexed k fields ++ indexed (k + fields.length) rest := by
  induction fields generalizing k with
  | nil => rfl
  | cons x fields ih =>
    rw [List.cons_append, indexed, indexed, ih, List.append_assoc, List.length_cons, Nat.add_right_comm, Nat.add_assoc]

omit [DecidableEq α] in
theorem label_of_indexed {k : Nat} {q : Nat × S} (hq : q ∈ indexed k fields) : ∃ x ∈ fields, x.1 = some q.2 := by
  induction fields generalizing k with
  | nil => exact absurd hq List.not_mem_nil
  | cons x fields ih =>
    rw [indexed, List.mem_append] at hq
    rcases hq with hq | hq
    · rw [Option.mem_toList, Option.map_eq_some_iff] at hq
      obtain ⟨s, hs, rfl⟩ := hq
      exact ⟨x, List.mem_cons_self, hs⟩
    · obtain ⟨y, hy, hlabel⟩ := ih hq
      exact ⟨y, List.mem_cons_of_mem x hy, hlabel⟩

/-! ### Walks that end -/

omit [DecidableEq α] in
/-- A walk never needs more separators than it has fields. -/
theorem need_le_length (closed : Bool) (fields : List (Field α D)) : need closed fields ≤ fields.length := by
  induction fields with
  | nil => exact Nat.le_refl 0
  | cons f fields ih =>
    rw [need, List.length_cons]
    split
    · exact Nat.zero_le _
    · split <;> omega

/-- From null a walk leaves the data as they are. -/
theorem walk_null_data {fields : List (Field α D)} (h : walk sep stop fields none d = some (ptr, d')) : d' = d := by
  induction fields generalizing d with
  | nil => exact (Prod.mk.inj (Option.some.inj h)).2.symm
  | cons f fields ih =>
    rw [walk, Field.find] at h
    cases hguarded : f.guarded with
    | false =>
      rw [hguarded] at h
      exact absurd h (by simp)
    | true =>
      rw [hguarded] at h
      by_cases hadvance : f.advance = .always
      · exact absurd h (by simp [Field.use, hadvance])
      · simp only [Field.use, hadvance, if_true, if_false, Option.bind_eq_bind, Option.bind_some] at h
        exact ih h

/-- Without a separator a walk leaves the data as they are. -/
theorem walk_missing_data {fields : List (Field α D)} {f : Field α D} (h : Sound sep stop closed room text)
    (hmem : sep ∉ text) (hwalk : walk sep stop (f :: fields) (some text) d = some (ptr, d')) : d' = d := by
  rw [walk, Field.find, search_not_mem h hmem] at hwalk
  cases closed with
  | false => exact absurd hwalk (by simp)
  | true =>
    by_cases hadvance : f.advance = .always
    · exact absurd hwalk (by simp [Field.use, hadvance])
    · simp only [Field.use, hadvance, if_true, if_false, Option.bind_eq_bind, Option.bind_some] at hwalk
      exact walk_null_data hwalk

/-- The log of a walk has the entries of the fields, as far as the separators go. -/
theorem log_eq (h : Sound sep stop closed room text) (hsep : sep ≠ stop) (hplace : ∀ x ∈ fields, x.2.place ≤ room)
    (hadvance : ∀ x ∈ fields.dropLast, x.2.advance ≠ .never)
    (hwalk : walk sep stop (logged fields) (some text) (d, log) = some (ptr, d', log')) :
    log' = log ++ entries sep (fields.take (text.count sep)) text d := by
  induction fields generalizing text d log with
  | nil =>
    have heq : (some text, d, log) = (ptr, d', log') := Option.some.inj hwalk
    rw [List.take_nil, entries, List.append_nil]
    exact (congrArg (fun w => w.2.2) heq).symm
  | cons x fields ih =>
    obtain ⟨hx, hfields⟩ := List.forall_mem_cons.1 hplace
    by_cases hmem : sep ∈ text
    · obtain ⟨-, hfound, hcount⟩ := search_mem h hsep hmem
      have hnext : logged (x :: fields) = x.2.logged x.1 :: logged fields := rfl
      rw [hnext, walk_found (f := x.2.logged x.1) h hsep hx hmem] at hwalk
      rw [hcount, List.take_succ_cons, entries, ← List.append_assoc]
      by_cases hlast : fields = []
      · -- the last field, where the pointer may stay
        subst hlast
        rw [List.take_nil, entries, List.append_nil]
        exact (congrArg (fun w => w.2.2) (Option.some.inj hwalk)).symm
      · rw [List.dropLast_cons_of_ne_nil hlast] at hadvance
        obtain ⟨hnever, hrest⟩ := List.forall_mem_cons.1 hadvance
        rw [show (x.2.logged x.1).advance = x.2.advance from rfl, if_neg hnever] at hwalk
        exact ih (hfound.tail hsep) hfields hrest hwalk
    · have heq : (d', log') = (d, log) := walk_missing_data h hmem hwalk
      rw [List.count_eq_zero.2 hmem, List.take_zero, entries, List.append_nil]
      exact (Prod.mk.inj heq).2

/-- With enough separators a walk ends, with an entry for every labelled field. -/
theorem walk_log (h : Sound sep stop closed room text) (hsep : sep ≠ stop) (hplace : ∀ x ∈ fields, x.2.place ≤ room)
    (hadvance : ∀ x ∈ fields.dropLast, x.2.advance ≠ .never) (hcount : fields.length ≤ text.count sep) (d : D) :
    (walk sep stop (logged fields) (some text) (d, [])).map (·.2.2) = some (entries sep fields text d) := by
  have hplaces : ∀ f ∈ logged fields, f.place ≤ room := by
    intro f hf
    obtain ⟨x, hx, rfl⟩ := List.mem_map.1 hf
    exact hplace x hx
  have hneed : need closed (logged fields) ≤ text.count sep := by
    have hlength : (logged fields).length = fields.length := List.length_map _
    exact Nat.le_trans (need_le_length closed (logged fields)) (hlength ▸ hcount)
  obtain ⟨⟨ptr, d', log⟩, hwalk⟩ := Option.isSome_iff_exists.1
    ((walk_isSome_iff h hsep hplaces (d := (d, ([] : List (Entry S α))))).2 hneed)
  have hlog := log_eq h hsep hplace hadvance hwalk
  rw [List.take_of_length_le hcount, List.nil_append] at hlog
  rw [hwalk, ← hlog]
  rfl

end FieldWalk
