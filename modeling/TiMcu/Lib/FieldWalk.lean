import Mathlib.Data.List.Basic

/-!
# Walking over the fields of a text

A text is a list of characters that a stop character closes, or that just ends.  A pointer into it is the rest of the
text from there on; null is `none`.  A walker searches one separator after the other and uses what stands behind it.
It has no result when it leaves the text: when it reads behind the last character, or searches from null or
advances it.

A walk has a result exactly when the text has enough separators (`walk_isSome_iff`).
-/

namespace FieldWalk

variable {α D : Type} [DecidableEq α]

/-! ### The text -/

/-- The characters up to the first stop, and the stop. -/
def upTo (stop : α) : List α → List α
  | [] => []
  | c :: text => if c = stop then [c] else c :: upTo stop text

/-- What stands behind the first separator. -/
def behind (sep : α) : List α → List α
  | [] => []
  | c :: text => if c = sep then text else behind sep text

/-- The first separator from a pointer on, or null when the stop comes first. -/
def search (sep stop : α) : List α → Option (Option (List α))
  | [] => none
  | c :: text => if c = sep then some (some (c :: text)) else if c = stop then some none else search sep stop text

/-- A text that is closed by the only stop in it, or has none, and has room behind every separator. -/
structure Sound (sep stop : α) (closed : Bool) (room : Nat) (text : List α) : Prop where
  ends : ∃ front, stop ∉ front ∧ text = front ++ if closed then [stop] else []
  room : ∀ front rest, text = front ++ sep :: rest → room ≤ rest.length

variable {sep stop : α} {closed : Bool} {room : Nat} {c : α} {text : List α}

theorem upTo_append {front : List α} (hfront : stop ∉ front) (n : Nat) :
    upTo stop (front ++ List.replicate n stop) = front ++ if n = 0 then [] else [stop] := by
  induction front with
  | nil =>
    cases n with
    | zero => rfl
    | succ n => simp [upTo, List.replicate_succ]
  | cons c front ih =>
    obtain ⟨hne, hrest⟩ := not_or.1 (mt List.mem_cons.2 hfront)
    rw [List.cons_append, upTo, if_neg (Ne.symm hne), ih hrest, List.cons_append]

omit [DecidableEq α] in
theorem Sound.tail (h : Sound sep stop closed room (c :: text)) (hc : c ≠ stop) :
    Sound sep stop closed room text := by
  obtain ⟨⟨front, hfront, heq⟩, hroom⟩ := h
  constructor
  · cases front with
    | nil =>
      cases closed with
      | false => simp at heq
      | true => simp [hc] at heq
    | cons b front =>
      rw [List.cons_append, List.cons.injEq] at heq
      exact ⟨front, fun hmem => hfront (List.mem_cons_of_mem b hmem), heq.2⟩
  · intro front rest hrest
    exact hroom (c :: front) rest (by rw [hrest, List.cons_append])

omit [DecidableEq α] in
theorem Sound.closed_of_stop (h : Sound sep stop closed room (stop :: text)) : closed = true := by
  obtain ⟨⟨front, hfront, heq⟩, -⟩ := h
  cases closed with
  | true => rfl
  | false =>
    rw [if_neg Bool.false_ne_true, List.append_nil] at heq
    exact absurd (heq ▸ List.mem_cons_self) hfront

omit [DecidableEq α] in
theorem Sound.not_closed_of_nil (h : Sound sep stop closed room ([] : List α)) : closed = false := by
  obtain ⟨⟨front, -, heq⟩, -⟩ := h
  cases closed with
  | true => simp at heq
  | false => rfl

/-- A search finds a separator of the text. -/
theorem search_mem (h : Sound sep stop closed room text) (hsep : sep ≠ stop) (hmem : sep ∈ text) :
    search sep stop text = some (some (sep :: behind sep text)) ∧
      Sound sep stop closed room (sep :: behind sep text) ∧
      text.count sep = (behind sep text).count sep + 1 := by
  induction text with
  | nil => exact absurd hmem List.not_mem_nil
  | cons c text ih =>
    by_cases hc : c = sep
    · subst hc
      rw [search, if_pos rfl, behind, if_pos rfl, List.count_cons_self]
      exact ⟨rfl, h, rfl⟩
    · have hrest : sep ∈ text := (List.mem_cons.1 hmem).resolve_left (Ne.symm hc)
      -- the stop is the last character, so that the separator is not behind it
      have hstop : c ≠ stop := by
        intro hstop
        obtain ⟨front, hfront, heq⟩ := h.ends
        cases front with
        | nil =>
          have hlen := congrArg List.length heq
          rw [List.nil_append, List.length_cons] at hlen
          cases text with
          | nil => exact List.not_mem_nil hrest
          | cons d text =>
            split at hlen
            · simp at hlen
            · simp at hlen
        | cons b front =>
          rw [List.cons_append, List.cons.injEq] at heq
          exact hfront (hstop ▸ heq.1 ▸ List.mem_cons_self)
      rw [search, if_neg hc, if_neg hstop, behind, if_neg hc, List.count_cons_of_ne hc]
      exact ih (h.tail hstop) hrest

/-- A search in a text without separators ends at the stop, or does not end. -/
theorem search_not_mem (h : Sound sep stop closed room text) (hmem : sep ∉ text) :
    search sep stop text = if closed then some none else none := by
  induction text with
  | nil =>
    rw [h.not_closed_of_nil]
    rfl
  | cons c text ih =>
    obtain ⟨hne, hrest⟩ := not_or.1 (mt List.mem_cons.2 hmem)
    rw [search, if_neg (Ne.symm hne)]
    by_cases hstop : c = stop
    · subst hstop
      rw [if_pos rfl, h.closed_of_stop]
      rfl
    · rw [if_neg hstop]
      exact ih (h.tail hstop) hrest

/-! ### The walk -/

/-- Whether the pointer is advanced behind a field. -/
inductive Advance
  | never | always | unlessNull
  deriving DecidableEq

/-- A field of a text: the search of its separator, what is done with it, and the advance. -/
structure Field (α D : Type) where
  /-- Null is not searched from. -/
  guarded : Bool := false
  /-- The distance from the separator to what is read. -/
  place : Nat := 1
  /-- What is done with the text from the place on. -/
  act : List α → D → D
  advance : Advance

variable (sep stop) in
def Field.find (f : Field α D) (ptr : Option (List α)) : Option (Option (List α)) :=
  match ptr with
  | none => if f.guarded then some none else none
  | some text => search sep stop text

def Field.use (f : Field α D) (ptr : Option (List α)) (d : D) : Option (Option (List α) × D) :=
  match ptr with
  | none => if f.advance = .always then none else some (none, d)
  | some text =>
    if f.place < text.length then
      some (some (if f.advance = .never then text else text.tail), f.act (text.drop f.place) d)
    else none

variable (sep stop) in
/-- A walk over fields. -/
def walk : List (Field α D) → Option (List α) → D → Option (Option (List α) × D)
  | [], ptr, d => some (ptr, d)
  | f :: fields, ptr, d => do
    let ptr ← f.find sep stop ptr
    let (ptr, d) ← f.use ptr d
    walk fields ptr d

/-- The fields can be walked over from null. -/
def nullSafe (fields : List (Field α D)) : Bool := fields.all fun f => f.guarded && f.advance ≠ .always

/-- The number of separators that a walk needs. -/
def need (closed : Bool) : List (Field α D) → Nat
  | [] => 0
  | f :: fields =>
    if closed ∧ f.advance ≠ .always ∧ nullSafe fields then 0
    else if f.advance = .never then max 1 (need closed fields)
    else need closed fields + 1

variable {f : Field α D} {fields : List (Field α D)} {d : D}

theorem walk_append (fields rest : List (Field α D)) (ptr : Option (List α)) (d : D) :
    walk sep stop (fields ++ rest) ptr d = (walk sep stop fields ptr d).bind fun w => walk sep stop rest w.1 w.2 := by
  induction fields generalizing ptr d with
  | nil => rfl
  | cons f fields ih =>
    rw [List.cons_append, walk, walk]
    cases f.find sep stop ptr with
    | none => rfl
    | some ptr =>
      change (f.use ptr d).bind _ = ((f.use ptr d).bind _).bind _
      rw [Option.bind_assoc]
      congr 1
      funext w
      exact ih w.1 w.2

theorem walk_null : (walk sep stop fields none d).isSome = nullSafe fields := by
  induction fields generalizing d with
  | nil => rfl
  | cons f fields ih =>
    rw [walk, Field.find, nullSafe, List.all_cons]
    cases hguarded : f.guarded with
    | false => rfl
    | true =>
      by_cases hadvance : f.advance = .always
      · simp [Field.use, hadvance]
      · simpa [Field.use, hadvance, nullSafe] using ih

omit [DecidableEq α] in
theorem Sound.use (h : Sound sep stop closed room (sep :: text)) (hplace : f.place ≤ room) (d : D) :
    f.use (some (sep :: text)) d =
      some (some (if f.advance = .never then sep :: text else text), f.act ((sep :: text).drop f.place) d) := by
  have hroom : room ≤ text.length := h.room [] text rfl
  rw [Field.use, if_pos (by rw [List.length_cons]; omega)]
  rfl

/-- A field whose separator is found. -/
theorem walk_found (h : Sound sep stop closed room text) (hsep : sep ≠ stop) (hplace : f.place ≤ room)
    (hmem : sep ∈ text) : walk sep stop (f :: fields) (some text) d = walk sep stop fields
      (some (if f.advance = .never then sep :: behind sep text else behind sep text))
      (f.act ((sep :: behind sep text).drop f.place) d) := by
  obtain ⟨hsearch, hfound, -⟩ := search_mem h hsep hmem
  rw [walk, Field.find, hsearch]
  change (f.use (some (sep :: behind sep text)) d).bind _ = _
  rw [hfound.use hplace]
  rfl

/-- A field whose separator is missing. -/
theorem walk_missing (h : Sound sep stop closed room text) (hmem : sep ∉ text) :
    (walk sep stop (f :: fields) (some text) d).isSome =
      (closed && f.advance ≠ .always && nullSafe fields) := by
  rw [walk, Field.find, search_not_mem h hmem]
  cases closed with
  | false => rfl
  | true =>
    by_cases hadvance : f.advance = .always
    · simp [Field.use, hadvance]
    · simpa [Field.use, hadvance] using walk_null

omit [DecidableEq α] in
theorem nullSafe_append {fields rest : List (Field α D)} (h : nullSafe rest = false) :
    nullSafe (fields ++ rest) = false := by
  rw [nullSafe, List.all_append]
  exact Bool.and_eq_false_imp.2 fun _ => h

omit [DecidableEq α] in
/-- Fields in front of a walk that cannot start from null need a separator each. -/
theorem need_append {fields rest : List (Field α D)} (hadvance : ∀ f ∈ fields, f.advance ≠ .never)
    (h : (closed && nullSafe rest) = false) :
    need closed (fields ++ rest) = need closed rest + fields.length := by
  induction fields with
  | nil => rfl
  | cons f fields ih =>
    obtain ⟨hf, hfields⟩ := List.forall_mem_cons.1 hadvance
    have hsafe : ¬(closed ∧ f.advance ≠ .always ∧ nullSafe (fields ++ rest)) := by
      rintro ⟨hclosed, -, hnull⟩
      rw [hclosed, Bool.true_and] at h
      rw [nullSafe_append h] at hnull
      exact Bool.false_ne_true hnull
    rw [List.cons_append, need, if_neg hsafe, if_neg hf, ih hfields, List.length_cons]
    rfl

/-- Where the pointer is behind a field. -/
theorem Sound.advance (h : Sound sep stop closed room text) (hsep : sep ≠ stop) (hmem : sep ∈ text) :
    Sound sep stop closed room (if f.advance = .never then sep :: behind sep text else behind sep text) := by
  obtain ⟨-, hfound, -⟩ := search_mem h hsep hmem
  split
  · exact hfound
  · exact hfound.tail hsep

/-- Fields that can be walked over from null can be walked over from everywhere in a closed text. -/
theorem walk_of_nullSafe (h : Sound sep stop true room text) (hsep : sep ≠ stop)
    (hplace : ∀ f ∈ fields, f.place ≤ room) (hsafe : nullSafe fields) :
    (walk sep stop fields (some text) d).isSome := by
  induction fields generalizing text d with
  | nil => rfl
  | cons f fields ih =>
    obtain ⟨hf, hfields⟩ := List.forall_mem_cons.1 hplace
    rw [nullSafe, List.all_cons, Bool.and_eq_true, Bool.and_eq_true] at hsafe
    obtain ⟨⟨-, hadvance⟩, hrest⟩ := hsafe
    by_cases hmem : sep ∈ text
    · rw [walk_found h hsep hf hmem]
      exact ih (h.advance hsep hmem) hfields hrest
    · rw [walk_missing h hmem, Bool.true_and, hadvance]
      exact hrest

/-- A walk ends inside the text exactly when the text has enough separators. -/
theorem walk_isSome_iff (h : Sound sep stop closed room text) (hsep : sep ≠ stop)
    (hplace : ∀ f ∈ fields, f.place ≤ room) :
    (walk sep stop fields (some text) d).isSome ↔ need closed fields ≤ text.count sep := by
  induction fields generalizing text d with
  | nil => exact ⟨fun _ => Nat.zero_le _, fun _ => rfl⟩
  | cons f fields ih =>
    obtain ⟨hf, hfields⟩ := List.forall_mem_cons.1 hplace
    by_cases hmem : sep ∈ text
    · obtain ⟨-, -, hcount⟩ := search_mem h hsep hmem
      rw [walk_found h hsep hf hmem, need]
      by_cases hsafe : closed ∧ f.advance ≠ .always ∧ nullSafe fields
      · -- nothing can go wrong behind this field
        rw [if_pos hsafe]
        obtain ⟨rfl, -, hrest⟩ := hsafe
        exact iff_of_true (walk_of_nullSafe (h.advance hsep hmem) hsep hfields hrest) (Nat.zero_le _)
      · rw [if_neg hsafe, ih (h.advance hsep hmem) hfields]
        by_cases hnever : f.advance = .never
        · rw [if_pos hnever, if_pos hnever, List.count_cons_self]
          omega
        · rw [if_neg hnever, if_neg hnever]
          omega
    · rw [walk_missing h hmem, List.count_eq_zero.2 hmem, need]
      by_cases hsafe : closed ∧ f.advance ≠ .always ∧ nullSafe fields
      · rw [if_pos hsafe]
        obtain ⟨hclosed, hadvance, hrest⟩ := hsafe
        simp [hclosed, hadvance, hrest]
      · rw [if_neg hsafe]
        have hfalse : (closed && f.advance ≠ .always && nullSafe fields) = false := by
          rw [Bool.eq_false_iff]
          intro htrue
          simp only [Bool.and_eq_true, decide_eq_true_eq] at htrue
          exact hsafe ⟨htrue.1.1, htrue.1.2, htrue.2⟩
        rw [hfalse]
        split
        · simp
        · simp

end FieldWalk
