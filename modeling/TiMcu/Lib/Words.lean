import Mathlib.Data.List.Range
import Mathlib.Data.List.TakeWhile
import Mathlib.Data.Nat.Find

/-!
# The words of a text

A word of a text is a maximal run of elements that are no separators.  A word is given by the index where it starts;
`starts` lists these in order and `stop` is the index behind a word.

A scan finds words from left to right; `startsBelow` is what it has found below an index.
-/

namespace Words

variable {α : Type*} (sep : α → Bool) (l : List α)

def sepAt (i : Nat) : Bool := l[i]?.any sep

def wordAt (i : Nat) : Bool := l[i]?.any fun c => !sep c

/-- A word starts at `a`. -/
def isStart (a : Nat) : Bool := wordAt sep l a && (a == 0 || sepAt sep l (a - 1))

def startsBelow (p : Nat) : List Nat := (List.range p).filter (isStart sep l)

/-- Where the words start. -/
def starts : List Nat := startsBelow sep l l.length

/-- The word that starts at `a`. -/
def word (a : Nat) : List α := (l.drop a).takeWhile fun c => !sep c

/-- The index behind the word that starts at `a`. -/
def stop (a : Nat) : Nat := a + (word sep l a).length

def words : List (List α) := (starts sep l).map (word sep l)

variable {sep l} {a i p q r : Nat}

/-- The first index from `p` on where a test fails. -/
theorem exists_end {test : Nat → Bool} {n : Nat} (hp : p ≤ n) (hn : test n = false) :
    ∃ q, p ≤ q ∧ q ≤ n ∧ (∀ x, p ≤ x → x < q → test x = true) ∧ test q = false := by
  have hex : ∃ x, p ≤ x ∧ test x = false := ⟨n, hp, hn⟩
  refine ⟨Nat.find hex, (Nat.find_spec hex).1, Nat.find_min' hex ⟨hp, hn⟩, ?_, (Nat.find_spec hex).2⟩
  intro x hx hlt
  have hmin := Nat.find_min hex hlt
  simpa [hx] using hmin

/-! ### Separators and elements of words -/

theorem wordAt_of_getElem? {c : α} (h : l[i]? = some c) : wordAt sep l i = !sep c := by
  simp [wordAt, h]

theorem sepAt_of_getElem? {c : α} (h : l[i]? = some c) : sepAt sep l i = sep c := by
  simp [sepAt, h]

theorem lt_of_wordAt (h : wordAt sep l i = true) : i < l.length := by
  by_contra hge
  rw [wordAt, List.getElem?_eq_none (by omega)] at h
  exact absurd h (by simp)

theorem lt_of_sepAt (h : sepAt sep l i = true) : i < l.length := by
  by_contra hge
  rw [sepAt, List.getElem?_eq_none (by omega)] at h
  exact absurd h (by simp)

theorem wordAt_eq_not (h : i < l.length) : wordAt sep l i = !sepAt sep l i := by
  rw [wordAt_of_getElem? (List.getElem?_eq_getElem h), sepAt_of_getElem? (List.getElem?_eq_getElem h)]

theorem sepAt_length (sep : α → Bool) (l : List α) : sepAt sep l l.length = false := by
  simp [sepAt]

theorem wordAt_length (sep : α → Bool) (l : List α) : wordAt sep l l.length = false := by
  simp [wordAt]

theorem isStart_iff : isStart sep l a = true ↔ wordAt sep l a = true ∧ (a = 0 ∨ sepAt sep l (a - 1) = true) := by
  simp [isStart]

/-! ### One word -/

theorem word_of_not (h : wordAt sep l a = false) : word sep l a = [] := by
  unfold word
  by_cases ha : a < l.length
  · rw [wordAt_of_getElem? (List.getElem?_eq_getElem ha)] at h
    rw [List.drop_eq_getElem_cons ha, List.takeWhile_cons, h]
    rfl
  · rw [List.drop_eq_nil_of_le (by omega), List.takeWhile_nil]

theorem word_cons {c : α} (h : l[a]? = some c) (hc : sep c = false) : word sep l a = c :: word sep l (a + 1) := by
  obtain ⟨ha, rfl⟩ := List.getElem?_eq_some_iff.1 h
  unfold word
  rw [List.drop_eq_getElem_cons ha, List.takeWhile_cons, hc]
  rfl

theorem exists_of_wordAt (h : wordAt sep l a = true) : ∃ c, l[a]? = some c ∧ sep c = false := by
  have ha := lt_of_wordAt h
  refine ⟨l[a], List.getElem?_eq_getElem ha, ?_⟩
  simpa [wordAt_of_getElem? (List.getElem?_eq_getElem ha)] using h

theorem stop_of_not (h : wordAt sep l a = false) : stop sep l a = a := by
  rw [stop, word_of_not h, List.length_nil, Nat.add_zero]

theorem stop_of_wordAt (h : wordAt sep l a = true) : stop sep l a = stop sep l (a + 1) := by
  obtain ⟨c, hc, hsep⟩ := exists_of_wordAt h
  rw [stop, word_cons hc hsep, List.length_cons, stop]
  omega

/-- A word ends at the first index that does not belong to it. -/
theorem stop_eq (har : a ≤ r) (hw : ∀ x, a ≤ x → x < r → wordAt sep l x = true) (hr : wordAt sep l r = false) :
    stop sep l a = r := by
  induction h : r - a generalizing a with
  | zero =>
    obtain rfl : a = r := by omega
    exact stop_of_not hr
  | succ d ih =>
    rw [stop_of_wordAt (hw a (le_refl a) (by omega))]
    exact ih (by omega) (fun x hx hxr => hw x (by omega) hxr) (by omega)

theorem wordAt_stop (sep : α → Bool) (l : List α) (a : Nat) : wordAt sep l (stop sep l a) = false := by
  by_cases ha : a ≤ l.length
  · obtain ⟨r, har, -, hw, hr⟩ := exists_end ha (wordAt_length sep l)
    rw [stop_eq har hw hr]
    exact hr
  · have hnot : wordAt sep l a = false := by
      rw [wordAt, List.getElem?_eq_none (by omega)]
      rfl
    rw [stop_of_not hnot]
    exact hnot

theorem wordAt_of_lt_stop {x : Nat} (hax : a ≤ x) (hx : x < stop sep l a) : wordAt sep l x = true := by
  by_cases ha : a ≤ l.length
  · obtain ⟨r, har, -, hw, hr⟩ := exists_end ha (wordAt_length sep l)
    rw [stop_eq har hw hr] at hx
    exact hw x hax hx
  · have hnot : wordAt sep l a = false := by
      rw [wordAt, List.getElem?_eq_none (by omega)]
      rfl
    rw [stop_of_not hnot] at hx
    omega

theorem le_stop (a : Nat) : a ≤ stop sep l a := Nat.le_add_right ..

/-- Two texts with the same elements up to the end of a word, with other separators. -/
theorem word_congr {sep' : α → Bool} {l' : List α}
    (hl : ∀ x, a ≤ x → x < stop sep l a → l'[x]? = l[x]? ∧ wordAt sep' l' x = true)
    (hr : wordAt sep' l' (stop sep l a) = false) : word sep' l' a = word sep l a := by
  induction h : stop sep l a - a generalizing a with
  | zero =>
    have ha : stop sep l a = a := Nat.le_antisymm (by omega) (le_stop a)
    have hnot := wordAt_stop sep l a
    rw [ha] at hr hnot
    rw [word_of_not hr, word_of_not hnot]
  | succ d ih =>
    have hlt : a < stop sep l a := by omega
    have ha := wordAt_of_lt_stop (le_refl a) hlt
    obtain ⟨c, hc, hsep⟩ := exists_of_wordAt ha
    obtain ⟨hl', hw'⟩ := hl a (le_refl a) hlt
    obtain ⟨c', hc', hsep'⟩ := exists_of_wordAt hw'
    rw [hl', hc] at hc'
    obtain rfl := Option.some.inj hc'
    rw [stop_of_wordAt ha] at h hr hl
    rw [word_cons hc hsep, word_cons (hl'.trans hc) hsep',
      ih (fun x hx hlt => hl x (by omega) hlt) hr (by omega)]

/-! ### The scan -/

theorem startsBelow_succ (p : Nat) :
    startsBelow sep l (p + 1) = startsBelow sep l p ++ if isStart sep l p then [p] else [] := by
  rw [startsBelow, List.range_succ, List.filter_append]
  congr 1
  by_cases h : isStart sep l p = true <;> simp [h]

/-- No word starts between two indices. -/
theorem startsBelow_eq (hpq : p ≤ q) (h : ∀ x, p ≤ x → x < q → isStart sep l x = false) :
    startsBelow sep l q = startsBelow sep l p := by
  induction q, hpq using Nat.le_induction with
  | base => rfl
  | succ q hq ih =>
    rw [startsBelow_succ, ih fun x hx hlt => h x hx (by omega), h q hq (Nat.lt_succ_self q)]
    simp

theorem startsBelow_prefix (sep : α → Bool) (l : List α) (hpq : p ≤ q) :
    startsBelow sep l p <+: startsBelow sep l q := by
  induction q, hpq using Nat.le_induction with
  | base => exact List.prefix_refl _
  | succ q hq ih =>
    rw [startsBelow_succ]
    exact ih.trans (List.prefix_append _ _)

theorem startsBelow_seps (hpq : p ≤ q) (hseps : ∀ x, p ≤ x → x < q → sepAt sep l x = true) :
    startsBelow sep l q = startsBelow sep l p := by
  apply startsBelow_eq hpq
  intro x hx hxq
  have hsep := hseps x hx hxq
  rw [isStart, wordAt_eq_not (lt_of_sepAt hsep), hsep]
  rfl

/-- Separators, then a word: one word more is found. -/
theorem startsBelow_word (hp : p = 0 ∨ sepAt sep l (p - 1) = true) (hpq : p ≤ q)
    (hseps : ∀ x, p ≤ x → x < q → sepAt sep l x = true) (hqr : q < r)
    (hword : ∀ x, q ≤ x → x < r → wordAt sep l x = true) :
    startsBelow sep l r = startsBelow sep l p ++ [q] := by
  have hq : isStart sep l q = true := by
    refine isStart_iff.2 ⟨hword q (le_refl q) hqr, ?_⟩
    by_cases hlt : p < q
    · exact .inr (hseps (q - 1) (by omega) (by omega))
    · obtain rfl : p = q := by omega
      exact hp
  have hinside : startsBelow sep l r = startsBelow sep l (q + 1) := by
    apply startsBelow_eq hqr
    intro x hx hxr
    have hprev := hword (x - 1) (by omega) (by omega)
    have hlt := lt_of_wordAt hprev
    rw [wordAt_eq_not hlt, Bool.not_eq_true'] at hprev
    have hx0 : (x == 0) = false := by
      simp
      omega
    rw [isStart, hprev, hx0, Bool.or_false, Bool.and_false]
  rw [hinside, startsBelow_succ, startsBelow_seps hpq hseps, hq]
  rfl

/-! ### Words that are joined -/

theorem wordAt_append_right (l l' : List α) (i : Nat) : wordAt sep (l ++ l') (l.length + i) = wordAt sep l' i := by
  rw [wordAt, wordAt, List.getElem?_append_right (Nat.le_add_right ..), Nat.add_sub_cancel_left]

theorem sepAt_append_right (l l' : List α) (i : Nat) : sepAt sep (l ++ l') (l.length + i) = sepAt sep l' i := by
  rw [sepAt, sepAt, List.getElem?_append_right (Nat.le_add_right ..), Nat.add_sub_cancel_left]

/-- Behind a separator the words are those of the rest. -/
theorem isStart_append_right {l l' : List α} (hlast : sepAt sep l (l.length - 1) = true) (i : Nat) :
    isStart sep (l ++ l') (l.length + i) = isStart sep l' i := by
  have hpos := lt_of_sepAt hlast
  rw [isStart, isStart, wordAt_append_right]
  congr 1
  cases i with
  | zero =>
    have hfront : sepAt sep (l ++ l') (l.length - 1) = sepAt sep l (l.length - 1) := by
      rw [sepAt, sepAt, List.getElem?_append_left hpos]
    simp [hfront, hlast]
  | succ i =>
    rw [show l.length + (i + 1) - 1 = l.length + i by omega, sepAt_append_right]
    simp

theorem word_append_right (l l' : List α) (a : Nat) : word sep (l ++ l') (l.length + a) = word sep l' a := by
  rw [word, word, List.drop_length_add_append]

/-- The words of a text whose front ends with a separator. -/
theorem words_append {l : List α} (hlast : sepAt sep l (l.length - 1) = true) (l' : List α) :
    words sep (l ++ l') = (startsBelow sep (l ++ l') l.length).map (word sep (l ++ l')) ++ words sep l' := by
  have hback : ((List.range l'.length).map (l.length + ·)).filter (isStart sep (l ++ l')) =
      (starts sep l').map (l.length + ·) := by
    rw [List.filter_map, starts, startsBelow]
    congr 1
    exact List.filter_congr fun i _ => isStart_append_right hlast i
  rw [words, starts, startsBelow, List.length_append, List.range_add, List.filter_append, List.map_append, hback,
    List.map_map, words, startsBelow]
  congr 1
  exact List.map_congr_left fun i _ => word_append_right l l' i

/-- One word up to the index `r` where it ends. -/
theorem startsBelow_single {r : Nat} (hr : 0 < r) (hword : ∀ x, x < r → wordAt sep l x = true) :
    startsBelow sep l r = [0] :=
  startsBelow_word (.inl rfl) (le_refl 0) (fun _ _ hx => absurd hx (Nat.not_lt_zero _)) hr fun x _ hx => hword x hx

theorem wordAt_front {t : List α} (ht : ∀ c ∈ t, sep c = false) (rest : List α) {x : Nat} (hx : x < t.length) :
    wordAt sep (t ++ rest) x = true := by
  have hget : (t ++ rest)[x]? = some t[x] := by
    rw [List.getElem?_append_left hx, List.getElem?_eq_getElem hx]
  rw [wordAt_of_getElem? hget, ht _ (List.getElem_mem hx)]
  rfl

theorem words_single {t : List α} (ht : t ≠ []) (hsep : ∀ c ∈ t, sep c = false) : words sep t = [t] := by
  have hfront := startsBelow_single (List.length_pos_iff.2 ht) fun x hx => by
    have := wordAt_front hsep [] hx
    rwa [List.append_nil] at this
  rw [words, starts, hfront, List.map_singleton, word, List.drop_zero,
    List.takeWhile_eq_self_iff.2 fun c hc => by simp [hsep c hc]]

theorem words_cons {t rest : List α} {s : α} (ht : t ≠ []) (hsep : ∀ c ∈ t, sep c = false) (hs : sep s = true) :
    words sep (t ++ s :: rest) = t :: words sep rest := by
  have hmid : (t ++ s :: rest)[t.length]? = some s := by simp
  have hnot : wordAt sep (t ++ s :: rest) t.length = false := by
    rw [wordAt_of_getElem? hmid, hs]
    rfl
  have hfront : startsBelow sep (t ++ s :: rest) (t.length + 1) = [0] := by
    rw [startsBelow_succ, startsBelow_single (List.length_pos_iff.2 ht) fun x hx => wordAt_front hsep _ hx, isStart, hnot]
    rfl
  have hword : word sep (t ++ s :: rest) 0 = t := by
    rw [word, List.drop_zero, List.takeWhile_append_of_pos fun c hc => by simp [hsep c hc], List.takeWhile_cons, hs]
    simp
  have hlast : sepAt sep (t ++ [s]) ((t ++ [s]).length - 1) = true := by
    rw [sepAt_of_getElem? (c := s) (by simp), hs]
  have happend := words_append hlast rest
  rw [List.append_assoc, List.singleton_append, List.length_append, List.length_singleton, hfront, List.map_singleton,
    hword] at happend
  exact happend

/-- Words that are joined by one separator are found again. -/
theorem words_intercalate {s : α} (hs : sep s = true) {ts : List (List α)} (hne : ∀ t ∈ ts, t ≠ [])
    (hsep : ∀ t ∈ ts, ∀ c ∈ t, sep c = false) : words sep ([s].intercalate ts) = ts := by
  induction ts with
  | nil => rfl
  | cons t ts ih =>
    have ht := hne t (List.mem_cons_self ..)
    have hct := hsep t (List.mem_cons_self ..)
    cases ts with
    | nil => rw [List.intercalate_singleton, words_single ht hct]
    | cons t' ts =>
      have hrest := ih (fun u hu => hne u (List.mem_cons_of_mem t hu)) fun u hu => hsep u (List.mem_cons_of_mem t hu)
      rw [List.intercalate_cons_cons, List.append_assoc, List.singleton_append, words_cons ht hct hs, hrest]

end Words
