import Mathlib.Data.UInt
import TiMcu.Lib.CString
import TiMcu.Lib.Checked

/-!
# Splitting a command line

`cli_parse_args` splits a line in place: it writes a NUL behind each word and points `argv` at the words.

The line is the memory from `cmd_line` up to the terminating NUL; pointers are indices into it.  Reads and stores outside
of it, and stores outside of `argv`, are `none`.
-/

namespace TiMcu.Cli

open Checked CString Words

/-! ### Data -/

def shellMaxArgCount : Nat := 12

/-- `isspace` -/
def isSpace (c : UInt8) : Bool := c == 0x20 || (0x09 ≤ c && c ≤ 0x0D)

/-- The variables of `cli_parse_args`, with the memory behind the pointers. -/
structure ArgParse where
  cmdLine : List UInt8
  argv : List Nat
  pRun : Nat
  argcLoc : Nat
  res : Bool
  deriving DecidableEq, Repr

namespace ArgParse

/-- `*pRun` -/
def char (s : ArgParse) : Option UInt8 := s.cmdLine[s.pRun]?

def next (s : ArgParse) : Option ArgParse := some { s with pRun := s.pRun + 1 }

/-! ### The loops -/

/-- `while(isspace((int)*pRun))` -/
def skipSpaces (fuel : Nat) : ArgParse → Option ArgParse := loop (fun s => s.char.map isSpace) next fuel

/-- `while(*pRun && !isspace((int)*pRun))` -/
def skipWord (fuel : Nat) : ArgParse → Option ArgParse :=
  loop (fun s => s.char.map fun c => c != 0 && !isSpace c) next fuel

/-- `argv` gets a pointer to the word. -/
def pushArg (s : ArgParse) : Option ArgParse :=
  (put s.argv s.argcLoc s.pRun).map fun argv => { s with argv := argv, argcLoc := s.argcLoc + 1, res := true }

/-- The separator behind the word becomes a NUL. -/
def endWord (s : ArgParse) : Option ArgParse :=
  s.char.bind fun c =>
    if c ≠ 0 then (put s.cmdLine s.pRun 0).map fun line => { s with cmdLine := line, pRun := s.pRun + 1 } else some s

/-- The body of the outer loop. -/
def round (fuel : Nat) (s : ArgParse) : Option ArgParse :=
  (s.skipSpaces fuel).bind fun s =>
    s.char.bind fun c =>
      if c ≠ 0 then (s.pushArg.bind (skipWord fuel)).bind endWord else some s

/-- The condition of the outer loop. -/
def more (s : ArgParse) : Option Bool :=
  if s.argcLoc < shellMaxArgCount then s.char.map fun c => c != 0 else some false

end ArgParse

/-- What `cli_parse_args` leaves. -/
structure ParsedArgs where
  res : Bool
  argc : Nat
  argv : List Nat
  cmdLine : List UInt8
  deriving DecidableEq, Repr

/-- `cli_parse_args`; every loop has the same bound. -/
def cliParseArgs (fuel : Nat) (cmdLine : List UInt8) (argv : List Nat) : Option ParsedArgs :=
  (loop ArgParse.more (ArgParse.round fuel) fuel ⟨cmdLine, argv, 0, 0, false⟩).map fun s =>
    ⟨s.res, s.argcLoc, s.argv, s.cmdLine⟩

/-! ### The specification -/

/-- The line is split exactly. -/
structure SplitExactly (cs : List UInt8) (argv : List Nat) (r : ParsedArgs) : Prop where
  argc : r.argc = min shellMaxArgCount (starts isSpace cs).length
  /-- `argv` points at the first words; the entries behind them are as before. -/
  argv : r.argv = (starts isSpace cs).take shellMaxArgCount ++ argv.drop r.argc
  /-- What stands at a pointer is the word with its NUL. -/
  strings : (r.argv.take r.argc).map (stringAt r.cmdLine) = (words isSpace cs).take shellMaxArgCount
  /-- Only the bytes behind these words change. -/
  line : ∀ x, r.cmdLine[x]? =
    if x ∈ ((starts isSpace cs).take shellMaxArgCount).map (stop isSpace cs) then some 0 else (cs ++ [0])[x]?
  res : r.res = true ↔ 0 < r.argc

/-! ### The loops over one word -/

section

variable {cs : List UInt8} {i q r fuel : Nat}

private theorem line_of_lt (hi : i < cs.length) : (cs ++ [0])[i]? = cs[i]? := List.getElem?_append_left hi

private theorem line_length : (cs ++ [0])[cs.length]? = some 0 := by
  simp

private theorem ne_zero_of_mem (hcs : 0 ∉ cs) {c : UInt8} (hc : cs[i]? = some c) : c ≠ 0 := by
  rintro rfl
  exact hcs (List.mem_of_getElem? hc)

namespace ArgParse

variable {s : ArgParse}

/-- A loop over the characters that pass a test stops at the first one that does not. -/
private theorem scan_spec {test : UInt8 → Bool} (hpq : s.pRun ≤ q)
    (hpass : ∀ x, s.pRun ≤ x → x < q → s.cmdLine[x]?.map test = some true)
    (hstop : s.cmdLine[q]?.map test = some false) (hfuel : q < fuel) :
    loop (fun s => s.char.map test) next fuel s = some { s with pRun := q } := by
  have hlast : ({ s with pRun := s.pRun + (q - s.pRun) } : ArgParse) = { s with pRun := q } := by
    rw [Nat.add_sub_of_le hpq]
  rw [← hlast]
  apply loop_trace (fun k => ({ s with pRun := s.pRun + k } : ArgParse))
  · intro k hk
    exact ⟨hpass (s.pRun + k) (by omega) (by omega), rfl⟩
  · rw [hlast]
    exact hstop
  · omega

/-- The line from `pRun` on is still unchanged. -/
def Ahead (cs : List UInt8) (s : ArgParse) : Prop := ∀ x, s.pRun ≤ x → s.cmdLine[x]? = (cs ++ [0])[x]?

private theorem skipSpaces_spec (hahead : s.Ahead cs) (hpq : s.pRun ≤ q) (hq : q ≤ cs.length)
    (hseps : ∀ x, s.pRun ≤ x → x < q → sepAt isSpace cs x = true) (hend : sepAt isSpace cs q = false)
    (hfuel : cs.length < fuel) : s.skipSpaces fuel = some { s with pRun := q } := by
  apply scan_spec hpq _ _ (by omega)
  · intro x hx hxq
    have hsep := hseps x hx hxq
    have hlt := lt_of_sepAt hsep
    rw [sepAt_of_getElem? (List.getElem?_eq_getElem hlt)] at hsep
    rw [hahead x hx, line_of_lt hlt, List.getElem?_eq_getElem hlt, Option.map_some, hsep]
  · rw [hahead q hpq]
    by_cases hlt : q < cs.length
    · rw [sepAt_of_getElem? (List.getElem?_eq_getElem hlt)] at hend
      rw [line_of_lt hlt, List.getElem?_eq_getElem hlt, Option.map_some, hend]
    · obtain rfl : q = cs.length := by omega
      rw [line_length]
      rfl

private theorem skipWord_spec (hcs : 0 ∉ cs) (hahead : s.Ahead cs) (hpr : s.pRun ≤ r) (hr : r ≤ cs.length)
    (hword : ∀ x, s.pRun ≤ x → x < r → wordAt isSpace cs x = true) (hend : wordAt isSpace cs r = false)
    (hfuel : cs.length < fuel) : s.skipWord fuel = some { s with pRun := r } := by
  apply scan_spec hpr _ _ (by omega)
  · intro x hx hxr
    obtain ⟨c, hc, hsep⟩ := exists_of_wordAt (hword x hx hxr)
    have hne := ne_zero_of_mem hcs hc
    rw [hahead x hx, line_of_lt (lt_of_wordAt (hword x hx hxr)), hc, Option.map_some, hsep]
    simpa using hne
  · rw [hahead r hpr]
    by_cases hlt : r < cs.length
    · rw [wordAt_of_getElem? (List.getElem?_eq_getElem hlt)] at hend
      rw [line_of_lt hlt, List.getElem?_eq_getElem hlt, Option.map_some, hend, Bool.and_false]
    · obtain rfl : r = cs.length := by omega
      rw [line_length]
      rfl

/-! ### The outer loop -/

/-- The words that start below `pRun` are split off, and `pRun` is not inside a word. -/
structure Split (cs : List UInt8) (argv : List Nat) (s : ArgParse) : Prop where
  le : s.pRun ≤ cs.length
  apart : s.pRun = 0 ∨ s.pRun = cs.length ∨ sepAt isSpace cs (s.pRun - 1) = true
  ahead : s.Ahead cs
  argc : s.argcLoc = (startsBelow isSpace cs s.pRun).length
  argc_le : s.argcLoc ≤ shellMaxArgCount
  argv : s.argv = startsBelow isSpace cs s.pRun ++ argv.drop s.argcLoc
  line : ∀ x, s.cmdLine[x]? =
    if x ∈ (startsBelow isSpace cs s.pRun).map (stop isSpace cs) then some 0 else (cs ++ [0])[x]?
  res : s.res = true ↔ 0 < s.argcLoc

variable {argv : List Nat}

/-- A word is under way below the end of the line as long as the loop goes on. -/
theorem Split.lt (h : s.Split cs argv) (hmore : s.more = some true) :
    s.argcLoc < shellMaxArgCount ∧ s.pRun < cs.length := by
  unfold more at hmore
  split at hmore
  · next hargc =>
    refine ⟨hargc, lt_of_le_of_ne h.le ?_⟩
    intro hend
    rw [char, h.ahead _ (le_refl _), hend, line_length] at hmore
    exact absurd hmore (by decide)
  · exact absurd hmore (by decide)

/-- The state when the word from `q` to `r` has been looked at. -/
def pushed (s : ArgParse) (cs : List UInt8) (argv : List Nat) (q r : Nat) : ArgParse :=
  { s with
    argv := startsBelow isSpace cs s.pRun ++ [q] ++ argv.drop (s.argcLoc + 1)
    pRun := r
    argcLoc := s.argcLoc + 1
    res := true }

theorem Split.pushArg (h : s.Split cs argv) (hargc : s.argcLoc < shellMaxArgCount)
    (hargv : shellMaxArgCount ≤ argv.length) (q : Nat) :
    ({ s with pRun := q } : ArgParse).pushArg = some (s.pushed cs argv q q) := by
  have hlen : s.argcLoc < s.argv.length := by
    rw [h.argv, List.length_append, ← h.argc, List.length_drop]
    omega
  have hset : s.argv.set s.argcLoc q = startsBelow isSpace cs s.pRun ++ [q] ++ argv.drop (s.argcLoc + 1) := by
    rw [h.argv, List.set_append_right _ _ (le_of_eq h.argc.symm), ← h.argc, Nat.sub_self,
      List.drop_eq_getElem_cons (by omega), List.set_cons_zero, List.append_assoc]
    rfl
  rw [ArgParse.pushArg, put_of_lt q hlen, hset]
  rfl

/-- The line with a NUL behind the word that was found last. -/
private theorem Split.line_found (h : s.Split cs argv)
    (hfound : startsBelow isSpace cs r = startsBelow isSpace cs s.pRun ++ [q]) (hstop : stop isSpace cs q = r)
    (x : Nat) :
    (if x = r then some 0 else s.cmdLine[x]?) =
      if x ∈ (startsBelow isSpace cs r).map (stop isSpace cs) then some 0 else (cs ++ [0])[x]? := by
  rw [hfound, List.map_append, List.map_singleton, hstop]
  by_cases hx : x = r
  · rw [if_pos hx, if_pos (List.mem_append_right _ (List.mem_singleton.2 hx))]
  · have hmem : x ∈ (startsBelow isSpace cs s.pRun).map (stop isSpace cs) ++ [r] ↔
        x ∈ (startsBelow isSpace cs s.pRun).map (stop isSpace cs) := by
      simp [hx]
    rw [if_neg hx, h.line x]
    simp only [hmem]

/-- The NUL over the separator behind the word from `q` to `r`. -/
private theorem Split.endWord_sep (h : s.Split cs argv) (hcs : 0 ∉ cs) (hargc : s.argcLoc < shellMaxArgCount)
    (hpr : s.pRun < r) (hlt : r < cs.length) (hr : wordAt isSpace cs r = false)
    (hfound : startsBelow isSpace cs r = startsBelow isSpace cs s.pRun ++ [q]) (hstop : stop isSpace cs q = r) :
    ∃ s', ArgParse.endWord (s.pushed cs argv q r) = some s' ∧ s.pRun < s'.pRun ∧ s'.Split cs argv := by
  have hlen : s.argcLoc + 1 = (startsBelow isSpace cs r).length := by
    rw [hfound, List.length_append, ← h.argc]
    rfl
  have hsep : sepAt isSpace cs r = true := by
    rw [wordAt_eq_not hlt] at hr
    simpa using hr
  have hnext : startsBelow isSpace cs (r + 1) = startsBelow isSpace cs r := by
    rw [startsBelow_succ, isStart, hr]
    simp
  have hchar : s.cmdLine[r]? = some cs[r] :=
    (h.ahead r hpr.le).trans ((line_of_lt hlt).trans (List.getElem?_eq_getElem hlt))
  have hput := put_of_lt (0 : UInt8) (List.getElem?_eq_some_iff.1 hchar).1
  have hget := getElem?_of_put hput
  refine ⟨{ s.pushed cs argv q r with cmdLine := s.cmdLine.set r 0, pRun := r + 1 }, ?_, by dsimp only; omega, ?_⟩
  · have hchar' : (s.pushed cs argv q r).char = some cs[r] := hchar
    have hput' : put (s.pushed cs argv q r).cmdLine (s.pushed cs argv q r).pRun 0 = some (s.cmdLine.set r 0) := hput
    rw [ArgParse.endWord, hchar', Option.bind_some, if_pos (ne_zero_of_mem hcs (List.getElem?_eq_getElem hlt)), hput']
    rfl
  · exact
      { le := hlt
        apart := .inr (.inr hsep)
        ahead := by
          intro x hx
          have hx' : r + 1 ≤ x := hx
          exact (hget x).trans ((if_neg (by omega)).trans (h.ahead x (by omega)))
        argc := by rw [hnext]; exact hlen
        argc_le := hargc
        argv := by rw [hnext, hfound]; rfl
        line := by
          intro x
          rw [hnext]
          exact (hget x).trans (h.line_found hfound hstop x)
        res := by simp [pushed] }

/-- The NUL of the line stands behind the word from `q` on. -/
private theorem Split.endWord_line (h : s.Split cs argv) (hargc : s.argcLoc < shellMaxArgCount)
    (hpr : s.pRun < cs.length)
    (hfound : startsBelow isSpace cs cs.length = startsBelow isSpace cs s.pRun ++ [q])
    (hstop : stop isSpace cs q = cs.length) :
    ∃ s', ArgParse.endWord (s.pushed cs argv q cs.length) = some s' ∧ s.pRun < s'.pRun ∧ s'.Split cs argv := by
  have hlen : s.argcLoc + 1 = (startsBelow isSpace cs cs.length).length := by
    rw [hfound, List.length_append, ← h.argc]
    rfl
  have hnul : s.cmdLine[cs.length]? = some 0 := (h.ahead _ h.le).trans line_length
  have hchar : (s.pushed cs argv q cs.length).char = some 0 := hnul
  refine ⟨s.pushed cs argv q cs.length, ?_, hpr, ?_⟩
  · rw [ArgParse.endWord, hchar]
    rfl
  · exact
      { le := le_refl _
        apart := .inr (.inl rfl)
        ahead := fun x hx => h.ahead x (le_trans h.le hx)
        argc := hlen
        argc_le := hargc
        argv := by dsimp only [pushed]; rw [hfound]
        line := by
          intro x
          refine Eq.trans ?_ (h.line_found hfound hstop x)
          split
          · next hx => rw [hx]; exact hnul
          · rfl
        res := by simp [pushed] }

/-- The NUL behind the word from `q` to `r`. -/
theorem Split.endWord (h : s.Split cs argv) (hcs : 0 ∉ cs) (hargc : s.argcLoc < shellMaxArgCount) (hpq : s.pRun ≤ q)
    (hqr : q < r) (hrn : r ≤ cs.length) (hr : wordAt isSpace cs r = false)
    (hfound : startsBelow isSpace cs r = startsBelow isSpace cs s.pRun ++ [q]) (hstop : stop isSpace cs q = r) :
    ∃ s', ArgParse.endWord (s.pushed cs argv q r) = some s' ∧ s.pRun < s'.pRun ∧ s'.Split cs argv := by
  rcases Nat.lt_or_ge r cs.length with hlt | hge
  · exact h.endWord_sep hcs hargc (by omega) hlt hr hfound hstop
  · obtain rfl : r = cs.length := by omega
    exact h.endWord_line hargc (by omega) hfound hstop

/-- Blanks up to the end of the line. -/
private theorem Split.blanks (h : s.Split cs argv)
    (hseps : ∀ x, s.pRun ≤ x → x < cs.length → sepAt isSpace cs x = true) :
    ({ s with pRun := cs.length } : ArgParse).Split cs argv where
  le := le_refl _
  apart := .inr (.inl rfl)
  ahead := fun x hx => h.ahead x (le_trans h.le hx)
  argc := by rw [startsBelow_seps h.le hseps]; exact h.argc
  argc_le := h.argc_le
  argv := by rw [startsBelow_seps h.le hseps]; exact h.argv
  line := by rw [startsBelow_seps h.le hseps]; exact h.line
  res := h.res

/-- One round splits off one word, or goes over the blanks at the end of the line. -/
theorem Split.round (h : s.Split cs argv) (hcs : 0 ∉ cs) (hargv : shellMaxArgCount ≤ argv.length)
    (hfuel : cs.length < fuel) (hmore : s.more = some true) :
    ∃ s', s.round fuel = some s' ∧ s'.Split cs argv ∧ cs.length - s'.pRun < cs.length - s.pRun := by
  obtain ⟨hargc, hlt⟩ := h.lt hmore
  obtain ⟨q, hpq, hqn, hseps, hq⟩ := exists_end h.le (sepAt_length isSpace cs)
  have hskip := skipSpaces_spec h.ahead hpq hqn hseps hq hfuel
  rcases Nat.lt_or_ge q cs.length with hqlt | hqge
  · -- a word from `q` to `r`
    have hwq : wordAt isSpace cs q = true := by rw [wordAt_eq_not hqlt, hq]; rfl
    obtain ⟨r, hqr, hrn, hword, hr⟩ := exists_end hqn (wordAt_length isSpace cs)
    have hqr' : q < r := by
      refine lt_of_le_of_ne hqr ?_
      rintro rfl
      rw [hwq] at hr
      exact absurd hr (by decide)
    have hp : s.pRun = 0 ∨ sepAt isSpace cs (s.pRun - 1) = true :=
      h.apart.imp_right fun hor => hor.resolve_left (by omega)
    have hfound := startsBelow_word hp hpq hseps hqr' hword
    have hstop : stop isSpace cs q = r := stop_eq hqr hword hr
    obtain ⟨c, hc, -⟩ := exists_of_wordAt hwq
    have hchar : ({ s with pRun := q } : ArgParse).char = some c := by
      rw [char, h.ahead q hpq, line_of_lt hqlt, hc]
    have hfront : s.round fuel = ArgParse.endWord (s.pushed cs argv q r) := by
      have hpush := h.pushArg hargc hargv q
      have hahead : (s.pushed cs argv q q).Ahead cs := fun x hx => h.ahead x (hpq.trans hx)
      have hrun := skipWord_spec hcs hahead hqr hrn hword hr hfuel
      rw [ArgParse.round, hskip, Option.bind_some, hchar, Option.bind_some, if_pos (ne_zero_of_mem hcs hc), hpush,
        Option.bind_some, hrun, Option.bind_some]
      rfl
    obtain ⟨s', hend, hpr, hs'⟩ := h.endWord hcs hargc hpq hqr' hrn hr hfound hstop
    exact ⟨s', hfront.trans hend, hs', by have := hs'.le; omega⟩
  · -- the line ends with blanks
    obtain rfl : q = cs.length := by omega
    refine ⟨{ s with pRun := cs.length }, ?_, h.blanks hseps, by dsimp only; omega⟩
    have hchar : ({ s with pRun := cs.length } : ArgParse).char = some 0 :=
      (h.ahead _ h.le).trans line_length
    rw [ArgParse.round, hskip, Option.bind_some, hchar, Option.bind_some]
    rfl

private theorem split_start (cs : List UInt8) (argv : List Nat) :
    (⟨cs ++ [0], argv, 0, 0, false⟩ : ArgParse).Split cs argv where
  le := Nat.zero_le _
  apart := .inl rfl
  ahead := fun _ _ => rfl
  argc := rfl
  argc_le := Nat.zero_le _
  argv := rfl
  line := fun _ => rfl
  res := by simp

/-- The condition of the loop reads the line only. -/
private theorem Split.more_or (h : s.Split cs argv) : s.more = some false ∨ s.more = some true := by
  unfold more
  split
  · have hlt : s.pRun < (cs ++ [0]).length := by
      have := h.le
      simp
      omega
    rw [char, h.ahead _ (le_refl _), List.getElem?_eq_getElem hlt, Option.map_some]
    cases ((cs ++ [0])[s.pRun] != 0) <;> simp
  · exact .inl rfl

/-- The loop stops when `argv` is full or the line ends. -/
theorem Split.stopped (h : s.Split cs argv) (hcs : 0 ∉ cs) (hmore : s.more = some false) :
    s.argcLoc = shellMaxArgCount ∨ s.pRun = cs.length := by
  unfold more at hmore
  split at hmore
  · right
    refine le_antisymm h.le (Nat.le_of_not_lt ?_)
    intro hlt
    rw [char, h.ahead _ (le_refl _), line_of_lt hlt, List.getElem?_eq_getElem hlt, Option.map_some] at hmore
    have hne := ne_zero_of_mem hcs (List.getElem?_eq_getElem hlt)
    simp [hne] at hmore
  · left
    have := h.argc_le
    omega

/-- The words that are split off in the end are the first ones. -/
private theorem Split.take_starts (h : s.Split cs argv) (hcs : 0 ∉ cs) (hmore : s.more = some false) :
    (starts isSpace cs).take shellMaxArgCount = startsBelow isSpace cs s.pRun := by
  obtain ⟨rest, hrest⟩ := startsBelow_prefix isSpace cs h.le
  have hle := h.argc_le
  have hlen := h.argc
  rcases h.stopped hcs hmore with hfull | hend
  · rw [starts, ← hrest, List.take_left' (by omega)]
  · rw [starts, ← hend, List.take_of_length_le (by omega)]

/-- The string at a pointer is the word. -/
private theorem Split.stringAt_eq (h : s.Split cs argv) (hcs : 0 ∉ cs) {a : Nat}
    (ha : a ∈ startsBelow isSpace cs s.pRun) :
    stringAt s.cmdLine a = word isSpace cs a := by
  apply word_congr
  · intro x hax hx
    have hw := wordAt_of_lt_stop hax hx
    have hno : x ∉ (startsBelow isSpace cs s.pRun).map (stop isSpace cs) := by
      rw [List.mem_map]
      rintro ⟨b, -, rfl⟩
      rw [wordAt_stop] at hw
      exact absurd hw (by decide)
    obtain ⟨c, hc, -⟩ := exists_of_wordAt hw
    have hline : s.cmdLine[x]? = cs[x]? := by
      rw [h.line x, if_neg hno, line_of_lt (lt_of_wordAt hw)]
    refine ⟨hline, ?_⟩
    rw [wordAt_of_getElem? (hline.trans hc)]
    simpa using ne_zero_of_mem hcs hc
  · have hnul : s.cmdLine[stop isSpace cs a]? = some 0 := by
      rw [h.line, if_pos (List.mem_map_of_mem ha)]
    rw [wordAt_of_getElem? hnul]
    rfl

end ArgParse

theorem ArgParse.Split.splitExactly {s : ArgParse} {argv : List Nat} (h : s.Split cs argv) (hcs : 0 ∉ cs)
    (hmore : s.more = some false) : SplitExactly cs argv ⟨s.res, s.argcLoc, s.argv, s.cmdLine⟩ := by
  have htake := h.take_starts hcs hmore
  have hlen : s.argcLoc = ((starts isSpace cs).take shellMaxArgCount).length := by
    rw [htake]
    exact h.argc
  exact
    { argc := by rw [← List.length_take]; exact hlen
      argv := by rw [htake]; exact h.argv
      strings := by
        have hfront : s.argv.take s.argcLoc = startsBelow isSpace cs s.pRun := by
          rw [h.argv, List.take_left' h.argc.symm]
        dsimp only
        rw [hfront, words, ← List.map_take, htake]
        exact List.map_congr_left fun a ha => h.stringAt_eq hcs ha
      line := by rw [htake]; exact h.line
      res := h.res }

/-- The loop ends after as many rounds as the line has characters, or earlier. -/
theorem cliParseArgs_run (hcs : 0 ∉ cs) {argv : List Nat} (hargv : shellMaxArgCount ≤ argv.length)
    (hfuel : cs.length < fuel) : ∃ s : ArgParse, s.Split cs argv ∧ s.more = some false ∧
      cliParseArgs fuel (cs ++ [0]) argv = some ⟨s.res, s.argcLoc, s.argv, s.cmdLine⟩ := by
  have hstep : ∀ s : ArgParse, s.Split cs argv → s.more = some false ∨ s.more = some true ∧
      ∃ s', s.round fuel = some s' ∧ s'.Split cs argv ∧ cs.length - s'.pRun < cs.length - s.pRun := by
    intro s hs
    rcases hs.more_or with hstop | hmore
    · exact .inl hstop
    · exact .inr ⟨hmore, hs.round hcs hargv hfuel hmore⟩
  obtain ⟨s, hrun, hsplit, hmore⟩ :=
    loop_total hstep (ArgParse.split_start cs argv) (Nat.lt_of_le_of_lt (Nat.sub_le ..) hfuel)
  refine ⟨s, hsplit, hmore, ?_⟩
  rw [cliParseArgs, hrun]
  rfl

/-- `cli_parse_args` ends on every line, stays inside the line and splits it exactly. -/
theorem cliParseArgs_splitExactly (cs : List UInt8) (hcs : 0 ∉ cs) (argv : List Nat)
    (hargv : shellMaxArgCount ≤ argv.length) (fuel : Nat) (hfuel : cs.length < fuel) :
    ∃ r, cliParseArgs fuel (cs ++ [0]) argv = some r ∧ SplitExactly cs argv r := by
  obtain ⟨s, hsplit, hmore, hrun⟩ := cliParseArgs_run hcs hargv hfuel
  exact ⟨_, hrun, hsplit.splitExactly hcs hmore⟩

theorem cliParseArgs_splitExactly_two_words :
    ∃ r, cliParseArgs 7 ([0x20, 0x61, 0x62, 0x09, 0x63] ++ [0]) (List.replicate 12 0) = some r ∧
      SplitExactly [0x20, 0x61, 0x62, 0x09, 0x63] (List.replicate 12 0) r :=
  cliParseArgs_splitExactly _ (by decide) _ (by decide) 7 (by decide)

end

end TiMcu.Cli
