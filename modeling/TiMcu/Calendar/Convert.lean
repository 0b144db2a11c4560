import Mathlib.Data.UInt
import TiMcu.Lib.Gregorian

/-!
# Seconds and dates

`counter_to_struct` and `struct_to_counter` of `calendar.c`.  The counter is the number of seconds since the first
of January 2000, a Saturday.

The integers of `struct tm` are unbounded here, and converted where the source converts them.
-/

namespace TiMcu.Calendar

open Gregorian Blocks

/-! ### Data -/

def firstYear : Nat := 2000

/-- A Saturday; 0 is Sunday. -/
def firstDay : Nat := 6

def daysInMonth : List UInt8 := [31, 29, 31, 30, 31, 30, 31, 31, 30, 31, 30, 31]

/-- The fields of `struct tm` that the calendar uses. -/
structure Tm where
  tmSec : Int
  tmMin : Int
  tmHour : Int
  tmMday : Int
  tmMon : Int
  tmYear : Int
  tmWday : Int
  deriving DecidableEq, Repr

/-! ### From seconds to a date -/

/-- The length of a year, with the 400 year exception counted in `leap400`. -/
def yearDays (year leap400 : UInt8) : UInt16 × UInt8 :=
  if year &&& 3 = 0 then
    if year = 0 ∨ year = 100 ∨ year = 200 then
      if leap400 - 1 ≠ 0 then (365, leap400 - 1) else (366, leap400 - 1)
    else (366, leap400)
  else (365, leap400)

private theorem yearDays_pos (year leap400 : UInt8) : 0 < (yearDays year leap400).1.toNat := by
  have h365 : 0 < (365 : UInt16).toNat := by decide
  have h366 : 0 < (366 : UInt16).toNat := by decide
  unfold yearDays
  split
  · split
    · split
      · exact h365
      · exact h366
    · exact h366
  · exact h365

/-- The years are taken off the days.  The result is the last year, its length and the days in it. -/
def peelYears (year leap400 : UInt8) (day : UInt16) : UInt8 × UInt16 × UInt16 :=
  if day < (yearDays year leap400).1 then (year, (yearDays year leap400).1, day)
  else peelYears (year + 1) (yearDays year leap400).2 (day - (yearDays year leap400).1)
termination_by day.toNat
decreasing_by
  have hpos := yearDays_pos year leap400
  have hle : (yearDays year leap400).1 ≤ day := UInt16.not_lt.1 (by assumption)
  rw [UInt16.toNat_sub_of_le _ _ hle]
  have := UInt16.le_iff_toNat_le.1 hle
  omega

/-- The months are taken off the days, from `month` on. -/
def peelMonths : List UInt8 → UInt8 → UInt16 → UInt8 × UInt16
  | [], month, day => (month, day)
  | n :: ns, month, day => if n.toUInt16 ≤ day then peelMonths ns (month + 1) (day - n.toUInt16) else (month, day)

/-- The day in a year of 366 days. -/
def skipLeapDay (dayofyear day : UInt16) : UInt16 := if dayofyear &&& 1 ≠ 0 ∧ 58 < day then day + 1 else day

def leap400Init : UInt8 := UInt8.ofNat (4 - ((firstYear - 1) / 100 &&& 3))

def counterToStruct (sec : UInt32) : Tm :=
  let day := (sec / 60 / 60 / 24).toUInt16
  let (year, dayofyear, dayOfYear) := peelYears (UInt8.ofNat (firstYear % 100)) leap400Init day
  let (month, dayOfMonth) := peelMonths daysInMonth 1 (skipLeapDay dayofyear dayOfYear)
  { tmSec := (sec % 60).toNat
    tmMin := (sec / 60 % 60).toNat
    tmHour := (sec / 60 / 60 % 24).toNat
    tmWday := ((day.toNat + firstDay) % 7 : Nat)
    tmYear := (year.toNat + firstYear / 100 * 100 : Nat)
    tmMon := (month.toNat : Int) - 1
    tmMday := (dayOfMonth.toNat : Int) + 1 }

/-! ### From a date to seconds -/

/-- The days of the years before. -/
def addYears (tmYear : Int) (year : UInt16) : UInt32 :=
  let counter := year.toUInt32 * 365
  if 1 ≤ tmYear then
    counter + UInt32.ofInt (((year.toNat : Int) + 3).tdiv 4) - UInt32.ofInt (((year.toNat : Int) - 1).tdiv 100) +
      UInt32.ofInt (((year.toNat : Int) - 1).tdiv 400)
  else counter

/-- The days of the months before, in a leap year. -/
def addMonths (counter : UInt32) (idx : UInt16) : UInt32 :=
  (List.range idx.toNat).foldl (fun counter i => counter + (daysInMonth.getD i 0).toUInt32) counter

def structToCounter (t : Tm) : UInt32 :=
  let year := UInt16.ofInt t.tmYear
  let counter := addMonths (addYears t.tmYear year - 730485) (UInt16.ofInt t.tmMon)
  let counter :=
    if year.toNat % 400 = 0 ∨ year.toNat % 4 = 0 ∧ year.toNat % 100 ≠ 0 then counter
    else if 1 < t.tmMon then counter - 1
    else counter
  (counter + UInt32.ofInt t.tmMday - 1) * 86400 + UInt32.ofInt t.tmHour * 3600 + UInt32.ofInt t.tmMin * 60 +
    UInt32.ofInt t.tmSec

/-! ### The calendar of the source and the Gregorian one -/

/-- A date in `struct tm`, with any day of the week. -/
def DateTime.toTm (t : DateTime) (wday : Int) : Tm where
  tmSec := t.second
  tmMin := t.minute
  tmHour := t.hour
  tmMday := t.day + 1
  tmMon := t.month
  tmYear := t.year
  tmWday := wday

/-- The days of the years from 2000 on that come before the year with this number. -/
def yearsBefore (k : Nat) : Nat := before (fun i => yearLen (firstYear + i)) k

/-- What `leap400` is when the year with this number is looked at; it wraps in 2100. -/
def leapAt (k : Nat) : UInt8 := if k = 0 then 1 else if k ≤ 100 then 0 else 255

private theorem yearDays_eq : ∀ k < 200,
    yearDays (UInt8.ofNat k) (leapAt k) = (UInt16.ofNat (yearLen (firstYear + k)), leapAt (k + 1)) := by
  decide +kernel

private theorem yearsBefore_last : yearsBefore 137 = 50039 := by decide +kernel

private theorem yearsBefore_succ (k : Nat) :
    yearsBefore (k + 1) = yearsBefore k + yearLen (firstYear + k) := before_succ _ k

private theorem yearLen_le (year : Nat) : yearLen year ≤ 366 := by
  unfold yearLen
  split <;> omega

/-- The loop over the years finds the year of a day. -/
private theorem peelYears_spec {k n : Nat} (hk : k < 137) (hle : yearsBefore k ≤ n) (hn : n < yearsBefore 137) :
    ∃ y < 137, yearsBefore y ≤ n ∧ n - yearsBefore y < yearLen (firstYear + y) ∧
      peelYears (UInt8.ofNat k) (leapAt k) (UInt16.ofNat (n - yearsBefore k)) =
        (UInt8.ofNat y, UInt16.ofNat (yearLen (firstYear + y)), UInt16.ofNat (n - yearsBefore y)) := by
  have hlast := yearsBefore_last
  -- the years up to the last one that a counter reaches
  induction hleft : 136 - k generalizing k with
  | zero =>
    have hk : k = 136 := by omega
    subst hk
    have hsucc : yearsBefore 137 = yearsBefore 136 + yearLen (firstYear + 136) := yearsBefore_succ 136
    have hlt : n - yearsBefore 136 < yearLen (firstYear + 136) := by omega
    refine ⟨136, by decide, hle, hlt, ?_⟩
    have hlen := yearLen_le (firstYear + 136)
    have hday : UInt16.ofNat (n - yearsBefore 136) < UInt16.ofNat (yearLen (firstYear + 136)) := by
      rw [UInt16.lt_iff_toNat_lt, UInt16.toNat_ofNat', UInt16.toNat_ofNat']
      omega
    rw [peelYears, yearDays_eq 136 (by decide), if_pos hday]
  | succ j ih =>
    have hsucc := yearsBefore_succ k
    have hlen := yearLen_le (firstYear + k)
    have hsmall : n - yearsBefore k < 2 ^ 16 := by omega
    rw [peelYears, yearDays_eq k (by omega)]
    by_cases hlt : n - yearsBefore k < yearLen (firstYear + k)
    · have hday : UInt16.ofNat (n - yearsBefore k) < UInt16.ofNat (yearLen (firstYear + k)) := by
        rw [UInt16.lt_iff_toNat_lt, UInt16.toNat_ofNat', UInt16.toNat_ofNat']
        omega
      rw [if_pos hday]
      exact ⟨k, hk, hle, hlt, rfl⟩
    · have hday : ¬UInt16.ofNat (n - yearsBefore k) < UInt16.ofNat (yearLen (firstYear + k)) := by
        rw [UInt16.lt_iff_toNat_lt, UInt16.toNat_ofNat', UInt16.toNat_ofNat']
        omega
      have hyear : UInt8.ofNat k + 1 = UInt8.ofNat (k + 1) := (UInt8.ofNat_add k 1).symm
      have hrest : UInt16.ofNat (n - yearsBefore k) - UInt16.ofNat (yearLen (firstYear + k)) =
          UInt16.ofNat (n - yearsBefore (k + 1)) := by
        rw [← UInt16.ofNat_sub (by omega), hsucc, Nat.sub_add_eq]
      rw [if_neg hday, hyear, hrest]
      exact ih (by omega) (by omega) (by omega)

/-- The loop over the months finds the month of a day. -/
private theorem peelMonths_spec : ∀ leap : Bool, ∀ r < 366, r < (if leap then 366 else 365) →
    let (month, day) := peelMonths daysInMonth 1 (skipLeapDay (if leap then 366 else 365) (UInt16.ofNat r))
    0 < month.toNat ∧ month.toNat ≤ 12 ∧ day.toNat < monthLen leap (month.toNat - 1) ∧
      before (monthLen leap) (month.toNat - 1) + day.toNat = r := by
  decide +kernel

/-! ### From seconds to a date -/

/-- A date that is not before the epoch is given by its year and the day in it. -/
private theorem exists_date {y r : Nat} (hr : r < yearLen (firstYear + y)) :
    ∃ d : Date, d.year = firstYear + y ∧ d.dayNumber firstYear = yearsBefore y + r ∧
      ∃ month day, peelMonths daysInMonth 1 (skipLeapDay (UInt16.ofNat (yearLen (firstYear + y))) (UInt16.ofNat r)) =
        (month, day) ∧ month.toNat = d.month + 1 ∧ day.toNat = d.day := by
  have hlen : yearLen (firstYear + y) = if IsLeap (firstYear + y) then 366 else 365 := rfl
  have hle := yearLen_le (firstYear + y)
  have hlt : r < if decide (IsLeap (firstYear + y)) = true then 366 else 365 := by
    simpa only [decide_eq_true_eq, ← hlen] using hr
  have hspec := peelMonths_spec (IsLeap (firstYear + y)) r (by omega) hlt
  have hword : UInt16.ofNat (yearLen (firstYear + y)) =
      if decide (IsLeap (firstYear + y)) = true then 366 else 365 := by
    rw [hlen]
    by_cases hleap : IsLeap (firstYear + y) <;> simp [hleap]
  rw [hword]
  generalize peelMonths daysInMonth 1 (skipLeapDay
    (if decide (IsLeap (firstYear + y)) = true then 366 else 365) (UInt16.ofNat r)) = p at hspec ⊢
  obtain ⟨month, day⟩ := p
  obtain ⟨hpos, htwelve, hday, hsum⟩ := hspec
  refine ⟨⟨firstYear + y, month.toNat - 1, day.toNat, by omega, hday⟩, rfl, ?_, month, day, rfl, ?_, rfl⟩
  · rw [Date.dayNumber, Date.dayOfYear, hsum, Nat.add_sub_cancel_left]
    rfl
  · exact (Nat.sub_add_cancel hpos).symm

private theorem counterToStruct_spec (s : UInt32) : ∃ t : DateTime, firstYear ≤ t.year ∧ t.seconds firstYear = s.toNat ∧
    counterToStruct s = DateTime.toTm t (t.weekday firstYear firstDay) := by
  have hlt := s.toNat_lt
  have hlast := yearsBefore_last
  obtain ⟨y, hy, hle, hr, hpeel⟩ : ∃ y < 137, yearsBefore y ≤ s.toNat / 86400 ∧
      s.toNat / 86400 - yearsBefore y < yearLen (firstYear + y) ∧
      peelYears (UInt8.ofNat 0) (leapAt 0) (UInt16.ofNat (s.toNat / 86400 - yearsBefore 0)) =
        (UInt8.ofNat y, UInt16.ofNat (yearLen (firstYear + y)), UInt16.ofNat (s.toNat / 86400 - yearsBefore y)) :=
    peelYears_spec (by decide) (Nat.zero_le _) (by omega)
  obtain ⟨d, hyear, hnumber, month, day, hmonths, hmonth, hday⟩ := exists_date hr
  -- the days fit in 16 bits
  have hdays : (s / 60 / 60 / 24).toUInt16 = UInt16.ofNat (s.toNat / 86400) := by
    apply UInt16.toNat_inj.1
    simp only [UInt32.toNat_toUInt16, UInt32.toNat_div, UInt16.toNat_ofNat', UInt32.reduceToNat]
    omega
  -- the loop starts with the year 2000
  have hyears : peelYears (UInt8.ofNat (firstYear % 100)) leap400Init (UInt16.ofNat (s.toNat / 86400)) =
      (UInt8.ofNat y, UInt16.ofNat (yearLen (firstYear + y)), UInt16.ofNat (s.toNat / 86400 - yearsBefore y)) := hpeel
  refine ⟨d.atSecond s.toNat, ?_, ?_, ?_⟩
  · exact hyear ▸ Nat.le_add_right _ _
  · rw [Date.atSecond_seconds, hnumber]
    omega
  · have hwday : d.weekday firstYear firstDay = (firstDay + s.toNat / 86400) % 7 := by
      rw [Date.weekday, hnumber, Nat.add_sub_cancel' hle]
    have hyearByte : (UInt8.ofNat y).toNat = y := UInt8.toNat_ofNat_of_lt' (by rw [UInt8.size]; omega)
    have hdayWord : (UInt16.ofNat (s.toNat / 86400)).toNat = s.toNat / 86400 :=
      UInt16.toNat_ofNat_of_lt' (by rw [UInt16.size]; omega)
    have hfirst : firstYear / 100 * 100 = firstYear := rfl
    simp only [counterToStruct, hdays, hyears, hmonths, DateTime.toTm, Date.atSecond, hyear, hmonth, hday, hwday,
      hyearByte, hdayWord, hfirst, Tm.mk.injEq, UInt32.toNat_mod, UInt32.toNat_div, UInt32.reduceToNat,
      Nat.div_div_eq_div_mul]
    refine ⟨trivial, trivial, trivial, trivial, ?_, ?_, ?_⟩
    · omega
    · omega
    · omega

/-! ### From a date to seconds -/

private theorem ofInt_natCast (n : Nat) : UInt32.ofInt n = UInt32.ofNat n := by
  have hmod : ((n : Int) % 2 ^ 32).toNat = n % 2 ^ 32 := by omega
  rw [UInt32.ofInt, hmod]
  exact UInt32.ofNat_mod_size

private theorem ofInt_natCast16 (n : Nat) : UInt16.ofInt n = UInt16.ofNat n := by
  have hmod : ((n : Int) % 2 ^ 16).toNat = n % 2 ^ 16 := by omega
  rw [UInt16.ofInt, hmod]
  exact UInt16.ofNat_mod_size

private theorem ofInt_tdiv (n k : Nat) : UInt32.ofInt ((n : Int).tdiv k) = UInt32.ofNat (n / k) := by
  rw [← Int.ofNat_tdiv, ofInt_natCast]

/-- The days before a year from 2000 on, with all terms on the positive side. -/
private theorem yearsBefore_count (k : Nat) : 730485 + (1999 + k) / 100 + yearsBefore k =
    (firstYear + k) * 365 + (firstYear + k + 3) / 4 + (1999 + k) / 400 := by
  have hcount := before_yearLen 1999 k
  have hnext : 1999 + k + 1 = firstYear + k := by
    rw [firstYear]
    omega
  have hfour : 1999 + k + 4 = firstYear + k + 3 := by
    rw [firstYear]
    omega
  rw [hnext, hfour] at hcount
  change (1999 + 1) * 365 + (1999 + 4) / 4 + 1999 / 400 + (1999 + k) / 100 + yearsBefore k = _ at hcount
  generalize (1999 + k) / 100 = a at hcount ⊢
  generalize (1999 + k) / 400 = b at hcount ⊢
  generalize (firstYear + k + 3) / 4 = c at hcount ⊢
  omega

private theorem addYears_eq (k : Nat) (hk : k < 137) :
    addYears (firstYear + k : Nat) (UInt16.ofNat (firstYear + k)) - 730485 = UInt32.ofNat (yearsBefore k) := by
  have hsmall : firstYear + k < 2 ^ 16 := by
    rw [firstYear]
    omega
  have hyear : (UInt16.ofNat (firstYear + k)).toNat = firstYear + k := UInt16.toNat_ofNat_of_lt' hsmall
  have hword : (UInt16.ofNat (firstYear + k)).toUInt32 = UInt32.ofNat (firstYear + k) := by
    apply UInt32.toNat_inj.1
    rw [UInt16.toNat_toUInt32, hyear, UInt32.toNat_ofNat_of_lt' (by rw [UInt32.size]; omega)]
  -- all quotients are of positive numbers
  have hplus : ((firstYear + k : Nat) : Int) + 3 = (firstYear + k + 3 : Nat) := rfl
  have hminus : ((firstYear + k : Nat) : Int) - 1 = (1999 + k : Nat) := by
    rw [firstYear]
    omega
  have hpos : (1 : Int) ≤ (firstYear + k : Nat) := by
    rw [firstYear]
    omega
  have hquarter : UInt32.ofInt (((firstYear + k + 3 : Nat) : Int).tdiv 4) = UInt32.ofNat ((firstYear + k + 3) / 4) :=
    ofInt_tdiv _ 4
  have hcentury : UInt32.ofInt (((1999 + k : Nat) : Int).tdiv 100) = UInt32.ofNat ((1999 + k) / 100) := ofInt_tdiv _ 100
  have hfour : UInt32.ofInt (((1999 + k : Nat) : Int).tdiv 400) = UInt32.ofNat ((1999 + k) / 400) := ofInt_tdiv _ 400
  have hcount := congrArg UInt32.ofNat (yearsBefore_count k)
  rw [UInt32.ofNat_add, UInt32.ofNat_add, UInt32.ofNat_add, UInt32.ofNat_add, UInt32.ofNat_mul] at hcount
  unfold addYears
  rw [hyear, hword, if_pos hpos, hplus, hminus, hquarter, hcentury, hfour]
  generalize UInt32.ofNat (firstYear + k) = y at hcount ⊢
  generalize UInt32.ofNat ((firstYear + k + 3) / 4) = a at hcount ⊢
  generalize UInt32.ofNat ((1999 + k) / 100) = b at hcount ⊢
  generalize UInt32.ofNat ((1999 + k) / 400) = c at hcount ⊢
  change 730485 + b + UInt32.ofNat (yearsBefore k) = y * 365 + a + c at hcount
  grind

private theorem addMonths_eq (counter : UInt32) (idx : Nat) (h : idx < 2 ^ 16) : addMonths counter (UInt16.ofNat idx) =
    counter + UInt32.ofNat (before (fun i => (daysInMonth.getD i 0).toNat) idx) := by
  rw [addMonths, UInt16.toNat_ofNat_of_lt' h]
  clear h
  induction idx with
  | zero => simp
  | succ idx ih =>
    rw [List.range_succ, List.foldl_append, ih, before_succ, UInt32.ofNat_add, ← UInt32.add_assoc]
    simp

/-- The table of the months, less a day behind February in a year that is no leap year. -/
private theorem daysInMonth_eq : ∀ leap : Bool, ∀ month < 12, before (fun i => (daysInMonth.getD i 0).toNat) month =
    before (monthLen leap) month + if leap = false ∧ 1 < month then 1 else 0 := by
  decide +kernel

/-- Later years are out of reach of a 32-bit counter. -/
private theorem year_lt {t : DateTime} (hlt : t.seconds firstYear < 2 ^ 32) : t.year - firstYear < 137 := by
  by_contra hge
  have hmono : yearsBefore 137 ≤ yearsBefore (t.year - firstYear) := before_mono _ (Nat.not_lt.1 hge)
  rw [yearsBefore_last] at hmono
  have hnumber : t.dayNumber firstYear = yearsBefore (t.year - firstYear) + t.dayOfYear := rfl
  unfold DateTime.seconds at hlt
  omega

/-- The test for leap years. -/
private theorem isLeap_iff (year : Nat) : IsLeap year ↔ year % 400 = 0 ∨ year % 4 = 0 ∧ year % 100 ≠ 0 := by
  rw [IsLeap, imp_iff_not_or]
  omega

/-- The days of the months before, with the adjustment for February. -/
private theorem addMonths_adjusted (counter : UInt32) (year : Nat) {month : Nat} (h : month < 12) :
    (if year % 400 = 0 ∨ year % 4 = 0 ∧ year % 100 ≠ 0 then addMonths counter (UInt16.ofNat month)
      else if 1 < (month : Int) then addMonths counter (UInt16.ofNat month) - 1
      else addMonths counter (UInt16.ofNat month)) =
      counter + UInt32.ofNat (before (monthLen (IsLeap year)) month) := by
  have htable := daysInMonth_eq (IsLeap year) month h
  rw [addMonths_eq counter month (by omega), htable]
  by_cases hleap : IsLeap year
  · rw [if_pos ((isLeap_iff year).1 hleap)]
    simp [hleap]
  · rw [if_neg fun hc => hleap ((isLeap_iff year).2 hc)]
    -- the table counts a day too many behind February
    by_cases hfeb : 1 < month
    · rw [if_pos (by omega)]
      simp only [hleap, hfeb, decide_false, and_self, if_true, UInt32.ofNat_add]
      grind
    · rw [if_neg (by omega)]
      simp [hleap, hfeb]

private theorem structToCounter_spec {t : DateTime} (hfirst : firstYear ≤ t.year) (hlt : t.seconds firstYear < 2 ^ 32)
    (wday : Int) : structToCounter (DateTime.toTm t wday) = UInt32.ofNat (t.seconds firstYear) := by
  have hk := year_lt hlt
  obtain ⟨k, hyear⟩ : ∃ k, t.year = firstYear + k := Nat.exists_eq_add_of_le hfirst
  rw [hyear, Nat.add_sub_cancel_left] at hk
  have hword : (UInt16.ofNat (firstYear + k)).toNat = firstYear + k :=
    UInt16.toNat_ofNat_of_lt' (by rw [UInt16.size, firstYear]; omega)
  have hnumber : t.dayNumber firstYear = yearsBefore k + (before (monthLen (IsLeap (firstYear + k))) t.month + t.day) := by
    rw [Date.dayNumber, Date.dayOfYear, hyear, Nat.add_sub_cancel_left]
    rfl
  have hmday : UInt32.ofInt ((t.day : Int) + 1) = UInt32.ofNat t.day + 1 := by
    rw [UInt32.ofInt_add, ofInt_natCast]
    rfl
  have hmonths := addMonths_adjusted (UInt32.ofNat (yearsBefore k)) (firstYear + k) t.month_lt
  simp only [structToCounter, DateTime.toTm, hyear, ofInt_natCast16, hword, addYears_eq k hk, hmonths, hmday,
    ofInt_natCast, DateTime.seconds, hnumber, UInt32.ofNat_add, UInt32.ofNat_mul]
  grind

/-! ### Both directions -/

/-- Every counter value is the counter of its date, and every date and time from 2000 on whose number of seconds a
counter holds has that number as its counter, from which it is read back with the right day of the week. -/
theorem calendar_bijection :
    (∀ s : UInt32, structToCounter (counterToStruct s) = s) ∧
    ∀ t : DateTime, firstYear ≤ t.year → t.seconds firstYear < 2 ^ 32 → ∀ wday : Int,
      (structToCounter (DateTime.toTm t wday)).toNat = t.seconds firstYear ∧
      counterToStruct (structToCounter (DateTime.toTm t wday)) =
        DateTime.toTm t (t.weekday firstYear firstDay) := by
  constructor
  · intro s
    obtain ⟨t, hfirst, hseconds, hstruct⟩ := counterToStruct_spec s
    rw [hstruct, structToCounter_spec hfirst (hseconds ▸ s.toNat_lt), hseconds, UInt32.ofNat_toNat]
  · intro t hfirst hlt wday
    have hcounter : (structToCounter (DateTime.toTm t wday)).toNat = t.seconds firstYear := by
      rw [structToCounter_spec hfirst hlt, UInt32.toNat_ofNat_of_lt' hlt]
    obtain ⟨t', hfirst', hseconds, hstruct⟩ := counterToStruct_spec (structToCounter (DateTime.toTm t wday))
    have hsame : t' = t := DateTime.eq_of_seconds hfirst' hfirst (hseconds.trans hcounter)
    subst hsame
    exact ⟨hcounter, hstruct⟩

/-- The last second of a leap day. -/
def leapSecond : DateTime where
  year := 2024
  month := 1
  day := 28
  hour := 23
  minute := 59
  second := 59
  month_lt := by decide
  day_lt := by decide
  hour_lt := by decide
  minute_lt := by decide
  second_lt := by decide

theorem calendar_bijection_leapSecond :
    (structToCounter (DateTime.toTm leapSecond 0)).toNat = leapSecond.seconds firstYear ∧
      counterToStruct (structToCounter (DateTime.toTm leapSecond 0)) =
        DateTime.toTm leapSecond (leapSecond.weekday firstYear firstDay) :=
  calendar_bijection.2 leapSecond (by decide) (by decide) 0

end TiMcu.Calendar
