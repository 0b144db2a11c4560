import TiMcu.Lib.Blocks

/-!
# The Gregorian calendar

Days are counted from the first day of an epoch year.  Months and the days of a month count from 0.
-/

namespace Gregorian

open Blocks

/-- Every fourth year is a leap year, except for those that end a century not divisible by 400. -/
def IsLeap (year : ℕ) : Prop := 4 ∣ year ∧ (100 ∣ year → 400 ∣ year)

instance (year : ℕ) : Decidable (IsLeap year) := by
  unfold IsLeap
  infer_instance

def yearLen (year : ℕ) : ℕ := if IsLeap year then 366 else 365

/-- The length of a month in a leap year or another one. -/
def monthLen (leap : Bool) (month : ℕ) : ℕ :=
  if month = 1 then if leap then 29 else 28
  else if month ∈ [3, 5, 8, 10] then 30
  else 31

/-- A day of the calendar. -/
structure Date where
  year : ℕ
  month : ℕ
  day : ℕ
  month_lt : month < 12
  day_lt : day < monthLen (IsLeap year) month

variable {d d' : Date} {epoch : ℕ}

/-- The number of days since the first one of the year. -/
def Date.dayOfYear (d : Date) : ℕ := before (monthLen (IsLeap d.year)) d.month + d.day

/-- The number of days since the first one of the epoch, for dates that are not before it. -/
def Date.dayNumber (epoch : ℕ) (d : Date) : ℕ :=
  before (fun i => yearLen (epoch + i)) (d.year - epoch) + d.dayOfYear

theorem before_monthLen_twelve (leap : Bool) : before (monthLen leap) 12 = if leap then 366 else 365 := by
  cases leap <;> rfl

theorem yearLen_eq (year : ℕ) : yearLen year = before (monthLen (IsLeap year)) 12 := by
  rw [before_monthLen_twelve, yearLen]
  simp

theorem Date.dayOfYear_lt (d : Date) : d.dayOfYear < yearLen d.year := by
  rw [yearLen_eq]
  exact lt_before d.day_lt d.month_lt

theorem Date.eq_of_fields (hyear : d.year = d'.year) (hmonth : d.month = d'.month) (hday : d.day = d'.day) : d = d' := by
  cases d
  cases d'
  simp_all

/-- The number of a day determines the date. -/
theorem Date.eq_of_dayNumber (he : epoch ≤ d.year) (he' : epoch ≤ d'.year)
    (h : d.dayNumber epoch = d'.dayNumber epoch) : d = d' := by
  have hlt : d.dayOfYear < yearLen (epoch + (d.year - epoch)) := by
    rw [Nat.add_sub_cancel' he]
    exact d.dayOfYear_lt
  have hlt' : d'.dayOfYear < yearLen (epoch + (d'.year - epoch)) := by
    rw [Nat.add_sub_cancel' he']
    exact d'.dayOfYear_lt
  obtain ⟨hyears, hdays⟩ := place_unique (f := fun i => yearLen (epoch + i)) hlt hlt' h
  have hyear : d.year = d'.year := by omega
  have hd' := d'.day_lt
  unfold Date.dayOfYear at hdays
  rw [← hyear] at hdays hd'
  obtain ⟨hmonth, hday⟩ := place_unique d.day_lt hd' hdays
  exact Date.eq_of_fields hyear hmonth hday

/-- The rule for leap years as a count. -/
theorem yearLen_succ (n : ℕ) :
    yearLen (n + 1) + (if 100 ∣ n + 1 then 1 else 0) =
      365 + (if 4 ∣ n + 1 then 1 else 0) + (if 400 ∣ n + 1 then 1 else 0) := by
  unfold yearLen IsLeap
  by_cases h4 : 4 ∣ n + 1
  · by_cases h100 : 100 ∣ n + 1
    · by_cases h400 : 400 ∣ n + 1
      · simp [h4, h100, h400]
      · simp [h4, h100, h400]
    · have h400 : ¬400 ∣ n + 1 := by omega
      simp [h4, h100, h400]
  · have h100 : ¬100 ∣ n + 1 := by omega
    have h400 : ¬400 ∣ n + 1 := by omega
    simp [h4, h100, h400]

theorem yearLen_step (n : ℕ) : yearLen (n + 1) + (n + 1) / 100 + (n + 4) / 4 + n / 400 =
    365 + n / 100 + (n + 4 + 1) / 4 + (n + 1) / 400 := by
  have hyear := yearLen_succ n
  have h4 : (n + 4 + 1) / 4 = (n + 4) / 4 + if 4 ∣ n + 4 + 1 then 1 else 0 := Nat.succ_div
  have h100 : (n + 1) / 100 = n / 100 + if 100 ∣ n + 1 then 1 else 0 := Nat.succ_div
  have h400 : (n + 1) / 400 = n / 400 + if 400 ∣ n + 1 then 1 else 0 := Nat.succ_div
  have hdvd : 4 ∣ n + 4 + 1 ↔ 4 ∣ n + 1 := by omega
  simp only [hdvd] at h4
  rw [h4, h100, h400]
  -- the conditions are the same on both sides
  generalize (if 4 ∣ n + 1 then 1 else 0) = a at *
  generalize (if 100 ∣ n + 1 then 1 else 0) = b at *
  generalize (if 400 ∣ n + 1 then 1 else 0) = c at *
  omega

/-- A count by year adds up over the years. -/
theorem before_of_step {f a b c : ℕ → ℕ} (h : ∀ n, f (n + 1) + a (n + 1) + b n + c n = 365 + a n + b (n + 1) + c (n + 1))
    (n k : ℕ) : (n + 1) * 365 + b n + c n + a (n + k) + before (fun i => f (n + 1 + i)) k =
      (n + k + 1) * 365 + b (n + k) + c (n + k) + a n := by
  induction k with
  | zero => simp
  | succ k ih =>
    have hstep := h (n + k)
    have hsucc : before (fun i => f (n + 1 + i)) (k + 1) = before (fun i => f (n + 1 + i)) k + f (n + 1 + k) :=
      before_succ _ k
    have hassoc : n + (k + 1) = n + k + 1 := rfl
    have hyear : n + 1 + k = n + k + 1 := by omega
    rw [hyear] at hsucc
    rw [hsucc, hassoc]
    omega

/-- The days before a year, as the rule for leap years gives them: a day in every fourth year, less one in every
hundredth, and one in every 400th again. -/
theorem before_yearLen (n k : ℕ) :
    (n + 1) * 365 + (n + 4) / 4 + n / 400 + (n + k) / 100 + before (fun i => yearLen (n + 1 + i)) k =
      (n + k + 1) * 365 + (n + k + 4) / 4 + (n + k) / 400 + n / 100 := by
  have hstep : ∀ n, yearLen (n + 1) + (n + 1) / 100 + (n + 4) / 4 + n / 400 =
      365 + n / 100 + (n + 1 + 4) / 4 + (n + 1) / 400 := by
    intro n
    rw [Nat.add_right_comm n 1 4]
    exact yearLen_step n
  exact before_of_step (f := yearLen) (a := fun n => n / 100) (b := fun n => (n + 4) / 4) (c := fun n => n / 400)
    hstep n k

/-- A day with its hour, minute and second. -/
structure DateTime extends Date where
  hour : ℕ
  minute : ℕ
  second : ℕ
  hour_lt : hour < 24
  minute_lt : minute < 60
  second_lt : second < 60

/-- The number of seconds since the begin of the epoch. -/
def DateTime.seconds (epoch : ℕ) (t : DateTime) : ℕ :=
  t.dayNumber epoch * 86400 + t.hour * 3600 + t.minute * 60 + t.second

/-- The time of a day at which the clock shows these seconds since midnight. -/
def Date.atSecond (d : Date) (s : ℕ) : DateTime where
  toDate := d
  hour := s / 3600 % 24
  minute := s / 60 % 60
  second := s % 60
  hour_lt := Nat.mod_lt _ (by decide)
  minute_lt := Nat.mod_lt _ (by decide)
  second_lt := Nat.mod_lt _ (by decide)

theorem Date.atSecond_seconds (epoch : ℕ) (d : Date) (s : ℕ) :
    (d.atSecond s).seconds epoch = d.dayNumber epoch * 86400 + s % 86400 := by
  simp only [DateTime.seconds, Date.atSecond]
  omega

theorem DateTime.eq_of_fields {t t' : DateTime} (hdate : t.toDate = t'.toDate) (hhour : t.hour = t'.hour)
    (hminute : t.minute = t'.minute) (hsecond : t.second = t'.second) : t = t' := by
  cases t
  cases t'
  simp_all

/-- The number of a second determines the date and the time. -/
theorem DateTime.eq_of_seconds {t t' : DateTime} (he : epoch ≤ t.year) (he' : epoch ≤ t'.year)
    (h : t.seconds epoch = t'.seconds epoch) : t = t' := by
  have hhour := t.hour_lt
  have hhour' := t'.hour_lt
  have hminute := t.minute_lt
  have hminute' := t'.minute_lt
  have hsecond := t.second_lt
  have hsecond' := t'.second_lt
  unfold DateTime.seconds at h
  have hday : t.dayNumber epoch = t'.dayNumber epoch := by omega
  exact DateTime.eq_of_fields (Date.eq_of_dayNumber he he' hday) (by omega) (by omega) (by omega)

/-- The day of the week, 0 for Sunday, when the epoch begins with the day `first`. -/
def Date.weekday (epoch first : ℕ) (d : Date) : ℕ := (first + d.dayNumber epoch) % 7

end Gregorian
