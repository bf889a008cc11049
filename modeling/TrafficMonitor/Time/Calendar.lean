import TrafficMonitor.Number.Total

/-! The proleptic Gregorian calendar as a numbering of days. Day 0 is the first of January of
the year 1. `dayNumber` counts the days before a date, `Date.ofDayNumber` finds the date again:
a year is a place in a cycle of 400 years, and a month a place in the list of month lengths.
`dayNumber_ofDayNumber` says that no day is lost on the way. -/
namespace TrafficMonitor.Time
open Number (total)

structure Date where
  year : Nat
  month : Nat
  day : Nat
deriving Repr, DecidableEq

/-! ### Years -/

def isLeap (year : Nat) : Bool := year % 4 = 0 && (year % 100 ≠ 0 || year % 400 = 0)

/-- The days of all years before `year`. -/
def daysBeforeYear (year : Nat) : Nat :=
  let past := year - 1
  365 * past + past / 4 - past / 100 + past / 400

/-- The years before a year, counted off in cycles of 400, 100, 4 and 1. -/
theorem daysBeforeYear_cycles (eras centuries fours ones : Nat) (hc : centuries ≤ 3)
    (hf : fours ≤ 24) (ho : ones ≤ 3) :
    daysBeforeYear (400 * eras + 100 * centuries + 4 * fours + ones + 1) =
      146097 * eras + 36524 * centuries + 1461 * fours + 365 * ones := by
  have h4 : (400 * eras + 100 * centuries + 4 * fours + ones) / 4 =
      100 * eras + 25 * centuries + fours := by omega
  have h100 : (400 * eras + 100 * centuries + 4 * fours + ones) / 100 = 4 * eras + centuries := by
    omega
  have h400 : (400 * eras + 100 * centuries + 4 * fours + ones) / 400 = eras := by omega
  simp only [daysBeforeYear, Nat.add_sub_cancel, h4, h100, h400]
  omega

/-- The last year of four is a leap year, but for that of the first three centuries of an era. -/
theorem isLeap_cycles (eras centuries fours ones : Nat) (hc : centuries ≤ 3) (hf : fours ≤ 24)
    (ho : ones ≤ 3) :
    isLeap (400 * eras + 100 * centuries + 4 * fours + ones + 1) =
      (ones = 3 && (fours ≠ 24 || centuries = 3)) := by
  have h4 : (400 * eras + 100 * centuries + 4 * fours + ones + 1) % 4 = 0 ↔ ones = 3 := by omega
  have h100 : ones = 3 →
      ((400 * eras + 100 * centuries + 4 * fours + ones + 1) % 100 = 0 ↔ fours = 24) := by omega
  have h400 : ones = 3 → fours = 24 →
      ((400 * eras + 100 * centuries + 4 * fours + ones + 1) % 400 = 0 ↔ centuries = 3) := by omega
  simp only [isLeap]
  by_cases h1 : ones = 3 <;> by_cases h2 : fours = 24 <;> simp_all

/-- A year ends after 365 days, or 366 if it is a leap year. -/
theorem daysBeforeYear_succ_cycles (eras centuries fours ones : Nat) (hc : centuries ≤ 3)
    (hf : fours ≤ 24) (ho : ones ≤ 3) :
    daysBeforeYear (400 * eras + 100 * centuries + 4 * fours + ones + 1 + 1) =
      daysBeforeYear (400 * eras + 100 * centuries + 4 * fours + ones + 1) +
        if isLeap (400 * eras + 100 * centuries + 4 * fours + ones + 1) then 366 else 365 := by
  rw [isLeap_cycles _ _ _ _ hc hf ho, daysBeforeYear_cycles _ _ _ _ hc hf ho]
  rcases Nat.lt_or_ge ones 3 with h | h
  · rw [show 400 * eras + 100 * centuries + 4 * fours + ones + 1 + 1 =
        400 * eras + 100 * centuries + 4 * fours + (ones + 1) + 1 by omega,
      daysBeforeYear_cycles _ _ _ _ hc hf (by omega)]
    simp [show ones ≠ 3 by omega]
    omega
  obtain rfl : ones = 3 := by omega
  rcases Nat.lt_or_ge fours 24 with h | h
  · rw [show 400 * eras + 100 * centuries + 4 * fours + 3 + 1 + 1 =
        400 * eras + 100 * centuries + 4 * (fours + 1) + 0 + 1 by omega,
      daysBeforeYear_cycles eras centuries (fours + 1) 0 hc (by omega) (by omega)]
    simp [show fours ≠ 24 by omega]
    omega
  obtain rfl : fours = 24 := by omega
  rcases Nat.lt_or_ge centuries 3 with h | h
  · rw [show 400 * eras + 100 * centuries + 4 * 24 + 3 + 1 + 1 =
        400 * eras + 100 * (centuries + 1) + 4 * 0 + 0 + 1 by omega,
      daysBeforeYear_cycles eras (centuries + 1) 0 0 (by omega) (by omega) (by omega)]
    simp [show centuries ≠ 3 by omega]
    omega
  obtain rfl : centuries = 3 := by omega
  rw [show 400 * eras + 100 * 3 + 4 * 24 + 3 + 1 + 1 =
      400 * (eras + 1) + 100 * 0 + 4 * 0 + 0 + 1 by omega,
    daysBeforeYear_cycles (eras + 1) 0 0 0 (by omega) (by omega) (by omega)]
  simp
  omega

theorem daysBeforeYear_succ (year : Nat) (h : 1 ≤ year) :
    daysBeforeYear (year + 1) = daysBeforeYear year + if isLeap year then 366 else 365 := by
  obtain ⟨b, f, c, e, hf, hc, he, rfl⟩ : ∃ b f c e, f ≤ 3 ∧ c ≤ 24 ∧ e ≤ 3 ∧
      year = 400 * b + 100 * f + 4 * c + e + 1 :=
    ⟨(year - 1) / 400, (year - 1) % 400 / 100, (year - 1) % 100 / 4, (year - 1) % 4,
      by omega, by omega, by omega, by omega⟩
  exact daysBeforeYear_succ_cycles b f c e hf hc he

theorem daysBeforeYear_mono {a b : Nat} (h : a ≤ b) : daysBeforeYear a ≤ daysBeforeYear b := by
  induction h with
  | refl => exact Nat.le_refl _
  | @step year _ ih =>
    rcases Nat.eq_zero_or_pos year with rfl | hpos
    · exact Nat.le_trans ih (by decide)
    · rw [Nat.succ_eq_add_one, daysBeforeYear_succ year hpos]
      omega

/-- The year in which a day falls. Days are counted off in cycles of 400, 100, 4 and 1 years;
the last day of a leap cycle belongs to the cycle that it ends. -/
def yearOf (n : Nat) : Nat :=
  let inEra := n % 146097
  let centuries := min (inEra / 36524) 3
  let inCentury := inEra - 36524 * centuries
  let fours := inCentury / 1461
  let ones := min (inCentury % 1461 / 365) 3
  400 * (n / 146097) + 100 * centuries + 4 * fours + ones + 1

/-- A day falls in its year. -/
theorem daysBeforeYear_yearOf (n : Nat) :
    daysBeforeYear (yearOf n) ≤ n ∧ n < daysBeforeYear (yearOf n + 1) := by
  obtain ⟨b, r, hb, hr⟩ : ∃ b r, n = 146097 * b + r ∧ r < 146097 :=
    ⟨n / 146097, n % 146097, by omega, by omega⟩
  have hdiv : n / 146097 = b := by omega
  have hmod : n % 146097 = r := by omega
  obtain ⟨f, hf⟩ : ∃ f, min (r / 36524) 3 = f := ⟨_, rfl⟩
  obtain ⟨c, hc⟩ : ∃ c, (r - 36524 * f) / 1461 = c := ⟨_, rfl⟩
  obtain ⟨e, he⟩ : ∃ e, min ((r - 36524 * f) % 1461 / 365) 3 = e := ⟨_, rfl⟩
  have hyear : yearOf n = 400 * b + 100 * f + 4 * c + e + 1 := by
    simp only [yearOf, hdiv, hmod, hf, hc, he]
  rw [hyear, daysBeforeYear_succ_cycles b f c e (by omega) (by omega) (by omega),
    daysBeforeYear_cycles b f c e (by omega) (by omega) (by omega),
    isLeap_cycles b f c e (by omega) (by omega) (by omega)]
  refine ⟨by omega, ?_⟩
  by_cases he3 : e = 3 <;> by_cases hc24 : c = 24 <;> by_cases hf3 : f = 3 <;>
    simp [he3, hc24, hf3] <;> omega

/-! ### Months -/

/-- The lengths of the twelve months. -/
def monthLengths (leap : Bool) : List Nat :=
  [31, if leap then 29 else 28, 31, 30, 31, 30, 31, 31, 30, 31, 30, 31]

/-- The days of a month; no day if there is no such month. -/
def daysInMonth (year month : Nat) : Nat :=
  if month = 0 then 0 else (monthLengths (isLeap year)).getD (month - 1) 0

/-- The days of a year before a month. -/
def daysBeforeMonth (year month : Nat) : Nat :=
  total ((monthLengths (isLeap year)).take (month - 1))

/-- The place of a day in consecutive months: how many of them it follows, and how many days
of its own month. -/
def locate : List Nat → Nat → Nat × Nat
  | [], n => (0, n)
  | length :: rest, n =>
    if n < length then (0, n) else let (month, day) := locate rest (n - length); (month + 1, day)

theorem total_take_locate (lengths : List Nat) (n : Nat) :
    total (lengths.take (locate lengths n).1) + (locate lengths n).2 = n := by
  induction lengths generalizing n with
  | nil => simp [locate]
  | cons length rest ih =>
    by_cases h : n < length
    · simp [locate, h]
    · have := ih (n - length)
      simp [locate, h]
      omega

/-- The months before one and its own days make no more than all months. -/
theorem total_take_add_le (lengths : List Nat) (m : Nat) :
    total (lengths.take m) + lengths.getD m 0 ≤ total lengths := by
  induction lengths generalizing m with
  | nil => simp
  | cons length rest ih =>
    cases m with
    | zero => simp
    | succ m =>
      have := ih m
      simp only [List.take_succ_cons, Number.total_cons, List.getD_cons_succ]
      omega

theorem total_monthLengths (leap : Bool) :
    total (monthLengths leap) = if leap then 366 else 365 := by
  cases leap <;> rfl

/-- A day of a month is a day of the year. -/
theorem daysBeforeMonth_add_le (year month : Nat) :
    daysBeforeMonth year month + daysInMonth year month ≤ if isLeap year then 366 else 365 := by
  rw [← total_monthLengths]
  simp only [daysBeforeMonth, daysInMonth]
  split
  · simp_all
  · exact total_take_add_le _ _

/-! ### Dates -/

namespace Date

/-- The date exists, in a year from 1 to 9999. -/
def IsValid (d : Date) : Prop :=
  1 ≤ d.year ∧ d.year ≤ 9999 ∧ 1 ≤ d.month ∧ d.month ≤ 12 ∧ 1 ≤ d.day ∧
    d.day ≤ daysInMonth d.year d.month

instance (d : Date) : Decidable d.IsValid := inferInstanceAs (Decidable (_ ∧ _))

/-- The number of days before a date. -/
def dayNumber (d : Date) : Nat :=
  daysBeforeYear d.year + daysBeforeMonth d.year d.month + (d.day - 1)

/-- The date of a day. -/
def ofDayNumber (n : Nat) : Date :=
  let year := yearOf n
  let (month, day) := locate (monthLengths (isLeap year)) (n - daysBeforeYear year)
  ⟨year, month + 1, day + 1⟩

theorem dayNumber_ofDayNumber (n : Nat) : (ofDayNumber n).dayNumber = n := by
  have hle := (daysBeforeYear_yearOf n).1
  have hsum := total_take_locate (monthLengths (isLeap (yearOf n))) (n - daysBeforeYear (yearOf n))
  simp only [ofDayNumber, dayNumber, daysBeforeMonth, Nat.add_sub_cancel]
  omega

end Date

/-- The days of the years 1 to 9999. -/
def dayCount : Nat := daysBeforeYear 10000

theorem Date.IsValid.dayNumber_lt {d : Date} (h : d.IsValid) : d.dayNumber < dayCount := by
  obtain ⟨hy, hy', _, _, hd, hd'⟩ := h
  have hsucc := daysBeforeYear_succ d.year hy
  have hmono := daysBeforeYear_mono (show d.year + 1 ≤ 10000 by omega)
  have hmonth := daysBeforeMonth_add_le d.year d.month
  simp only [Date.dayNumber, dayCount]
  omega

end TrafficMonitor.Time
