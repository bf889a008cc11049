import TrafficMonitor.Time.LocalTime

/-! Readings and their calendar fields. Every reading shows a date that exists and a time of day
in range (`isValid_civil`), and its fields make up the reading again (`ofCivil?_civil`), so that
a reading can be written by its fields. No two dates share a number (`ofDayNumber_dayNumber`), so
fields that are valid are those of exactly one reading (`ofCivil?_eq_some_iff`). -/
namespace TrafficMonitor.Time
open Number (total)

/-! ### Dates -/

/-- A place within consecutive months is in one of them, and on one of its days. -/
theorem locate_lt {lengths : List Nat} {n : Nat} (h : n < total lengths) :
    (locate lengths n).1 < lengths.length ∧
      (locate lengths n).2 < lengths.getD (locate lengths n).1 0 := by
  induction lengths generalizing n with
  | nil => exact absurd h (Nat.not_lt_zero n)
  | cons length rest ih =>
    by_cases hn : n < length
    · simp [locate, hn]
    · have hrest : n - length < total rest := by
        rw [Number.total_cons] at h
        omega
      simpa [locate, hn] using ih hrest

theorem yearOf_bounds {n : Nat} (h : n < dayCount) : 1 ≤ yearOf n ∧ yearOf n ≤ 9999 := by
  refine ⟨by simp only [yearOf]; omega, ?_⟩
  rcases Nat.lt_or_ge 9999 (yearOf n) with hlate | hle
  · have hmono := daysBeforeYear_mono (show 10000 ≤ yearOf n from hlate)
    have hyear := (daysBeforeYear_yearOf n).1
    rw [dayCount] at h
    omega
  · exact hle

/-- The date of a day of the calendar exists. -/
theorem Date.isValid_ofDayNumber {n : Nat} (h : n < dayCount) : (Date.ofDayNumber n).IsValid := by
  obtain ⟨hfirst, hlast⟩ := yearOf_bounds h
  obtain ⟨hle, hlt⟩ := daysBeforeYear_yearOf n
  have hplace : n - daysBeforeYear (yearOf n) < total (monthLengths (isLeap (yearOf n))) := by
    rw [total_monthLengths]
    rw [daysBeforeYear_succ _ hfirst] at hlt
    omega
  obtain ⟨hmonth, hday⟩ := locate_lt hplace
  have hlength : (monthLengths (isLeap (yearOf n))).length = 12 := rfl
  rw [hlength] at hmonth
  refine ⟨hfirst, hlast, ?_, ?_, ?_, ?_⟩ <;> simp only [Date.ofDayNumber]
  · omega
  · omega
  · omega
  · simp only [daysInMonth, Nat.add_one_ne_zero, if_false, Nat.add_sub_cancel]
    omega

theorem Date.IsValid.day_le {d : Date} (h : d.IsValid) : d.day ≤ 31 := by
  obtain ⟨-, -, hfirst, hlast, -, hday⟩ := h
  have hlength : ∀ leap, ∀ m < 12, (monthLengths leap).getD m 0 ≤ 31 := by decide
  have hmonth := hlength (isLeap d.year) (d.month - 1) (by omega)
  rw [daysInMonth, if_neg (by omega)] at hday
  omega

/-- The days of a year are numbered by no other year. -/
theorem yearOf_eq {year n : Nat} (hfirst : daysBeforeYear year ≤ n)
    (hlast : n < daysBeforeYear (year + 1)) : yearOf n = year := by
  obtain ⟨hle, hlt⟩ := daysBeforeYear_yearOf n
  rcases Nat.lt_trichotomy (yearOf n) year with h | h | h
  · have := daysBeforeYear_mono (show yearOf n + 1 ≤ year from h)
    omega
  · exact h
  · have := daysBeforeYear_mono (show year + 1 ≤ yearOf n from h)
    omega

/-- A day of one of consecutive months is found there. -/
theorem locate_total {lengths : List Nat} {month day : Nat} (h : day < lengths.getD month 0) :
    locate lengths (total (lengths.take month) + day) = (month, day) := by
  induction lengths generalizing month with
  | nil => exact absurd h (Nat.not_lt_zero day)
  | cons length rest ih =>
    cases month with
    | zero => simpa [locate] using h
    | succ month =>
      rw [List.getD_cons_succ] at h
      have hleft : length + total (rest.take month) + day - length =
          total (rest.take month) + day := by omega
      rw [List.take_succ_cons, Number.total_cons, locate, if_neg (by omega), hleft, ih h]

/-- **No two dates share a number.** -/
theorem Date.ofDayNumber_dayNumber {d : Date} (h : d.IsValid) : ofDayNumber d.dayNumber = d := by
  obtain ⟨hyear, -, hmonth, -, hday, hlast⟩ := h
  have hmonths := daysBeforeMonth_add_le d.year d.month
  have hyearOf : yearOf d.dayNumber = d.year := by
    refine yearOf_eq ?_ ?_
    · simp only [dayNumber]
      omega
    · rw [daysBeforeYear_succ _ hyear]
      simp only [dayNumber]
      omega
  have hplace : d.day - 1 < (monthLengths (isLeap d.year)).getD (d.month - 1) 0 := by
    rw [daysInMonth, if_neg (by omega)] at hlast
    omega
  have hinYear : d.dayNumber - daysBeforeYear d.year =
      total ((monthLengths (isLeap d.year)).take (d.month - 1)) + (d.day - 1) := by
    simp only [dayNumber, daysBeforeMonth]
    omega
  simp only [ofDayNumber, hyearOf, hinYear, locate_total hplace, Nat.sub_add_cancel hmonth,
    Nat.sub_add_cancel hday]

/-! ### Readings -/

namespace LocalTime

theorem seconds_lt (t : LocalTime) : t.seconds < dayCount * secondsPerDay := by
  have h := t.inSpan
  simp only [span, seconds, microsPerSecond] at *
  omega

theorem isValid_civil (t : LocalTime) : t.civil.IsValid := by
  have hday : t.seconds / secondsPerDay < dayCount :=
    Nat.div_lt_of_lt_mul (by rw [Nat.mul_comm]; exact t.seconds_lt)
  refine ⟨Date.isValid_ofDayNumber hday, ?_, ?_, ?_, ?_⟩ <;>
    simp only [civil, secondsPerDay, microsPerSecond] <;> omega

theorem micros_civil (t : LocalTime) : t.civil.micros = t.micros := by
  simp only [Civil.micros, civil, Date.dayNumber_ofDayNumber, seconds, secondsPerDay,
    microsPerSecond]
  omega

/-- **A reading is its fields.** -/
theorem ofCivil?_civil (t : LocalTime) : ofCivil? t.civil = some t := by
  obtain ⟨micros, inSpan⟩ := t
  simp only [ofCivil?, dif_pos (isValid_civil _), micros_civil]

/-- The reading that is made of valid fields shows them. -/
theorem civil_of_micros {c : Civil} {t : LocalTime} (hc : c.IsValid) (h : t.micros = c.micros) :
    t.civil = c := by
  obtain ⟨hdate, hhour, hminute, hsecond, hmicro⟩ := hc
  have hseconds : t.seconds =
      c.date.dayNumber * secondsPerDay + c.hour * 3600 + c.minute * 60 + c.second := by
    rw [seconds, h]
    simp only [Civil.micros, secondsPerDay, microsPerSecond] at *
    omega
  have hday : t.seconds / secondsPerDay = c.date.dayNumber := by
    rw [hseconds]
    simp only [secondsPerDay]
    omega
  have hinDay : t.seconds % secondsPerDay = c.hour * 3600 + c.minute * 60 + c.second := by
    rw [hseconds]
    simp only [secondsPerDay]
    omega
  have hfraction : t.micros % microsPerSecond = c.micro := by
    rw [h]
    simp only [Civil.micros, microsPerSecond] at *
    omega
  rw [civil, hday, hinDay, hfraction, Date.ofDayNumber_dayNumber hdate]
  congr 1 <;> omega

/-- **Valid fields are those of exactly one reading.** -/
theorem ofCivil?_eq_some_iff {c : Civil} {t : LocalTime} : ofCivil? c = some t ↔ t.civil = c := by
  constructor
  · intro h
    unfold ofCivil? at h
    split at h
    · rename_i hc
      cases h
      exact civil_of_micros hc rfl
    · cases h
  · rintro rfl
    exact t.ofCivil?_civil

theorem exists_civil {c : Civil} (h : c.IsValid) : ∃ t : LocalTime, t.civil = c :=
  ⟨⟨c.micros, h.micros_lt⟩, civil_of_micros h rfl⟩

end LocalTime

end TrafficMonitor.Time
