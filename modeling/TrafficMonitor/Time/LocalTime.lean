import TrafficMonitor.Text.Numeral
import TrafficMonitor.Time.Calendar

/-! What a wall clock shows, to the microsecond, in the years 1 to 9999. A reading is kept as
the microseconds since the first of January of the year 1 at midnight, so that order and
intervals are arithmetic, and taken apart into calendar fields only to be written. -/
namespace TrafficMonitor.Time

def microsPerSecond : Nat := 1000000

def secondsPerDay : Nat := 86400

/-- The microseconds of the years 1 to 9999. -/
def span : Nat := dayCount * secondsPerDay * microsPerSecond

/-- A wall clock reading. -/
structure LocalTime where
  micros : Nat
  inSpan : micros < span
deriving DecidableEq

/-! ### Calendar fields -/

/-- A reading as calendar and clock fields. -/
structure Civil where
  date : Date
  hour : Nat
  minute : Nat
  second : Nat
  micro : Nat
deriving Repr, DecidableEq

/-- The date exists and the clock fields are in range. There are no leap seconds. -/
def Civil.IsValid (c : Civil) : Prop :=
  c.date.IsValid ∧ c.hour < 24 ∧ c.minute < 60 ∧ c.second < 60 ∧ c.micro < microsPerSecond

instance (c : Civil) : Decidable c.IsValid := inferInstanceAs (Decidable (_ ∧ _))

/-- The microseconds before the reading. -/
def Civil.micros (c : Civil) : Nat :=
  (c.date.dayNumber * secondsPerDay + c.hour * 3600 + c.minute * 60 + c.second) * microsPerSecond +
    c.micro

theorem Civil.IsValid.micros_lt {c : Civil} (h : c.IsValid) : c.micros < span := by
  obtain ⟨hdate, hhour, hminute, hsecond, hmicro⟩ := h
  have hday := hdate.dayNumber_lt
  simp only [Civil.micros, span, secondsPerDay, microsPerSecond] at *
  omega

namespace LocalTime

/-- The reading with the given fields, if they are valid. -/
def ofCivil? (c : Civil) : Option LocalTime :=
  if h : c.IsValid then some ⟨c.micros, h.micros_lt⟩ else none

/-- The whole seconds before the reading. -/
def seconds (t : LocalTime) : Nat := t.micros / microsPerSecond

/-- The fields of a reading. -/
def civil (t : LocalTime) : Civil :=
  let inDay := t.seconds % secondsPerDay
  { date := Date.ofDayNumber (t.seconds / secondsPerDay)
    hour := inDay / 3600
    minute := inDay / 60 % 60
    second := inDay % 60
    micro := t.micros % microsPerSecond }

/-! ### Written forms -/

/-- Hours, minutes and seconds, two digits each, with colons between. -/
def clockText (c : Civil) : List Char :=
  Text.zeroPadded 2 c.hour ++ ':' :: Text.zeroPadded 2 c.minute ++ ':' :: Text.zeroPadded 2 c.second

/-- Year, month and day with hyphens between; the year has `yearWidth` digits at least. -/
def dateText (yearWidth : Nat) (d : Date) : List Char :=
  Text.zeroPadded yearWidth d.year ++ '-' :: Text.zeroPadded 2 d.month ++
    '-' :: Text.zeroPadded 2 d.day

/-- The form for people: a space between date and time, six digits of fraction, and a year
without leading zeros. The filter language reads it back. -/
def display (t : LocalTime) : List Char :=
  dateText 1 t.civil.date ++ ' ' :: clockText t.civil ++ '.' :: Text.zeroPadded 6 t.civil.micro

/-- The form for programs: `T` between date and time, a year of four digits, and a fraction
only if it is not zero. -/
def iso (t : LocalTime) : List Char :=
  let fraction := if t.civil.micro = 0 then [] else '.' :: Text.zeroPadded 6 t.civil.micro
  dateText 4 t.civil.date ++ 'T' :: clockText t.civil ++ fraction

end LocalTime

end TrafficMonitor.Time
