import TrafficMonitor.Time.LocalTime

/-! Points in time. A timestamp is a wall clock reading together with the offset of that clock
from universal time, and it keeps that offset for good; two timestamps are compared by the
instant they denote. `Zone.attach` makes a timestamp of a reading of the local clock, which
is refused near both ends of the calendar, where a shift by the offset could leave it.

A `Zone` is one offset for a whole run. Daylight saving is left out: the local clock of a place that
has it shows summer and winter by different offsets, and here both are read with the same one. -/
namespace TrafficMonitor.Time

/-- A wall clock reading and the clock's offset in seconds east of universal time. -/
structure Timestamp where
  clock : LocalTime
  offset : Int
deriving DecidableEq

namespace Timestamp

/-- The point in time, in microseconds since the year 1 began in universal time. -/
def instant (t : Timestamp) : Int := t.clock.micros - t.offset * microsPerSecond

/-- Whether two timestamps denote the same instant. -/
def same (a b : Timestamp) : Bool := a.instant = b.instant

/-- The order of the instants. -/
def compare (a b : Timestamp) : Ordering := compareOfLessAndEq a.instant b.instant

/-- Whether `a` is earlier than `b`. -/
def before (a b : Timestamp) : Bool := a.instant < b.instant

/-- An offset as a sign, hours and minutes, and seconds only if there are any. -/
def offsetText (offset : Int) : List Char :=
  let n := offset.natAbs
  let seconds := if n % 60 = 0 then [] else ':' :: Text.zeroPadded 2 (n % 60)
  (if offset < 0 then '-' else '+') ::
    (Text.zeroPadded 2 (n / 3600) ++ ':' :: Text.zeroPadded 2 (n / 60 % 60) ++ seconds)

/-- The form for people, without the offset. -/
def display (t : Timestamp) : List Char := t.clock.display

/-- The form for programs, with the offset. -/
def iso (t : Timestamp) : List Char := t.clock.iso ++ offsetText t.offset

end Timestamp

/-! ### The local zone -/

/-- Why a time cannot be used. -/
inductive TimeError where
  /-- The calendar has no such year. -/
  | yearOutOfRange (year : Int)
  /-- The instant lies outside the calendar. -/
  | overflow
  /-- The number of seconds is too large to have a calendar year at all. -/
  | yearTooLarge
deriving Repr, DecidableEq

/-- The text shown for an unusable time. An overflow has none. -/
def TimeError.message : TimeError → Option String
  | .yearOutOfRange year => some s!"year {year} is out of range"
  | .overflow => none
  | .yearTooLarge => some "[Errno 75] Value too large for defined data type"

/-- A clock with a fixed offset in seconds east of universal time. -/
structure Zone where
  offset : Int
deriving Repr, DecidableEq

/-- The last whole second of the calendar. -/
def lastSecond : Nat := dayCount * secondsPerDay - 1

/-- Reads the local clock. The first day of the year 1 is refused, and so is a reading that
leaves the calendar when the offset is added to it or taken from it. -/
def Zone.attach (zone : Zone) (t : LocalTime) : Except TimeError Timestamp :=
  let s : Int := t.seconds
  if s < secondsPerDay then .error (.yearOutOfRange 0)
  else if s + zone.offset < 0 then .error (.yearOutOfRange 0)
  else if s + zone.offset > lastSecond then .error (.yearOutOfRange 10000)
  else if s - zone.offset > lastSecond ∨ s - zone.offset < 0 then .error .overflow
  else .ok ⟨t, zone.offset⟩

/-- A time as it is given: with its offset, or as a reading of the local clock. -/
inductive Moment where
  | fixed (t : Timestamp)
  | floating (t : LocalTime)

/-- The timestamp of a moment. A fixed one keeps its offset. -/
def Zone.resolve (zone : Zone) : Moment → Except TimeError Timestamp
  | .fixed t => .ok t
  | .floating t => zone.attach t

end TrafficMonitor.Time
