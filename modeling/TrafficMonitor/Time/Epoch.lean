import TrafficMonitor.Number.Double
import TrafficMonitor.Time.Timestamp

/-! Seconds since 1970 as local time. Packet capture stamps packets with a double; its whole
part counts seconds, and its fraction, times a million and rounded to even, microseconds. A
recorded packet can have a whole number of seconds, which is not rounded to a double.

The calendar of the platform goes far beyond the years 1 to 9999. It keeps the distance of a
year from 1900 in a signed 32-bit word, for the year in universal time and for the local year. -/
namespace TrafficMonitor.Time

/-- The seconds from the year 1 to 1970. -/
def epoch : Nat := (⟨1970, 1, 1⟩ : Date).dayNumber * secondsPerDay

/-- The calendar year of any day, also before the year 1 and after 9999. -/
def yearOfDay (day : Int) : Int := yearOf (day % 146097).toNat + 400 * (day / 146097)

/-- Whether a number fits a signed word with so many values on either side of zero. -/
def fitsWord (half : Nat) (n : Int) : Bool := -half ≤ n && n < half

/-- Years whose distance from 1900 fits a signed 32-bit word. -/
def platformYears (year : Int) : Bool := fitsWord 0x80000000 (year - 1900)

/-- A year as a signed 32-bit word. The last years of the platform come out negative. -/
def wordYear (year : Int) : Int := year.bmod 0x100000000

/-- The year of an instant given in microseconds since the year 1 began. -/
def yearOfMicros (micros : Int) : Int := yearOfDay (micros / microsPerSecond / secondsPerDay)

/-- The local timestamp of an instant given in microseconds since 1970. The whole seconds have
to fit a signed 64-bit word. -/
def Zone.ofEpochMicros (zone : Zone) (micros : Int) : Except TimeError Timestamp :=
  let universal := micros + epoch * microsPerSecond
  let wall := universal + zone.offset * microsPerSecond
  if !fitsWord 0x8000000000000000 (micros / microsPerSecond) then .error .overflow
  else if !platformYears (yearOfMicros universal) || !platformYears (yearOfMicros wall) then
    .error .yearTooLarge
  else if h : 0 ≤ wall ∧ wall.toNat < span then zone.attach ⟨wall.toNat, h.2⟩
  else .error (.yearOutOfRange (wordYear (yearOfMicros wall)))

/-- A number of seconds since 1970. -/
inductive EpochSeconds where
  | whole (n : Int)
  | real (x : Float)

namespace EpochSeconds

/-- The nearest double, unless the number is beyond the doubles. -/
def toFloat? : EpochSeconds → Option Float
  | whole n => Number.ofInt? n
  | real x => some x

/-- The microseconds of a double: its whole part as it stands, the fraction times a million
rounded to even. `none` unless the double is finite. -/
def roundedMicros? (x : Float) : Option Int := do
  let whole := if x < 0 then x.ceil else x.floor
  let wholePart ← (Number.Double.ofFloat whole).truncate?
  let fraction ← (Number.Double.ofFloat ((x - whole) * 1000000)).round?
  return wholePart * microsPerSecond + fraction

/-- The microseconds since 1970, if there is such a time. -/
def micros? : EpochSeconds → Option Int
  | whole n => some (n * microsPerSecond)
  | real x => roundedMicros? x

end EpochSeconds

/-- The local timestamp of a number of seconds since 1970. -/
def Zone.ofEpochSeconds (zone : Zone) (t : EpochSeconds) : Except TimeError Timestamp :=
  match t.micros? with
  | some micros => zone.ofEpochMicros micros
  | none => .error .overflow

end TrafficMonitor.Time
