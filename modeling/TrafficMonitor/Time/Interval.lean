import TrafficMonitor.Number.Double
import TrafficMonitor.Time.LocalTime

/-! The width of one chart window: a positive number of microseconds, less than a thousand
million days. -/
namespace TrafficMonitor.Time

/-- A positive length of time. -/
structure Interval where
  micros : Nat
  positive : 0 < micros
deriving DecidableEq

/-- Why a number of microseconds is no interval. -/
inductive IntervalError where
  | tooLong
  | notPositive
deriving Repr, DecidableEq

/-- The text shown for a refused interval. One that is too long has none. -/
def IntervalError.message : IntervalError → Option String
  | .tooLong => none
  | .notPositive => some "sample interval must be positive"

namespace Interval

/-- The first number of days that is too long. -/
def dayLimit : Nat := 1000000000

/-- The interval of a number of microseconds. Length is judged before sign. -/
def ofMicros (micros : Int) : Except IntervalError Interval :=
  let days := micros / (secondsPerDay * microsPerSecond : Nat)
  if days ≤ -dayLimit ∨ dayLimit ≤ days then .error .tooLong
  else if h : 0 < micros then .ok ⟨micros.toNat, by omega⟩
  else .error .notPositive

/-- The length in seconds, as the nearest double. -/
def seconds (d : Interval) : Float := Number.ofMillionths d.micros

end Interval

end TrafficMonitor.Time
