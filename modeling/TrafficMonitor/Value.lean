import TrafficMonitor.Network.Address
import TrafficMonitor.Network.Application
import TrafficMonitor.Network.Transport
import TrafficMonitor.Time.Timestamp

/-! What a field can hold, and what a filter compares it with. Times are the same if they
denote the same instant, and transport protocols if a filter counts them as one. -/
namespace TrafficMonitor
open Network Time

inductive Value where
  | time (t : Timestamp)
  | address (a : Address)
  | number (n : Int)
  | transport (p : Transport)
  | application (a : Application)
deriving DecidableEq

/-- What kind of value it is. -/
inductive Value.Kind where
  | time
  | address
  | number
  | transport
  | application
deriving Repr, DecidableEq

namespace Value

def kind : Value → Value.Kind
  | time _ => .time
  | address _ => .address
  | number _ => .number
  | transport _ => .transport
  | application _ => .application

/-- Whether two values are equal to a filter. Values of different kinds never are. -/
def same : Value → Value → Bool
  | time a, time b => a.same b
  | address a, address b => a = b
  | number a, number b => a = b
  | transport a, transport b => a.same b
  | application a, application b => a = b
  | _, _ => false

/-- The order of two values, if they have one: times by instant, addresses by their number. -/
def compare? : Value → Value → Option Ordering
  | time a, time b => some (a.compare b)
  | address a, address b => some (compareOfLessAndEq a.number b.number)
  | number a, number b => some (compareOfLessAndEq a b)
  | _, _ => none

/-- The text of a value in a filter. All unnamed transport protocols are written alike. -/
def display : Value → List Char
  | time t => t.display
  | address a => a.display
  | number n => (toString n).toList
  | transport p => p.name.toList
  | application a => a.name.toList

/-- The text of a value in a table. An unnamed transport protocol shows its number. -/
def label : Value → String
  | transport p => p.label
  | value => String.ofList value.display

end Value

end TrafficMonitor
