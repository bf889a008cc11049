import TrafficMonitor.Filter.Error
import TrafficMonitor.Filter.Shape
import TrafficMonitor.Value

/-! The values that literals denote. Which values a text can denote depends on the field it is
compared with; a text that denotes none is refused as a bad literal. -/
namespace TrafficMonitor.Filter
open Network Time

/-- The sorts of literals. -/
inductive LiteralKind where
  | time
  | address
  | port
  | length
  | transport
  | application
deriving Repr, DecidableEq

/-! ### Times -/

/-- The number of a group of digits, unless it has too many. -/
def group? (digits : List Char) : Option Nat :=
  if digits.length ≤ digitLimit then some (Text.value digits) else none

/-- The microseconds of a fraction of a second; further digits are cut off. -/
def fractionMicros (fraction : List Char) : Nat :=
  Text.value ((fraction.take 6).rightpad 6 '0')

/-- The calendar fields that a time is written with. -/
def TimeText.civil? (t : TimeText) : Option Civil := do
  let date : Date := ⟨← group? t.date.first, ← group? t.date.second, ← group? t.date.third⟩
  match t.clock with
  | none => return ⟨date, 0, 0, 0, 0⟩
  | some (clock, fraction) =>
    return ⟨date, ← group? clock.first, ← group? clock.second, ← group? clock.third,
      fractionMicros (fraction.getD [])⟩

/-- The time that a whole text denotes on the local clock. -/
def timestamp? (zone : Zone) (text : List Char) : Option Timestamp := do
  let (t, rest) ← time? text
  if rest ≠ [] then none
  else
    let reading ← LocalTime.ofCivil? (← t.civil?)
    (zone.attach reading).toOption

/-! ### All literals -/

/-- The number of a text of the digits `0` to `9`. -/
def numeral (text : List Char) : Except CompileError Nat :=
  if text.isEmpty || !text.all Text.isAsciiDigit then
    .error (.filter (.badLiteral (String.ofList text)))
  else if digitLimit < text.length then .error (.numeralTooLong text.length)
  else .ok (Nat.ofDigitChars 10 text 0)

namespace LiteralKind

/-- The value that a text denotes as a literal of this kind. Ports must fit sixteen bits;
lengths saturate. -/
def parse (zone : Zone) (kind : LiteralKind) (text : List Char) : Except CompileError Value :=
  let bad : CompileError := .filter (.badLiteral (String.ofList text))
  let orBad (value : Option Value) : Except CompileError Value := value.elim (.error bad) .ok
  match kind with
  | .time => orBad ((timestamp? zone text).map .time)
  | .address => orBad ((Address.parse text).toOption.map .address)
  | .port => do
    let n ← numeral text
    if 65535 < n then .error bad else .ok (.number n)
  | .length => return .number (min (← numeral text) 65535)
  | .transport => orBad ((Transport.ofName? (String.ofList text)).map .transport)
  | .application => orBad ((Application.ofName? (String.ofList text)).map .application)

end LiteralKind

end TrafficMonitor.Filter

namespace TrafficMonitor.Field
open TrafficMonitor.Filter

/-- The literals that the field is compared with. -/
def literalKind : Field → LiteralKind
  | time => .time
  | source | destination => .address
  | sourcePort | destinationPort => .port
  | length | ipPayload | transportPayload => .length
  | transport => .transport
  | application => .application

end TrafficMonitor.Field
