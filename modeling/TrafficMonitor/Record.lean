import TrafficMonitor.Field
import TrafficMonitor.Value

/-! Packet records. A record is one observed IPv4 packet; what does not apply to the packet or
could not be read from it is absent. Lengths saturate at 65535. `Record.check` makes a record
from values as they are given, which may name addresses in text and times without an offset. -/
namespace TrafficMonitor
open Network Time

/-- A byte count cut to the range of sixteen bits. -/
def saturate (n : Int) : UInt16 := if n < 0 then 0 else (min n.toNat 65535).toUInt16

theorem toNat_saturate (n : Nat) : (saturate n).toNat = min n 65535 := by
  rw [saturate, if_neg (by omega), Int.toNat_natCast, Nat.toUInt16_eq, UInt16.toNat_ofNat']
  omega

/-- One observed packet. -/
structure Record where
  time : Timestamp
  /-- The bytes of the whole packet. -/
  length : UInt16
  transport : Transport
  source : Option Address := none
  sourcePort : Option Int := none
  destination : Option Address := none
  destinationPort : Option Int := none
  /-- The bytes after the IPv4 header. -/
  ipPayload : Option UInt16 := none
  /-- The bytes after the TCP or UDP header. -/
  transportPayload : Option UInt16 := none
  application : Application := .unknown
deriving DecidableEq

/-! ### Records from given values -/

/-- An address as it is given. -/
inductive AddressSource where
  | text (t : String)
  | number (n : Int)

/-- The values of a record before they are checked. -/
structure Draft where
  time : Moment
  length : Int
  transport : Transport
  source : Option AddressSource := none
  sourcePort : Option Int := none
  destination : Option AddressSource := none
  destinationPort : Option Int := none
  ipPayload : Option Int := none
  transportPayload : Option Int := none
  application : Application := .unknown

/-- Why values make no record. -/
inductive RecordError where
  | time (cause : TimeError)
  | address (cause : AddressError)
deriving Repr, DecidableEq

def AddressSource.resolve : AddressSource → Except AddressError Address
  | .text t => Address.parse t.toList
  | .number n => Address.ofNumber n

/-- Checks the time first, then the source, then the destination. -/
def Draft.check (zone : Zone) (d : Draft) : Except RecordError Record := do
  let time ← (zone.resolve d.time).mapError .time
  let address (a : Option AddressSource) : Except RecordError (Option Address) :=
    a.mapM fun a => a.resolve.mapError .address
  let source ← address d.source
  let destination ← address d.destination
  return {
    time, source, destination
    length := saturate d.length
    transport := d.transport
    sourcePort := d.sourcePort
    destinationPort := d.destinationPort
    ipPayload := d.ipPayload.map saturate
    transportPayload := d.transportPayload.map saturate
    application := d.application }

/-! ### Reading a record -/

namespace Record

/-- What the record holds in a field. -/
def value? (r : Record) : Field → Option Value
  | .time => some (.time r.time)
  | .source => r.source.map .address
  | .sourcePort => r.sourcePort.map .number
  | .destination => r.destination.map .address
  | .destinationPort => r.destinationPort.map .number
  | .length => some (.number r.length.toNat)
  | .ipPayload => r.ipPayload.map (.number ·.toNat)
  | .transport => some (.transport r.transport)
  | .transportPayload => r.transportPayload.map (.number ·.toNat)
  | .application => some (.application r.application)

/-- Only TCP and UDP carry an application protocol. -/
def hasApplication (r : Record) : Bool := r.transport.isTcpOrUdp

/-- What the record shows in a field. The application is hidden where it means nothing. -/
def shown? (r : Record) (field : Field) : Option Value :=
  if field = .application ∧ !r.hasApplication then none else r.value? field

/-- The text of a field in the record table; empty if there is nothing to show. -/
def cell (r : Record) (field : Field) : String := ((r.shown? field).map Value.label).getD ""

/-- The texts of all fields, in the order of the columns. -/
def row (r : Record) : List String := Field.all.map r.cell

end Record

end TrafficMonitor
