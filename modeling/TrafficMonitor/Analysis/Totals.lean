import TrafficMonitor.Record

/-! Running totals over a stream of records, on three levels: all packets, those of each
transport protocol, and those of each application protocol. A record counts on a level if it
carries the length of that level's payload. Rows stand in the order of their names, so totals
of the same records are equal in whatever order the records came. -/
namespace TrafficMonitor

structure NetworkTotals where
  packets : Nat := 0
  bytes : Nat := 0
deriving Repr, DecidableEq

structure TransportTotals where
  packets : Nat := 0
  /-- The sum of the IP payloads. -/
  bytes : Nat := 0
  /-- The sum of the whole packets. -/
  ipBytes : Nat := 0
deriving Repr, DecidableEq

structure ApplicationTotals where
  packets : Nat := 0
  /-- The sum of the TCP and UDP payloads. -/
  bytes : Nat := 0
  /-- The sum of the whole packets. -/
  ipBytes : Nat := 0
  /-- The sum of the IP payloads. -/
  transportBytes : Nat := 0
deriving Repr, DecidableEq

/-- Rows by name, in ascending order of name. -/
abbrev Rows (α : Type) := List (String × α)

/-- Changes the row of a name, and makes one in its place first if there is none. -/
def Rows.update (name : String) (fresh : α) (change : α → α) : Rows α → Rows α
  | [] => [(name, change fresh)]
  | (other, row) :: rest =>
    if name = other then (other, change row) :: rest
    else if name < other then (name, change fresh) :: (other, row) :: rest
    else (other, row) :: Rows.update name fresh change rest

/-- The totals of a stream. -/
structure Totals where
  network : NetworkTotals := {}
  transport : Rows TransportTotals := []
  application : Rows ApplicationTotals := []
deriving Repr, DecidableEq

namespace Totals

def countNetwork (r : Record) (t : NetworkTotals) : NetworkTotals :=
  ⟨t.packets + 1, t.bytes + r.length.toNat⟩

def countTransport (r : Record) (payload : UInt16) (t : TransportTotals) : TransportTotals :=
  ⟨t.packets + 1, t.bytes + payload.toNat, t.ipBytes + r.length.toNat⟩

def countApplication (r : Record) (ipPayload payload : UInt16) (t : ApplicationTotals) :
    ApplicationTotals :=
  ⟨t.packets + 1, t.bytes + payload.toNat, t.ipBytes + r.length.toNat,
    t.transportBytes + ipPayload.toNat⟩

/-- Counts one record. -/
def add (t : Totals) (r : Record) : Totals :=
  { network := countNetwork r t.network
    transport :=
      match r.ipPayload with
      | some payload => t.transport.update r.transport.label {} (countTransport r payload)
      | none => t.transport
    application :=
      match r.ipPayload, r.transportPayload with
      | some ipPayload, some payload =>
        t.application.update r.application.name {} (countApplication r ipPayload payload)
      | _, _ => t.application }

/-- Counts records one after another. -/
def addAll (t : Totals) (rs : List Record) : Totals := rs.foldl add t

/-- The totals of the given records alone. -/
def ofRecords (rs : List Record) : Totals := addAll {} rs

end Totals

end TrafficMonitor
