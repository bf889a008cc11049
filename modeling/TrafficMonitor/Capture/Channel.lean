import TrafficMonitor.Packet.Bytes
import TrafficMonitor.Time.Epoch

/-! One open capture. Packets wait in a queue between the producer, which must not block, and the
consumer. A queue of limited size that is full drops what is offered. Everything that happens
to the producer is counted once: a packet accepted, a packet dropped, an error, or traffic
that is not IPv4. -/
namespace TrafficMonitor.Capture
open Time Packet

/-- What to capture, and how. -/
structure Config where
  interface : String
  /-- A filter for the system to apply, before records are made. -/
  filter : Option String := none
  /-- The size of the queue. There is no limit if it is not positive. -/
  bufferSize : Int := 10000
  promiscuous : Bool := true
  monitor : Bool := false
deriving Repr, DecidableEq

/-- The filter for the system: IPv4 only, and what was asked for beyond that. -/
def Config.kernelFilter (c : Config) : String :=
  match c.filter with
  | some f => if f.isEmpty then "ip" else "ip and (" ++ f ++ ")"
  | none => "ip"

/-- A captured IPv4 packet, with its time. -/
structure RawPacket where
  time : EpochSeconds
  data : Bytes

/-- What a sniffer has seen. -/
inductive SniffedFrame where
  | ipv4 (packet : RawPacket)
  | other
  /-- A frame whose IPv4 packet cannot be read. -/
  | unreadable

/-- What has happened on a channel. -/
structure Counters where
  packets : Nat := 0
  bytes : Nat := 0
  drops : Nat := 0
  errors : Nat := 0
  /-- Traffic that is not IPv4, on channels that see it. -/
  others : Option Nat := none
deriving Repr, DecidableEq

/-- An open capture. -/
structure Channel where
  config : Config
  counters : Counters
  /-- The time of opening, in seconds since 1970. -/
  openedAt : Float
  queue : List RawPacket := []

/-- The counters at a moment, and the rates since the opening. -/
structure Statistics where
  counters : Counters
  openedAt : Float
  depth : Nat
  packetRate : Float
  byteRate : Float

namespace Channel

/-- Whether the queue takes no more. -/
def isFull (c : Channel) : Bool := 0 < c.config.bufferSize && c.config.bufferSize ≤ c.queue.length

/-- Queues a packet, or drops it if the queue is full. -/
def offer (p : RawPacket) (c : Channel) : Channel :=
  if c.isFull then { c with counters := { c.counters with drops := c.counters.drops + 1 } }
  else
    { c with
      queue := c.queue ++ [p]
      counters := { c.counters with
        packets := c.counters.packets + 1
        bytes := c.counters.bytes + p.data.length } }

/-- Counts a failure of the producer. -/
def fail (c : Channel) : Channel :=
  { c with counters := { c.counters with errors := c.counters.errors + 1 } }

/-- Counts traffic that is not IPv4. -/
def pass (c : Channel) : Channel :=
  { c with counters := { c.counters with others := c.counters.others.map (· + 1) } }

/-- Takes in what a sniffer has seen. The time of a packet is made a double, and it is an error
if there is none. -/
def sniff (frame : SniffedFrame) (c : Channel) : Channel :=
  match frame with
  | .ipv4 packet =>
    match packet.time.toFloat? with
    | some x => c.offer { packet with time := .real x }
    | none => c.fail
  | .other => c.pass
  | .unreadable => c.fail

/-- Hands out the oldest packets, as many as are asked for and there are. -/
def take (count : Int) (c : Channel) : List RawPacket × Channel :=
  (c.queue.take count.toNat, { c with queue := c.queue.drop count.toNat })

/-- The shortest time that rates are computed over, in seconds. -/
def leastElapsed : Float := 0.000001

/-- The statistics at a time. -/
def statistics (now : Float) (c : Channel) : Statistics :=
  let elapsed := now - c.openedAt
  let elapsed := if elapsed < leastElapsed then leastElapsed else elapsed
  { counters := c.counters
    openedAt := c.openedAt
    depth := c.queue.length
    packetRate := Float.ofNat c.counters.packets / elapsed
    byteRate := Float.ofNat c.counters.bytes / elapsed }

end Channel

end TrafficMonitor.Capture
