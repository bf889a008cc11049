import TrafficMonitor.Capture.Channel

/-! The open captures of one producer. Each gets an identifier made of the producer's name, the
second of its opening and a number that is never used again, not even after the capture is
closed or could not be started. -/
namespace TrafficMonitor.Capture

/-- Where packets come from: made up, or sniffed from a network. -/
inductive Producer where
  | generated
  | sniffed
deriving Repr, DecidableEq

def Producer.name : Producer → String
  | generated => "dummy"
  | sniffed => "scapy"

/-- The counters of a channel that was just opened. Only sniffed traffic can be of other kinds. -/
def Producer.counters : Producer → Counters
  | generated => {}
  | sniffed => { others := some 0 }

/-- Why a request is refused. -/
inductive RegistryError where
  /-- There is no open capture of that identifier. -/
  | unknown (id : String)
  /-- The time is beyond the doubles. -/
  | clockOverflow
deriving Repr, DecidableEq

def RegistryError.message : RegistryError → String
  | .unknown id => "Session " ++ id ++ " not found"
  | .clockOverflow => "int too large to convert to float"

/-- What is left of a capture that was closed. -/
structure Summary where
  id : String
  producer : Producer
  config : Config
  closedAt : Float
  statistics : Statistics

/-- The open captures, oldest first, and how many identifiers were given out. -/
structure Registry where
  producer : Producer
  issued : Nat := 0
  channels : List (String × Channel) := []

/-- A time in microseconds since 1970 as seconds. Microseconds beyond the precision of a double
are rounded before they are divided. -/
def seconds (clock : Int) : Float := Float.ofInt clock / 1000000

/-- The seconds written down for what happens at a time in microseconds. -/
def stamp (clock : Int) : Except RegistryError Float :=
  match Number.ofInt? clock with
  | some micros => .ok (micros / 1000000)
  | none => .error .clockOverflow

/-- The whole seconds of a time in microseconds, as far as a double tells. -/
def wholeSeconds (clock : Int) : Int :=
  (Number.Double.ofFloat (seconds clock)).truncate?.getD 0

namespace Registry

/-- The identifier of the next capture. -/
def nextId (clock : Int) (r : Registry) : String :=
  s!"{r.producer.name}_{wholeSeconds clock}_{r.issued + 1}"

/-- Opens a capture and names it. -/
def register (config : Config) (clock : Int) (r : Registry) :
    Except RegistryError (String × Registry) :=
  (stamp clock).map fun now =>
    let id := r.nextId clock
    let channel : Channel := { config, counters := r.producer.counters, openedAt := now }
    (id, { r with issued := r.issued + 1, channels := r.channels ++ [(id, channel)] })

/-- The identifiers of the open captures. -/
def ids (r : Registry) : List String := r.channels.map (·.1)

/-- The channel of an open capture. -/
def channel (id : String) (r : Registry) : Except RegistryError Channel :=
  match r.channels.find? (·.1 = id) with
  | some (_, c) => .ok c
  | none => .error (.unknown id)

/-- Puts a channel in the place of that of an open capture. -/
def put (id : String) (c : Channel) (r : Registry) : Registry :=
  { r with channels := r.channels.map fun (other, d) => if other = id then (id, c) else (other, d) }

/-- Changes the channel of an open capture. -/
def modify (id : String) (change : Channel → Channel) (r : Registry) :
    Except RegistryError Registry :=
  (r.channel id).map fun c => r.put id (change c)

/-- Hands out packets of an open capture. -/
def take (id : String) (count : Int) (r : Registry) :
    Except RegistryError (List RawPacket × Registry) :=
  (r.channel id).map fun c => ((c.take count).1, r.put id (c.take count).2)

/-- The statistics of an open capture. -/
def statistics (id : String) (clock : Int) (r : Registry) : Except RegistryError Statistics := do
  let c ← r.channel id
  return c.statistics (← stamp clock)

/-- Takes an open capture out. -/
def drop (id : String) (r : Registry) : Registry :=
  { r with channels := r.channels.filter (·.1 ≠ id) }

/-- Closes an open capture and sums it up. -/
def close (id : String) (clock : Int) (r : Registry) :
    Except RegistryError (Summary × Registry) := do
  let c ← r.channel id
  let now ← stamp clock
  return (⟨id, r.producer, c.config, now, c.statistics now⟩, r.drop id)

end Registry

end TrafficMonitor.Capture
