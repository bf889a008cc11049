import TrafficMonitor.Attempt
import TrafficMonitor.Capture.Registry
import TrafficMonitor.Packet.Reader
import TrafficMonitor.Time.Epoch

/-! A live source of records: it starts and stops one capture and decodes what the capture has
queued. Starting and stopping can fail in the system below. A start that fails leaves no
capture open; a stop that fails leaves it open, though the source has let go of it. -/
namespace TrafficMonitor.Capture
open Time Packet

/-- Why a source fails. -/
inductive LiveError where
  | alreadyRunning
  /-- The system below refused, with a message of its own. -/
  | system (message : String)
  | registry (cause : RegistryError)
  | time (cause : TimeError)
deriving Repr, DecidableEq

def LiveError.message : LiveError → Option String
  | .alreadyRunning => some "capture already running"
  | .system message => some message
  | .registry cause => some cause.message
  | .time cause => cause.message

/-- A source and the capture it has open. -/
structure Live where
  registry : Registry
  config : Config
  /-- The most packets one poll takes. -/
  batch : Int := 100
  running : Option String := none

namespace Live

/-- Opens the capture, unless one is open. `fault` is the failure of the system, if it fails. -/
def start (clock : Int) (fault : Option String) (l : Live) : Attempt LiveError Live :=
  match l.running with
  | some _ => .stopped l .alreadyRunning
  | none =>
    match l.registry.register l.config clock, fault with
    | .error e, _ => .stopped l (.registry e)
    | .ok (id, registry), some message =>
      .stopped { l with registry := registry.drop id } (.system message)
    | .ok (id, registry), none => .done { l with registry, running := some id }

/-- Decodes captured packets, up to the first whose time cannot be used. -/
def decodeAll (zone : Zone) (packets : List RawPacket) :
    Except LiveError (List (Record × Bytes)) :=
  packets.filterMapM fun p =>
    match zone.ofEpochSeconds p.time with
    | .error e => .error (.time e)
    | .ok time => .ok ((decode p.data time).map (·, p.data))

/-- Takes a batch of packets from the queue and decodes it. If that fails the batch is lost. -/
def poll (zone : Zone) (l : Live) : Except LiveError (List (Record × Bytes)) × Live :=
  match l.running with
  | none => (.ok [], l)
  | some id =>
    match l.registry.take id l.batch with
    | .error e => (.error (.registry e), l)
    | .ok (packets, registry) => (decodeAll zone packets, { l with registry })

/-- The statistics of the open capture. -/
def statistics (clock : Int) (l : Live) : Except LiveError (Option Statistics) :=
  match l.running with
  | none => .ok none
  | some id => ((l.registry.statistics id clock).map some).mapError .registry

/-- Closes the open capture and sums it up. `fault` is the failure of the system, if it fails. -/
def stop (clock : Int) (fault : Option String) (l : Live) :
    Except LiveError (Option Summary) × Live :=
  match l.running with
  | none => (.ok none, l)
  | some id =>
    let l := { l with running := none }
    match fault, l.registry.close id clock with
    | some message, _ => (.error (.system message), l)
    | none, .error e => (.error (.registry e), l)
    | none, .ok (summary, registry) => (.ok (some summary), { l with registry })

/-- Changes the channel of the open capture. -/
def onChannel (change : Channel → Channel) (l : Live) : Live :=
  match l.running.map fun id => l.registry.modify id change with
  | some (.ok registry) => { l with registry }
  | _ => l

end Live

end TrafficMonitor.Capture
