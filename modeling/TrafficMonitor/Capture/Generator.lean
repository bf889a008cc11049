import TrafficMonitor.Capture.Registry
import TrafficMonitor.Packet.Sample

/-! The producer of made-up traffic. It offers one packet after another to a channel with a pause
between them; a packet that cannot be made or dated is counted as an error, and the next one
follows after the same pause. -/
namespace TrafficMonitor.Capture
open Packet

/-- How many packets were begun, and the pause between two of them in seconds. -/
structure Generator where
  pause : Float
  begun : Nat := 0

namespace Generator

/-- A generator of so many packets a second. A rate that is not positive means a hundred. -/
def ofRate (rate : Float) : Generator := { pause := if rate > 0 then 1 / rate else 0.01 }

/-- The next packet, if the draws suffice. It is counted as begun in any case. -/
def next (draws : List Draw) (g : Generator) : Option Bytes × Generator :=
  (sample? (g.begun + 1) draws, { g with begun := g.begun + 1 })

/-- Offers the next packet to a channel, or counts an error. -/
def produce (draws : List Draw) (clock : Int) (g : Generator) (c : Channel) : Generator × Channel :=
  match stamp clock, g.next draws with
  | .error _, _ => (g, c.fail)
  | .ok now, (some data, g) => (g, c.offer ⟨.real now, data⟩)
  | .ok _, (none, g) => (g, c.fail)

/-- The pause in whole microseconds, unless it is beyond the doubles. -/
def pauseMicros? (g : Generator) : Option Int :=
  (Number.Double.ofFloat (g.pause * 1000000)).round?

/-- Produces once for each run of draws, with a pause after each. `none` if it would have to
pause for ever. -/
def run (g : Generator) (clock : Int) (c : Channel) :
    List (List Draw) → Option (Generator × Int × Channel)
  | [] => some (g, clock, c)
  | draws :: rest => do
    let (g, c) := g.produce draws clock c
    run g (clock + (← g.pauseMicros?)) c rest

end Generator

end TrafficMonitor.Capture
