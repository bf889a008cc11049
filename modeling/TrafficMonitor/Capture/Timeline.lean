import TrafficMonitor.Capture.Live

/-! Recorded traffic that is played into a capture: each packet becomes due at a time of its own,
and packets are queued in their order once the first of them is due. -/
namespace TrafficMonitor.Capture

/-- A packet and the time it becomes due, in microseconds since 1970. -/
structure Due where
  time : Int
  packet : RawPacket

/-- Packets still to be played. -/
abbrev Timeline := List Due

/-- Queues the packets at the front that are due, and keeps the others. -/
def Timeline.play (clock : Int) (pending : Timeline) (l : Live) : Timeline × Live :=
  match pending with
  | [] => ([], l)
  | d :: rest =>
    if d.time ≤ clock then Timeline.play clock rest (l.onChannel (·.offer d.packet))
    else (d :: rest, l)

end TrafficMonitor.Capture
