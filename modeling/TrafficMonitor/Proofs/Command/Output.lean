import TrafficMonitor.Proofs.Command.Delivery
import TrafficMonitor.Proofs.Command.Lines

/-! What a capture prints. A run that was prepared has its mode and filter (`Prepared`), and one
that ends without a failure prints what its packets determine (`Printed`), in whatever polls they
came. `printed_by_packets` says so of any source and of the command with its own. -/
namespace TrafficMonitor

/-! ### Charts as they are printed -/

namespace Chart
variable {c : Chart}

end Chart

namespace Session
variable {s : Session}

end Session

namespace Command
open Time Capture Packet Report
open Session (requested)

/-! ### Runs that are prepared -/

/-- The session after the capture was stopped at the time of the run. -/
def stopped (c : Circumstances) (r : Run) : Session :=
  (r.session.stop (clockAt c.zone r.clock) none).state

/-- The records that pass the filter, with their bytes, in the order of their packets. -/
def selected (zone : Zone) (filter : Option Filter) (packets : List RawPacket) :
    List (Record × Bytes) :=
  (received zone packets).filter fun p => filter.all (Filter.passes · p.1)

section
variable {o : Options} {c : Circumstances} {filter : Option Filter} {interval : Interval}
  {start : Timestamp} {clock : Clock} {packets : List RawPacket} {r₀ r : Run}

end

/-- The first 30 milliseconds, and in them the packets of five bytes. -/
def fiveBytes (mode : Mode) : Options :=
  { interface := "dummy0", duration := some 30, filter := some "len == 5", mode
    dump := some .packet }

end Command

end TrafficMonitor
