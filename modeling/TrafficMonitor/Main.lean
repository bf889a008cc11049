import Std.Async.Signal
import Std.Time.Zoned
import TrafficMonitor.Capture.Generator
import TrafficMonitor.Command.Arguments

/-! The program: it reads the command line, the clock and the local zone, makes up the traffic of
a capture with random draws, and writes out what the commands leave behind.

The local zone is asked once, at the beginning, and its offset of that moment stands for the whole
run. Daylight saving is left out: times on the other side of a change of the clocks are read and
shown with the offset of the present. -/
namespace TrafficMonitor.Program
open Capture Command Packet Time

/-- The local zone at present. Without a zone database it is universal time. -/
def localZone : IO Zone := do
  try
    let rules ← Std.Time.Database.defaultGetLocalZoneRules
    return ⟨(rules.timezoneAt (← Std.Time.Timestamp.now)).offset.second.val⟩
  catch _ => return ⟨0⟩

/-- The present in microseconds since 1970. -/
def present : IO Int := do
  return (← Std.Time.Timestamp.now).toNanosecondsSinceUnixEpoch.val / 1000

/-- Writes text out at once. -/
def write (stream : IO.FS.Stream) (text : String) : IO Unit := do
  unless text.isEmpty do
    stream.putStr text
    stream.flush

/-- The streams of the program. What is no terminal receives texts without colours. -/
def streams : IO Streams := do
  let kept (stream : IO.FS.Stream) : IO (String → String) :=
    return if ← stream.isTty then id else shown
  return { output := ← kept (← IO.getStdout), errors := ← kept (← IO.getStderr) }

/-- Writes the output of a command and returns its exit code. -/
def finish (message : ε → Option String) (outcome : Outcome ε) : IO UInt32 := do
  write (← IO.getStdout) outcome.stdout
  write (← IO.getStderr) outcome.stderr
  if let some e := outcome.failure then
    write (← IO.getStderr) ((message e).getD "overflow" ++ "\n")
  return outcome.exitCode.toUInt32

/-- Writes what a capture has printed so far. -/
def drain (r : Run) : IO Run := do
  write (← IO.getStdout) r.stdout
  write (← IO.getStderr) r.stderr
  return { r with stdout := "", stderr := "" }

/-- The random draws of one packet. -/
def drawOne : IO (List Draw) :=
  drawRanges.mapM fun (low, high) => return .whole (← IO.rand low high)

/-- Polls with equal pauses until the capture is over, fails or is interrupted. The capture is
given one packet for each pause of its producer. -/
partial def watch (o : Options) (c : Circumstances) (interrupted : IO Bool) (elapsed : IO Int)
    (g : Generator) (r : Run) : IO (Option CaptureError × Run) := do
  let r := { r with clock := c.clock + (← elapsed) }
  if isOver o c (seconds r.clock) then return (none, r)
  let draws ← drawOne
  let live := r.live.onChannel fun channel => (g.produce draws r.clock channel).2
  let polled := poll o c { r with live }
  let r ← drain polled.state
  if let some e := polled.failure then return (some e, r)
  IO.sleep (pollMicros / 1000).toNat.toUInt32
  if ← interrupted then
    write (← IO.getStderr) (c.streams.errorLine "\n\nStopping capture...")
    return (none, { r with clock := c.clock + (← elapsed) })
  watch o c interrupted elapsed (g.next draws).2 r

/-- Captures made-up traffic. -/
def capture (o : Options) : IO (Outcome CaptureError) := do
  let clock ← present
  let began ← IO.monoNanosNow
  let elapsed : IO Int := return ((← IO.monoNanosNow) - began : Nat) / 1000
  let c : Circumstances := { zone := ← localZone, clock, traffic := [], streams := ← streams }
  match prepare o c with
  | .error outcome => return outcome
  | .ok r =>
    let waiter ← Std.Async.Signal.Waiter.mk .sigint false
    let interrupt ← waiter.wait
    let (failure, r) ←
      watch o c (IO.hasFinished interrupt) elapsed (Generator.ofRate 100) (← drain r)
    waiter.stop
    return conclude c failure r

/-- Does what a command line asks for. -/
def run (words : List String) : IO UInt32 := do
  match Request.ofWords words with
  | .error (usage, e) =>
    finish (fun (e : ArgumentError) => some e.message) (misused (← streams) usage e.message "")
  | .ok (.checkFilter expression fields) =>
    finish (fun e => some e.message) (checkFilter (← localZone) expression fields (← streams))
  | .ok (.capture o) => finish CaptureError.message (← capture o)

end TrafficMonitor.Program

def main (words : List String) : IO UInt32 := TrafficMonitor.Program.run words
