import TrafficMonitor.Analysis.Session
import TrafficMonitor.Capture.Interface
import TrafficMonitor.Capture.Timeline
import TrafficMonitor.Command.CheckFilter
import TrafficMonitor.Report.Entry
import TrafficMonitor.Report.HexDump
import TrafficMonitor.Report.Series
import TrafficMonitor.Report.TotalsTables

/-! The command that captures packets and prints records, totals or a chart. It polls the
capture at equal pauses until its time is over or the user interrupts it, and without either for
ever. Records are printed as they come; totals and chart are printed at the end. How the capture
went is told in the error output. -/
namespace TrafficMonitor.Command
open Time Capture Packet Report

/-! ### What is asked for -/

/-- The form in which records are printed. -/
inductive Format where
  | table | lines
deriving Repr, DecidableEq

/-- The part of a packet that is dumped beside its record. -/
inductive Dump where
  | packet | payload
deriving Repr, DecidableEq

def Dump.name : Dump → String
  | packet => "packet"
  | payload => "payload"

/-- The bytes to dump. There is no payload if the packet could not be read. -/
def Dump.bytes? : Dump → Bytes → Option Bytes
  | packet, data => some data
  | payload, data => payload? data

structure Options where
  interface : String
  /-- How long to capture, in milliseconds. -/
  duration : Option Int := none
  /-- A filter for the system to apply. -/
  kernelFilter : Option String := none
  filter : Option String := none
  producer : Producer := .generated
  /-- The width of a chart window, in milliseconds. -/
  sample : Int := 1000
  mode : Mode := .record
  format : Format := .table
  dump : Option Dump := none

def captureUsage : Usage := ⟨"cli capture", "[OPTIONS]"⟩

/-- The circumstances of a capture. -/
structure Circumstances where
  zone : Zone
  /-- The time of the beginning, in microseconds since 1970. -/
  clock : Int
  traffic : Timeline
  /-- After how many microseconds the user interrupts the capture. -/
  interrupt : Option Int := none
  /-- The failure of the system to start, if it fails. -/
  fault : Option String := none
  /-- The failure of the system to stop, if it fails. -/
  stopFault : Option String := none
  /-- The interfaces that can be sniffed, and what the system answers when it is asked for their
  addresses. Absent if there is nothing to sniff with. -/
  sniffing : Option (List (String × AddressLookup)) := none
  streams : Streams := {}

/-- A failure that the command does not report itself. -/
inductive CaptureError where
  | settings (cause : SettingsError)
  | session (cause : SessionError)
  | live (cause : LiveError)
deriving Repr, DecidableEq

/-- The text shown for a failure, if it has one. -/
def CaptureError.message : CaptureError → Option String
  | .settings cause => cause.message
  | .session (.time cause) => cause.message
  | .session (.compile cause) => some cause.message
  | .live cause => cause.message

/-! ### Printing records -/

/-- A record as a table row, with a dump below it. -/
def printRow (s : Streams) (dump : Option Dump) (r : Record) (data : Bytes) : String :=
  let row := s.line ("  ".intercalate r.row)
  match dump with
  | none => row
  | some d =>
    match d.bytes? data with
    | none => row
    | some bytes =>
      row ++ s.line s!"  {d.name}, {bytes.length} bytes:" ++
        String.join ((hexDump bytes).map fun l => s.line ("    " ++ l))

/-- A record as an object, with the dump as one more entry. -/
def printLine (s : Streams) (dump : Option Dump) (r : Record) (data : Bytes) : String :=
  let dumped := dump.map fun d =>
    (d.name, (d.bytes? data).elim Entry.absent fun bytes => .text (hexText bytes))
  s.line (objectLine (entries r ++ dumped.toList))

def printRecord (s : Streams) (o : Options) (r : Record) (data : Bytes) : String :=
  match o.format with
  | .table => printRow s o.dump r data
  | .lines => printLine s o.dump r data

/-! ### The capture as it runs -/

structure Run where
  /-- The time, in microseconds since 1970. -/
  clock : Int
  live : Live
  pending : Timeline
  session : Session
  /-- When the progress was shown last, in seconds. -/
  redrawn : Float
  stdout : String := ""
  stderr : String := ""

namespace Run

/-- Appends to the output. -/
def print (text : String) (r : Run) : Run := { r with stdout := r.stdout ++ text }

/-- Appends to the error output. -/
def report (text : String) (r : Run) : Run := { r with stderr := r.stderr ++ text }

end Run

/-- The local clock at a time. -/
def clockAt (zone : Zone) (clock : Int) : Clock := ⟨zone, zone.ofEpochMicros clock⟩

/-- The seconds between two redraws of the progress. -/
def redrawSeconds : Float := 0.5

/-- The microseconds between two polls. -/
def pollMicros : Int := 10000

/-- Takes a record into the session, and prints it if it passes and records are shown. -/
def receive (s : Streams) (o : Options) (packet : Record × Bytes) (r : Run) :
    Attempt CaptureError Run :=
  ((r.session.ingest packet.1).lift (fun session => { r with session }) .session).andThen fun r =>
    .done <|
      if r.session.matches? packet.1 && r.session.mode = .record then
        r.print (printRecord s o packet.1 packet.2)
      else r

/-- Shows the progress of a chart if it is time to. -/
def redraw (s : Streams) (now : Float) (r : Run) : Run :=
  if r.session.mode = .plot && now - r.redrawn >= redrawSeconds then
    let r := { r with redrawn := now }
    match progress? r.session.chart with
    | some text => r.report (s.errors ("\r" ++ text))
    | none => r
  else r

/-- What follows after a poll. -/
inductive Turn where
  | again (r : Run)
  | ended (r : Run)
  | failed (r : Run) (e : CaptureError)

/-- How the capture has ended, if it does not go on. -/
def Turn.result? : Turn → Option (Attempt CaptureError Run)
  | again _ => none
  | ended r => some (.done r)
  | failed r e => some (.stopped r e)

/-- Waits for the next poll. Meanwhile the user may interrupt the capture, and otherwise the
traffic that has become due is queued. -/
def pause (c : Circumstances) (r : Run) : Turn :=
  let r := { r with clock := r.clock + pollMicros }
  if c.interrupt.any (· ≤ r.clock - c.clock) then
    .ended (r.report (c.streams.errorLine "\n\nStopping capture..."))
  else
    let (pending, live) := r.pending.play r.clock r.live
    .again { r with pending, live }

/-- Whether the time of the capture is over. -/
def isOver (o : Options) (c : Circumstances) (now : Float) : Bool :=
  o.duration.any fun d => (now - seconds c.clock) * 1000 >= Float.ofInt d

/-- Polls once: takes in what was captured and shows the progress. -/
def poll (o : Options) (c : Circumstances) (r : Run) : Attempt CaptureError Run :=
  match r.live.poll c.zone with
  | (.error e, live) => .stopped { r with live } (.live e)
  | (.ok packets, live) =>
    (Attempt.each (receive c.streams o) packets { r with live }).andThen fun r =>
      .done (redraw c.streams (seconds r.clock) r)

/-- Polls, unless the time is over, and waits. -/
def turn (o : Options) (c : Circumstances) (r : Run) : Turn :=
  if isOver o c (seconds r.clock) then .ended r
  else
    let polled := poll o c r
    match polled.failure with
    | some e => .failed polled.state e
    | none => pause c polled.state

/-- How a capture ends that goes on from a run. -/
inductive Ends (o : Options) (c : Circumstances) : Run → Attempt CaptureError Run → Prop
  | now {r : Run} {last : Attempt CaptureError Run} (h : (turn o c r).result? = some last) :
    Ends o c r last
  | later {r next : Run} {last : Attempt CaptureError Run} (h : turn o c r = .again next)
    (rest : Ends o c next last) : Ends o c r last

/-- A run that a capture has come to, from which it ends as it does from its beginning. -/
abbrev Reached (o : Options) (c : Circumstances) (r : Run) : Type :=
  { now : Run // ∀ last, Ends o c now last → Ends o c r last }

/-- The end of a capture that goes on from a run, if it ends. -/
abbrev Ending (o : Options) (c : Circumstances) (r : Run) : Type :=
  Option { last : Attempt CaptureError Run // Ends o c r last }

/-- Goes on with a capture for a turn. -/
def goOn (o : Options) (c : Circumstances) {r : Run} (now : Reached o c r) :
    Reached o c r ⊕ Ending o c r :=
  match h : turn o c now.1 with
  | .again next => .inl ⟨next, fun last rest => now.2 last (.later h rest)⟩
  | .ended final => .inr (some ⟨.done final, now.2 _ (.now (by rw [h, Turn.result?]))⟩)
  | .failed final e => .inr (some ⟨.stopped final e, now.2 _ (.now (by rw [h, Turn.result?]))⟩)

/-- Polls until the capture ends. An end carries how the turns lead to it, so that there is none
if they lead to none. -/
def watch? (o : Options) (c : Circumstances) (r : Run) : Ending o c r :=
  repeatM (m := Id) (goOn o c) ⟨r, fun _ h => h⟩

/-! ### Before and after -/

/-- The last lines of the error output. -/
def summaryLines (summary : Option Summary) (s : Session) : List String :=
  let text (f : Summary → String) := (summary.map f).getD "None"
  ["\n" ++ String.ofList (List.replicate 50 '='), "CAPTURE SUMMARY",
    String.ofList (List.replicate 50 '='),
    "Session ID:    " ++ text (·.id),
    "Interface:     " ++ text (·.config.interface),
    s!"Records:       {s.records.length}",
    s!"Matched:       {s.totals.network.packets}",
    "Packet Drops:  " ++ ((summary.map fun s => toString s.statistics.counters.drops).getD "0")]

/-- What is printed after the capture. -/
def resultText (streams : Streams) (s : Session) : String :=
  match s.mode with
  | .record => ""
  | .stat => streams.line ("\n".intercalate (totalsLines s.totals))
  | .plot => streams.line "" ++ streams.line ("\n".intercalate (seriesLines s.chart))

/-- Stops source and session, in this order, and prints the rest. Of several failures the last is
passed on. A session whose source fails to stop is not stopped. -/
def conclude (c : Circumstances) (failure : Option CaptureError) (r : Run) : Outcome CaptureError :=
  let failed (e : CaptureError) : Outcome CaptureError :=
    { exitCode := 1, stdout := r.stdout, stderr := r.stderr, failure := some e }
  match (r.live.stop r.clock c.stopFault).1 with
  | .error e => failed (.live e)
  | .ok summary =>
    let stopped := r.session.stop (clockAt c.zone r.clock) none
    match (stopped.failure.map CaptureError.session).or failure with
    | some e => failed e
    | none =>
      { stdout := r.stdout ++ resultText c.streams stopped.state
        stderr := r.stderr ++
          String.join ((summaryLines summary stopped.state).map c.streams.errorLine) }

/-- What is told at the beginning. -/
def banner (streams : Streams) (o : Options) (id : String) (s : Session) : String :=
  streams.errorLine s!"Capture started on '{o.interface}' (session: {id})" ++
    (s.filter.elim "" fun f => streams.errorLine ("Filter: " ++ String.ofList f.display)) ++
    streams.errorLine "Press Ctrl+C to stop\n"

/-- Begins a capture with a session that is set up. If that fails there is an outcome at once. -/
def begin (o : Options) (c : Circumstances) (session : Session) :
    Except (Outcome CaptureError) Run :=
  let live : Live :=
    { registry := { producer := o.producer }
      config := { interface := o.interface, filter := o.kernelFilter } }
  let started := live.start c.clock c.fault
  match started.failure with
  | some e => .error (refused c.streams ("Error starting capture: " ++ e.message.getD "") "")
  | none =>
    let begun := session.begin (clockAt c.zone c.clock) none
    match begun.failure with
    | some e => .error { exitCode := 1, failure := some (.session e) }
    | none =>
      let r : Run :=
        { clock := c.clock, live := started.state, pending := c.traffic, session := begun.state
          redrawn := seconds c.clock }
      let r := r.report (banner c.streams o (started.state.running.getD "") begun.state)
      .ok <|
        if o.mode = .record && o.format = .table then
          r.print (c.streams.line ("  ".intercalate (Field.all.map (·.title))))
        else r

/-- The interfaces of a producer, unless the producer is not available. -/
def Circumstances.interfaces? (c : Circumstances) :
    Producer → Option (Except UnknownInterface (List Interface))
  | .generated => some (.ok generatedInterfaces)
  | .sniffed => c.sniffing.map fun known =>
    known.mapM fun (name, lookup) => Interface.ofLookup name lookup

/-- Lists interfaces, or fails because the system does not know one that it has named. -/
def listInterfaces (s : Streams) :
    Except UnknownInterface (List Interface) → Outcome CaptureError
  | .ok interfaces =>
    { stdout := s.line "Available interfaces:" ++
        String.join (interfaces.map fun i => s.line i.line) }
  | .error e =>
    { exitCode := 1
      stdout := s.line "Available interfaces:"
      failure := some (.live (.system e.message)) }

/-- Sets up the session (settings, mode, filter) and begins the capture. If that fails, or
only the interfaces are asked for, there is an outcome at once. -/
def prepare (o : Options) (c : Circumstances) : Except (Outcome CaptureError) Run :=
  match c.interfaces? o.producer with
  | none =>
    .error (refused c.streams ("Error initializing " ++ o.producer.name ++ " backend: " ++
      "Scapy not available. Install with: pip install scapy") "")
  | some interfaces =>
    if o.interface = "list" then .error (listInterfaces c.streams interfaces)
    else
      match Settings.check { sample := o.sample, duration := o.duration } with
      | .error e => .error { exitCode := 1, failure := some (.settings e) }
      | .ok interval =>
        let clock := clockAt c.zone c.clock
        let moded := (Session.new interval).setMode clock o.mode
        let ready := moded.andThen fun s =>
          match o.filter with
          | some text => if text.isEmpty then .done s else s.setFilter clock text
          | none => .done s
        match ready.failure with
        | some (.compile (.filter e)) =>
          .error (refused c.streams ("Invalid filter: " ++ explain (o.filter.getD "") e) "")
        | some e => .error { exitCode := 1, failure := some (.session e) }
        | none => begin o c ready.state

/-- Captures recorded traffic. -/
def capture (o : Options) (c : Circumstances) : Outcome CaptureError :=
  match prepare o c with
  | .error outcome => outcome
  | .ok r =>
    match watch? o c r with
    | some ⟨last, _⟩ => conclude c last.failure last.state
    | none => { endless := true }

end TrafficMonitor.Command
