import TrafficMonitor.Analysis.Chart
import TrafficMonitor.Analysis.Totals
import TrafficMonitor.Filter.Evaluation
import TrafficMonitor.Filter.Parser
import TrafficMonitor.Text.Quoted

/-! A capture session: the history of records, the active filter, and the totals and the chart
of the records that pass it. Records are counted as they come; a new filter rebuilds totals
and chart from the history. While capturing, the chart reaches up to the present, and
afterwards up to the end of the capture, with its last window closed. -/
namespace TrafficMonitor
open Time TrafficMonitor.Filter

/-! ### Settings -/

/-- What a session is shown as. -/
inductive Mode where
  | record | plot | stat
deriving Repr, DecidableEq

namespace Mode

def name : Mode → String
  | record => "record"
  | plot => "plot"
  | stat => "stat"

def ofName? (name : String) : Option Mode := [record, plot, stat].find? (·.name = name)

/-- The text shown for a name that is no mode. -/
def unknownMessage (name : String) : String := s!"{Text.quoted name} is not a valid Mode"

end Mode

/-- The settings of a session, in milliseconds. -/
structure Settings where
  /-- The width of a chart window. -/
  sample : Int := 1000
  /-- The pause between two polls of the capture. -/
  poll : Int := 10
  /-- The pause between two redraws of the progress line. -/
  redraw : Int := 500
  /-- How long to capture; without end if absent. -/
  duration : Option Int := none
deriving Repr, DecidableEq

/-- Why settings are refused. -/
inductive SettingsError where
  | sample
  | poll
  | duration
  | interval (cause : IntervalError)
deriving Repr, DecidableEq

def SettingsError.message : SettingsError → Option String
  | .sample => some "sample_interval_ms must be positive"
  | .poll => some "poll_interval_ms must be positive"
  | .duration => some "duration_ms must not be negative"
  | .interval cause => cause.message

/-- Checks the settings in order and yields the width of a chart window. -/
def Settings.check (s : Settings) : Except SettingsError Interval :=
  if s.sample ≤ 0 then .error .sample
  else if s.poll ≤ 0 then .error .poll
  else if s.duration.any (· < 0) then .error .duration
  else (Interval.ofMicros (s.sample * 1000)).mapError .interval

/-! ### Sessions -/

/-- The state of a session. -/
structure Session where
  records : List Record := []
  filter : Option Filter := none
  capturing : Bool := false
  start : Option Timestamp := none
  finish : Option Timestamp := none
  mode : Mode := .record
  totals : Totals := {}
  chart : Chart
deriving DecidableEq

/-- Why a change of a session stopped. -/
inductive SessionError where
  | time (cause : TimeError)
  | compile (cause : CompileError)
deriving Repr, DecidableEq

/-- The local clock: its zone and the present, which may lie outside the calendar. -/
structure Clock where
  zone : Zone
  now : Except TimeError Timestamp

namespace Session

/-- A session without records. -/
def new (interval : Interval) : Session := { chart := { interval } }

/-- Whether the record passes the active filter. Without a filter all do. -/
def matches? (s : Session) (r : Record) : Bool := s.filter.all (Filter.passes · r)

/-- The records that pass, in the order of the history. -/
def visible (s : Session) : List Record := s.records.filter s.matches?

/-- The table rows of the records that pass. -/
def rows (s : Session) : List (List String) := s.visible.map (·.row)

/-- A change of the chart alone. -/
def onChart (s : Session) (change : Chart → Attempt TimeError Chart) :
    Attempt SessionError Session :=
  (change s.chart).lift (fun chart => { s with chart }) .time

/-- Resolves a time that was given, or else the present. -/
def timeOr (clock : Clock) (given : Option Moment) : Except TimeError Timestamp :=
  given.elim clock.now clock.zone.resolve

/-- Begins a capture with an empty history. The filter stays. -/
def begin (clock : Clock) (given : Option Moment) (s : Session) : Attempt SessionError Session :=
  match timeOr clock given with
  | .error e => .stopped s (.time e)
  | .ok now =>
    .done { s with
      capturing := true, records := [], start := some now, finish := none
      totals := {}, chart := s.chart.restart now }

/-- Ends the capture: idle windows are closed up to the end, then the open one if it holds
anything. -/
def stop (clock : Clock) (given : Option Moment) (s : Session) : Attempt SessionError Session :=
  match timeOr clock given with
  | .error e => .stopped s (.time e)
  | .ok now =>
    let s := { s with capturing := false, finish := some now }
    s.onChart fun chart =>
      (chart.update [] (some now)).andThen fun chart => (chart.extend now).commit

/-- Appends a record to the history, and counts it if it passes. -/
def ingest (r : Record) (s : Session) : Attempt SessionError Session :=
  let s := { s with records := s.records ++ [r] }
  if s.matches? r then
    let s := { s with totals := s.totals.add r }
    s.onChart (·.update [r] none)
  else .done s

/-- Rebuilds the chart from the records that pass. -/
def rebuildChart (clock : Clock) (s : Session) : Attempt SessionError Session :=
  if s.capturing then
    match clock.now with
    | .error e => .stopped s (.time e)
    | .ok now => s.onChart (·.rebuild s.visible s.start (some now))
  else s.onChart fun chart => (chart.rebuild s.visible s.start s.finish).andThen (·.commit)

/-- Rebuilds the totals and then the chart. -/
def rebuild (clock : Clock) (s : Session) : Attempt SessionError Session :=
  rebuildChart clock { s with totals := Totals.ofRecords s.visible }

/-- Installs the filter of a text, or none for a blank text, and rebuilds. A text that is
refused changes nothing. -/
def setFilter (clock : Clock) (text : String) (s : Session) : Attempt SessionError Session :=
  if text.toList.all Text.isBlank then rebuild clock { s with filter := none }
  else
    match Filter.parse clock.zone text.toList with
    | .error e => .stopped s (.compile e)
    | .ok f => rebuild clock { s with filter := some f }

/-- Changes how the session is shown. A chart that is shown after the capture is rebuilt. -/
def setMode (clock : Clock) (mode : Mode) (s : Session) : Attempt SessionError Session :=
  let s := { s with mode }
  if mode = .plot ∧ !s.capturing then rebuildChart clock s else .done s

/-! ### Changes asked for from outside -/

inductive Change where
  | begin (given : Option Moment)
  | stop (given : Option Moment)
  | ingest (r : Record)
  | setFilter (text : String)
  | setMode (mode : Mode)
  | rebuild
  | rebuildChart
  | clearChart
deriving Inhabited

/-- Makes a change. -/
def apply (clock : Clock) (change : Change) (s : Session) : Attempt SessionError Session :=
  match change with
  | .begin given => s.begin clock given
  | .stop given => s.stop clock given
  | .ingest r => s.ingest r
  | .setFilter text => s.setFilter clock text
  | .setMode mode => s.setMode clock mode
  | .rebuild => s.rebuild clock
  | .rebuildChart => s.rebuildChart clock
  | .clearChart => .done { s with chart := s.chart.clear }

end Session

end TrafficMonitor
