import TrafficMonitor.Attempt
import TrafficMonitor.Record
import TrafficMonitor.Time.Interval

/-! Traffic over time in windows of equal width. The chart is anchored at an origin; closed
windows follow each other from there to the cursor, where the open window begins, and a window
without traffic is a bucket of zeros. Time only moves forward: a record that comes late counts
in the open window. The open window must end within the calendar, so an advance toward the end
of the year 9999 closes the windows that fit and then stops. -/
namespace TrafficMonitor
open Time

/-- The traffic of one window. -/
structure Bucket where
  packets : Nat := 0
  bytes : Nat := 0
deriving Repr, DecidableEq

namespace Bucket

def isEmpty (b : Bucket) : Bool := b.packets = 0 && b.bytes = 0

/-- Counts a record. -/
def add (b : Bucket) (r : Record) : Bucket := ⟨b.packets + 1, b.bytes + r.length.toNat⟩

end Bucket

/-- Where the windows lie. -/
structure Frame where
  /-- The beginning of the first window. -/
  origin : Timestamp
  /-- The beginning of the open window. -/
  cursor : Timestamp
deriving DecidableEq

namespace Frame

/-- How many further windows end within the calendar, the open one included. -/
def room (f : Frame) (width : Interval) : Nat :=
  (span - 1 - f.cursor.clock.micros) / width.micros

/-- How many windows end at a time or before it. -/
def passed (f : Frame) (width : Interval) (time : Timestamp) : Nat :=
  ((time.instant - f.cursor.instant) / width.micros).toNat

theorem shift_inSpan {f : Frame} {width : Interval} {n : Nat} (h : n ≤ f.room width) :
    f.cursor.clock.micros + n * width.micros < span := by
  have hroom : n * width.micros ≤ span - 1 - f.cursor.clock.micros :=
    Nat.le_trans (Nat.mul_le_mul_right _ h) (Nat.div_mul_le_self _ _)
  have := f.cursor.clock.inSpan
  omega

/-- Moves the open window on by a number of windows. -/
def shift (f : Frame) (width : Interval) (n : Nat) (h : n ≤ f.room width) : Frame :=
  { f with cursor := ⟨⟨f.cursor.clock.micros + n * width.micros, shift_inSpan h⟩, f.cursor.offset⟩ }

end Frame

/-- Traffic over time. -/
structure Chart where
  interval : Interval
  start : Option Timestamp := none
  finish : Option Timestamp := none
  /-- The closed windows, in order. -/
  closed : Array Bucket := #[]
  /-- The open window. -/
  current : Bucket := {}
  /-- Absent until the first time is known. -/
  frame : Option Frame := none
deriving DecidableEq

namespace Chart

/-- The chart without any time or traffic. -/
def clear (c : Chart) : Chart := { interval := c.interval }

/-- Fixes the origin. -/
def anchor (time : Timestamp) (c : Chart) : Chart :=
  { c with
    frame := some ⟨time, time⟩
    start :=
      match c.start with
      | some s => if time.before s then some time else some s
      | none => some time }

/-- An empty chart that begins at a time. -/
def restart (time : Timestamp) (c : Chart) : Chart :=
  anchor time { c.clear with start := some time, finish := some time }

/-- Closes the open window and further empty ones, `n` in all, and opens the next. -/
def close (c : Chart) (f : Frame) (n : Nat) (h : n ≤ f.room c.interval) : Chart :=
  match n with
  | 0 => c
  | n + 1 =>
    { c with
      closed := c.closed.push c.current ++ Array.replicate n {}
      current := {}
      frame := some (f.shift c.interval (n + 1) h) }

/-- Closes windows until a time falls into the open one. -/
def advance (time : Timestamp) (c : Chart) : Attempt TimeError Chart :=
  match c.frame with
  | none => .done c
  | some f =>
    if h : f.passed c.interval time < f.room c.interval then
      .done (c.close f (f.passed c.interval time) (Nat.le_of_lt h))
    else .stopped (c.close f (f.room c.interval) (Nat.le_refl _)) .overflow

/-- Counts a record in the open window. -/
def count (c : Chart) (r : Record) : Chart := { c with current := c.current.add r }

/-- Counts a record in the window of its time, or in the open one if that is later. -/
def add (r : Record) (c : Chart) : Attempt TimeError Chart :=
  (c.advance r.time).andThen fun c => .done (c.count r)

/-- Ends the record of time at the cursor. -/
def settle (c : Chart) : Chart := { c with finish := c.frame.map (·.cursor) }

/-- Counts records, then advances to a time that is known to have passed. The first record, or
else that time, anchors the chart. Nothing given, nothing changes. -/
def update (records : List Record) (passed : Option Timestamp) (c : Chart) :
    Attempt TimeError Chart :=
  match (records.head?.map (·.time)).or passed with
  | none => .done c
  | some first =>
    let c := if c.frame.isSome then c else c.anchor first
    (Attempt.each add records c).andThen fun c =>
      (passed.elim (.done c) c.advance).andThen fun c => .done c.settle

/-- Closes the open window if it holds anything. -/
def commit (c : Chart) : Attempt TimeError Chart :=
  if c.current.isEmpty then .done c
  else
    match c.frame with
    | none => .done c
    | some f =>
      if h : 1 ≤ f.room c.interval then .done (c.close f 1 h)
      else .stopped { c with closed := c.closed.push c.current, current := {} } .overflow

/-- Moves the end of the record of time to a later one. -/
def extend (time : Timestamp) (c : Chart) : Chart :=
  match c.finish with
  | some e => if e.before time then { c with finish := some time } else c
  | none => { c with finish := some time }

/-- Replaces the chart by one of the given records, from a start and up to an end. -/
def rebuild (records : List Record) (start finish : Option Timestamp) (c : Chart) :
    Attempt TimeError Chart :=
  let empty := start.elim c.clear fun time => c.restart time
  (empty.update records finish).andThen fun c =>
    .done (finish.elim c fun time => c.extend time)

/-- The chart of the given records. -/
def ofRecords (interval : Interval) (records : List Record) (start finish : Option Timestamp) :
    Attempt TimeError Chart :=
  rebuild records start finish { interval }

/-! ### Reading a chart -/

/-- The closed windows, and the open one if it holds anything. -/
def buckets (c : Chart) : Array Bucket :=
  if c.current.isEmpty then c.closed else c.closed.push c.current

/-- A window as it is plotted. -/
structure Point where
  /-- Seconds from the origin to the beginning of the window. -/
  offset : Float
  packets : Nat
  bytes : Nat

/-- The point of the window with the given number. -/
def point (c : Chart) (i : Nat) (b : Bucket) : Point :=
  ⟨Float.ofNat i * c.interval.seconds, b.packets, b.bytes⟩

/-- The windows as points. A chart without an origin has none. -/
def series (c : Chart) : Array Point := if c.frame.isSome then c.buckets.mapIdx c.point else #[]

/-! ### Changes asked for from outside

Times may come as readings of the local clock. They are resolved before anything changes, the
end before the start. -/

inductive Change where
  | clear
  | restart (time : Moment)
  | update (records : List Record) (passed : Option Moment)
  | rebuild (records : List Record) (start finish : Option Moment)
  | commit

/-- Makes a change once its times are known. -/
def withTimes (zone : Zone) (start finish : Option Moment) (c : Chart)
    (change : Option Timestamp → Option Timestamp → Attempt TimeError Chart) :
    Attempt TimeError Chart :=
  match finish.mapM zone.resolve with
  | .error e => .stopped c e
  | .ok finish =>
    match start.mapM zone.resolve with
    | .error e => .stopped c e
    | .ok start => change start finish

/-- Makes a change. -/
def apply (zone : Zone) (change : Change) (c : Chart) : Attempt TimeError Chart :=
  match change with
  | .clear => .done c.clear
  | .restart time =>
    c.withTimes zone (some time) none fun start _ => .done (start.elim c fun t => c.restart t)
  | .update records passed => c.withTimes zone none passed fun _ p => c.update records p
  | .rebuild records start finish =>
    c.withTimes zone start finish fun s f => c.rebuild records s f
  | .commit => c.commit

end Chart

end TrafficMonitor
