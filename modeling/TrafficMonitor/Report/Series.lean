import TrafficMonitor.Analysis.Chart
import TrafficMonitor.Number.Fixed
import TrafficMonitor.Text.Numeral

/-! The chart as text: a line per window with its offset, packets and bytes, and a bar whose
length compares the bytes with those of the busiest window. -/
namespace TrafficMonitor.Report
open Text Number

/-- The length of the longest bar. -/
def barWidth : Nat := 40

/-- The bar of a number of bytes; the nearest length, the even one of two. -/
def bar (bytes peak : Nat) : String :=
  String.ofList (List.replicate (roundHalfEven (barWidth * bytes) peak) '#')

/-- The bytes of the busiest window, and one if there were none at all. -/
def peak (points : Array Chart.Point) : Nat :=
  let most := points.foldl (fun m p => max m p.bytes) 0
  if most = 0 then 1 else most

def seriesTitle : String :=
  alignRight 8 "t(s)" ++ "  " ++ alignRight 8 "packets" ++ "  " ++ alignRight 10 "bytes"

def pointLine (peak : Nat) (p : Chart.Point) : String :=
  alignRight 8 (fixed 2 p.offset) ++ "  " ++ alignRight 8 (toString p.packets) ++ "  " ++
    alignRight 10 (toString p.bytes) ++ "  " ++ bar p.bytes peak

/-- The lines of a chart. -/
def seriesLines (c : Chart) : List String :=
  let points := c.series
  if points.isEmpty then ["(no data)"]
  else seriesTitle :: points.toList.map (pointLine (peak points))

/-- The last window, as the progress of a capture shows it. -/
def progress? (c : Chart) : Option String :=
  c.series.back?.map fun p =>
    alignRight 8 (fixed 2 p.offset) ++ "s " ++ alignRight 8 (toString p.packets) ++ " pkts " ++
      alignRight 10 (toString p.bytes) ++ " bytes"

end TrafficMonitor.Report
