import TrafficMonitor.Analysis.Totals
import TrafficMonitor.Report.Table

/-! The totals as three tables, one for each level. -/
namespace TrafficMonitor.Report

def networkTitles : List String := ["分组数", "字节数"]

def transportTitles : List String := ["传输层协议", "分组数", "字节数", "网络层字节数"]

def applicationTitles : List String :=
  ["应用层协议", "分组数", "字节数", "网络层字节数", "传输层字节数"]

def networkRow (t : NetworkTotals) : List String := [toString t.packets, toString t.bytes]

def transportRow (name : String) (t : TransportTotals) : List String :=
  [name, toString t.packets, toString t.bytes, toString t.ipBytes]

def applicationRow (name : String) (t : ApplicationTotals) : List String :=
  [name, toString t.packets, toString t.bytes, toString t.ipBytes, toString t.transportBytes]

/-- The lines of the three tables, with a heading before each and a blank line between. -/
def totalsLines (t : Totals) : List String :=
  ["[网络层]"] ++ tableLines networkTitles [networkRow t.network] ++
  ["", "[传输层]"] ++
    tableLines transportTitles (t.transport.map fun (name, row) => transportRow name row) ++
  ["", "[应用层]"] ++
    tableLines applicationTitles (t.application.map fun (name, row) => applicationRow name row)

end TrafficMonitor.Report
