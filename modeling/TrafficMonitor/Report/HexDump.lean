import TrafficMonitor.Packet.Bytes

/-! Hex dumps: sixteen bytes on a line, in two groups of eight with two spaces between. A last
line that is not full keeps the columns and has no spaces at its end. -/
namespace TrafficMonitor.Report
open Packet

/-- Bytes with one space between. -/
def hexGroup (bytes : Bytes) : List Char :=
  [' '].intercalate (bytes.map fun b => Text.hexadecimal 2 b.toNat)

/-- The line of up to sixteen bytes. -/
def hexLine (bytes : Bytes) : List Char :=
  if bytes.length ≤ 8 then hexGroup bytes
  else hexGroup (bytes.take 8) ++ ' ' :: ' ' :: hexGroup (bytes.drop 8)

/-- The lines of a dump. -/
def hexDump : Bytes → List String
  | [] => []
  | b :: rest => String.ofList (hexLine (b :: rest.take 15)) :: hexDump (rest.drop 15)
termination_by bytes => bytes.length
decreasing_by
  simp only [List.length_drop, List.length_cons]
  omega

end TrafficMonitor.Report
