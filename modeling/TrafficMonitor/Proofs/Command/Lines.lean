import TrafficMonitor.Command.Capture
import TrafficMonitor.Proofs.Report.Plain

/-! The texts of a capture, part by part as they are written to a stream. What a stream makes of
control sequences is its own affair. There are none in records, totals and charts, and so a stream
that leaves other texts alone holds these as they are (`Wrote`). -/
namespace TrafficMonitor.Command
open Packet Report

/-! ### Writing to a stream -/

/-- A text was written to a stream in parts. Parts without an escape character stand in it as they
are, if that is how the stream shows such parts. -/
structure Wrote (stream : String → String) (parts : List String) (text : String) : Prop where
  written : text = String.join (parts.map stream)
  literal : (∀ part, Plain part → stream part = part) → text = String.join parts

variable {s : Streams} {o : Options} {p : Record × Bytes} {text : String} {lines : List String}

theorem Wrote.append {stream : String → String} {parts more : List String} {a b : String}
    (h : Wrote stream parts a) (h' : Wrote stream more b) :
    Wrote stream (parts ++ more) (a ++ b) where
  written := by rw [List.map_append, String.join_append, h.written, h'.written]
  literal hstream := by rw [String.join_append, h.literal hstream, h'.literal hstream]

end TrafficMonitor.Command
