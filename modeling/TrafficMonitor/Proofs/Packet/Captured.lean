import TrafficMonitor.Proofs.Packet.Bounds
import TrafficMonitor.Proofs.Packet.Decoding

/-! What can be read from captured bytes, whatever they are. `Record.Layers` says how the layers of
a record fit into each other and into the bytes, and `decode_total` that all bytes but an empty read
give such a record, without a fetch behind the end. -/
namespace TrafficMonitor
open Network Time

/-- The layers of a record of captured bytes. Either no packet was read, and nothing is known but
time and length, or one was. Then its payload is the piece of the bytes that begins where the first
byte says and has as many bytes as the record says, and at least 20 bytes stand before it. The ports
are all there or all absent, and leave the segment room for its own header. -/
inductive Record.Layers (r : Record) (data : Packet.Bytes) : Prop
  | unread (network : r.LacksNetwork) (ports : r.LacksPorts) (payload : Packet.payload? data = none)
  | packet {source destination : Address} {payload : Packet.Bytes}
      (network : r.HasNetwork source destination payload.length)
      (ports : r.LacksPorts ∨ ∃ p, r.HasPorts p ∧ p.Fits r.transport payload)
      (length : payload.length + 20 ≤ r.length.toNat)
      (read : Packet.payload? data = some payload)
      (inside : 4 * ((Packet.byteAt data 0).toNat % 16) + payload.length ≤ data.length)
      (slice : payload =
        (data.drop (4 * ((Packet.byteAt data 0).toNat % 16))).take payload.length)

namespace Packet

/-- The ports that a record tells fit their segment. -/
theorem ports_of_tells {r : Record} {d : Datagram} (h : r.Tells d) :
    r.LacksPorts ∨ ∃ p, r.HasPorts p ∧ p.Fits r.transport d.payload := by
  have hports := h.ports
  cases hp : ports? r.transport d.payload with
  | none =>
    rw [hp] at hports
    exact Or.inl hports
  | some p =>
    rw [hp] at hports
    exact Or.inr ⟨p, hports, fits_of_ports? hp⟩

theorem layers_of_decode {data : Bytes} {time : Timestamp} {r : Record}
    (h : decode data time = some r) : r.Layers data := by
  cases hd : datagram? data with
  | none =>
    obtain ⟨hnetwork, hports⟩ := lacks_of_decode h hd
    exact .unread hnetwork hports (by rw [payload?, hd, Option.map_none])
  | some d =>
    have htells := tells_of_decode h hd
    have hlies := lies_of_datagram? hd
    have hlength := (captured_of_decode h).length
    have hleast := hlies.least
    have hinside := hlies.inside
    refine .packet htells.network (ports_of_tells htells) (by omega)
      (by rw [payload?, hd, Option.map_some]) ?_ ?_
    · rw [← hlies.start]
      omega
    · rw [← hlies.start]
      exact hlies.payload

/-- **Reading is total.** Every byte that is fetched is there. An empty read gives no record, and
any other bytes give one, whose layers fit into each other and into the bytes. -/
theorem decode_total (data : Bytes) (time : Timestamp) :
    Checked.decode data time = .ok (decode data time) ∧
      Checked.payload data = .ok (payload? data) ∧
      (data = [] ∧ decode data time = none ∨
        data ≠ [] ∧ ∃ r, decode data time = some r ∧ r.Captured time data.length ∧
          r.Layers data) := by
  refine ⟨Checked.decode_eq data time, Checked.payload_eq data, ?_⟩
  cases hr : decode data time with
  | none => exact Or.inl ⟨decode_eq_none_iff.mp hr, rfl⟩
  | some r =>
    have hne : data ≠ [] := fun hempty => by
      rw [decode_eq_none_iff.mpr hempty] at hr
      cases hr
    exact Or.inr ⟨hne, r, rfl, captured_of_decode hr, layers_of_decode hr⟩

end Packet

end TrafficMonitor
