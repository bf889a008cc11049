import TrafficMonitor.Proofs.Packet.Offsets

/-! What the record of captured bytes says. A record has the fields of the network layer all
together or none of them (`Record.HasNetwork`, `Record.LacksNetwork`), and the same for the ports
(`Record.HasPorts`, `Record.LacksPorts`). `tells_of_decode` says which: the record of a packet
tells its header and its ports, and the record of any other bytes tells their number alone. No
length is cut off but that of the capture, since a packet has at most 65535 bytes. -/
namespace TrafficMonitor
open Network Time

namespace Record

/-- The network layer is there, with so many bytes behind its header. -/
structure HasNetwork (r : Record) (source destination : Address) (payload : Nat) : Prop where
  source : r.source = some source
  destination : r.destination = some destination
  ipPayload : r.ipPayload.map UInt16.toNat = some payload

/-- No packet was read, so that the protocol is not known either. -/
structure LacksNetwork (r : Record) : Prop where
  source : r.source = none
  destination : r.destination = none
  ipPayload : r.ipPayload = none
  transport : r.transport = .unknown

/-- The ports are there, with the application that they suggest. -/
structure HasPorts (r : Record) (p : Packet.Ports) : Prop where
  sourcePort : r.sourcePort = some (p.source : Int)
  destinationPort : r.destinationPort = some (p.destination : Int)
  transportPayload : r.transportPayload.map UInt16.toNat = some p.payload
  application : r.application = .ofPorts p.source p.destination

/-- No ports were read. -/
structure LacksPorts (r : Record) : Prop where
  sourcePort : r.sourcePort = none
  destinationPort : r.destinationPort = none
  transportPayload : r.transportPayload = none
  application : r.application = .unknown

/-- The record has these ports, or lacks any. -/
def PortsAre (r : Record) : Option Packet.Ports → Prop
  | some p => r.HasPorts p
  | none => r.LacksPorts

/-- When the bytes were captured, and how many they are. -/
structure Captured (r : Record) (time : Timestamp) (bytes : Nat) : Prop where
  time : r.time = time
  length : r.length.toNat = min bytes 65535

/-- The record tells the header and the ports of a packet. -/
structure Tells (r : Record) (d : Packet.Datagram) : Prop where
  transport : r.transport = ⟨d.header.protocol.toNat⟩
  network : r.HasNetwork d.header.source d.header.destination d.payload.length
  ports : r.PortsAre (Packet.ports? r.transport d.payload)

end Record

namespace Packet
variable {data : Bytes} {time : Timestamp} {r : Record}

/-- A length that is not too large is told as it is. -/
theorem map_saturate {n : Nat} (h : n ≤ 65535) :
    (some (saturate n)).map UInt16.toNat = some n := by
  rw [Option.map_some, toNat_saturate, Nat.min_eq_left h]

/-- Bytes of one number that hold the same packet have one record. -/
theorem decode_congr {other : Bytes} (hlength : data.length = other.length)
    (h : datagram? data = datagram? other) : decode data time = decode other time := by
  have hempty : data.isEmpty = other.isEmpty := by
    rw [Bool.eq_iff_iff, List.isEmpty_iff_length_eq_zero, List.isEmpty_iff_length_eq_zero, hlength]
  simp only [decode, hempty, hlength, h]

/-- Only an empty read gives no record. -/
theorem decode_eq_none_iff : decode data time = none ↔ data = [] := by
  cases data with
  | nil => simp [decode]
  | cons b data =>
    simp only [decode, List.isEmpty_cons, Bool.false_eq_true, if_false, reduceCtorEq, iff_false]
    cases datagram? (b :: data) <;> simp

theorem captured_of_decode (h : decode data time = some r) : r.Captured time data.length := by
  unfold decode at h
  split at h
  · cases h
  · simp only at h
    split at h <;> cases h <;> exact ⟨rfl, toNat_saturate data.length⟩

theorem lacks_of_decode (h : decode data time = some r) (hd : datagram? data = none) :
    r.LacksNetwork ∧ r.LacksPorts := by
  unfold decode at h
  split at h
  · cases h
  · simp only [hd] at h
    cases h
    exact ⟨⟨rfl, rfl, rfl, rfl⟩, ⟨rfl, rfl, rfl, rfl⟩⟩

theorem tells_of_decode {d : Datagram} (h : decode data time = some r)
    (hd : datagram? data = some d) : r.Tells d := by
  have hpayload : d.payload.length ≤ 65535 := by
    have hinside := (lies_of_datagram? hd).inside
    omega
  unfold decode at h
  split at h
  · cases h
  · simp only [hd] at h
    cases h
    refine ⟨rfl, ⟨rfl, rfl, map_saturate hpayload⟩, ?_⟩
    simp only
    cases hp : ports? ⟨d.header.protocol.toNat⟩ d.payload with
    | none => exact ⟨rfl, rfl, rfl, rfl⟩
    | some p =>
      have hfits := (fits_of_ports? hp).payload
      exact ⟨rfl, rfl, map_saturate (by omega), rfl⟩

/-- A packet that can be read has a record that tells it. -/
theorem exists_tells {d : Datagram} (hd : datagram? data = some d) (time : Timestamp) :
    ∃ r, decode data time = some r ∧ r.Captured time data.length ∧ r.Tells d := by
  have hne : decode data time ≠ none := by
    rw [Ne, decode_eq_none_iff]
    rintro rfl
    have hlies := lies_of_datagram? hd
    have hleast := hlies.least
    have hinside := hlies.inside
    simp only [List.length_nil] at hinside
    omega
  obtain ⟨r, hr⟩ := Option.ne_none_iff_exists'.mp hne
  exact ⟨r, hr, captured_of_decode hr, tells_of_decode hr hd⟩

end Packet

end TrafficMonitor
