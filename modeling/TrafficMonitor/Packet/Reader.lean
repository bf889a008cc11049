import TrafficMonitor.Packet.Bytes
import TrafficMonitor.Record

/-! Reading captured IPv4 packets into records. Only headers are read; of a payload only the
length matters. Bytes that make no IPv4 packet still give a record, with time and length alone,
and only an empty read gives none. A packet whose length field was left at zero, or below the
least header, is read as if the field held the number of bytes captured. -/
namespace TrafficMonitor.Packet
open Network Time

/-- The parts of an IPv4 header that are used. -/
structure Header where
  version : Nat
  /-- The bytes of the header with its options. -/
  length : Nat
  /-- The bytes of the whole packet, as the sender wrote them. -/
  total : Nat
  protocol : UInt8
  source : Address
  destination : Address
deriving Repr, DecidableEq

/-- Reads the fixed part of an IPv4 header; there is none in less than 20 bytes. -/
def header? : Bytes → Option Header
  | b₀ :: _ :: b₂ :: b₃ :: _ :: _ :: _ :: _ :: _ :: protocol :: _ :: _ ::
      s₁ :: s₂ :: s₃ :: s₄ :: d₁ :: d₂ :: d₃ :: d₄ :: _ =>
    some {
      version := b₀.toNat / 16
      length := b₀.toNat % 16 * 4
      total := word b₂ b₃
      protocol
      source := ⟨s₁, s₂, s₃, s₄⟩
      destination := ⟨d₁, d₂, d₃, d₄⟩ }
  | _ => none

/-- The header describes a packet that lies within the captured bytes. -/
def Header.IsSound (h : Header) (captured : Nat) : Prop :=
  h.version = 4 ∧ 20 ≤ h.length ∧ h.length ≤ captured ∧ h.length ≤ h.total ∧ h.total ≤ captured

instance (h : Header) (captured : Nat) : Decidable (h.IsSound captured) :=
  inferInstanceAs (Decidable (_ ∧ _))

/-- A packet that was read: its header and the bytes after it. -/
structure Datagram where
  header : Header
  payload : Bytes
deriving Repr, DecidableEq

/-- Reads a packet as it stands. -/
def read? (data : Bytes) : Option Datagram := do
  let h ← header? data
  if h.IsSound data.length then some ⟨h, (data.take h.total).drop h.length⟩ else none

/-- The packet with its length field overwritten. -/
def withTotal (total : Nat) : Bytes → Bytes
  | b₀ :: b₁ :: _ :: _ :: rest => b₀ :: b₁ :: wordBytes total ++ rest
  | data => data

/-- Whether the length field is too small for any header. -/
def hasTinyTotal : Bytes → Bool
  | _ :: _ :: b₂ :: b₃ :: _ :: _ => word b₂ b₃ < 20
  | _ => false

/-- Reads a packet, with the number of captured bytes in place of a length field that is too
small for any header. -/
def datagram? (data : Bytes) : Option Datagram :=
  match read? data with
  | some d => some d
  | none => if hasTinyTotal data then read? (withTotal (min data.length 65535) data) else none

/-- The bytes after the IPv4 header. -/
def payload? (data : Bytes) : Option Bytes := (datagram? data).map (·.payload)

/-! ### Ports -/

/-- The ports of a segment and the number of bytes after its header. -/
structure Ports where
  source : Nat
  destination : Nat
  payload : Nat
deriving Repr, DecidableEq

/-- Reads a TCP header, which says how long it is. -/
def tcpPorts? (segment : Bytes) : Option Ports :=
  match segment with
  | s₁ :: s₂ :: d₁ :: d₂ :: _ :: _ :: _ :: _ :: _ :: _ :: _ :: _ :: offset :: _ :: _ :: _ :: _ ::
      _ :: _ :: _ :: _ =>
    let length := offset.toNat / 16 * 4
    if length < 20 ∨ segment.length < length then none
    else some ⟨word s₁ s₂, word d₁ d₂, segment.length - length⟩
  | _ => none

/-- Reads a UDP header. -/
def udpPorts? : Bytes → Option Ports
  | s₁ :: s₂ :: d₁ :: d₂ :: _ :: _ :: _ :: _ :: rest => some ⟨word s₁ s₂, word d₁ d₂, rest.length⟩
  | _ => none

/-- Reads the ports, if the protocol has any. -/
def ports? (protocol : Transport) (segment : Bytes) : Option Ports :=
  if protocol = .tcp then tcpPorts? segment
  else if protocol = .udp then udpPorts? segment
  else none

/-! ### Records -/

/-- The record of captured bytes. -/
def decode (data : Bytes) (time : Timestamp) : Option Record :=
  if data.isEmpty then none
  else
    let length := saturate data.length
    match datagram? data with
    | none => some { time, length, transport := .unknown }
    | some d =>
      let transport : Transport := ⟨d.header.protocol.toNat⟩
      let ports := ports? transport d.payload
      some {
        time, length, transport
        source := some d.header.source
        sourcePort := ports.map (·.source)
        destination := some d.header.destination
        destinationPort := ports.map (·.destination)
        ipPayload := some (saturate d.payload.length)
        transportPayload := ports.map (saturate ·.payload)
        application := (ports.map fun p => .ofPorts p.source p.destination).getD .unknown }

end TrafficMonitor.Packet
