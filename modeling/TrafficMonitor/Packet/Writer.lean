import TrafficMonitor.Network.Transport
import TrafficMonitor.Packet.Bytes

/-! Writing packets: IPv4 headers without options, TCP segments and UDP datagrams. A packet
cannot be written if one of its numbers does not fit its place in the header. -/
namespace TrafficMonitor.Packet

/-- Four bytes of an address: what is too long is cut off, what is missing is zero. -/
def addressBytes (a : Bytes) : Bytes := (a.take 4).rightpad 4 0

/-- The bytes of an IPv4 header without options. -/
def headerLength : Nat := 20

/-- An IPv4 header, with a lifetime of 64 hops and no checksum, before its payload. -/
def ipv4? (source destination : Bytes) (protocol : Int) (payload : Bytes) : Option Bytes := do
  let length ← word? (headerLength + payload.length)
  let protocol ← octet? protocol
  return [0x45, 0] ++ length ++ [0, 0, 0, 0, 64, protocol, 0, 0] ++ addressBytes source ++
    addressBytes destination ++ payload

/-- A TCP segment without options that pushes and acknowledges. -/
def tcp? (source destination : Int) (payload : Bytes) : Option Bytes := do
  let source ← word? source
  let destination ← word? destination
  return source ++ destination ++ [0, 0, 0, 1, 0, 0, 0, 1, 0x50, 0x18, 4, 0, 0, 0, 0, 0] ++ payload

/-- A UDP datagram without a checksum. -/
def udp? (source destination : Int) (payload : Bytes) : Option Bytes := do
  let source ← word? source
  let destination ← word? destination
  let length ← word? (8 + payload.length)
  return source ++ destination ++ length ++ [0, 0] ++ payload

/-- An ICMP echo request. -/
def echo (sequence : Nat) (payload : Bytes) : Bytes :=
  [8, 0, 0, 0, 0, 1] ++ wordBytes (sequence % 65536) ++ payload

end TrafficMonitor.Packet
