import TrafficMonitor.Packet.Writer
import TrafficMonitor.Proofs.Packet.Decoding

/-! Packets that were written are read back. `datagram?_framed` says that a written packet is found
again in front of any padding, and `datagram?_withTotal_framed` that it is still found when its
length field was overwritten with a number too small for any header: then the number of captured
bytes stands in for it, and without padding that is the number that was overwritten. The main
statement, `decode_written`, puts this together with the ports (`ports?_of_carries`). -/
namespace TrafficMonitor

/-- The four octets of an address, as they stand in a header. -/
def Network.Address.octets (a : Network.Address) : Packet.Bytes :=
  [a.first, a.second, a.third, a.fourth]

namespace Packet
open Network Time

/-! ### Segments -/

/-- What the bytes after the IPv4 header were made of: a segment of TCP, a datagram of UDP, or bytes
of a protocol without ports. -/
inductive Carries : UInt8 → Bytes → Option Ports → Prop
  | tcp {source destination : Nat} {payload segment : Bytes}
      (h : tcp? source destination payload = some segment) :
      Carries 6 segment (some ⟨source, destination, payload.length⟩)
  | udp {source destination : Nat} {payload segment : Bytes}
      (h : udp? source destination payload = some segment) :
      Carries 17 segment (some ⟨source, destination, payload.length⟩)
  | bare {protocol : UInt8} {segment : Bytes} (htcp : protocol ≠ 6) (hudp : protocol ≠ 17) :
      Carries protocol segment none

theorem word?_of_lt {n : Nat} (h : n < 65536) : word? n = some (wordBytes n) := by
  rw [word?, if_pos (by omega), Int.toNat_natCast]

theorem word?_eq_some {n : Nat} {bytes : Bytes} (h : word? n = some bytes) :
    n < 65536 ∧ bytes = wordBytes n := by
  unfold word? at h
  split at h
  · rw [Int.toNat_natCast] at h
    cases h
    exact ⟨by omega, rfl⟩
  · cases h

section Segments
variable {source destination : Nat} {payload segment : Bytes}

theorem exists_tcp? (payload : Bytes) (hsource : source ≤ 65535)
    (hdestination : destination ≤ 65535) :
    ∃ segment, tcp? source destination payload = some segment ∧
      segment.length = payload.length + 20 := by
  simp [tcp?, word?_of_lt (Nat.lt_succ_of_le hsource),
    word?_of_lt (Nat.lt_succ_of_le hdestination), wordBytes]

theorem exists_udp? (payload : Bytes) (hsource : source ≤ 65535)
    (hdestination : destination ≤ 65535) (hpayload : payload.length + 8 ≤ 65535) :
    ∃ segment, udp? source destination payload = some segment ∧
      segment.length = payload.length + 8 := by
  have hlength : word? (8 + payload.length) = some (wordBytes (8 + payload.length)) := by
    exact_mod_cast word?_of_lt (n := 8 + payload.length) (by omega)
  simp [udp?, hlength, word?_of_lt (Nat.lt_succ_of_le hsource),
    word?_of_lt (Nat.lt_succ_of_le hdestination), wordBytes]

theorem tcpPorts?_of_tcp? (h : tcp? source destination payload = some segment) :
    tcpPorts? segment = some ⟨source, destination, payload.length⟩ := by
  simp only [tcp?, Option.bind_eq_bind, Option.bind_eq_some_iff, Option.pure_def,
    Option.some.injEq] at h
  obtain ⟨_, hs, _, hd, rfl⟩ := h
  obtain ⟨hsource, rfl⟩ := word?_eq_some hs
  obtain ⟨hdestination, rfl⟩ := word?_eq_some hd
  simp [tcpPorts?, wordBytes, word_wordBytes hsource, word_wordBytes hdestination]

theorem udpPorts?_of_udp? (h : udp? source destination payload = some segment) :
    udpPorts? segment = some ⟨source, destination, payload.length⟩ := by
  simp only [udp?, Option.bind_eq_bind, Option.bind_eq_some_iff, Option.pure_def,
    Option.some.injEq] at h
  obtain ⟨_, hs, _, hd, length, hl, rfl⟩ := h
  obtain ⟨hsource, rfl⟩ := word?_eq_some hs
  obtain ⟨hdestination, rfl⟩ := word?_eq_some hd
  obtain ⟨-, rfl⟩ := word?_eq_some (n := 8 + payload.length) (by exact_mod_cast hl)
  simp [udpPorts?, wordBytes, word_wordBytes hsource, word_wordBytes hdestination]

end Segments

theorem ports?_of_carries {protocol : UInt8} {segment : Bytes} {ports : Option Ports}
    (h : Carries protocol segment ports) : ports? ⟨protocol.toNat⟩ segment = ports := by
  cases h with
  | tcp h => exact tcpPorts?_of_tcp? h
  | udp h => exact udpPorts?_of_udp? h
  | bare htcp hudp =>
    have hne : ∀ n : UInt8, protocol ≠ n → (⟨protocol.toNat⟩ : Transport) ≠ ⟨n.toNat⟩ := by
      intro n hn heq
      injection heq with heq
      exact hn (UInt8.toNat_inj.mp (by exact_mod_cast heq))
    simp only [ports?, if_neg (show (⟨protocol.toNat⟩ : Transport) ≠ .tcp from hne 6 htcp),
      if_neg (show (⟨protocol.toNat⟩ : Transport) ≠ .udp from hne 17 hudp)]

/-! ### Packets -/

/-- The header of a written packet. -/
def writtenHeader (source destination : Address) (protocol : UInt8) (payload : Nat) : Header :=
  ⟨4, 20, 20 + payload, protocol, source, destination⟩

/-- The bytes of a written packet. -/
def framed (source destination : Address) (protocol : UInt8) (segment : Bytes) : Bytes :=
  [0x45, 0] ++ wordBytes (20 + segment.length) ++ [0, 0, 0, 0, 64, protocol, 0, 0] ++
    source.octets ++ destination.octets ++ segment

section Framed
variable (source destination : Address) (protocol : UInt8) {segment : Bytes}

theorem ipv4?_eq_framed (h : segment.length ≤ 65515) :
    ipv4? source.octets destination.octets protocol.toNat segment =
      some (framed source destination protocol segment) := by
  have hlength :
      word? (headerLength + segment.length) = some (wordBytes (20 + segment.length)) := by
    exact_mod_cast word?_of_lt (n := 20 + segment.length) (by omega)
  have hprotocol : octet? protocol.toNat = some protocol := by
    have hlt := protocol.toNat_lt
    have hrange : (0 : Int) ≤ protocol.toNat ∧ (protocol.toNat : Int) < 256 := by omega
    simp only [octet?, if_pos hrange, Int.toNat_natCast, Nat.toUInt8_eq, UInt8.ofNat_toNat]
  simp only [ipv4?, hlength, hprotocol]
  rfl

theorem length_framed :
    (framed source destination protocol segment).length = 20 + segment.length := by
  simp only [framed, wordBytes, Address.octets, List.length_append, List.length_cons,
    List.length_nil]

theorem headerAt_framed (h : segment.length ≤ 65515) (padding : Bytes) :
    headerAt (framed source destination protocol segment ++ padding) =
      writtenHeader source destination protocol segment.length := by
  have htotal := word_wordBytes (show 20 + segment.length < 65536 by omega)
  simp only [headerAt, wordAt, addressAt, byteAt, framed, wordBytes, Address.octets,
    List.cons_append, List.nil_append, List.getD_cons_zero, List.getD_cons_succ, htotal]
  rfl

theorem drop_framed (padding : Bytes) :
    (framed source destination protocol segment ++ padding).drop 20 = segment ++ padding := rfl

/-- The header of a written packet cuts its segment out of the bytes. -/
theorem datagram?_writtenHeader (segment padding : Bytes) :
    (writtenHeader source destination protocol segment.length).datagram?
        (framed source destination protocol segment ++ padding) =
      some ⟨writtenHeader source destination protocol segment.length, segment⟩ := by
  have hsound : (writtenHeader source destination protocol segment.length).IsSound
      (framed source destination protocol segment ++ padding).length := by
    rw [List.length_append, length_framed]
    simp only [Header.IsSound, writtenHeader, true_and]
    omega
  rw [Header.datagram?, if_pos hsound]
  simp only [writtenHeader, drop_framed, Nat.add_sub_cancel_left, List.take_left]

theorem datagram?_framed (h : segment.length ≤ 65515) (padding : Bytes) :
    datagram? (framed source destination protocol segment ++ padding) =
      some ⟨writtenHeader source destination protocol segment.length, segment⟩ := by
  have hrepaired : ∀ captured,
      (writtenHeader source destination protocol segment.length).repaired captured =
        writtenHeader source destination protocol segment.length := fun captured =>
    if_neg (by simp only [writtenHeader]; omega)
  have hlength : 20 ≤ (framed source destination protocol segment ++ padding).length := by
    rw [List.length_append, length_framed]
    omega
  rw [datagram?_eq, if_pos hlength, headerAt_framed _ _ _ h, hrepaired, datagram?_writtenHeader]

/-- Without padding the length field can be recovered. -/
theorem datagram?_withTotal_framed (h : segment.length ≤ 65515) {total : Nat}
    (htotal : total < 20) :
    datagram? (withTotal total (framed source destination protocol segment)) =
      datagram? (framed source destination protocol segment) := by
  have hheader := headerAt_framed source destination protocol h []
  have hread := datagram?_framed source destination protocol h []
  have hcut := datagram?_writtenHeader source destination protocol segment []
  rw [List.append_nil] at hheader hread hcut
  have hlength : 20 ≤ (framed source destination protocol segment).length := by
    rw [length_framed]
    omega
  -- The captured bytes are as many as the sender wrote.
  have hrepaired : (Header.mk 4 20 total protocol source destination).repaired
        (framed source destination protocol segment).length =
      writtenHeader source destination protocol segment.length := by
    rw [Header.repaired, if_pos htotal, length_framed, Nat.min_eq_left (by omega)]
    rfl
  rw [hread, datagram?_eq, length_withTotal, if_pos hlength,
    headerAt_withTotal hlength (by omega), hheader, Header.datagram?_withTotal]
  simp only [writtenHeader] at hrepaired hcut ⊢
  rw [hrepaired, hcut]

end Framed

/-- **Reading undoes writing.** A packet can be written if its segment is not too long. In front of
any padding its record has its addresses, its protocol, the number of bytes behind its header and
the ports of the segment that it carries, and those bytes are found again. Overwriting the length
field with a number that is too small for any header changes nothing. Segments can be written for
all ports. -/
theorem decode_written (source destination : Address) (protocol : UInt8) (segment : Bytes)
    (time : Timestamp) (hsegment : segment.length ≤ 65515) :
    (∃ packet, ipv4? source.octets destination.octets protocol.toNat segment = some packet ∧
      packet.length = 20 + segment.length ∧
      (∀ padding, payload? (packet ++ padding) = some segment ∧
        ∃ r, decode (packet ++ padding) time = some r ∧
          r.Captured time (packet.length + padding.length) ∧
          r.transport = ⟨protocol.toNat⟩ ∧
          r.HasNetwork source destination segment.length ∧
          ∀ ports, Carries protocol segment ports → r.PortsAre ports) ∧
      ∀ total < 20, payload? (withTotal total packet) = payload? packet ∧
        decode (withTotal total packet) time = decode packet time) ∧
    ∀ sourcePort ≤ 65535, ∀ destinationPort ≤ 65535, ∀ payload : Bytes,
      (∃ segment, tcp? (sourcePort : Nat) (destinationPort : Nat) payload = some segment ∧
        segment.length = payload.length + 20) ∧
      (payload.length + 8 ≤ 65535 →
        ∃ segment, udp? (sourcePort : Nat) (destinationPort : Nat) payload = some segment ∧
          segment.length = payload.length + 8) := by
  refine ⟨⟨_, ipv4?_eq_framed _ _ _ hsegment, length_framed .., fun padding => ?_,
    fun total htotal => ?_⟩,
    fun sourcePort hsource destinationPort hdestination payload =>
      ⟨exists_tcp? payload hsource hdestination, exists_udp? payload hsource hdestination⟩⟩
  · have hread := datagram?_framed source destination protocol hsegment padding
    obtain ⟨r, hr, hcaptured, htells⟩ := exists_tells hread time
    refine ⟨by rw [payload?, hread, Option.map_some], r, hr, ?_, htells.transport, htells.network,
      fun ports hcarries => ?_⟩
    · rwa [List.length_append] at hcaptured
    · have hports := htells.ports
      rw [htells.transport] at hports
      rwa [← ports?_of_carries hcarries]
  · have hread := datagram?_withTotal_framed source destination protocol hsegment htotal
    exact ⟨by rw [payload?, payload?, hread], decode_congr (length_withTotal total _) hread⟩

/-- A question for the address of a name, with zero in its length field. -/
theorem decode_written_zeroed :
    let source : Address := ⟨192, 168, 1, 1⟩
    let destination : Address := ⟨8, 8, 8, 8⟩
    let time : Timestamp := ⟨⟨63082281600000000, by decide⟩, 28800⟩
    let payload : Bytes := List.replicate 12 97
    ∃ segment packet r, udp? (40000 : Nat) (53 : Nat) payload = some segment ∧
      segment.length ≤ 65515 ∧
      ipv4? source.octets destination.octets (17 : UInt8).toNat segment = some packet ∧
      payload? (withTotal 0 packet) = some segment ∧
      decode (withTotal 0 packet) time = some r ∧
      r.HasNetwork source destination 20 ∧ r.HasPorts ⟨40000, 53, 12⟩ ∧ r.application = .dns := by
  intro source destination time payload
  obtain ⟨segment, hsegment, hlength⟩ :=
    exists_udp? payload (show 40000 ≤ 65535 by decide) (show 53 ≤ 65535 by decide) (by decide)
  have hshort : segment.length ≤ 65515 := by
    rw [hlength]
    decide
  obtain ⟨⟨packet, hpacket, -, hread, hzeroed⟩, -⟩ :=
    decode_written source destination 17 segment time hshort
  obtain ⟨hpayload, r, hr, -, -, hnetwork, hports⟩ := hread []
  obtain ⟨hsame, hdecode⟩ := hzeroed 0 (by decide)
  rw [List.append_nil] at hpayload hr
  have hdns : r.HasPorts ⟨40000, 53, 12⟩ := hports _ (.udp hsegment)
  refine ⟨segment, packet, r, hsegment, hshort, hpacket, by rw [hsame, hpayload],
    by rw [hdecode, hr], ?_, hdns, by rw [hdns.application]; decide⟩
  rwa [hlength] at hnetwork

end Packet

end TrafficMonitor
