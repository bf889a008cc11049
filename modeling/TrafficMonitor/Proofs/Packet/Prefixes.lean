import TrafficMonitor.Proofs.Packet.Decoding

/-! What a payload holds does not show in the record. Two packets that are equally long and agree
on their header and on the 13 bytes behind it (`inspected`) differ at most in what their sender had
to say, and `decode_eq_of_agree` says that nothing tells them apart: their records are equal, and
their payloads lie in the same place. The agreement is passed down from the captured bytes to the
segment (`Agree.slice`), and each reader needs only so much of it: `headerAt` the first 20 bytes
and the ports the first 13 of the segment. The length that replaces one that is too small is the
number of captured bytes, so a repaired header is no exception. -/
namespace TrafficMonitor.Packet
open Network Time

/-- The bytes are as many, and the first of them are the same. -/
structure Agree (n : Nat) (data other : Bytes) : Prop where
  length : data.length = other.length
  first : data.take n = other.take n

namespace Agree
variable {m n : Nat} {data other : Bytes}

theorem mono (h : Agree n data other) (hm : m ≤ n) : Agree m data other := by
  refine ⟨h.length, ?_⟩
  have hfirst := congrArg (List.take m) h.first
  rwa [List.take_take, List.take_take, Nat.min_eq_left hm] at hfirst

theorem byteAt_eq {offset : Nat} (h : Agree n data other) (hoffset : offset < n) :
    byteAt data offset = byteAt other offset := by
  have hget := congrArg (·[offset]?) h.first
  simp only [List.getElem?_take_of_lt hoffset] at hget
  simp only [byteAt, List.getD_eq_getElem?_getD, hget]

theorem wordAt_eq {offset : Nat} (h : Agree n data other) (hoffset : offset + 1 < n) :
    wordAt data offset = wordAt other offset := by
  rw [wordAt, wordAt, h.byteAt_eq (by omega), h.byteAt_eq hoffset]

theorem addressAt_eq {offset : Nat} (h : Agree n data other) (hoffset : offset + 3 < n) :
    addressAt data offset = addressAt other offset := by
  rw [addressAt, addressAt, h.byteAt_eq (by omega), h.byteAt_eq (by omega), h.byteAt_eq (by omega),
    h.byteAt_eq hoffset]

/-- Pieces cut out at the same place agree on what the whole agrees on. -/
theorem slice {start : Nat} (h : Agree (start + n) data other) (size : Nat) :
    Agree n ((data.drop start).take size) ((other.drop start).take size) := by
  have hdrop : (data.drop start).take n = (other.drop start).take n := by
    have hfirst := congrArg (List.drop start) h.first
    rwa [List.drop_take, List.drop_take, Nat.add_sub_cancel_left] at hfirst
  constructor
  · simp only [List.length_take, List.length_drop, h.length]
  · rw [List.take_take, Nat.min_comm, ← List.take_take, hdrop, List.take_take, Nat.min_comm,
      ← List.take_take]

end Agree

variable {data other : Bytes}

/-! ### What each reader looks at -/

theorem headerAt_of_agree (h : Agree 20 data other) : headerAt data = headerAt other := by
  have hfirst : byteAt data 0 = byteAt other 0 := h.byteAt_eq (by omega)
  have htotal : wordAt data 2 = wordAt other 2 := h.wordAt_eq (by omega)
  have hprotocol : byteAt data 9 = byteAt other 9 := h.byteAt_eq (by omega)
  have hsource : addressAt data 12 = addressAt other 12 := h.addressAt_eq (by omega)
  have hdestination : addressAt data 16 = addressAt other 16 := h.addressAt_eq (by omega)
  simp only [headerAt, hfirst, htotal, hprotocol, hsource, hdestination]

/-- A TCP header is looked at up to the byte with its length, a UDP header less far. -/
theorem ports?_of_agree (h : Agree 13 data other) (protocol : Transport) :
    ports? protocol data = ports? protocol other := by
  have hsource : wordAt data 0 = wordAt other 0 := h.wordAt_eq (by omega)
  have hdestination : wordAt data 2 = wordAt other 2 := h.wordAt_eq (by omega)
  have hoffset : byteAt data 12 = byteAt other 12 := h.byteAt_eq (by omega)
  simp only [ports?, tcpPorts?_eq, udpPorts?_eq, hsource, hdestination, hoffset, h.length]

/-- How many of the captured bytes are looked at: the fixed part of the IPv4 header, and the header
with its options and 13 bytes more. -/
def inspected (data : Bytes) : Nat := max 20 (4 * ((byteAt data 0).toNat % 16) + 13)

/-- So many bytes behind a header. -/
def Header.payload (h : Header) (size : Nat) (data : Bytes) : Bytes :=
  (data.drop h.length).take size

/-- Two readings that found no packet, or the same header with payloads cut out at the same place
that agree on their first 13 bytes. -/
inductive Alike (data other : Bytes) : Option Datagram → Option Datagram → Prop
  | unread : Alike data other none none
  | packets (header : Header) (size : Nat)
      (start : header.length = 4 * ((byteAt data 0).toNat % 16))
      (inside : header.length + size ≤ data.length)
      (agree : Agree 13 (header.payload size data) (header.payload size other)) :
      Alike data other (some ⟨header, header.payload size data⟩)
        (some ⟨header, header.payload size other⟩)

theorem alike_of_header {h : Header} (hlength : h.length = 4 * ((byteAt data 0).toNat % 16))
    (hagree : Agree (inspected data) data other) :
    Alike data other (h.datagram? data) (h.datagram? other) := by
  unfold Header.datagram?
  rw [← hagree.length]
  split
  · rename_i hsound
    obtain ⟨-, -, -, hle, hfits⟩ := hsound
    refine .packets h (h.total - h.length) hlength (by omega) (Agree.slice ?_ _)
    refine hagree.mono ?_
    rw [hlength]
    exact Nat.le_max_right 20 _
  · exact .unread

theorem alike_of_agree (h : Agree (inspected data) data other) :
    Alike data other (datagram? data) (datagram? other) := by
  rw [datagram?_eq, datagram?_eq, ← h.length,
    ← headerAt_of_agree (h.mono (Nat.le_max_left 20 _))]
  split
  · refine alike_of_header ?_ h
    rw [Header.length_repaired]
    exact Nat.mul_comm _ 4
  · exact .unread

/-! ### Records and payloads -/

theorem decode_of_agree (h : Agree (inspected data) data other) (time : Timestamp) :
    decode data time = decode other time := by
  have hempty : data.isEmpty = other.isEmpty := by
    rw [Bool.eq_iff_iff, List.isEmpty_iff_length_eq_zero, List.isEmpty_iff_length_eq_zero, h.length]
  have halike := alike_of_agree h
  unfold decode
  rw [hempty, h.length]
  generalize datagram? data = first, datagram? other = second at halike ⊢
  cases halike with
  | unread => rfl
  | packets header size _ _ hagree => simp only [ports?_of_agree hagree, hagree.length]

theorem payload?_of_agree (h : Agree (inspected data) data other) :
    payload? data = none ∧ payload? other = none ∨
      ∃ size, 4 * ((byteAt data 0).toNat % 16) + size ≤ data.length ∧
        payload? data = some ((data.drop (4 * ((byteAt data 0).toNat % 16))).take size) ∧
        payload? other = some ((other.drop (4 * ((byteAt data 0).toNat % 16))).take size) := by
  have halike := alike_of_agree h
  unfold payload?
  generalize datagram? data = first, datagram? other = second at halike ⊢
  cases halike with
  | unread => exact Or.inl ⟨rfl, rfl⟩
  | packets header size hstart hinside _ =>
    refine Or.inr ⟨size, by rwa [← hstart], ?_, ?_⟩ <;> rw [← hstart] <;> rfl

/-- **What a payload holds does not show.** Of bytes that are equally many and agree on the part
that is looked at, the records are equal, or neither has one, and the payloads are pieces of the
same place and size, or neither has one. -/
theorem decode_eq_of_agree (data other : Bytes) (time : Timestamp)
    (hlength : data.length = other.length)
    (hfirst : data.take (inspected data) = other.take (inspected data)) :
    decode data time = decode other time ∧
      (payload? data = none ∧ payload? other = none ∨
        ∃ size, 4 * ((byteAt data 0).toNat % 16) + size ≤ data.length ∧
          payload? data = some ((data.drop (4 * ((byteAt data 0).toNat % 16))).take size) ∧
          payload? other = some ((other.drop (4 * ((byteAt data 0).toNat % 16))).take size)) :=
  have h : Agree (inspected data) data other := ⟨hlength, hfirst⟩
  ⟨decode_of_agree h time, payload?_of_agree h⟩

/-- Two segments of one connection, captured with zero in the length field and behind a header with
options: they differ in their checksums and in what they carry. -/
theorem decode_eq_segments :
    let time : Timestamp := ⟨⟨63082281600000000, by decide⟩, 28800⟩
    let header : Bytes := [0x46, 0, 0, 0, 0, 0, 0, 0, 64, 6, 0, 0, 192, 168, 1, 1, 8, 8, 8, 8,
      1, 1, 1, 0]
    let ports : Bytes := [0x9c, 0x40, 0, 80, 0, 0, 0, 1, 0, 0, 0, 2, 0x50]
    let data : Bytes := header ++ ports ++ [0x18, 1, 0, 0xaa, 0xbb, 0, 0, 71, 69, 84]
    let other : Bytes := header ++ ports ++ [0x10, 2, 0, 0xcc, 0xdd, 0, 1, 0, 255, 7]
    data.length = other.length ∧ data.take (inspected data) = other.take (inspected data) ∧
      read? data = none ∧ payload? data ≠ payload? other ∧
      decode data time = decode other time ∧
      (payload? data = none ∧ payload? other = none ∨
        ∃ size, 4 * ((byteAt data 0).toNat % 16) + size ≤ data.length ∧
          payload? data = some ((data.drop (4 * ((byteAt data 0).toNat % 16))).take size) ∧
          payload? other = some ((other.drop (4 * ((byteAt data 0).toNat % 16))).take size)) ∧
      (decode data time).map (fun r => (r.sourcePort, r.application, r.transportPayload)) =
        some (some 40000, .http, some 3) := by
  intro time header ports data other
  have hlength : data.length = other.length := by decide
  have hfirst : data.take (inspected data) = other.take (inspected data) := by decide
  obtain ⟨hdecode, hpayload⟩ := decode_eq_of_agree data other time hlength hfirst
  exact ⟨hlength, hfirst, by decide, by decide, hdecode, hpayload, by decide⟩

end TrafficMonitor.Packet
