import TrafficMonitor.Proofs.Packet.Offsets

/-! Reading by offset stays within the bytes. The readers of packets take bytes apart from their
front, so they cannot go too far. Here they are written once more as they would be over a buffer:
a byte is fetched by its offset, a number is written over the bytes at an offset, and what lies
behind the end fails (`OutOfRange`). Each fetch stands behind the test that allows it, and the main
statements say that none of them fails and that the result is the same: `Checked.datagram_eq`,
`Checked.decode_eq` and `Checked.payload_eq`, for all bytes. -/
namespace TrafficMonitor.Packet
open Network Time

/-- A byte was fetched or written behind the end of the bytes. -/
structure OutOfRange where
  offset : Nat
deriving Repr, DecidableEq

abbrev Access := Except OutOfRange

namespace Checked

/-! ### Fetching and writing -/

/-- The byte at an offset. -/
def byte (data : Bytes) (offset : Nat) : Access UInt8 :=
  match data[offset]? with
  | some b => .ok b
  | none => .error ⟨offset⟩

/-- The number in the two bytes at an offset. -/
def word (data : Bytes) (offset : Nat) : Access Nat := do
  let high ← byte data offset
  let low ← byte data (offset + 1)
  return Packet.word high low

/-- The address in the four bytes at an offset. -/
def address (data : Bytes) (offset : Nat) : Access Address := do
  let first ← byte data offset
  let second ← byte data (offset + 1)
  let third ← byte data (offset + 2)
  let fourth ← byte data (offset + 3)
  return ⟨first, second, third, fourth⟩

/-- The bytes with a number written over the two at an offset. -/
def setWord (n : Nat) (data : Bytes) (offset : Nat) : Access Bytes :=
  if offset + 2 ≤ data.length then .ok (data.take offset ++ wordBytes n ++ data.drop (offset + 2))
  else .error ⟨data.length⟩

variable {data : Bytes} {offset : Nat}

theorem byte_of_lt (h : offset < data.length) : byte data offset = .ok (byteAt data offset) := by
  simp only [byte, byteAt, List.getElem?_eq_getElem h, List.getD_eq_getElem?_getD,
    Option.getD_some]

theorem word_of_lt (h : offset + 1 < data.length) :
    word data offset = .ok (wordAt data offset) := by
  rw [word, byte_of_lt (by omega), byte_of_lt h]
  rfl

theorem address_of_lt (h : offset + 3 < data.length) :
    address data offset = .ok (addressAt data offset) := by
  rw [address, byte_of_lt (by omega), byte_of_lt (by omega), byte_of_lt (by omega), byte_of_lt h]
  rfl

theorem setWord_two (n : Nat) (h : 4 ≤ data.length) :
    setWord n data 2 = .ok (withTotal n data) := by
  rw [setWord, if_pos h]
  iterate 4
    obtain _ | ⟨_, data⟩ := data
    · exact absurd h (by simp)
  rfl

/-! ### Packets -/

/-- The length field; zero if there are too few bytes for it. -/
def total (data : Bytes) : Access Nat :=
  if data.length < 4 then return 0 else word data 2

/-- Reads a packet as it stands. -/
def read (data : Bytes) : Access (Option Datagram) :=
  if data.length < 20 then return none
  else do
    let first ← byte data 0
    let length := first.toNat % 16 * 4
    if first.toNat / 16 ≠ 4 ∨ length < 20 ∨ data.length < length then return none
    else
      let total ← total data
      if total < length ∨ data.length < total then return none
      else
        let protocol ← byte data 9
        let source ← address data 12
        let destination ← address data 16
        let header := ⟨first.toNat / 16, length, total, protocol, source, destination⟩
        return some ⟨header, (data.take total).drop length⟩

/-- Reads a packet, with the number of captured bytes written over a length field that is too small
for any header. -/
def datagram (data : Bytes) : Access (Option Datagram) := do
  match ← read data with
  | some d => return some d
  | none =>
    if 4 < data.length then
      if (← total data) < 20 then read (← setWord (min data.length 65535) data 2) else return none
    else return none

/-- The bytes after the IPv4 header. -/
def payload (data : Bytes) : Access (Option Bytes) := do
  return (← datagram data).map (·.payload)

theorem total_eq : total data = .ok (if data.length < 4 then 0 else wordAt data 2) := by
  unfold total
  split
  · rfl
  · exact word_of_lt (by omega)

theorem read_eq (data : Bytes) : read data = .ok (read? data) := by
  rw [read?_eq]
  unfold read
  split
  · rename_i hshort
    rw [if_neg (by omega)]
    rfl
  · rename_i hlong
    rw [if_pos (by omega), byte_of_lt (by omega), total_eq, if_neg (by omega),
      byte_of_lt (by omega), address_of_lt (by omega), address_of_lt (by omega)]
    simp only [bind, Except.bind, pure, Except.pure]
    -- The two tests together are soundness of the header.
    split
    · rename_i hfirst
      rw [Header.datagram?, if_neg]
      rintro ⟨hversion, hleast, hlength, -⟩
      simp only [headerAt] at hversion hleast hlength
      omega
    · rename_i hfirst
      split
      · rename_i htotal
        rw [Header.datagram?, if_neg]
        rintro ⟨-, -, -, hle, hfits⟩
        simp only [headerAt] at hle hfits
        omega
      · rename_i htotal
        have hsound : (headerAt data).IsSound data.length := by
          simp only [Header.IsSound, headerAt]
          omega
        rw [Header.datagram?, if_pos hsound, List.drop_take]
        rfl

/-- With at most four bytes nothing is written, and there is no header to write into. -/
theorem datagram_eq (data : Bytes) : datagram data = .ok (datagram? data) := by
  unfold datagram datagram?
  rw [read_eq]
  simp only [bind, Except.bind]
  cases hread : read? data with
  | some d => rfl
  | none =>
    simp only
    by_cases hlength : 4 < data.length
    · have htiny : hasTinyTotal data = decide (wordAt data 2 < 20) := by
        iterate 5
          obtain _ | ⟨_, data⟩ := data
          · exact absurd hlength (by simp)
        rfl
      rw [if_pos hlength, total_eq, if_neg (by omega), setWord_two _ (by omega), htiny]
      simp only [read_eq, decide_eq_true_eq]
      split <;> rfl
    · have htiny : hasTinyTotal data = false := by
        unfold hasTinyTotal
        split
        · exact absurd (by simp only [List.length_cons]; omega) hlength
        · rfl
      rw [if_neg hlength, htiny]
      rfl

theorem payload_eq (data : Bytes) : payload data = .ok (payload? data) := by
  rw [payload, datagram_eq]
  rfl

/-! ### Segments and records -/

/-- Reads the ports, if the protocol has any and there are bytes at all. -/
def ports (protocol : Transport) (segment : Bytes) : Access (Option Ports) :=
  if segment.isEmpty then return none
  else if protocol = .tcp then
    if segment.length < 20 then return none
    else do
      let source ← word segment 0
      let destination ← word segment 2
      let length := (← byte segment 12).toNat / 16 * 4
      if length < 20 ∨ segment.length < length then return none
      else return some ⟨source, destination, segment.length - length⟩
  else if protocol = .udp then
    if segment.length < 8 then return none
    else do
      let source ← word segment 0
      let destination ← word segment 2
      return some ⟨source, destination, segment.length - 8⟩
  else return none

/-- The record of captured bytes. -/
def decode (data : Bytes) (time : Timestamp) : Access (Option Record) :=
  if data.isEmpty then return none
  else do
    let length := saturate data.length
    match ← datagram data with
    | none => return some { time, length, transport := .unknown }
    | some d =>
      let transport : Transport := ⟨d.header.protocol.toNat⟩
      let ports ← ports transport d.payload
      return some {
        time, length, transport
        source := some d.header.source
        sourcePort := ports.map (·.source)
        destination := some d.header.destination
        destinationPort := ports.map (·.destination)
        ipPayload := some (saturate d.payload.length)
        transportPayload := ports.map (saturate ·.payload)
        application := (ports.map fun p => .ofPorts p.source p.destination).getD .unknown }

theorem ports_eq (protocol : Transport) (segment : Bytes) :
    ports protocol segment = .ok (ports? protocol segment) := by
  unfold ports ports?
  rw [tcpPorts?_eq, udpPorts?_eq]
  split
  · rename_i hempty
    rw [List.isEmpty_iff] at hempty
    subst hempty
    simp [pure, Except.pure]
  · split
    · split
      · rename_i hshort
        rw [if_neg (by omega)]
        rfl
      · rename_i hlong
        rw [word_of_lt (by omega), word_of_lt (by omega), byte_of_lt (by omega)]
        simp only [bind, Except.bind, pure, Except.pure]
        split
        · rw [if_neg (by omega)]
        · rw [if_pos (by omega)]
    · split
      · split
        · rename_i hshort
          rw [if_neg (by omega)]
          rfl
        · rename_i hlong
          rw [if_pos (by omega), word_of_lt (by omega), word_of_lt (by omega)]
          rfl
      · rfl

/-- **No byte is fetched behind the end.** -/
theorem decode_eq (data : Bytes) (time : Timestamp) :
    decode data time = .ok (Packet.decode data time) := by
  unfold decode Packet.decode
  split
  · rfl
  · rw [datagram_eq]
    simp only [bind, Except.bind, pure, Except.pure, ports_eq]
    cases datagram? data <;> rfl

end Checked

end TrafficMonitor.Packet
