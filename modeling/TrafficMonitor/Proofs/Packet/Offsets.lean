import TrafficMonitor.Packet.Reader

/-! Where the fields of a packet stand. The readers take a packet apart from its front; here each
field is named by its offset (`header?_eq`, `tcpPorts?_eq`, `udpPorts?_eq`). A packet whose length
field is too small for any header is written anew with another length and read again, and
`datagram?_eq` says what that amounts to: the header is read once, a total that is too small is
replaced in it, and the packet is cut out of the bytes as they were captured. So the payload is
always a piece of the captured bytes (`lies_of_datagram?`), and what the ports leave of it is
never more than it holds (`fits_of_ports?`). -/
namespace TrafficMonitor.Packet
open Network

/-! ### Fields by their offsets -/

/-- The byte at an offset; zero behind the end. -/
def byteAt (data : Bytes) (offset : Nat) : UInt8 := data.getD offset 0

/-- The number in the two bytes at an offset. -/
def wordAt (data : Bytes) (offset : Nat) : Nat :=
  word (byteAt data offset) (byteAt data (offset + 1))

/-- The address in the four bytes at an offset. -/
def addressAt (data : Bytes) (offset : Nat) : Address :=
  ⟨byteAt data offset, byteAt data (offset + 1), byteAt data (offset + 2), byteAt data (offset + 3)⟩

/-- The fields of an IPv4 header. -/
def headerAt (data : Bytes) : Header where
  version := (byteAt data 0).toNat / 16
  length := (byteAt data 0).toNat % 16 * 4
  total := wordAt data 2
  protocol := byteAt data 9
  source := addressAt data 12
  destination := addressAt data 16

theorem wordAt_lt (data : Bytes) (offset : Nat) : wordAt data offset < 65536 := by
  have hhigh := (byteAt data offset).toNat_lt
  have hlow := (byteAt data (offset + 1)).toNat_lt
  simp only [wordAt, word]
  omega

theorem header?_eq (data : Bytes) :
    header? data = if 20 ≤ data.length then some (headerAt data) else none := by
  split
  · rename_i h
    iterate 20
      obtain _ | ⟨_, data⟩ := data
      · exact absurd h (by simp)
    rfl
  · rename_i h
    unfold header?
    split
    · exact absurd (by simp only [List.length_cons]; omega) h
    · rfl

theorem tcpPorts?_eq (segment : Bytes) : tcpPorts? segment =
    let length := (byteAt segment 12).toNat / 16 * 4
    if 20 ≤ segment.length ∧ 20 ≤ length ∧ length ≤ segment.length then
      some ⟨wordAt segment 0, wordAt segment 2, segment.length - length⟩
    else none := by
  by_cases h : 20 ≤ segment.length
  · simp only [h, true_and]
    iterate 20
      obtain _ | ⟨_, segment⟩ := segment
      · exact absurd h (by simp)
    simp only [tcpPorts?, byteAt, wordAt, List.getD_cons_succ, List.getD_cons_zero]
    split <;> split <;> first | rfl | omega
  · simp only [h, false_and, if_false]
    unfold tcpPorts?
    split
    · exact absurd (by simp only [List.length_cons]; omega) h
    · rfl

theorem udpPorts?_eq (segment : Bytes) : udpPorts? segment =
    if 8 ≤ segment.length then
      some ⟨wordAt segment 0, wordAt segment 2, segment.length - 8⟩
    else none := by
  split
  · rename_i h
    iterate 8
      obtain _ | ⟨_, segment⟩ := segment
      · exact absurd h (by simp)
    rfl
  · rename_i h
    unfold udpPorts?
    split
    · exact absurd (by simp only [List.length_cons]; omega) h
    · rfl

theorem hasTinyTotal_eq {data : Bytes} (h : 20 ≤ data.length) :
    hasTinyTotal data = decide (wordAt data 2 < 20) := by
  iterate 20
    obtain _ | ⟨_, data⟩ := data
    · exact absurd h (by simp)
  rfl

/-! ### Another length -/

section WithTotal
variable {data : Bytes} {total : Nat}

theorem length_withTotal (total : Nat) (data : Bytes) :
    (withTotal total data).length = data.length := by
  unfold withTotal
  split <;> simp [wordBytes]

theorem headerAt_withTotal (h : 20 ≤ data.length) (htotal : total < 65536) :
    headerAt (withTotal total data) = { headerAt data with total } := by
  iterate 20
    obtain _ | ⟨_, data⟩ := data
    · exact absurd h (by simp)
  simp [withTotal, wordBytes, headerAt, wordAt, addressAt, byteAt, word_wordBytes htotal]

/-- Behind the length field the bytes are the same. -/
theorem drop_withTotal {n : Nat} (hn : 4 ≤ n) (total : Nat) (data : Bytes) :
    (withTotal total data).drop n = data.drop n := by
  obtain ⟨n, rfl⟩ := Nat.exists_eq_add_of_le' hn
  unfold withTotal
  split <;> simp [wordBytes]

end WithTotal

/-! ### Datagrams -/

/-- The header with the number of captured bytes as its total, if it has one that is too small
for any header. -/
def Header.repaired (captured : Nat) (h : Header) : Header :=
  if h.total < 20 then { h with total := min captured 65535 } else h

theorem Header.length_repaired (captured : Nat) (h : Header) :
    (h.repaired captured).length = h.length := by
  unfold repaired
  split <;> rfl

theorem Header.total_repaired_le {captured : Nat} {h : Header} (htotal : h.total ≤ 65535) :
    (h.repaired captured).total ≤ 65535 := by
  unfold repaired
  split
  · exact Nat.min_le_right captured 65535
  · exact htotal

/-- The packet that a header cuts out of the captured bytes. -/
def Header.datagram? (data : Bytes) (h : Header) : Option Datagram :=
  if h.IsSound data.length then some ⟨h, (data.drop h.length).take (h.total - h.length)⟩ else none

theorem Header.datagram?_withTotal (h : Header) (total : Nat) (data : Bytes) :
    h.datagram? (withTotal total data) = h.datagram? data := by
  unfold datagram?
  rw [length_withTotal]
  split
  · rename_i hsound
    obtain ⟨-, hlength, -⟩ := hsound
    rw [drop_withTotal (by omega)]
  · rfl

theorem read?_eq (data : Bytes) :
    read? data = if 20 ≤ data.length then (headerAt data).datagram? data else none := by
  simp only [read?, header?_eq, Header.datagram?, List.drop_take]
  split <;> rfl

/-- **A packet is read with a repaired header.** -/
theorem datagram?_eq (data : Bytes) : datagram? data =
    if 20 ≤ data.length then ((headerAt data).repaired data.length).datagram? data else none := by
  by_cases hlength : 20 ≤ data.length
  · rw [if_pos hlength]
    by_cases htiny : wordAt data 2 < 20
    · have hnone : read? data = none := by
        rw [read?_eq, if_pos hlength, Header.datagram?, if_neg]
        intro hsound
        obtain ⟨-, hmin, -, hle, -⟩ := hsound
        simp only [headerAt] at hmin hle
        omega
      have hrepaired : (headerAt data).repaired data.length =
          { headerAt data with total := min data.length 65535 } := if_pos htiny
      simp only [datagram?, hnone, hasTinyTotal_eq hlength, htiny, decide_true, if_true]
      rw [read?_eq, if_pos (by rwa [length_withTotal]), headerAt_withTotal hlength (by omega),
        Header.datagram?_withTotal, hrepaired]
    · have hrepaired : (headerAt data).repaired data.length = headerAt data := if_neg htiny
      simp only [datagram?, hasTinyTotal_eq hlength, htiny, decide_false, Bool.false_eq_true,
        if_false, hrepaired]
      rw [read?_eq, if_pos hlength]
      cases (headerAt data).datagram? data <;> rfl
  · have hnone : ∀ other : Bytes, other.length = data.length → read? other = none := by
      intro other hother
      rw [read?_eq, if_neg (by rwa [hother])]
    simp only [datagram?, hnone data rfl, hnone _ (length_withTotal _ data), ite_self,
      if_neg hlength]

/-- The packet is a piece of the captured bytes, and its header says where its payload begins. -/
structure Datagram.Lies (d : Datagram) (data : Bytes) : Prop where
  start : d.header.length = 4 * ((byteAt data 0).toNat % 16)
  least : 20 ≤ d.header.length
  inside : d.header.length + d.payload.length ≤ min data.length 65535
  payload : d.payload = (data.drop d.header.length).take d.payload.length

theorem Header.lies_of_datagram? {h : Header} {data : Bytes} {d : Datagram}
    (hd : h.datagram? data = some d) (hstart : h.length = 4 * ((byteAt data 0).toNat % 16))
    (htotal : h.total ≤ 65535) : d.Lies data := by
  unfold datagram? at hd
  split at hd
  · rename_i hsound
    obtain ⟨-, hleast, -, hle, hfits⟩ := hsound
    cases hd
    have hpayload : ((data.drop h.length).take (h.total - h.length)).length =
        h.total - h.length := by
      rw [List.length_take, List.length_drop]
      omega
    exact ⟨hstart, hleast, by simp only [hpayload]; omega, by simp only [hpayload]⟩
  · cases hd

theorem lies_of_datagram? {data : Bytes} {d : Datagram} (h : datagram? data = some d) :
    d.Lies data := by
  rw [datagram?_eq] at h
  split at h
  · refine Header.lies_of_datagram? h ?_ ?_
    · rw [Header.length_repaired]
      exact Nat.mul_comm _ 4
    · exact Header.total_repaired_le (Nat.le_of_lt_succ (wordAt_lt data 2))
  · cases h

/-! ### Segments -/

/-- The ports are numbers of two bytes, and the bytes behind the header of the segment are those
that it does not take up. -/
structure Ports.Fits (p : Ports) (protocol : Transport) (segment : Bytes) : Prop where
  source : p.source ≤ 65535
  destination : p.destination ≤ 65535
  payload : protocol = .tcp ∧ p.payload + 20 ≤ segment.length ∨
    protocol = .udp ∧ p.payload + 8 = segment.length

theorem fits_of_ports? {protocol : Transport} {segment : Bytes} {p : Ports}
    (h : ports? protocol segment = some p) : p.Fits protocol segment := by
  have hword : ∀ offset, wordAt segment offset ≤ 65535 := fun offset =>
    Nat.le_of_lt_succ (wordAt_lt segment offset)
  unfold ports? at h
  split at h
  · rename_i htcp
    rw [tcpPorts?_eq] at h
    simp only at h
    split at h
    · cases h
      exact ⟨hword 0, hword 2, Or.inl ⟨htcp, by simp only; omega⟩⟩
    · cases h
  · split at h
    · rename_i hudp
      rw [udpPorts?_eq] at h
      split at h
      · cases h
        exact ⟨hword 0, hword 2, Or.inr ⟨hudp, by simp only; omega⟩⟩
      · cases h
    · cases h

end TrafficMonitor.Packet
