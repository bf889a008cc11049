import TrafficMonitor.Analysis.Totals
import TrafficMonitor.Number.Total
import TrafficMonitor.Proofs.Packet.Captured

/-! Totals of captured packets. A header takes up bytes, so of a captured packet each layer holds
less than the one around it (`Record.Nested`), and the totals inherit that: row by row, because a
row adds up records that nest, and over whole tables, because a record counts on a level only if it
counts on the one around it. `Totals.Nested.add` is the step, and `nested_of_captured` what follows
for any choice of captured packets in any order. -/
namespace TrafficMonitor
open Time
open Number (total total_cons)

/-! ### Rows -/

namespace Rows
variable {α : Type} {name : String} {fresh : α} {change : α → α}

/-- The sum of a measure over all rows. -/
def sumOf (measure : α → Nat) (rows : Rows α) : Nat := total (rows.map fun row => measure row.2)

/-- What holds of a new row and is kept by the change is kept by all rows. -/
theorem forall_update {p : String × α → Prop} {rows : Rows α} (h : ∀ row ∈ rows, p row)
    (name : String) (hnew : p (name, change fresh))
    (hchange : ∀ a, p (name, a) → p (name, change a)) :
    ∀ row ∈ rows.update name fresh change, p row := by
  induction rows with
  | nil =>
    intro row hrow
    obtain rfl := List.mem_singleton.mp hrow
    exact hnew
  | cons first rest ih =>
    obtain ⟨hfirst, hrest⟩ := List.forall_mem_cons.mp h
    obtain ⟨other, a⟩ := first
    rw [update]
    split
    · rename_i hname
      subst hname
      exact List.forall_mem_cons.mpr ⟨hchange a hfirst, hrest⟩
    · split
      · exact List.forall_mem_cons.mpr ⟨hnew, h⟩
      · exact List.forall_mem_cons.mpr ⟨hfirst, ih hrest⟩

/-- A change that adds to a measure adds as much to its sum. -/
theorem sumOf_update (measure : α → Nat) {amount : Nat} (hfresh : measure fresh = 0)
    (hchange : ∀ a, measure (change a) = measure a + amount) (rows : Rows α) :
    (rows.update name fresh change).sumOf measure = rows.sumOf measure + amount := by
  induction rows with
  | nil => simp [update, sumOf, hchange, hfresh]
  | cons first rest ih =>
    obtain ⟨other, a⟩ := first
    simp only [sumOf] at ih
    rw [update]
    split
    · simp only [sumOf, List.map_cons, total_cons, hchange]
      omega
    · split
      · simp only [sumOf, List.map_cons, total_cons, hchange, hfresh]
        omega
      · simp only [sumOf, List.map_cons, total_cons, ih]
        omega

end Rows

/-! ### Records -/

/-- The layers of a record leave each other room for a header: the payload of the packet for the
20 bytes of an IPv4 header, and that of the segment for the 8 bytes of a UDP header. -/
structure Record.Nested (r : Record) : Prop where
  ip : ∀ p, r.ipPayload = some p → p.toNat + 20 ≤ r.length.toNat
  transport : ∀ p q, r.ipPayload = some p → r.transportPayload = some q → q.toNat + 8 ≤ p.toNat

/-- Captured bytes give a record that nests, whether or not they are a packet. -/
theorem Packet.nested_of_decode {data : Bytes} {time : Timestamp} {r : Record}
    (h : decode data time = some r) : r.Nested := by
  cases layers_of_decode h with
  | unread network ports =>
    constructor
    · intro p hp
      cases network.ipPayload.symm.trans hp
    · intro p q hp
      cases network.ipPayload.symm.trans hp
  | @packet _ _ payload network ports length =>
    have hpayload : ∀ p, r.ipPayload = some p → p.toNat = payload.length := by
      intro p hp
      simpa [hp] using network.ipPayload
    constructor
    · intro p hp
      rw [hpayload p hp]
      exact length
    · intro p q hp hq
      rw [hpayload p hp]
      rcases ports with lacks | ⟨found, has, fits⟩
      · cases lacks.transportPayload.symm.trans hq
      · have hfound : q.toNat = found.payload := by simpa [hq] using has.transportPayload
        rcases fits.payload with ⟨-, hroom⟩ | ⟨-, hroom⟩ <;> omega

/-! ### Totals -/

/-- The sum of the packets has room for the sum of their payloads and their headers. -/
def TransportTotals.Nested (t : TransportTotals) : Prop := t.bytes + 20 * t.packets ≤ t.ipBytes

/-- The sum of the IP payloads has room for that of the segments' payloads and their headers, and
the sum of the packets for that of the IP payloads and theirs. -/
def ApplicationTotals.Nested (t : ApplicationTotals) : Prop :=
  t.bytes + 8 * t.packets ≤ t.transportBytes ∧ t.transportBytes + 20 * t.packets ≤ t.ipBytes

/-- No layer outgrows the one around it, in any row and in the sums of the tables. -/
structure Totals.Nested (t : Totals) : Prop where
  transport : ∀ row ∈ t.transport, row.2.Nested
  application : ∀ row ∈ t.application, row.2.Nested
  transportPackets : t.transport.sumOf (·.packets) ≤ t.network.packets
  transportBytes : t.transport.sumOf (·.ipBytes) ≤ t.network.bytes
  applicationPackets : t.application.sumOf (·.packets) ≤ t.transport.sumOf (·.packets)
  applicationBytes : t.application.sumOf (·.transportBytes) ≤ t.transport.sumOf (·.bytes)

namespace Totals
variable {t : Totals} {r : Record} {p q : UInt16}

theorem nested_noTransport : TransportTotals.Nested {} := Nat.le_refl 0

theorem nested_noApplication : ApplicationTotals.Nested {} := ⟨Nat.le_refl 0, Nat.le_refl 0⟩

theorem nested_countTransport (h : p.toNat + 20 ≤ r.length.toNat) {a : TransportTotals}
    (ha : a.Nested) : (countTransport r p a).Nested := by
  simp only [TransportTotals.Nested, countTransport] at *
  omega

theorem nested_countApplication (hp : p.toNat + 20 ≤ r.length.toNat)
    (hq : q.toNat + 8 ≤ p.toNat) {a : ApplicationTotals} (ha : a.Nested) :
    (countApplication r p q a).Nested := by
  simp only [ApplicationTotals.Nested, countApplication] at *
  omega

/-- What a packet adds to the sums of the transport table. -/
theorem sumOf_countTransport (name : String) (r : Record) (p : UInt16)
    (rows : Rows TransportTotals) :
    let counted := rows.update name {} (countTransport r p)
    counted.sumOf (·.packets) = rows.sumOf (·.packets) + 1 ∧
      counted.sumOf (·.bytes) = rows.sumOf (·.bytes) + p.toNat ∧
      counted.sumOf (·.ipBytes) = rows.sumOf (·.ipBytes) + r.length.toNat :=
  ⟨Rows.sumOf_update TransportTotals.packets rfl (fun _ => rfl) rows,
    Rows.sumOf_update TransportTotals.bytes rfl (fun _ => rfl) rows,
    Rows.sumOf_update TransportTotals.ipBytes rfl (fun _ => rfl) rows⟩

/-- What a packet adds to the sums of the application table. -/
theorem sumOf_countApplication (name : String) (r : Record) (p q : UInt16)
    (rows : Rows ApplicationTotals) :
    let counted := rows.update name {} (countApplication r p q)
    counted.sumOf (·.packets) = rows.sumOf (·.packets) + 1 ∧
      counted.sumOf (·.transportBytes) = rows.sumOf (·.transportBytes) + p.toNat :=
  ⟨Rows.sumOf_update ApplicationTotals.packets rfl (fun _ => rfl) rows,
    Rows.sumOf_update ApplicationTotals.transportBytes rfl (fun _ => rfl) rows⟩

theorem nested_empty : Nested {} :=
  ⟨nofun, nofun, Nat.le_refl _, Nat.le_refl _, Nat.le_refl _, Nat.le_refl _⟩

/-- **A record that nests keeps the totals nested.** It adds to a table only if it adds as much to
the one around it. -/
theorem Nested.add (h : t.Nested) (hr : r.Nested) : (t.add r).Nested := by
  cases hp : r.ipPayload with
  | none =>
    simp only [Totals.add, hp]
    exact { h with
      transportPackets := Nat.le_succ_of_le h.transportPackets
      transportBytes := Nat.le_add_right_of_le h.transportBytes }
  | some p =>
    have hip := hr.ip p hp
    have htransport := Rows.forall_update h.transport r.transport.label
      (nested_countTransport hip nested_noTransport) fun _ => nested_countTransport hip
    obtain ⟨hpackets, hbytes, hipBytes⟩ := sumOf_countTransport r.transport.label r p t.transport
    cases hq : r.transportPayload with
    | none =>
      simp only [Totals.add, hp, hq]
      exact {
        transport := htransport
        application := h.application
        transportPackets := hpackets ▸ Nat.add_le_add_right h.transportPackets 1
        transportBytes := hipBytes ▸ Nat.add_le_add_right h.transportBytes r.length.toNat
        applicationPackets := hpackets ▸ Nat.le_succ_of_le h.applicationPackets
        applicationBytes := hbytes ▸ Nat.le_add_right_of_le h.applicationBytes }
    | some q =>
      have hsegment := hr.transport p q hp hq
      have happlication := Rows.forall_update h.application r.application.name
        (nested_countApplication hip hsegment nested_noApplication)
        fun _ => nested_countApplication hip hsegment
      obtain ⟨hpackets', hbytes'⟩ :=
        sumOf_countApplication r.application.name r p q t.application
      simp only [Totals.add, hp, hq]
      exact {
        transport := htransport
        application := happlication
        transportPackets := hpackets ▸ Nat.add_le_add_right h.transportPackets 1
        transportBytes := hipBytes ▸ Nat.add_le_add_right h.transportBytes r.length.toNat
        applicationPackets :=
          hpackets ▸ hpackets' ▸ Nat.add_le_add_right h.applicationPackets 1
        applicationBytes := hbytes ▸ hbytes' ▸ Nat.add_le_add_right h.applicationBytes p.toNat }

theorem Nested.addAll (h : t.Nested) {rs : List Record} (hrs : ∀ r ∈ rs, r.Nested) :
    (t.addAll rs).Nested := by
  induction rs generalizing t with
  | nil => exact h
  | cons r rest ih =>
    obtain ⟨hr, hrest⟩ := List.forall_mem_cons.mp hrs
    exact ih (h.add hr) hrest

/-- **The layers nest in the totals of captured packets**, whatever bytes were captured, whichever
of their records are counted, and in whatever order. -/
theorem nested_of_captured (captured : List (Packet.Bytes × Timestamp)) (kept rs : List Record)
    (hkept : kept.Sublist (captured.filterMap fun (data, time) => Packet.decode data time))
    (horder : rs.Perm kept) : (ofRecords rs).Nested := by
  refine nested_empty.addAll fun r hr => ?_
  have hdecoded := hkept.subset (horder.mem_iff.mp hr)
  obtain ⟨⟨data, time⟩, -, hdecode⟩ := List.mem_filterMap.mp hdecoded
  exact Packet.nested_of_decode hdecode

/-- A TCP packet whose length field was left at zero, a byte that is no packet and a UDP packet. The
records of the packets are counted, the later one first. -/
theorem nested_of_captured_reversed :
    let time : Timestamp := ⟨⟨63082281600000000, by decide⟩, 0⟩
    let hosts : Packet.Bytes := [10, 0, 0, 1, 10, 0, 0, 2]
    let tcp : Packet.Bytes := [0x45, 0, 0, 0, 0, 0, 0, 0, 64, 6, 0, 0] ++ hosts ++
      [192, 0, 0, 80, 0, 0, 0, 1, 0, 0, 0, 1, 0x50, 0x18, 4, 0, 0, 0, 0, 0] ++ [1, 2, 3]
    let udp : Packet.Bytes := [0x45, 0, 0, 33, 0, 0, 0, 0, 64, 17, 0, 0] ++ hosts ++
      [0, 53, 192, 0, 0, 13, 0, 0] ++ [1, 2, 3, 4, 5]
    let captured := [(tcp, time), ([0xff], time), (udp, time), ([], time)]
    let decoded := captured.filterMap fun (data, time) => Packet.decode data time
    let kept := decoded.filter (·.ipPayload.isSome)
    kept.Sublist decoded ∧ kept.reverse.Perm kept ∧ decoded.length = 3 ∧
      ofRecords kept.reverse = {
        network := ⟨2, 76⟩
        transport := [("TCP", ⟨1, 23, 43⟩), ("UDP", ⟨1, 13, 33⟩)]
        application := [("DNS", ⟨1, 5, 33, 13⟩), ("HTTP", ⟨1, 3, 43, 23⟩)] } ∧
      (ofRecords kept.reverse).Nested := by
  intro time hosts tcp udp captured decoded kept
  have hkept : kept.Sublist decoded := List.filter_sublist
  have horder : kept.reverse.Perm kept := List.reverse_perm kept
  exact ⟨hkept, horder, by decide +kernel, by decide +kernel,
    nested_of_captured captured kept kept.reverse hkept horder⟩

end Totals

end TrafficMonitor
