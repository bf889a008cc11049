import TrafficMonitor.Proofs.Analysis.Windows
import TrafficMonitor.Analysis.Totals

/-! The traffic of a whole chart. Summed over all its buckets, a chart holds one packet for each
record it was given and the lengths of all of them: windows are closed without loss
(`traffic_advance`, `traffic_commit`), and an update adds the traffic of its records
(`traffic_update`). The network totals count the same (`network_addAll`). -/
namespace TrafficMonitor
open Time
open Number (total total_append)

/-! ### Sums of buckets -/

namespace Bucket

/-- The traffic of several windows together. -/
def sum (bs : List Bucket) : Bucket := ⟨total (bs.map (·.packets)), total (bs.map (·.bytes))⟩

/-- The traffic of two windows, or of one at two times. -/
def plus (a b : Bucket) : Bucket := ⟨a.packets + b.packets, a.bytes + b.bytes⟩

@[simp] theorem plus_empty (a : Bucket) : a.plus {} = a := rfl

@[simp] theorem empty_plus (a : Bucket) : plus {} a = a := by simp [plus]

theorem plus_assoc (a b c : Bucket) : (a.plus b).plus c = a.plus (b.plus c) := by
  simp [plus, Nat.add_assoc]

theorem sum_append (as bs : List Bucket) : sum (as ++ bs) = (sum as).plus (sum bs) := by
  simp [sum, plus, total_append]

@[simp] theorem sum_singleton (b : Bucket) : sum [b] = b := by simp [sum]

@[simp] theorem sum_replicate (n : Nat) : sum (List.replicate n {}) = {} := by
  induction n with
  | zero => rfl
  | succ n ih => simpa [List.replicate_succ, sum] using ih

theorem eq_empty_of_isEmpty {b : Bucket} (h : b.isEmpty = true) : b = {} := by
  obtain ⟨packets, bytes⟩ := b
  simp_all [isEmpty]

theorem add_eq_plus (b : Bucket) (r : Record) : b.add r = b.plus (ofRecords [r]) := by
  simp [add, plus, ofRecords]

theorem ofRecords_cons (r : Record) (rest : List Record) :
    ofRecords (r :: rest) = (ofRecords [r]).plus (ofRecords rest) := by
  simp [ofRecords, plus, Nat.add_comm]

end Bucket

/-! ### The traffic of a chart -/

namespace Chart
variable {c : Chart} {f : Frame}

/-- The packets and bytes of all buckets. -/
def traffic (c : Chart) : Bucket := Bucket.sum c.buckets.toList

/-- An open window that is left out for being empty holds nothing. -/
theorem traffic_eq (c : Chart) : c.traffic = Bucket.sum c.windows := by
  unfold traffic buckets windows
  split
  · rename_i h
    simp [Bucket.sum_append, Bucket.eq_empty_of_isEmpty h]
  · simp

@[simp] theorem traffic_clear (c : Chart) : c.clear.traffic = {} := rfl

@[simp] theorem traffic_anchor (c : Chart) (time : Timestamp) :
    (c.anchor time).traffic = c.traffic := rfl

@[simp] theorem traffic_anchored (c : Chart) (first : Timestamp) :
    (c.anchored first).traffic = c.traffic := by
  unfold anchored
  split
  · rfl
  · exact traffic_anchor c first

@[simp] theorem traffic_restart (c : Chart) (time : Timestamp) :
    (c.restart time).traffic = {} := rfl

@[simp] theorem traffic_settle (c : Chart) : c.settle.traffic = c.traffic := rfl

@[simp] theorem traffic_extend (c : Chart) (time : Timestamp) :
    (c.extend time).traffic = c.traffic := by
  unfold extend
  repeat' split
  all_goals rfl

@[simp] theorem traffic_close {n : Nat} {h : n ≤ f.room c.interval} :
    (c.close f n h).traffic = c.traffic := by
  rw [traffic_eq, traffic_eq, windows_close, Bucket.sum_append, Bucket.sum_replicate,
    Bucket.plus_empty]

@[simp] theorem traffic_advance (c : Chart) (time : Timestamp) :
    (c.advance time).state.traffic = c.traffic := by
  unfold advance
  split
  · rfl
  · split
    · exact traffic_close
    · exact traffic_close

@[simp] theorem traffic_count (c : Chart) (r : Record) :
    (c.count r).traffic = c.traffic.plus (.ofRecords [r]) := by
  rw [traffic_eq, traffic_eq]
  show Bucket.sum (c.closed.toList ++ [c.current.add r]) = _
  rw [windows, Bucket.sum_append, Bucket.sum_append, Bucket.sum_singleton, Bucket.sum_singleton,
    Bucket.add_eq_plus, Bucket.plus_assoc]

/-- Closing the open window early loses nothing, even where the calendar ends. -/
@[simp] theorem traffic_commit (c : Chart) : c.commit.state.traffic = c.traffic := by
  unfold commit
  split
  · rfl
  · split
    · rfl
    · split
      · exact traffic_close
      · simp [Attempt.stopped, traffic_eq, windows, Bucket.sum, total_append]

theorem traffic_each {records : List Record}
    (hdone : (Attempt.each add records c).failure = none) :
    (Attempt.each add records c).state.traffic = c.traffic.plus (.ofRecords records) := by
  induction records generalizing c with
  | nil => rfl
  | cons r rest ih =>
    obtain ⟨hadd, hrest⟩ := Attempt.andThen_failure_eq_none.mp hdone
    obtain ⟨hadvance, -⟩ := Attempt.andThen_failure_eq_none.mp hadd
    rw [Attempt.each, Attempt.state_andThen hadd, ih hrest, add, Attempt.state_andThen hadvance,
      Attempt.state_done, traffic_count, traffic_advance, Bucket.plus_assoc,
      ← Bucket.ofRecords_cons]

/-- An update that does not fail adds the traffic of its records. -/
theorem traffic_update {records : List Record} {passed : Option Timestamp}
    (hdone : (c.update records passed).failure = none) :
    (c.update records passed).state.traffic = c.traffic.plus (.ofRecords records) := by
  cases hfirst : (records.head?.map (·.time)).or passed with
  | none =>
    obtain ⟨rfl, rfl, hupdate⟩ := update_eq_done (c := c) hfirst
    rw [hupdate]
    rfl
  | some first =>
    obtain ⟨heach, -, hstate⟩ := state_update hfirst hdone
    have htraffic := traffic_each heach
    rw [traffic_anchored] at htraffic
    rw [hstate, traffic_settle]
    cases passed with
    | none => exact htraffic
    | some t => exact (traffic_advance ..).trans htraffic

/-- A rebuild that does not fail holds the traffic of its records. -/
theorem traffic_rebuild {records : List Record} {first passed : Option Timestamp}
    (hdone : (c.rebuild records first passed).failure = none) :
    (c.rebuild records first passed).state.traffic = .ofRecords records := by
  obtain ⟨hupdate, hstate⟩ := state_rebuild hdone
  have htraffic := traffic_update hupdate
  have hempty : (first.elim c.clear c.restart).traffic = {} := by
    cases first <;> simp
  rw [hempty, Bucket.empty_plus] at htraffic
  rw [hstate]
  cases passed with
  | none => exact htraffic
  | some t => exact (traffic_extend ..).trans htraffic

end Chart

/-! ### The network totals -/

/-- The network totals as the traffic of one window. -/
def NetworkTotals.traffic (t : NetworkTotals) : Bucket := ⟨t.packets, t.bytes⟩

theorem NetworkTotals.eq_of_traffic {a b : NetworkTotals} (h : a.traffic = b.traffic) : a = b := by
  cases a
  cases b
  cases h
  rfl

theorem Totals.network_addAll (t : Totals) (records : List Record) :
    (t.addAll records).network.traffic = t.network.traffic.plus (.ofRecords records) := by
  induction records generalizing t with
  | nil => rfl
  | cons r rest ih =>
    rw [Totals.addAll, List.foldl_cons, ← Totals.addAll, ih, Bucket.ofRecords_cons,
      ← Bucket.plus_assoc]
    rfl

end TrafficMonitor
