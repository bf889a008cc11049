import TrafficMonitor.Analysis.Session
import TrafficMonitor.Proofs.Analysis.Consistency
import TrafficMonitor.Proofs.Analysis.Spread

/-! Charts near the end of the calendar. The open window must end within the calendar, so a chart
cannot take a time in a window that does not. That is the only way for it to fail, and it is known
from the origin and the width alone which times those are (`HasWindow`): `failure_updates` says it
of updates one after another, and `unfailing_iff_hasWindow` of a chart that is rebuilt, updated and
committed. Closing the open window early never fails. -/
namespace TrafficMonitor
open Time

/-- The window of a time, counted from an origin, ends within the calendar. -/
def HasWindow (origin : Timestamp) (width : Interval) (time : Timestamp) : Prop :=
  origin.clock.micros +
    (((time.instant - origin.instant) / width.micros).toNat + 1) * width.micros < span

instance (origin : Timestamp) (width : Interval) (time : Timestamp) :
    Decidable (HasWindow origin width time) := inferInstanceAs (Decidable (_ < _))

theorem Frame.fits_iff_hasWindow {origin : Timestamp} {width : Interval} {time : Timestamp} :
    Frame.Fits ⟨origin, origin⟩ width time ↔ HasWindow origin width time := by
  have hspan := origin.clock.inSpan
  rw [Fits, room, passed, HasWindow, Nat.lt_iff_add_one_le, Nat.le_div_iff_mul_le width.positive]
  dsimp only
  omega

/-- A time has a window if it lies a width before the end of the calendar, on the clock of the
origin, and so does the origin. -/
theorem hasWindow_of_margin {origin : Timestamp} {width : Interval} {time : Timestamp}
    (horigin : origin.clock.micros + width.micros < span)
    (htime : origin.clock.micros + (time.instant - origin.instant) + width.micros < span) :
    HasWindow origin width time := by
  have hw : (0 : Int) < width.micros := by exact_mod_cast width.positive
  have hle := Int.ediv_mul_le (time.instant - origin.instant) (Int.ne_of_gt hw)
  rw [HasWindow, Nat.add_mul, Nat.one_mul]
  generalize hq : (time.instant - origin.instant) / width.micros = q at *
  rcases Int.le_total q 0 with hneg | hpos
  · rw [Int.toNat_of_nonpos hneg]
    omega
  · have hcast : ((q.toNat * width.micros : Nat) : Int) = q * width.micros := by
      rw [Int.natCast_mul, Int.toNat_of_nonneg hpos]
    omega

namespace Chart
variable {c : Chart} {f : Frame}

/-- Records to count, and a time that has passed then. -/
abbrev Batch := List Record × Option Timestamp

/-- The times that a batch tells. -/
def Batch.times (b : Batch) : List Timestamp := b.1.map (·.time) ++ b.2.toList

/-- Updates one after another, up to the first that fails. -/
def updates (batches : List Batch) (c : Chart) : Attempt TimeError Chart :=
  Attempt.each (fun b => update b.1 b.2) batches c

theorem head?_times (b : Batch) : b.times.head? = (b.1.head?.map (·.time)).or b.2 := by
  obtain ⟨_ | ⟨r, rest⟩, _ | passed⟩ := b <;> rfl

theorem failure_update_batch (hf : c.frame = some f) (b : Batch) :
    (c.update b.1 b.2).failure = none ↔ ∀ t ∈ b.times, f.Fits c.interval t := by
  rw [failure_update hf, Batch.times, List.forall_mem_append, List.forall_mem_map]
  simp only [Option.mem_toList, Option.mem_def]

/-- An anchored chart takes updates for as long as every time has its window. -/
theorem failure_updates_anchored (hf : c.frame = some f) (batches : List Batch) :
    (updates batches c).failure = none ↔
      ∀ t ∈ batches.flatMap Batch.times, f.Fits c.interval t := by
  induction batches generalizing c f with
  | nil => simp [updates, Attempt.each]
  | cons b rest ih =>
    rw [updates, Attempt.each, Attempt.andThen_failure_eq_none, List.flatMap_cons,
      List.forall_mem_append, failure_update_batch hf]
    refine and_congr_right fun hfits => ?_
    have hdone := (failure_update_batch hf b).mpr hfits
    obtain ⟨g, hg, hfollows⟩ := frame_update hf (Attempt.result_of_done hdone)
    have hrest := ih hg
    rw [updates, interval_update_state] at hrest
    rw [hrest]
    simp only [hfollows.fits_iff]

/-- **Updates fail only by a time without a window**, counted from the origin of the chart, or else
from the first time that it is told. -/
theorem failure_updates (c : Chart) (batches : List Batch) :
    (updates batches c).failure = none ↔
      ∀ f ∈ c.frame.or ((batches.flatMap Batch.times).head?.map fun t => ⟨t, t⟩),
        ∀ t ∈ batches.flatMap Batch.times, f.Fits c.interval t := by
  cases hf : c.frame with
  | some f => simpa using failure_updates_anchored hf batches
  | none =>
    induction batches with
    | nil => simp [updates, Attempt.each]
    | cons b rest ih =>
      cases hfirst : b.times.head? with
      | none =>
        have hempty : b.times = [] := List.head?_eq_none_iff.mp hfirst
        have hdone : c.update b.1 b.2 = .done c :=
          (update_eq_done (by rw [← head?_times, hfirst])).2.2
        rw [updates, Attempt.each, hdone, Attempt.done_andThen, List.flatMap_cons, hempty]
        exact ih
      | some first =>
        have hanchor : updates (b :: rest) c = updates (b :: rest) (c.anchor first) := by
          rw [updates, updates, Attempt.each, Attempt.each,
            update_anchor hf (by rw [← head?_times, hfirst])]
        rw [hanchor, failure_updates_anchored rfl, List.flatMap_cons, List.head?_append, hfirst]
        simp [anchor]

/-- Whether updates fail is known from the frame and the width. -/
theorem failure_updates_congr {c' : Chart} (hframe : c.frame = c'.frame)
    (hinterval : c.interval = c'.interval) (batches : List Batch) :
    (updates batches c).failure = none ↔ (updates batches c').failure = none := by
  rw [failure_updates, failure_updates, hframe, hinterval]

/-- A rebuild from a batch and a start, and then updates. -/
def rebuildThen (start : Option Timestamp) (b : Batch) (more : List Batch) (c : Chart) :
    Attempt TimeError Chart :=
  (c.rebuild b.1 start b.2).andThen (updates more)

/-- A rebuild with updates behind it fails as the updates of an empty chart do, the first of them
with the batch that the chart is rebuilt from. -/
theorem failure_rebuildThen (c : Chart) (start : Option Timestamp) (b : Batch)
    (more : List Batch) : (c.rebuildThen start b more).failure = none ↔
      (updates (b :: more) (start.elim c.clear fun time => c.restart time)).failure = none := by
  rw [rebuildThen, rebuild, Attempt.andThen_assoc]
  simp only [Attempt.done_andThen]
  rw [updates, Attempt.each, Attempt.andThen_failure_eq_none, Attempt.andThen_failure_eq_none]
  -- What is left is that the end of the record of time decides nothing.
  refine and_congr_right fun _ => failure_updates_congr ?_ ?_ more
  · cases b.2 with
    | none => rfl
    | some time =>
      rw [Option.elim_some, extend_eq_dated]
      rfl
  · cases b.2 with
    | none => rfl
    | some time => exact interval_extend _ time

/-- A rebuild and the updates behind it succeed exactly if every time they are told has its
window. -/
theorem failure_rebuildThen_iff_hasWindow (c : Chart) (start : Option Timestamp) (b : Batch)
    (more : List Batch) : (c.rebuildThen start b more).failure = none ↔
      ∀ origin ∈ start.or ((b :: more).flatMap Batch.times).head?,
        ∀ time ∈ (b :: more).flatMap Batch.times, HasWindow origin c.interval time := by
  rw [failure_rebuildThen, failure_updates]
  cases start with
  | none =>
    simp only [← Frame.fits_iff_hasWindow, Option.elim_none, Option.none_or]
    cases ((b :: more).flatMap Batch.times).head? <;> simp [clear]
  | some origin => simp [← Frame.fits_iff_hasWindow, restart, anchor, clear]

/-- A chart does not fail where every time lies a width before the end of the calendar, on the clock
of the origin. -/
theorem failure_rebuildThen_of_margin {start : Option Timestamp} {b : Batch} {more : List Batch}
    (h : ∀ origin ∈ start.or ((b :: more).flatMap Batch.times).head?,
      origin.clock.micros + c.interval.micros < span ∧
        ∀ time ∈ (b :: more).flatMap Batch.times,
          origin.clock.micros + (time.instant - origin.instant) + c.interval.micros < span) :
    (c.rebuildThen start b more).failure = none := by
  refine (failure_rebuildThen_iff_hasWindow c start b more).mpr fun origin horigin time htime => ?_
  obtain ⟨hroom, htimes⟩ := h origin horigin
  exact hasWindow_of_margin hroom (htimes time htime)

theorem consistent_rebuildThen (c : Chart) (start : Option Timestamp) (b : Batch)
    (more : List Batch) : (c.rebuildThen start b more).state.Consistent :=
  Attempt.state_andThen_of (consistent_rebuild c b.1 start b.2) fun _ hrebuilt =>
    Attempt.state_each_of (P := Consistent) (fun b _ hc => consistent_update hc b.1 b.2)
      hrebuilt more

/-- **A chart fails only by a time without a window.** A rebuild and the updates behind it all
succeed exactly if every time they are told has its window within the calendar, counted from the
origin: the start, or else the first time told. The open window can be closed in any case. -/
theorem unfailing_iff_hasWindow (c : Chart) (start : Option Timestamp) (b : Batch)
    (more : List Batch) :
    ((c.rebuildThen start b more).failure = none ↔
      ∀ origin ∈ start.or ((b :: more).flatMap Batch.times).head?,
        ∀ time ∈ (b :: more).flatMap Batch.times, HasWindow origin c.interval time) ∧
      (c.rebuildThen start b more).state.commit.failure = none :=
  ⟨failure_rebuildThen_iff_hasWindow c start b more,
    failure_commit (consistent_rebuildThen c start b more)⟩

/-- A record half a second before the end of the calendar has no window of a second, and no record
of the year 2000 has one of twelve thousand years, though settings accept either width. So a chart
can fail when it is rebuilt, and when it is updated. -/
theorem overflows_at_calendar_end :
    let record (micros : Nat) (h : micros < span) : Record :=
      { time := ⟨⟨micros, h⟩, 0⟩, length := 100, transport := .tcp }
    let ordinary := record 63082281600000000 (by decide)
    let eve := record (span - 2500000) (by decide)
    let last := record (span - 500000) (by decide)
    let second : Interval := ⟨1000000, by decide⟩
    let ages : Interval := ⟨378432000000000000, by decide⟩
    (Settings.check {} = .ok second ∧
      (rebuild [last] none none { interval := second }).failure = some .overflow ∧
      (rebuild [eve] none none { interval := second }).failure = none ∧
      (rebuildThen none ([eve], none) [([last], none)] { interval := second }).failure =
        some .overflow) ∧
    (Settings.check { sample := 378432000000000 } = .ok ages ∧
      (rebuild [ordinary] none none { interval := ages }).failure = some .overflow) := by
  intro record ordinary eve last second ages
  exact ⟨⟨rfl, by decide +kernel, by decide +kernel, by decide +kernel⟩, rfl, by decide +kernel⟩

end Chart

end TrafficMonitor
