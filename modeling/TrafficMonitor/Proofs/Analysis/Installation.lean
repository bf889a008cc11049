import TrafficMonitor.Proofs.Analysis.CalendarEnd
import TrafficMonitor.Proofs.Analysis.Refiltering

/-! What the installation of a filter leaves behind. A text that is refused changes nothing. For
any other the filter is installed first, then the tables are made anew, and the chart comes last:
it has to reach up to the present, which has to be known, and every time that it is told needs a
window within the calendar (`Rebuildable`). Where that fails, filter and tables are those that were
asked for, and the chart is not theirs. So an installation is all or nothing exactly if the chart
can be rebuilt, or if there was nothing to change (`allOrNothing_iff_rebuildable`). -/
namespace TrafficMonitor
open Time

namespace Session
variable {s s' : Session} {clock : Clock} {filter : Option Filter}

/-! ### Charts that are made anew -/

/-- What a rebuild has the chart reach up to: the present during a capture, and its end after it. -/
def horizon (clock : Clock) (s : Session) : Except TimeError (Option Timestamp) :=
  if s.capturing then clock.now.map some else .ok s.finish

/-- A new chart of the records that pass, up to a time. After a capture its last window is
closed. -/
def fresh (passed : Option Timestamp) (s : Session) : Attempt TimeError Chart :=
  let chart := Chart.ofRecords s.chart.interval s.visible s.start passed
  if s.capturing then chart else chart.andThen (·.commit)

/-- The chart shows the records that pass, as a rebuild would. -/
def Charted (clock : Clock) (s : Session) : Prop :=
  ∃ passed, s.horizon clock = .ok passed ∧ (s.fresh passed).result = .ok s.chart

/-- The time to reach up to is known, and all times that the chart is told have windows, counted
from the start, or else from the first of them. -/
def Rebuildable (clock : Clock) (s : Session) : Prop :=
  ∃ passed, s.horizon clock = .ok passed ∧
    let times := Chart.Batch.times (s.visible, passed)
    ∀ origin ∈ s.start.or times.head?, ∀ time ∈ times, HasWindow origin s.chart.interval time

theorem rebuildChart_eq (clock : Clock) (s : Session) : s.rebuildChart clock =
    match s.horizon clock with
    | .error e => .stopped s (.time e)
    | .ok passed => (s.fresh passed).lift (fun chart => { s with chart }) .time := by
  rw [rebuildChart, horizon]
  split
  · rename_i hcapturing
    cases clock.now with
    | error e => rfl
    | ok now => simp only [onChart, Except.map, fresh, hcapturing, if_true,
        Chart.rebuild_eq_ofRecords]
  · rename_i hidle
    simp only [onChart, fresh, hidle, Bool.false_eq_true, if_false, Chart.rebuild_eq_ofRecords]

/-- A new chart fails only by a time without a window; closing its last window is no matter. -/
theorem failure_fresh (passed : Option Timestamp) (s : Session) :
    (s.fresh passed).failure = none ↔
      ∀ origin ∈ s.start.or (Chart.Batch.times (s.visible, passed)).head?,
        ∀ time ∈ Chart.Batch.times (s.visible, passed),
          HasWindow origin s.chart.interval time := by
  have hrebuilt := Chart.failure_rebuildThen_iff_hasWindow { interval := s.chart.interval } s.start
    (s.visible, passed) []
  have hcommit : (Chart.ofRecords s.chart.interval s.visible s.start passed).state.commit.failure =
      none := Chart.failure_commit (Chart.consistent_rebuild ..)
  rw [Chart.rebuildThen, show Chart.updates [] = Attempt.done from rfl, Attempt.andThen_done,
    List.flatMap_cons, List.flatMap_nil, List.append_nil] at hrebuilt
  rw [← hrebuilt, fresh]
  split
  · rfl
  · rw [Attempt.andThen_failure_eq_none, and_iff_left hcommit]
    rfl

theorem failure_rebuildChart (clock : Clock) (s : Session) :
    (s.rebuildChart clock).failure = none ↔ s.Rebuildable clock := by
  rw [rebuildChart_eq, Rebuildable]
  cases s.horizon clock with
  | error e => simp [Attempt.stopped]
  | ok passed => simp [Attempt.lift, failure_fresh]

/-- Of the chart before, a new one takes over the width of the windows alone. -/
theorem fresh_chart {chart : Chart} (h : chart.interval = s.chart.interval)
    (passed : Option Timestamp) : fresh passed { s with chart } = s.fresh passed := by
  simp only [fresh, h]
  rfl

/-- A chart that could be rebuilt is that of the records that pass. -/
theorem charted_rebuildChart (hdone : (s.rebuildChart clock).failure = none) :
    (s.rebuildChart clock).state.Charted clock := by
  have hinterval := interval_rebuildChart s clock
  rw [rebuildChart_eq] at hdone hinterval ⊢
  cases hhorizon : s.horizon clock with
  | error e =>
    rw [hhorizon] at hdone
    cases hdone
  | ok passed =>
    rw [hhorizon] at hdone hinterval
    have hfresh : (s.fresh passed).failure = none := Option.map_eq_none_iff.mp hdone
    have hsame : fresh passed { s with chart := (s.fresh passed).state } = s.fresh passed :=
      fresh_chart hinterval passed
    exact ⟨passed, hhorizon, (congrArg Attempt.result hsame).trans (Attempt.result_of_done hfresh)⟩

/-! ### Filters and tables -/

/-- The filter and the tables are those that were asked for, and all but the chart is as it was. -/
structure Refiltered (filter : Option Filter) (s s' : Session) : Prop where
  filter : s'.filter = filter
  totals : s'.totals = Totals.ofRecords s'.visible
  kept : { s' with filter := s.filter, totals := s.totals, chart := s.chart } = s

/-- A change of the chart alone keeps the rest. -/
theorem Refiltered.rebuildChart (h : s.Refiltered filter s') (clock : Clock) :
    s.Refiltered filter (s'.rebuildChart clock).state := by
  rw [rebuildChart_eq]
  split
  · exact h
  · exact ⟨h.filter, h.totals, h.kept⟩

/-- Whatever becomes of the chart, an accepted filter is installed, with its tables. -/
theorem refiltered_rebuild (clock : Clock) (filter : Option Filter) (s : Session) :
    s.Refiltered filter (rebuild clock { s with filter }).state :=
  have hbefore : s.Refiltered filter
      { s with filter, totals := Totals.ofRecords (visible { s with filter }) } := ⟨rfl, rfl, rfl⟩
  hbefore.rebuildChart clock

theorem failure_rebuild (clock : Clock) (s : Session) :
    (s.rebuild clock).failure = none ↔ s.Rebuildable clock :=
  failure_rebuildChart clock { s with totals := Totals.ofRecords s.visible }

/-- The same filter makes the same tables. -/
theorem Refiltered.eq_self (h : s.Refiltered filter s') (htables : s.TablesAgree)
    (hfilter : filter = s.filter) (hchart : s'.chart = s.chart) : s' = s := by
  have hsame : s'.filter = s.filter := h.filter.trans hfilter
  have hkept := h.kept
  have hrecords : s'.records = s.records := (congrArg Session.records hkept :)
  have htotals : s'.totals = s.totals := by
    rw [h.totals, visible_congr hrecords hsame]
    exact htables.totals.symm
  rw [← hsame, ← htotals, ← hchart] at hkept
  exact hkept

/-! ### All or nothing -/

/-- An installation that fails changes nothing, and one that returns has installed the filter that
was asked for, with its tables and its chart. -/
structure AllOrNothing (clock : Clock) (text : String) (s : Session) : Prop where
  nothing : (s.setFilter clock text).failure ≠ none → (s.setFilter clock text).state = s
  all : (s.setFilter clock text).failure = none → ∃ filter, requested clock.zone text = .ok filter ∧
    s.Refiltered filter (s.setFilter clock text).state ∧
    (s.setFilter clock text).state.Charted clock

section Installation
variable {text : String}

theorem setFilter_of_refused {e : TrafficMonitor.Filter.CompileError}
    (h : requested clock.zone text = .error e) :
    s.setFilter clock text = .stopped s (.compile e) := by
  rw [setFilter_eq, h]

theorem setFilter_of_accepted (h : requested clock.zone text = .ok filter) :
    s.setFilter clock text = rebuild clock { s with filter } :=
  apply_setFilter h s

theorem allOrNothing_of_refused {e : TrafficMonitor.Filter.CompileError}
    (h : requested clock.zone text = .error e) : s.AllOrNothing clock text := by
  constructor <;> rw [setFilter_of_refused h]
  · exact fun _ => rfl
  · intro hdone
    cases hdone

/-- An installation that fails with another filter than before is neither. -/
theorem not_allOrNothing (hfailed : (s.setFilter clock text).failure ≠ none)
    (hfilter : (s.setFilter clock text).state.filter ≠ s.filter) : ¬ s.AllOrNothing clock text :=
  fun hall => hfilter (congrArg Session.filter (hall.nothing hfailed))

/-- A filter that is accepted is installed as a whole if the chart can be rebuilt, and leaves the
session alone otherwise only if there was nothing to change. -/
theorem allOrNothing_of_accepted (htables : s.TablesAgree)
    (h : requested clock.zone text = .ok filter) :
    s.AllOrNothing clock text ↔ ({ s with filter } : Session).Rebuildable clock ∨
      filter = s.filter ∧ (s.setFilter clock text).state.chart = s.chart := by
  have hrefiltered : s.Refiltered filter (s.setFilter clock text).state := by
    rw [setFilter_of_accepted h]
    exact refiltered_rebuild clock filter s
  have hfailure : (s.setFilter clock text).failure = none ↔
      ({ s with filter } : Session).Rebuildable clock := by
    rw [setFilter_of_accepted h, failure_rebuild]
  constructor
  · intro hall
    rw [← hfailure]
    rcases Option.eq_none_or_eq_some (s.setFilter clock text).failure with hdone | ⟨e, he⟩
    · exact Or.inl hdone
    · have hsame := hall.nothing (by simp [he])
      refine Or.inr ⟨?_, by rw [hsame]⟩
      rw [← hrefiltered.filter, hsame]
  · intro hcases
    constructor
    · intro hfailed
      rcases hcases with hrebuildable | ⟨hfilter, hchart⟩
      · exact absurd (hfailure.mpr hrebuildable) hfailed
      · exact hrefiltered.eq_self htables hfilter hchart
    · intro hdone
      refine ⟨filter, h, hrefiltered, ?_⟩
      rw [setFilter_of_accepted h] at hdone ⊢
      exact charted_rebuildChart hdone

/-- **When the installation of a filter is all or nothing.** A text that is refused changes nothing
in any state that a session can reach. For any other, filter and tables are the new ones whatever
happens, and the installation returns exactly if the chart can be rebuilt. So it is all or nothing
exactly if the chart can be rebuilt, or the filter was the same already and so is the chart. -/
theorem allOrNothing_iff_rebuildable (interval : Interval) (steps : List (Clock × Change))
    (clock : Clock) (text : String) :
    let s := (new interval).run steps
    let after := s.setFilter clock text
    (∀ e, requested clock.zone text = .error e →
      after = .stopped s (.compile e) ∧ s.AllOrNothing clock text) ∧
    ∀ filter, requested clock.zone text = .ok filter →
      s.Refiltered filter after.state ∧
      (after.failure = none ↔ ({ s with filter } : Session).Rebuildable clock) ∧
      (s.AllOrNothing clock text ↔ ({ s with filter } : Session).Rebuildable clock ∨
        filter = s.filter ∧ after.state.chart = s.chart) := by
  intro s after
  have htables : s.TablesAgree := tablesAgree_run (tablesAgree_new interval) steps
  refine ⟨fun e hrefused => ⟨setFilter_of_refused hrefused, allOrNothing_of_refused hrefused⟩,
    fun filter haccepted => ⟨?_, ?_, allOrNothing_of_accepted htables haccepted⟩⟩
  · simp only [after, setFilter_of_accepted haccepted]
    exact refiltered_rebuild clock filter s
  · simp only [after, setFilter_of_accepted haccepted]
    exact failure_rebuild clock { s with filter }

end Installation

/-- A filter is installed in the third second of a capture. -/
theorem allOrNothing_fiveBytes :
    let interval : Interval := ⟨1000000, by decide⟩
    let long : Record := { fiveBytesAt (midnight 1000000 (by decide)) with length := 60 }
    let short := fiveBytesAt (midnight 2200000 (by decide))
    let steps := [(thirdSecond, Change.begin (some (.fixed (midnight 0 (by decide))))),
      (thirdSecond, .ingest long), (thirdSecond, .ingest short)]
    let s := (new interval).run steps
    let after := s.setFilter thirdSecond "len == 5"
    requested thirdSecond.zone "len == 5" = .ok (some fiveBytes) ∧
      s.totals.network = ⟨2, 65⟩ ∧ s.AllOrNothing thirdSecond "len == 5" ∧ after.failure = none ∧
      after.state.filter = some fiveBytes ∧ after.state.totals.network = ⟨1, 5⟩ ∧
      after.state.chart.windows = [⟨0, 0⟩, ⟨0, 0⟩, ⟨1, 5⟩] := by
  intro interval long short steps s after
  have hrequested := requested_fiveBytes thirdSecond.zone
  obtain ⟨-, haccepted⟩ := allOrNothing_iff_rebuildable interval steps thirdSecond "len == 5"
  obtain ⟨hrefiltered, hfailure, hall⟩ := haccepted _ hrequested
  have hrebuildable : ({ s with filter := some fiveBytes } : Session).Rebuildable thirdSecond :=
    ⟨some (midnight 2500000 (by decide)), rfl, by decide +kernel⟩
  have hafter : after = rebuild thirdSecond { s with filter := some fiveBytes } :=
    setFilter_of_accepted hrequested
  refine ⟨hrequested, by decide +kernel, hall.mpr (Or.inl hrebuildable), hfailure.mpr hrebuildable,
    hrefiltered.filter, ?_, ?_⟩
  · rw [hafter]
    decide +kernel
  · rw [hafter]
    decide +kernel

/-- The two ways for an installation to be left half done. A filter that hid a packet from the last
second of the calendar is removed: the packet is in the tables then, but has no window. Or a filter
is installed in the evening of the last day, in a capture, when the present is not known. -/
theorem installation_half_done :
    let interval : Interval := ⟨1000000, by decide⟩
    let time : Timestamp := ⟨⟨span - 500000, by decide⟩, 0⟩
    let last : Record := { time, length := 100, transport := .tcp }
    let hidden :=
      (new interval).run [(thirdSecond, .setFilter "len == 5"), (thirdSecond, .ingest last)]
    let shown := hidden.setFilter thirdSecond ""
    let evening : Clock := ⟨⟨28800⟩, .error (.yearOutOfRange 10000)⟩
    let capture := (new interval).run ((lastDay "").take 2)
    let filtered := capture.setFilter evening "len == 5"
    (requested thirdSecond.zone "" = .ok none ∧ shown.failure = some (.time .overflow) ∧
      hidden.filter = some fiveBytes ∧ shown.state.filter = none ∧
      hidden.totals.network = ⟨0, 0⟩ ∧ shown.state.totals.network = ⟨1, 100⟩ ∧
      shown.state.chart.windows = [⟨0, 0⟩] ∧ ¬ hidden.AllOrNothing thirdSecond "") ∧
    (requested evening.zone "len == 5" = .ok (some fiveBytes) ∧
      filtered.failure = some (.time (.yearOutOfRange 10000)) ∧
      capture.filter = none ∧ filtered.state.filter = some fiveBytes ∧
      capture.totals.network = ⟨1, 100⟩ ∧ filtered.state.totals.network = ⟨0, 0⟩ ∧
      filtered.state.chart = capture.chart ∧ ¬ capture.AllOrNothing evening "len == 5") := by
  intro interval time last hidden shown evening capture filtered
  have hhidden : hidden = (ingest last
      (rebuild thirdSecond { new interval with filter := some fiveBytes }).state).state := by
    show (ingest last (setFilter thirdSecond "len == 5" (new interval)).state).state = _
    rw [setFilter_of_accepted (requested_fiveBytes thirdSecond.zone)]
  have hshown : shown = rebuild thirdSecond { hidden with filter := none } :=
    setFilter_of_accepted rfl
  have hrequested := requested_fiveBytes evening.zone
  have hfiltered : filtered = rebuild evening { capture with filter := some fiveBytes } :=
    setFilter_of_accepted hrequested
  rw [hhidden] at hshown
  have hfirst : shown.failure = some (.time .overflow) ∧ hidden.filter = some fiveBytes ∧
      shown.state.filter = none ∧ hidden.totals.network = ⟨0, 0⟩ ∧
      shown.state.totals.network = ⟨1, 100⟩ ∧ shown.state.chart.windows = [⟨0, 0⟩] := by
    rw [hshown, hhidden]
    decide +kernel
  have hsecond : filtered.failure = some (.time (.yearOutOfRange 10000)) ∧
      capture.filter = none ∧ filtered.state.filter = some fiveBytes ∧
      capture.totals.network = ⟨1, 100⟩ ∧ filtered.state.totals.network = ⟨0, 0⟩ ∧
      filtered.state.chart = capture.chart := by
    rw [hfiltered]
    decide +kernel
  obtain ⟨hshownFailure, hbefore, hafter, hbytes, hbytes', hwindows⟩ := hfirst
  obtain ⟨hfilteredFailure, hnone, hsome, htotals, htotals', hchart⟩ := hsecond
  refine ⟨⟨rfl, hshownFailure, hbefore, hafter, hbytes, hbytes', hwindows, not_allOrNothing ?_ ?_⟩,
    hrequested, hfilteredFailure, hnone, hsome, htotals, htotals', hchart, not_allOrNothing ?_ ?_⟩
  · exact fun hdone => by cases hshownFailure.symm.trans hdone
  · exact fun hsame => by cases (hafter.symm.trans hsame).trans hbefore
  · exact fun hdone => by cases hfilteredFailure.symm.trans hdone
  · exact fun hsame => by cases (hsome.symm.trans hsame).trans hnone

end Session

end TrafficMonitor
