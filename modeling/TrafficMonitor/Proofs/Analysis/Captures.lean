import TrafficMonitor.Proofs.Analysis.Latecomers
import TrafficMonitor.Proofs.Analysis.Views

/-! Captures from their beginning to their end. What a change during a capture leaves alone is
said once for all changes (`continues_apply`). The chart of a capture is determined by its last
rebuild (`Rebuilt`): the records after that were given to it one by one, and every change keeps
this (`underway_apply`). `resumed_run_capture` is what follows for the chart at the end. -/
namespace TrafficMonitor
open Time

namespace Session
variable {s : Session} {clock : Clock}

/-! ### What changes leave alone -/

/-- Neither begins nor ends a capture, nor clears the chart. -/
def Change.Within : Change → Prop
  | .begin _ | .stop _ | .clearChart => False
  | .ingest _ | .setFilter _ | .setMode _ | .rebuild | .rebuildChart => True

/-- The record that a change adds to the history. -/
def Change.records : Change → List Record
  | .ingest r => [r]
  | _ => []

/-- The records that changes add to the history. -/
def ingested (steps : List (Clock × Change)) : List Record := steps.flatMap (·.2.records)

/-- The filter alone says which records pass. -/
theorem matches_congr {s' : Session} (h : s.filter = s'.filter) : s.matches? = s'.matches? := by
  funext r
  rw [matches?, matches?, h]

/-- The same capture, with more records. -/
structure Continues (s s' : Session) (more : List Record) : Prop where
  capturing : s'.capturing = s.capturing
  start : s'.start = s.start
  finish : s'.finish = s.finish
  records : s'.records = s.records ++ more

theorem Continues.refl (s : Session) : s.Continues s [] := ⟨rfl, rfl, rfl, by simp⟩

theorem Continues.trans {s s' s'' : Session} {a b : List Record} (h : s.Continues s' a)
    (h' : s'.Continues s'' b) : s.Continues s'' (a ++ b) :=
  ⟨h'.capturing.trans h.capturing, h'.start.trans h.start, h'.finish.trans h.finish,
    by rw [h'.records, h.records, List.append_assoc]⟩

theorem continues_rebuildChart (s : Session) (clock : Clock) :
    s.Continues (s.rebuildChart clock).state [] := by
  unfold rebuildChart
  repeat' split
  all_goals exact ⟨rfl, rfl, rfl, (List.append_nil _).symm⟩

theorem continues_apply {change : Change} (h : change.Within) (clock : Clock) (s : Session) :
    s.Continues (s.apply clock change).state change.records := by
  cases change with
  | begin given => cases h
  | stop given => cases h
  | ingest r =>
    rw [apply, ingest_eq]
    split <;> exact ⟨rfl, rfl, rfl, rfl⟩
  | setFilter text =>
    rw [apply, setFilter_eq]
    split
    · exact .refl s
    · rename_i filter _
      have hrebuild := continues_rebuildChart
        { s with filter, totals := Totals.ofRecords ({ s with filter } : Session).visible } clock
      exact ⟨hrebuild.capturing, hrebuild.start, hrebuild.finish, hrebuild.records⟩
  | setMode mode =>
    rw [apply, setMode]
    split
    · have hrebuild := continues_rebuildChart { s with mode } clock
      exact ⟨hrebuild.capturing, hrebuild.start, hrebuild.finish, hrebuild.records⟩
    · exact ⟨rfl, rfl, rfl, (List.append_nil _).symm⟩
  | rebuild =>
    have hrebuild := continues_rebuildChart { s with totals := Totals.ofRecords s.visible } clock
    exact ⟨hrebuild.capturing, hrebuild.start, hrebuild.finish, hrebuild.records⟩
  | rebuildChart => exact continues_rebuildChart s clock
  | clearChart => cases h

theorem continues_run {steps : List (Clock × Change)} (h : ∀ step ∈ steps, step.2.Within)
    (s : Session) : s.Continues (s.run steps) (ingested steps) := by
  induction steps generalizing s with
  | nil => exact .refl s
  | cons step rest ih =>
    obtain ⟨hstep, hrest⟩ := List.forall_mem_cons.mp h
    exact (continues_apply hstep step.1 s).trans (ih hrest _)

theorem interval_rebuildChart (s : Session) (clock : Clock) :
    (s.rebuildChart clock).state.chart.interval = s.chart.interval := by
  unfold rebuildChart
  split
  · split
    · rfl
    · exact Chart.interval_rebuild ..
  · exact Attempt.state_andThen_of (P := fun c : Chart => c.interval = s.chart.interval)
      (Chart.interval_rebuild ..) fun c hc => (Chart.interval_commit c).trans hc

/-- The width of the windows stays. -/
theorem interval_apply (clock : Clock) (change : Change) (s : Session) :
    (s.apply clock change).state.chart.interval = s.chart.interval := by
  cases change with
  | begin given =>
    rw [apply, begin]
    split <;> rfl
  | stop given =>
    rw [apply, stop]
    split
    · rfl
    · exact Attempt.state_andThen_of (P := fun c : Chart => c.interval = s.chart.interval)
        (Chart.interval_update_state ..)
        fun c hc => (Chart.interval_commit _).trans ((Chart.interval_extend c _).trans hc)
  | ingest r =>
    rw [apply, ingest_eq]
    split
    · exact Chart.interval_update_state ..
    · rfl
  | setFilter text =>
    rw [apply, setFilter_eq]
    split
    · rfl
    · exact interval_rebuildChart ..
  | setMode mode =>
    rw [apply, setMode]
    split
    · exact interval_rebuildChart ..
    · rfl
  | rebuild => exact interval_rebuildChart ..
  | rebuildChart => exact interval_rebuildChart ..
  | clearChart => rfl

theorem interval_run (steps : List (Clock × Change)) (s : Session) :
    (s.run steps).chart.interval = s.chart.interval := by
  induction steps generalizing s with
  | nil => rfl
  | cons step rest ih => exact (ih _).trans (interval_apply step.1 step.2 s)

/-! ### Runs that fit into the calendar -/

/-- No change of the run overflows. -/
def WithinCalendar (s : Session) : List (Clock × Change) → Prop
  | [] => True
  | (clock, change) :: rest =>
    (s.apply clock change).failure ≠ some (.time .overflow) ∧
      WithinCalendar (s.apply clock change).state rest

theorem withinCalendar_append {a b : List (Clock × Change)} :
    s.WithinCalendar (a ++ b) ↔ s.WithinCalendar a ∧ (s.run a).WithinCalendar b := by
  induction a generalizing s with
  | nil => simp [WithinCalendar, run]
  | cons step rest ih => simp only [List.cons_append, WithinCalendar, run, ih, and_assoc]

/-! ### Captures -/

/-- A capture: how it was begun, what was done meanwhile, and how it was ended. -/
structure Capture where
  begun : Clock × Option Moment
  meanwhile : List (Clock × Change)
  ended : Clock × Option Moment

namespace Capture

/-- The capture as a run. -/
def steps (p : Capture) : List (Clock × Change) :=
  (p.begun.1, .begin p.begun.2) :: (p.meanwhile ++ [(p.ended.1, .stop p.ended.2)])

/-- The capture began and ended at these times and ingested these records, and meanwhile only
`allowed` changes were made. -/
structure Spans (p : Capture) (start finish : Timestamp) (records : List Record)
    (allowed : Change → Prop) : Prop where
  begun : timeOr p.begun.1 p.begun.2 = .ok start
  ended : timeOr p.ended.1 p.ended.2 = .ok finish
  records : ingested p.meanwhile = records
  allowed : ∀ step ∈ p.meanwhile, allowed step.2

end Capture

variable {start finish : Timestamp} {records : List Record}

/-- The session right after a capture was begun. -/
def opened (start : Timestamp) (s : Session) : Session :=
  { s with
    capturing := true, records := [], start := some start, finish := none
    totals := {}, chart := s.chart.restart start }

theorem apply_begin {given : Option Moment} (h : timeOr clock given = .ok start) (s : Session) :
    s.apply clock (.begin given) = .done (s.opened start) := by
  rw [apply, begin, h]
  rfl

theorem apply_stop {given : Option Moment} (h : timeOr clock given = .ok finish) (s : Session) :
    s.apply clock (.stop given) =
      onChart { s with capturing := false, finish := some finish } fun chart =>
        (chart.update [] (some finish)).andThen fun chart => (chart.extend finish).commit := by
  rw [apply, stop, h]

theorem run_capture {p : Capture} (hbegun : timeOr p.begun.1 p.begun.2 = .ok start) (s : Session) :
    s.run p.steps =
      (((s.opened start).run p.meanwhile).apply p.ended.1 (.stop p.ended.2)).state := by
  rw [Capture.steps, run, apply_begin hbegun, Attempt.state_done, run_append]
  rfl

/-- What is left of a capture once it has ended, whatever was done meanwhile. -/
structure Ended (start finish : Timestamp) (records : List Record) (s : Session) : Prop where
  idle : s.capturing = false
  start : s.start = some start
  finish : s.finish = some finish
  records : s.records = records

theorem ended_run {p : Capture} (h : p.Spans start finish records Change.Within) (s : Session) :
    (s.run p.steps).Ended start finish records := by
  have hwhile := continues_run h.allowed (s.opened start)
  rw [run_capture h.begun, apply_stop h.ended]
  exact ⟨rfl, hwhile.start, rfl, hwhile.records.trans h.records⟩

/-- After the capture, changes that ingest nothing keep what is left of it. -/
theorem Ended.run (h : s.Ended start finish records) {steps : List (Clock × Change)}
    (hwithin : ∀ step ∈ steps, step.2.Within ∧ step.2.records = []) :
    (s.run steps).Ended start finish records := by
  have hcontinues := continues_run (fun step hstep => (hwithin step hstep).1) s
  have hnone : ingested steps = [] := List.flatMap_eq_nil_iff.mpr fun step hstep =>
    (hwithin step hstep).2
  rw [hnone] at hcontinues
  exact ⟨hcontinues.capturing.trans h.idle, hcontinues.start.trans h.start,
    hcontinues.finish.trans h.finish,
    hcontinues.records.trans (by rw [h.records, List.append_nil])⟩

theorem withinCalendar_capture {p : Capture} (hbegun : timeOr p.begun.1 p.begun.2 = .ok start)
    (hfits : s.WithinCalendar p.steps) :
    (s.opened start).WithinCalendar p.meanwhile ∧
      (((s.opened start).run p.meanwhile).apply p.ended.1 (.stop p.ended.2)).failure ≠
        some (.time .overflow) := by
  obtain ⟨-, hrest⟩ := hfits
  rw [apply_begin hbegun] at hrest
  obtain ⟨hwhile, hstop, -⟩ := withinCalendar_append.mp hrest
  exact ⟨hwhile, hstop⟩

/-! ### The last rebuild -/

/-- The last rebuild of the chart during a capture: the time up to which it was made, and the
records ingested since. -/
structure Rebuilt where
  upTo : Option Timestamp := none
  since : List Record := []

/-- The time up to which a change rebuilds the chart during a capture. -/
def Change.rebuiltUpTo (clock : Clock) : Change → Option Timestamp
  | .setFilter text => (requested clock.zone text).toOption.bind fun _ => clock.now.toOption
  | .rebuild | .rebuildChart => clock.now.toOption
  | _ => none

/-- The last rebuild, after a further change. -/
def Rebuilt.next (last : Rebuilt) (step : Clock × Change) : Rebuilt :=
  match step.2.rebuiltUpTo step.1 with
  | some now => ⟨some now, []⟩
  | none => { last with since := last.since ++ step.2.records }

/-- The last rebuild of a capture in which these changes were made. -/
def lastRebuilt (steps : List (Clock × Change)) : Rebuilt := steps.foldl Rebuilt.next {}

theorem Rebuilt.next_of_some {last : Rebuilt} {change : Change} {now : Timestamp}
    (h : change.rebuiltUpTo clock = some now) : last.next (clock, change) = ⟨some now, []⟩ := by
  simp only [next, h]

theorem Rebuilt.next_of_none {last : Rebuilt} {change : Change}
    (h : change.rebuiltUpTo clock = none) :
    last.next (clock, change) = { last with since := last.since ++ change.records } := by
  simp only [next, h]

theorem now_of_rebuiltUpTo {change : Change} {now : Timestamp}
    (h : change.rebuiltUpTo clock = some now) : clock.now = .ok now := by
  have hnow : clock.now.toOption = some now → clock.now = .ok now := by
    cases clock.now <;> simp [Except.toOption]
  cases change with
  | setFilter text =>
    obtain ⟨_, -, h⟩ := Option.bind_eq_some_iff.mp h
    exact hnow h
  | rebuild => exact hnow h
  | rebuildChart => exact hnow h
  | begin given => cases h
  | stop given => cases h
  | ingest r => cases h
  | setMode mode => cases h
  | clearChart => cases h

/-- A rebuild is made up to a time that was read from a clock. -/
theorem now_of_upTo {steps : List (Clock × Change)} {last : Rebuilt} {now : Timestamp}
    (h : (steps.foldl Rebuilt.next last).upTo = some now) :
    last.upTo = some now ∨ ∃ step ∈ steps, step.1.now = .ok now := by
  induction steps generalizing last with
  | nil => exact Or.inl h
  | cons step rest ih =>
    rcases ih h with hnext | ⟨later, hmem, hnow⟩
    · rw [Rebuilt.next] at hnext
      cases hupTo : step.2.rebuiltUpTo step.1 with
      | none =>
        rw [hupTo] at hnext
        exact Or.inl hnext
      | some time =>
        rw [hupTo] at hnext
        exact Or.inr ⟨step, List.mem_cons_self, (now_of_rebuiltUpTo hupTo).trans
          (congrArg Except.ok (Option.some.inj hnext))⟩
    · exact Or.inr ⟨later, List.mem_cons_of_mem _ hmem, hnow⟩

/-! ### Captures that are under way -/

/-- A filter is installed only while the clock can be read. -/
def Installable (step : Clock × Change) : Prop :=
  ∀ text filter, step.2 = .setFilter text → requested step.1.zone text = .ok filter →
    ∃ now, step.1.now = .ok now

/-- The chart of the capture was rebuilt as `last` says, and the records since then were given to
it one by one. -/
structure Underway (start : Timestamp) (last : Rebuilt) (s : Session) : Prop where
  capturing : s.capturing = true
  begun : s.start = some start
  chart : ∃ before, s.records = before ++ last.since ∧
    ((Chart.ofRecords s.chart.interval (before.filter s.matches?) (some start)
      last.upTo).andThen fun c =>
        c.update (last.since.filter s.matches?) none).result = .ok s.chart

theorem underway_opened (start : Timestamp) (s : Session) :
    (s.opened start).Underway start {} := ⟨rfl, rfl, [], rfl, rfl⟩

theorem underway_ingest {last : Rebuilt} (h : s.Underway start last) {r : Record}
    (hover : (s.ingest r).failure ≠ some (.time .overflow)) :
    (s.ingest r).state.Underway start { last with since := last.since ++ [r] } := by
  obtain ⟨before, hrecords, hchart⟩ := h.chart
  have hall : s.records ++ [r] = before ++ (last.since ++ [r]) := by
    rw [hrecords, List.append_assoc]
  rw [ingest_eq] at hover ⊢
  by_cases hmatches : s.matches? r = true
  · rw [if_pos hmatches] at hover ⊢
    have hdone := failure_onChart (Chart.onlyOverflow_update [r] none s.chart) hover
    have hsince : (last.since ++ [r]).filter s.matches? = last.since.filter s.matches? ++ [r] := by
      rw [List.filter_append, List.filter_cons_of_pos hmatches, List.filter_nil]
    refine ⟨h.capturing, h.begun, before, hall, ?_⟩
    show ((Chart.ofRecords (s.chart.update [r] none).state.interval (before.filter s.matches?)
      (some start) last.upTo).andThen fun c => c.update ((last.since ++ [r]).filter s.matches?)
        none).result = .ok (s.chart.update [r] none).state
    rw [Chart.interval_update_state, hsince, Chart.result_update_more hchart]
    exact Attempt.result_of_done hdone
  · rw [if_neg hmatches]
    have hsince : (last.since ++ [r]).filter s.matches? = last.since.filter s.matches? := by
      rw [List.filter_append, List.filter_cons_of_neg hmatches, List.filter_nil, List.append_nil]
    refine ⟨h.capturing, h.begun, before, hall, ?_⟩
    show ((Chart.ofRecords s.chart.interval (before.filter s.matches?) (some start)
      last.upTo).andThen fun c => c.update ((last.since ++ [r]).filter s.matches?) none).result =
        .ok s.chart
    rw [hsince]
    exact hchart

/-- A rebuild up to the present, whatever the chart showed before. -/
theorem underway_rebuildChart {now : Timestamp} (hcapturing : s.capturing = true)
    (hstart : s.start = some start) (hnow : clock.now = .ok now)
    (hover : (s.rebuildChart clock).failure ≠ some (.time .overflow)) :
    (s.rebuildChart clock).state.Underway start ⟨some now, []⟩ := by
  have hinterval := interval_rebuildChart s clock
  have hrebuild : s.rebuildChart clock = s.onChart fun chart =>
      Chart.ofRecords chart.interval s.visible s.start (some now) := by
    simp only [rebuildChart, hcapturing, if_true, hnow, Chart.rebuild_eq_ofRecords]
  rw [hrebuild] at hover hinterval ⊢
  have hdone := failure_onChart (Chart.onlyOverflow_rebuild _ _ _ _) hover
  refine ⟨hcapturing, hstart, s.records, (List.append_nil _).symm, ?_⟩
  rw [hinterval]
  show ((Chart.ofRecords s.chart.interval s.visible (some start) (some now)).andThen
    fun c => .done c).result = .ok _
  rw [Attempt.andThen_done, ← hstart]
  exact Attempt.result_of_done hdone

/-- While the clock cannot be read, the chart of a capture is not rebuilt. -/
theorem rebuildChart_unreadable {e : TimeError} (hcapturing : s.capturing = true)
    (hnow : clock.now = .error e) : s.rebuildChart clock = .stopped s (.time e) := by
  simp only [rebuildChart, hcapturing, if_true, hnow]

/-- A change that adds no record and rebuilds no chart. -/
theorem Underway.unchanged {last : Rebuilt} (h : s.Underway start last) {change : Change}
    (hrebuilt : change.rebuiltUpTo clock = none) (hnone : change.records = []) {s' : Session}
    (hcapturing : s'.capturing = s.capturing) (hstart : s'.start = s.start)
    (hrecords : s'.records = s.records) (hfilter : s'.filter = s.filter)
    (hchart : s'.chart = s.chart) : s'.Underway start (last.next (clock, change)) := by
  have hmatches := matches_congr hfilter
  rw [Rebuilt.next_of_none hrebuilt, hnone, List.append_nil]
  exact ⟨hcapturing.trans h.capturing, hstart.trans h.begun, by
    rw [hrecords, hmatches, hchart]
    exact h.chart⟩

/-- A change that rebuilds the chart whenever the clock can be read. -/
theorem underway_revised {last : Rebuilt} (totals : Totals) (h : s.Underway start last)
    {change : Change} (hchange : change.rebuiltUpTo clock = clock.now.toOption)
    (hnone : change.records = [])
    (hover : (rebuildChart clock { s with totals }).failure ≠ some (.time .overflow)) :
    (rebuildChart clock { s with totals }).state.Underway start (last.next (clock, change)) := by
  cases hnow : clock.now with
  | ok now =>
    rw [Rebuilt.next_of_some (hchange.trans (congrArg Except.toOption hnow))]
    exact underway_rebuildChart (s := { s with totals }) h.capturing h.begun hnow hover
  | error e =>
    rw [rebuildChart_unreadable (s := { s with totals }) h.capturing hnow]
    exact h.unchanged (hchange.trans (congrArg Except.toOption hnow)) hnone rfl rfl rfl rfl rfl

/-- A filter that is accepted is installed, and the chart is rebuilt. -/
theorem underway_setFilter {last : Rebuilt} (h : s.Underway start last) {text : String}
    (hinstall : Installable (clock, .setFilter text))
    (hover : (s.setFilter clock text).failure ≠ some (.time .overflow)) :
    (s.setFilter clock text).state.Underway start (last.next (clock, .setFilter text)) := by
  rw [setFilter_eq] at hover ⊢
  cases hrequested : requested clock.zone text with
  | error e =>
    have hrebuilt : (Change.setFilter text).rebuiltUpTo clock = none := by
      simp only [Change.rebuiltUpTo, hrequested, Except.toOption, Option.bind_none]
    exact h.unchanged hrebuilt rfl rfl rfl rfl rfl rfl
  | ok filter =>
    obtain ⟨now, hnow⟩ : ∃ now, clock.now = .ok now := hinstall text filter rfl hrequested
    have hrebuilt : (Change.setFilter text).rebuiltUpTo clock = some now := by
      simp only [Change.rebuiltUpTo, hrequested, hnow, Except.toOption, Option.bind_some]
    rw [hrequested] at hover
    rw [Rebuilt.next_of_some hrebuilt]
    exact underway_rebuildChart
      (s := { s with filter, totals := Totals.ofRecords ({ s with filter } : Session).visible })
      h.capturing h.begun hnow hover

/-- Every change leaves the capture under way. -/
theorem underway_apply {last : Rebuilt} (h : s.Underway start last) {change : Change}
    (hwithin : change.Within) (hinstall : Installable (clock, change))
    (hover : (s.apply clock change).failure ≠ some (.time .overflow)) :
    (s.apply clock change).state.Underway start (last.next (clock, change)) := by
  cases change with
  | begin given => cases hwithin
  | stop given => cases hwithin
  | ingest r => exact underway_ingest h hover
  | setFilter text => exact underway_setFilter h hinstall hover
  | setMode mode =>
    rw [apply, setMode, if_neg (by simp [h.capturing])]
    exact h.unchanged rfl rfl rfl rfl rfl rfl rfl
  | rebuild => exact underway_revised (Totals.ofRecords s.visible) h rfl rfl hover
  | rebuildChart => exact underway_revised s.totals h rfl rfl hover
  | clearChart => cases hwithin

theorem underway_run {last : Rebuilt} (h : s.Underway start last) {steps : List (Clock × Change)}
    (hwithin : ∀ step ∈ steps, step.2.Within) (hinstall : ∀ step ∈ steps, Installable step)
    (hfits : s.WithinCalendar steps) :
    (s.run steps).Underway start (steps.foldl Rebuilt.next last) := by
  induction steps generalizing s last with
  | nil => exact h
  | cons step rest ih =>
    obtain ⟨hstep, hrest⟩ := List.forall_mem_cons.mp hwithin
    obtain ⟨hinstallStep, hinstallRest⟩ := List.forall_mem_cons.mp hinstall
    exact ih (underway_apply h hstep hinstallStep hfits.1) hrest hinstallRest hfits.2

/-! ### The end of a capture -/

/-- **The chart that a capture ends with.** It was rebuilt once, and followed the records since. -/
theorem resumed_run_capture {p : Capture} {records : List Record}
    (h : p.Spans start finish records Change.Within)
    (hinstall : ∀ step ∈ p.meanwhile, Installable step) (hfits : s.WithinCalendar p.steps) :
    ∃ before, (s.run p.steps).visible =
        before ++ (lastRebuilt p.meanwhile).since.filter (s.run p.steps).matches? ∧
      (Chart.resumed s.chart.interval start before (lastRebuilt p.meanwhile).upTo
        ((lastRebuilt p.meanwhile).since.filter (s.run p.steps).matches?) finish).result =
          .ok (s.run p.steps).chart := by
  obtain ⟨hwhile, hstop⟩ := withinCalendar_capture h.begun hfits
  have hunderway := underway_run (underway_opened start s) h.allowed hinstall hwhile
  obtain ⟨before, hrecords, hchart⟩ := hunderway.chart
  have hinterval := interval_run p.meanwhile (s.opened start)
  rw [run_capture h.begun]
  rw [apply_stop h.ended] at hstop ⊢
  have hdone := failure_onChart (Chart.onlyOverflow_andThen
    (Chart.onlyOverflow_update _ _ _) fun c => Chart.onlyOverflow_commit _) hstop
  refine ⟨before.filter ((s.opened start).run p.meanwhile).matches?, ?_, ?_⟩
  · exact (congrArg (List.filter _) hrecords).trans (List.filter_append ..)
  · rw [hinterval] at hchart
    exact (Chart.result_resumed_followed finish hchart).trans (Attempt.result_of_done hdone)

/-- The records that a capture ended with, in the order in which it ingested them. -/
theorem visible_run_capture {p : Capture} {records : List Record}
    (h : p.Spans start finish records Change.Within) (s : Session) :
    (s.run p.steps).visible = records.filter (s.run p.steps).matches? := by
  rw [visible, (ended_run h s).records]

/-- A rebuild after the capture makes the chart anew. -/
theorem rebuild_ended {records : List Record} (h : s.Ended start finish records) (clock : Clock) :
    (s.rebuild clock).failure =
        (((Chart.empty s.chart.interval start).conclude s.visible finish).failure.map .time) ∧
      (s.rebuild clock).state.chart =
        ((Chart.empty s.chart.interval start).conclude s.visible finish).state := by
  have hconclude : ((s.chart.rebuild s.visible s.start s.finish).andThen (·.commit)) =
      (Chart.empty s.chart.interval start).conclude s.visible finish := by
    rw [Chart.rebuild_eq_ofRecords, h.start, h.finish, Chart.ofRecords_commit]
  have hrebuild : s.rebuild clock = onChart { s with totals := Totals.ofRecords s.visible }
      fun _ => (Chart.empty s.chart.interval start).conclude s.visible finish := by
    rw [rebuild, rebuildChart, if_neg (by simp [h.idle]), ← hconclude]
    rfl
  rw [hrebuild]
  exact ⟨rfl, rfl⟩

end Session

end TrafficMonitor
