import TrafficMonitor.Proofs.Analysis.Captures

/-! Filters installed before a capture and after it. A capture in which nothing is rebuilt ends
with the chart that a rebuild would give (`settled_run_capture`). After the capture every rebuild
settles a session, whatever its chart showed before (`settled_rebuildChart`). So two sessions that
captured the same records between the same times, and end up with the same filter, show the same
(`live_eq_revised`). -/
namespace TrafficMonitor
open Time

namespace Session
variable {s : Session} {clock : Clock} {start finish : Timestamp} {records : List Record}

/-! ### Sessions that a rebuild would not change -/

/-- The capture is over, and the chart is that of the records that pass, with its last window
closed. -/
structure Settled (s : Session) : Prop where
  idle : s.capturing = false
  chart : ((Chart.ofRecords s.chart.interval s.visible s.start s.finish).andThen
    (·.commit)).result = .ok s.chart

/-- After a capture, a rebuild settles the chart whatever it showed before. -/
theorem settled_rebuildChart (hidle : s.capturing = false)
    (hover : (s.rebuildChart clock).failure ≠ some (.time .overflow)) :
    (s.rebuildChart clock).state.Settled := by
  have hinterval := interval_rebuildChart s clock
  have hrebuild : s.rebuildChart clock = s.onChart fun chart =>
      (Chart.ofRecords chart.interval s.visible s.start s.finish).andThen (·.commit) := by
    simp only [rebuildChart, hidle, Bool.false_eq_true, if_false, Chart.rebuild_eq_ofRecords]
  rw [hrebuild] at hover hinterval ⊢
  have hdone := failure_onChart (Chart.onlyOverflow_andThen
    (Chart.onlyOverflow_rebuild _ _ _ _) fun c => Chart.onlyOverflow_commit c) hover
  refine ⟨hidle, ?_⟩
  rw [hinterval]
  exact Attempt.result_of_done hdone

/-- Every rebuild settles a session whose capture is over, and no other change unsettles it. -/
theorem settled_apply {change : Change} (h : s.Settled) (hwithin : change.Within)
    (hrecords : change.records = [])
    (hover : (s.apply clock change).failure ≠ some (.time .overflow)) :
    (s.apply clock change).state.Settled := by
  cases change with
  | begin given => cases hwithin
  | stop given => cases hwithin
  | ingest r => cases hrecords
  | setFilter text =>
    rw [apply, setFilter_eq] at hover ⊢
    split at hover
    · exact h
    · exact settled_rebuildChart (s := { s with filter := _, totals := _ }) h.idle hover
  | setMode mode =>
    rw [apply, setMode] at hover ⊢
    split at hover
    · rename_i hplot
      rw [if_pos hplot]
      exact settled_rebuildChart (s := { s with mode }) h.idle hover
    · rename_i hother
      rw [if_neg hother]
      exact ⟨h.idle, h.chart⟩
  | rebuild => exact settled_rebuildChart (s := { s with totals := _ }) h.idle hover
  | rebuildChart => exact settled_rebuildChart h.idle hover
  | clearChart => cases hwithin

theorem settled_run {steps : List (Clock × Change)} (h : s.Settled)
    (hwithin : ∀ step ∈ steps, step.2.Within ∧ step.2.records = [])
    (hfits : s.WithinCalendar steps) : (s.run steps).Settled := by
  induction steps generalizing s with
  | nil => exact h
  | cons step rest ih =>
    obtain ⟨⟨hstep, hrecords⟩, hrest⟩ := List.forall_mem_cons.mp hwithin
    exact ih (settled_apply h hstep hrecords hfits.1) hrest hfits.2

/-- A filter that was accepted after the capture settles the session for good. -/
theorem settled_run_setFilter {steps : List (Clock × Change)} (hidle : s.capturing = false)
    (hwithin : ∀ step ∈ steps, step.2.Within ∧ step.2.records = [])
    (hfits : s.WithinCalendar steps) {text : String} {filter : Option Filter}
    (hmem : (clock, .setFilter text) ∈ steps) (haccepted : requested clock.zone text = .ok filter) :
    (s.run steps).Settled := by
  obtain ⟨a, b, rfl⟩ := List.append_of_mem hmem
  obtain ⟨-, hover, hrest⟩ := withinCalendar_append.mp hfits
  rw [run_append]
  have hbefore : s.Continues (s.run a) (ingested a) :=
    continues_run (fun step hstep => (hwithin step (by simp [hstep])).1) s
  refine settled_run (s := ((s.run a).apply clock (.setFilter text)).state) ?_
    (fun step hstep => hwithin step (by simp [hstep])) hrest
  rw [apply, setFilter_eq, haccepted] at hover ⊢
  exact settled_rebuildChart (s := { s.run a with filter, totals := _ })
    (hbefore.capturing.trans hidle) hover

/-- Rebuilding a settled session changes nothing. -/
theorem rebuild_settled (h : s.Settled) (htables : s.TablesAgree) (clock : Clock) :
    s.rebuild clock = .done s := by
  have htotals : ({ s with totals := Totals.ofRecords s.visible } : Session) = s := by
    rw [show Totals.ofRecords s.visible = s.totals from htables.totals.symm]
  have hchart := Attempt.eq_done_of_result h.chart
  rw [← Chart.rebuild_eq_ofRecords] at hchart
  rw [rebuild, htotals, rebuildChart, if_neg (by simp [h.idle]), onChart, hchart]
  rfl

theorem visible_congr {s' : Session} (hrecords : s.records = s'.records)
    (hfilter : s.filter = s'.filter) : s.visible = s'.visible := by
  rw [visible, visible, hrecords, matches_congr hfilter]

/-- Settled sessions of one capture with one filter show the same. -/
theorem Settled.chart_eq {s' : Session} (h : s.Settled) (h' : s'.Settled)
    (hinterval : s.chart.interval = s'.chart.interval) (hvisible : s.visible = s'.visible)
    (hstart : s.start = s'.start) (hfinish : s.finish = s'.finish) : s.chart = s'.chart := by
  have hchart := h.chart
  rw [hinterval, hvisible, hstart, hfinish, h'.chart] at hchart
  exact (Except.ok.inj hchart).symm

/-! ### Captures in which nothing is rebuilt -/

/-- Rebuilds nothing while a capture lasts. -/
def Change.Plain : Change → Prop
  | .ingest _ | .setMode _ => True
  | _ => False

theorem Change.Plain.eq_or {change : Change} (h : change.Plain) :
    (∃ r, change = .ingest r) ∨ ∃ mode, change = .setMode mode := by
  cases change with
  | ingest r => exact Or.inl ⟨r, rfl⟩
  | setMode mode => exact Or.inr ⟨mode, rfl⟩
  | begin given => cases h
  | stop given => cases h
  | setFilter text => cases h
  | rebuild => cases h
  | rebuildChart => cases h
  | clearChart => cases h

theorem Change.Plain.within {change : Change} (h : change.Plain) : change.Within := by
  obtain ⟨r, rfl⟩ | ⟨mode, rfl⟩ := h.eq_or
  · trivial
  · trivial

theorem Change.Plain.rebuiltUpTo {change : Change} (h : change.Plain) (clock : Clock) :
    change.rebuiltUpTo clock = none := by
  obtain ⟨r, rfl⟩ | ⟨mode, rfl⟩ := h.eq_or
  · rfl
  · rfl

theorem upTo_of_plain {steps : List (Clock × Change)} (h : ∀ step ∈ steps, step.2.Plain)
    (last : Rebuilt) : (steps.foldl Rebuilt.next last).upTo = last.upTo := by
  induction steps generalizing last with
  | nil => rfl
  | cons step rest ih =>
    obtain ⟨hstep, hrest⟩ := List.forall_mem_cons.mp h
    rw [List.foldl_cons, ih hrest, Rebuilt.next, hstep.rebuiltUpTo step.1]

theorem filter_rebuildChart (s : Session) (clock : Clock) :
    (s.rebuildChart clock).state.filter = s.filter := by
  unfold rebuildChart
  repeat' split
  all_goals rfl

theorem filter_apply {change : Change} (h : change.Plain) (clock : Clock) (s : Session) :
    (s.apply clock change).state.filter = s.filter := by
  obtain ⟨r, rfl⟩ | ⟨mode, rfl⟩ := h.eq_or
  · rw [apply, ingest_eq]
    split <;> rfl
  · rw [apply, setMode]
    split
    · exact filter_rebuildChart { s with mode } clock
    · rfl

theorem filter_run {steps : List (Clock × Change)} (h : ∀ step ∈ steps, step.2.Plain)
    (s : Session) : (s.run steps).filter = s.filter := by
  induction steps generalizing s with
  | nil => rfl
  | cons step rest ih =>
    obtain ⟨hstep, hrest⟩ := List.forall_mem_cons.mp h
    exact (ih hrest _).trans (filter_apply hstep step.1 s)

/-- **The end of such a capture leaves the session settled.** -/
theorem settled_run_capture {p : Capture} (h : p.Spans start finish records Change.Plain)
    (hfits : s.WithinCalendar p.steps) :
    (s.run p.steps).Settled ∧ (s.run p.steps).filter = s.filter := by
  have hspans : p.Spans start finish records Change.Within :=
    ⟨h.begun, h.ended, h.records, fun step hstep => (h.allowed step hstep).within⟩
  have hinstall : ∀ step ∈ p.meanwhile, Installable step := by
    intro step hstep text filter htext
    cases htext ▸ h.allowed step hstep
  obtain ⟨before, hvisible, hresumed⟩ := resumed_run_capture hspans hinstall hfits
  have hended := ended_run hspans s
  have hupTo : (lastRebuilt p.meanwhile).upTo = none := upTo_of_plain h.allowed {}
  rw [hupTo] at hresumed
  refine ⟨⟨hended.idle, ?_⟩, ?_⟩
  · rw [hended.start, hended.finish, Chart.ofRecords_commit, interval_run, hvisible]
    exact Chart.result_resumed Chart.prompt_none (fun now hnow => by cases hnow) hresumed
  · rw [run_capture h.begun, apply_stop h.ended]
    exact filter_run h.allowed (s.opened start)

/-! ### Filters before and after a capture -/

theorem apply_setFilter {text : String} {filter : Option Filter}
    (h : requested clock.zone text = .ok filter) (s : Session) :
    s.apply clock (.setFilter text) = rebuild clock { s with filter } := by
  rw [apply, setFilter_eq, h]

/-- The filter of packets of five bytes. -/
def fiveBytes : Filter := .leaf ⟨.length, .eq, .number 5⟩

theorem requested_fiveBytes (zone : Zone) : requested zone "len == 5" = .ok (some fiveBytes) := by
  have hwritable : ∀ c ∈ fiveBytes.leaves, c.IsWritable zone := by
    intro c hc
    obtain rfl := List.mem_singleton.mp hc
    exact ⟨rfl, Or.inl ⟨['5'], rfl⟩⟩
  have hdisplay : fiveBytes.display = "len == 5".toList := by decide +kernel
  rw [requested, if_neg (by decide), ← hdisplay, Filter.parse_display hwritable]
  rfl

/-- **Filtering while capturing is filtering afterwards.** One session has a filter installed
before the capture, and nothing is rebuilt meanwhile. Another captures the same records between
the same times, under whatever filters, and gets that filter afterwards. Both show the same, and
in the first a rebuild changes nothing. -/
theorem live_eq_revised (interval : Interval) (earlier earlier' : List (Clock × Change))
    (filter : Option Filter) (start finish : Timestamp) (records : List Record)
    (live revised : Capture) (after : List (Clock × Change))
    (hlive : live.Spans start finish records Change.Plain)
    (hrevised : revised.Spans start finish records Change.Within)
    (hafter : ∀ step ∈ after, step.2.Within ∧ step.2.records = [])
    (hinstalled : ((new interval).run earlier).filter = filter)
    (hset : ∃ clock text, (clock, .setFilter text) ∈ after ∧
      requested clock.zone text = .ok filter)
    (hactive : ((new interval).run (earlier' ++ (revised.steps ++ after))).filter = filter)
    (hfits : ((new interval).run earlier).WithinCalendar live.steps)
    (hfits' : ((new interval).run earlier').WithinCalendar (revised.steps ++ after)) :
    let l := (new interval).run (earlier ++ live.steps)
    let r := (new interval).run (earlier' ++ (revised.steps ++ after))
    l.totals = r.totals ∧ l.chart = r.chart ∧ l.rows = r.rows ∧
      ∀ clock, l.rebuild clock = .done l := by
  intro l r
  have hinterval : l.chart.interval = r.chart.interval :=
    (interval_run _ _).trans (interval_run _ _).symm
  -- The session with the filter installed.
  have hl : l = ((new interval).run earlier).run live.steps := run_append _ _ _
  have hendedL := ended_run ⟨hlive.begun, hlive.ended, hlive.records,
    fun step hstep => (hlive.allowed step hstep).within⟩ ((new interval).run earlier)
  rw [← hl] at hendedL
  obtain ⟨hsettledL, hfilterL⟩ := settled_run_capture hlive hfits
  rw [← hl, hinstalled] at hfilterL
  rw [← hl] at hsettledL
  -- The session that gets it afterwards.
  have hr : r = ((((new interval).run earlier').run revised.steps).run after) := by
    simp only [r, run_append]
  have hended := ended_run hrevised ((new interval).run earlier')
  have hendedR := hended.run hafter
  obtain ⟨-, hfitsAfter⟩ := withinCalendar_append.mp hfits'
  obtain ⟨clock, text, hmem, haccepted⟩ := hset
  have hsettledR := settled_run_setFilter hended.idle hafter hfitsAfter hmem haccepted
  rw [← hr] at hendedR hsettledR
  have hvisible : l.visible = r.visible :=
    visible_congr (hendedL.records.trans hendedR.records.symm) (hfilterL.trans hactive.symm)
  have htablesL : l.TablesAgree := tablesAgree_run (tablesAgree_new interval) _
  have htablesR : r.TablesAgree := tablesAgree_run (tablesAgree_new interval) _
  refine ⟨?_, ?_, ?_, fun clock => rebuild_settled hsettledL htablesL clock⟩
  · exact htablesL.totals.trans ((congrArg Totals.ofRecords hvisible).trans htablesR.totals.symm)
  · exact hsettledL.chart_eq hsettledR hinterval hvisible (hendedL.start.trans hendedR.start.symm)
      (hendedL.finish.trans hendedR.finish.symm)
  · exact congrArg (List.map Record.row) hvisible

/-- Three packets of which one is late and one does not pass, a stop in the middle of a later
window, and a capture that was watched without any filter and had one removed meanwhile. -/
theorem live_eq_revised_fiveBytes :
    let interval : Interval := ⟨1000000, by decide⟩
    let fixed (micros : Nat) (h : micros < span) : Timestamp := ⟨⟨micros, h⟩, 0⟩
    let record (time : Timestamp) (length : UInt16) : Record := { time, length, transport := .tcp }
    let start := fixed 63082281600000000 (by decide)
    let finish := fixed 63082281604600000 (by decide)
    let records := [record (fixed 63082281602500000 (by decide)) 5,
      record (fixed 63082281601000000 (by decide)) 5, record finish 60]
    let clock : Clock := ⟨⟨0⟩, .ok (fixed 63082281603500000 (by decide))⟩
    let steps := records.map fun r => (clock, Change.ingest r)
    let live : Capture :=
      ⟨(clock, some (.fixed start)), steps ++ [(clock, .setMode .stat)],
        (clock, some (.fixed finish))⟩
    let revised : Capture :=
      ⟨(clock, some (.fixed start)), (clock, .setFilter "") :: steps ++ [(clock, .rebuild)],
        (clock, some (.fixed finish))⟩
    let earlier : List (Clock × Change) := [(clock, .setFilter "len == 5")]
    let after : List (Clock × Change) := [(clock, .setFilter "len == 5"), (clock, .setMode .plot)]
    let l := (new interval).run (earlier ++ live.steps)
    let r := (new interval).run ([] ++ (revised.steps ++ after))
    live.Spans start finish records Change.Plain ∧
      revised.Spans start finish records Change.Within ∧
      l.chart.windows = [⟨0, 0⟩, ⟨0, 0⟩, ⟨2, 10⟩, ⟨0, 0⟩, ⟨0, 0⟩] ∧
      l.totals = r.totals ∧ l.chart = r.chart ∧ l.rows = r.rows ∧
      ∀ clock, l.rebuild clock = .done l := by
  intro interval fixed record start finish records clock steps live revised earlier after l r
  have hlive : live.Spans start finish records Change.Plain :=
    ⟨rfl, rfl, rfl, by simp [live, steps, records, Change.Plain]⟩
  have hrevised : revised.Spans start finish records Change.Within :=
    ⟨rfl, rfl, rfl, by simp [revised, steps, records, Change.Within]⟩
  have hearlier : (new interval).run earlier =
      (rebuild clock { new interval with filter := some fiveBytes }).state := by
    show ((new interval).apply clock (.setFilter "len == 5")).state = _
    rw [apply_setFilter (requested_fiveBytes clock.zone)]
  have hfits : ((new interval).run earlier).WithinCalendar live.steps := by
    rw [hearlier]
    exact ⟨by decide +kernel, by decide +kernel, by decide +kernel, by decide +kernel,
      by decide +kernel, by decide +kernel, trivial⟩
  have hfits' : ((new interval).run []).WithinCalendar (revised.steps ++ after) := by
    refine withinCalendar_append.mpr ⟨⟨by decide +kernel, by decide +kernel, by decide +kernel,
      by decide +kernel, by decide +kernel, by decide +kernel, by decide +kernel, trivial⟩, ?_⟩
    refine ⟨?_, ?_, trivial⟩ <;> rw [apply_setFilter (requested_fiveBytes clock.zone)] <;>
      decide +kernel
  have hactive : r.filter = some fiveBytes := by
    simp only [r, run_append, after, run,
      apply_setFilter (requested_fiveBytes clock.zone)]
    decide +kernel
  have hwindows : l.chart.windows = [⟨0, 0⟩, ⟨0, 0⟩, ⟨2, 10⟩, ⟨0, 0⟩, ⟨0, 0⟩] := by
    simp only [l, run_append, hearlier]
    decide +kernel
  have hinstalled : ((new interval).run earlier).filter = some fiveBytes := by
    rw [hearlier]
    decide +kernel
  exact ⟨hlive, hrevised, hwindows,
    live_eq_revised interval earlier [] (some fiveBytes) start finish records live revised after
      hlive hrevised (by simp [after, Change.Within, Change.records]) hinstalled
      ⟨clock, "len == 5", by simp [after], requested_fiveBytes clock.zone⟩ hactive hfits hfits'⟩

end Session

end TrafficMonitor
