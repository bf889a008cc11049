import TrafficMonitor.Proofs.Analysis.Replay

/-! Filters installed in the middle of a capture. Each of them rebuilds the chart up to the
present. `places_iff_prompt` says when a record is left in the wrong window by that: when it was
ingested after the last rebuild, but captured in a window that the rebuild had closed. -/
namespace TrafficMonitor
open Time

namespace Session
variable {s : Session} {clock : Clock} {start finish : Timestamp}

/-! ### Records in their windows -/

/-- **Which records are left in the wrong window.** A capture has ingested records in order, under
whatever filters, and no clock was ahead of its end. Then every record that passes is in the
window of its own time exactly if none that was ingested after the last rebuild comes from a
window before the one that was open then. A further rebuild never fails, and it leaves the buckets
as they are in exactly the same case. -/
theorem places_iff_prompt (interval : Interval) (earlier : List (Clock × Change)) (p : Capture)
    (start finish : Timestamp) (records : List Record)
    (hspans : p.Spans start finish records Change.Within)
    (hinstall : ∀ step ∈ p.meanwhile, Installable step)
    (horder : Chart.InOrder start records)
    (hclock : ∀ step ∈ p.meanwhile, ∀ now, step.1.now = .ok now → now.instant ≤ finish.instant)
    (hfits : ((new interval).run earlier).WithinCalendar p.steps) :
    let s := (new interval).run (earlier ++ p.steps)
    let last := lastRebuilt p.meanwhile
    let prompt := Chart.Prompt start interval last.upTo (last.since.filter s.matches?)
    (s.chart.Places start s.visible ↔ prompt) ∧
      ∀ clock, (s.rebuild clock).failure = none ∧
        ((s.rebuild clock).state.chart.buckets = s.chart.buckets ↔ prompt) := by
  intro s last prompt
  have hs : s = ((new interval).run earlier).run p.steps := run_append _ _ _
  have hinterval : s.chart.interval = interval := interval_run _ _
  have hbegan : ((new interval).run earlier).chart.interval = interval := interval_run _ _
  have hended := ended_run hspans ((new interval).run earlier)
  have hrecords := visible_run_capture hspans ((new interval).run earlier)
  obtain ⟨before, hvisible, hresumed⟩ := resumed_run_capture hspans hinstall hfits
  rw [hbegan, ← hs] at hresumed
  rw [← hs] at hvisible hrecords hended
  have hupTo : ∀ now ∈ last.upTo, now.instant ≤ finish.instant := by
    intro now hnow
    rcases now_of_upTo hnow with hnone | ⟨step, hmem, hstep⟩
    · cases hnone
    · exact hclock step hmem now hstep
  have hinOrder : Chart.InOrder start (before ++ last.since.filter s.matches?) := by
    rw [← hvisible, hrecords]
    exact horder.filter s.matches?
  obtain ⟨hplaces, hbuckets⟩ := Chart.resumed_iff_prompt hinOrder hupTo hresumed
  rw [hvisible]
  refine ⟨hplaces, fun clock => ?_⟩
  obtain ⟨hfailure, hchart⟩ := rebuild_ended hended clock
  rw [hinterval, hvisible] at hfailure hchart
  rw [hfailure, hchart, Chart.failure_conclude_resumed hresumed]
  exact ⟨rfl, hbuckets⟩

/-- So many microseconds after a midnight. -/
def midnight (micros : Nat) (h : 63082281600000000 + micros < span) : Timestamp :=
  ⟨⟨63082281600000000 + micros, h⟩, 0⟩

/-- The clock in the middle of the third second. -/
def thirdSecond : Clock := ⟨⟨0⟩, .ok (midnight 2500000 (by decide))⟩

/-- A packet of five bytes that was captured at a time. -/
def fiveBytesAt (time : Timestamp) : Record := { time, length := 5, transport := .tcp }

/-- A filter is installed in the third second, and a packet is ingested after it. -/
def refiltered (captured : Timestamp) : Capture where
  begun := (thirdSecond, some (.fixed (midnight 0 (by decide))))
  meanwhile := [(thirdSecond, .setFilter "len == 5"), (thirdSecond, .ingest (fiveBytesAt captured))]
  ended := (thirdSecond, some (.fixed (midnight 3000000 (by decide))))

theorem spans_refiltered (captured : Timestamp) : (refiltered captured).Spans
    (midnight 0 (by decide)) (midnight 3000000 (by decide)) [fiveBytesAt captured] Change.Within :=
  ⟨rfl, rfl, rfl, by simp [refiltered, Change.Within]⟩

theorem clock_refiltered (captured : Timestamp) :
    ∀ step ∈ (refiltered captured).meanwhile, step.1 = thirdSecond := by
  simp [refiltered]

theorem installable_refiltered (captured : Timestamp) :
    ∀ step ∈ (refiltered captured).meanwhile, Installable step := by
  intro step hstep _ _ _ _
  rw [clock_refiltered captured step hstep]
  exact ⟨_, rfl⟩

theorem apply_fiveBytes (s : Session) : s.apply thirdSecond (.setFilter "len == 5") =
    rebuild thirdSecond { s with filter := some fiveBytes } :=
  apply_setFilter (requested_fiveBytes ⟨0⟩) s

/-- A packet that was captured before the filter was installed, but in the same second. -/
theorem places_iff_prompt_within :
    let interval : Interval := ⟨1000000, by decide⟩
    let start := midnight 0 (by decide)
    let p := refiltered (midnight 2200000 (by decide))
    let s := (new interval).run ([] ++ p.steps)
    s.chart.windows = [⟨0, 0⟩, ⟨0, 0⟩, ⟨1, 5⟩, ⟨0, 0⟩] ∧ s.chart.Places start s.visible ∧
      ∀ clock, (s.rebuild clock).failure = none ∧
        (s.rebuild clock).state.chart.buckets = s.chart.buckets := by
  intro interval start p s
  have hclock : ∀ step ∈ p.meanwhile, ∀ now, step.1.now = .ok now →
      now.instant ≤ (midnight 3000000 (by decide)).instant := by
    intro step hstep now hnow
    rw [clock_refiltered _ step hstep] at hnow
    cases hnow
    decide
  have hfits : ((new interval).run []).WithinCalendar p.steps := by
    simp only [p, refiltered, Capture.steps, List.cons_append, List.nil_append, run,
      WithinCalendar, apply_fiveBytes]
    decide +kernel
  have hwindows : s.chart.windows = [⟨0, 0⟩, ⟨0, 0⟩, ⟨1, 5⟩, ⟨0, 0⟩] := by
    simp only [s, p, refiltered, Capture.steps, List.cons_append, List.nil_append, run,
      apply_fiveBytes]
    decide +kernel
  have hlast : lastRebuilt p.meanwhile =
      ⟨some (midnight 2500000 (by decide)), [fiveBytesAt (midnight 2200000 (by decide))]⟩ := by
    simp only [lastRebuilt, p, refiltered, List.foldl_cons, List.foldl_nil, Rebuilt.next,
      Change.rebuiltUpTo, thirdSecond, requested_fiveBytes]
    rfl
  have hprompt : Chart.Prompt start interval (lastRebuilt p.meanwhile).upTo
      ((lastRebuilt p.meanwhile).since.filter s.matches?) := by
    rw [hlast]
    intro now hnow r hr
    obtain rfl : _ = now := Option.some.inj hnow
    obtain rfl := List.mem_singleton.mp (List.mem_filter.mp hr).1
    decide
  obtain ⟨hplaces, hrebuild⟩ := places_iff_prompt interval [] p start
    (midnight 3000000 (by decide)) [fiveBytesAt (midnight 2200000 (by decide))]
    (spans_refiltered _) (installable_refiltered _) ⟨by decide, by decide⟩ hclock hfits
  exact ⟨hwindows, hplaces.mpr hprompt, fun clock =>
    ⟨(hrebuild clock).1, (hrebuild clock).2.mpr hprompt⟩⟩

/-- A packet that was captured a second before the filter was installed, and waited. It ends up
in the third window, and only a further rebuild moves it back to its own. -/
theorem latecomer_misplaced :
    let interval : Interval := ⟨1000000, by decide⟩
    let start := midnight 0 (by decide)
    let now := midnight 2500000 (by decide)
    let finish := midnight 3000000 (by decide)
    let r := fiveBytesAt (midnight 1000000 (by decide))
    let p := refiltered r.time
    let s := (new interval).run p.steps
    (p.Spans start finish [r] Change.Within ∧
      requested thirdSecond.zone "len == 5" = .ok (some fiveBytes) ∧
      (∀ step ∈ p.meanwhile, step.1.now = .ok now) ∧
      start.instant ≤ r.time.instant ∧ r.time.instant ≤ now.instant ∧
      now.instant ≤ finish.instant ∧ (new interval).WithinCalendar p.steps) ∧
    s.visible = [r] ∧ s.chart.windows = [⟨0, 0⟩, ⟨0, 0⟩, ⟨1, 5⟩, ⟨0, 0⟩] ∧
      ¬ s.chart.Places start s.visible ∧
      ∀ clock, (s.rebuild clock).state.chart.windows = [⟨0, 0⟩, ⟨1, 5⟩, ⟨0, 0⟩, ⟨0, 0⟩] ∧
        (s.rebuild clock).state.chart.buckets ≠ s.chart.buckets := by
  intro interval start now finish r p s
  have hfits : (new interval).WithinCalendar p.steps := by
    simp only [p, refiltered, Capture.steps, List.cons_append, List.nil_append,
      WithinCalendar, apply_fiveBytes]
    decide +kernel
  have hshown : s.visible = [r] ∧ s.chart.windows = [⟨0, 0⟩, ⟨0, 0⟩, ⟨1, 5⟩, ⟨0, 0⟩] ∧
      s.chart.interval = interval := by
    simp only [s, p, refiltered, Capture.steps, List.cons_append, List.nil_append, run,
      apply_fiveBytes]
    decide +kernel
  obtain ⟨hvisible, hwindows, hinterval⟩ := hshown
  have hrebuilt : ∀ clock,
      (s.rebuild clock).state.chart.windows = [⟨0, 0⟩, ⟨1, 5⟩, ⟨0, 0⟩, ⟨0, 0⟩] := by
    intro clock
    rw [(rebuild_ended (ended_run (spans_refiltered r.time) (new interval)) clock).2, hinterval,
      hvisible]
    decide +kernel
  refine ⟨⟨spans_refiltered r.time, requested_fiveBytes ⟨0⟩, ?_, by decide, by decide, by decide,
    hfits⟩, hvisible, hwindows, ?_, fun clock => ⟨hrebuilt clock, ?_⟩⟩
  · intro step hstep
    rw [clock_refiltered _ step hstep]
    rfl
  · intro hplaces
    have hsecond := hplaces 1
    rw [hwindows, hvisible, hinterval] at hsecond
    revert hsecond
    decide
  · intro hbuckets
    have hsecond := Chart.getD_buckets (s.rebuild clock).state.chart 1
    rw [hbuckets, Chart.getD_buckets, hwindows, hrebuilt clock] at hsecond
    revert hsecond
    decide

end Session

end TrafficMonitor
