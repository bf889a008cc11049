import TrafficMonitor.Proofs.Analysis.Traffic
import TrafficMonitor.Proofs.Filter.RoundTrip
import TrafficMonitor.Analysis.Session

/-! The views of a session. The tables and the rows show the records that pass the filter, after
every change, whatever failed (`tablesAgree_apply`). The chart agrees with the tables on the
traffic as long as it is rebuilt with every filter. The one change that can leave it behind is a
filter installed during a capture while the clock cannot be read: the tables are rebuilt, and
then the present is not known that the chart would have to reach. `views_agree` says of a whole
run exactly when the chart keeps up. -/
namespace TrafficMonitor
open Time

/-! ### Charts fail by overflow only -/

namespace Chart
variable {c : Chart}

/-- The change stops for no other reason than that the calendar ends. -/
def OnlyOverflow (a : Attempt TimeError Chart) : Prop := ∀ e ∈ a.failure, e = .overflow

theorem onlyOverflow_done (c : Chart) : OnlyOverflow (.done c) := by
  intro e he
  cases he

theorem onlyOverflow_andThen {a : Attempt TimeError Chart} {f : Chart → Attempt TimeError Chart}
    (ha : OnlyOverflow a) (hf : ∀ c, OnlyOverflow (f c)) : OnlyOverflow (a.andThen f) := by
  obtain ⟨s, _ | e⟩ := a
  · exact hf s
  · exact ha

theorem onlyOverflow_advance (time : Timestamp) (c : Chart) : OnlyOverflow (c.advance time) := by
  unfold advance
  split
  · exact onlyOverflow_done c
  · split
    · exact onlyOverflow_done _
    · intro e he
      cases he
      rfl

theorem onlyOverflow_each (records : List Record) (c : Chart) :
    OnlyOverflow (Attempt.each add records c) := by
  induction records generalizing c with
  | nil => exact onlyOverflow_done c
  | cons r rest ih =>
    have hadd := onlyOverflow_andThen (onlyOverflow_advance r.time c) fun c =>
      onlyOverflow_done (c.count r)
    exact onlyOverflow_andThen hadd ih

theorem onlyOverflow_update (records : List Record) (passed : Option Timestamp) (c : Chart) :
    OnlyOverflow (c.update records passed) := by
  unfold update
  split
  · exact onlyOverflow_done c
  · refine onlyOverflow_andThen (onlyOverflow_each records _) fun c => ?_
    refine onlyOverflow_andThen ?_ fun c => onlyOverflow_done _
    cases passed with
    | none => exact onlyOverflow_done c
    | some t => exact onlyOverflow_advance t c

theorem onlyOverflow_commit (c : Chart) : OnlyOverflow c.commit := by
  unfold commit
  split
  · exact onlyOverflow_done c
  · split
    · exact onlyOverflow_done c
    · split
      · exact onlyOverflow_done _
      · intro e he
        cases he
        rfl

theorem onlyOverflow_rebuild (records : List Record) (first passed : Option Timestamp)
    (c : Chart) : OnlyOverflow (c.rebuild records first passed) :=
  onlyOverflow_andThen (onlyOverflow_update _ _ _) fun _ => onlyOverflow_done _

end Chart

namespace Session
open TrafficMonitor.Filter (CompileError)
variable {s : Session} {clock : Clock}

/-! ### Filters and runs -/

/-- The filter that a text asks for; none for a blank one. -/
def requested (zone : Zone) (text : String) : Except CompileError (Option Filter) :=
  if text.toList.all Text.isBlank then .ok none
  else (Filter.parse zone text.toList).map some

theorem setFilter_eq (clock : Clock) (text : String) (s : Session) : s.setFilter clock text =
    match requested clock.zone text with
    | .error e => .stopped s (.compile e)
    | .ok filter => rebuild clock { s with filter } := by
  unfold setFilter requested
  split
  · rfl
  · cases Filter.parse clock.zone text.toList <;> rfl

/-- Changes one after another, each under the clock of its moment. A change that fails leaves
the state it reached. -/
def run (s : Session) : List (Clock × Change) → Session
  | [] => s
  | (clock, change) :: rest => run (s.apply clock change).state rest

theorem run_append (s : Session) (a b : List (Clock × Change)) :
    s.run (a ++ b) = (s.run a).run b := by
  induction a generalizing s with
  | nil => rfl
  | cons step rest ih => exact ih _

/-! ### Tables and rows -/

/-- The tables are those of the records that pass, and so are the rows. -/
structure TablesAgree (s : Session) : Prop where
  totals : s.totals = Totals.ofRecords (s.records.filter s.matches?)
  rows : s.rows = (s.records.filter s.matches?).map Record.row

theorem tablesAgree_new (interval : Interval) : (new interval).TablesAgree := ⟨rfl, rfl⟩

theorem tablesAgree_onChart (h : s.TablesAgree) (f : Chart → Attempt TimeError Chart) :
    (s.onChart f).state.TablesAgree := ⟨h.totals, h.rows⟩

theorem tablesAgree_rebuildChart (h : s.TablesAgree) (clock : Clock) :
    (s.rebuildChart clock).state.TablesAgree := by
  unfold rebuildChart
  split
  · split
    · exact h
    · exact tablesAgree_onChart h _
  · exact tablesAgree_onChart h _

/-- A rebuild makes the tables anew, under whatever filter is active. -/
theorem tablesAgree_rebuild (s : Session) (clock : Clock) :
    (s.rebuild clock).state.TablesAgree :=
  tablesAgree_rebuildChart ⟨rfl, rfl⟩ clock

theorem ingest_eq (r : Record) (s : Session) : s.ingest r =
    if s.matches? r then
      onChart { s with records := s.records ++ [r], totals := s.totals.add r } (·.update [r] none)
    else .done { s with records := s.records ++ [r] } := rfl

theorem tablesAgree_ingest (h : s.TablesAgree) (r : Record) :
    (s.ingest r).state.TablesAgree := by
  rw [ingest_eq]
  split
  · rename_i hmatches
    refine tablesAgree_onChart ⟨?_, rfl⟩ _
    show s.totals.add r = Totals.ofRecords ((s.records ++ [r]).filter s.matches?)
    have hvisible : (s.records ++ [r]).filter s.matches? = s.records.filter s.matches? ++ [r] := by
      rw [List.filter_append, List.filter_cons_of_pos hmatches, List.filter_nil]
    rw [hvisible, h.totals, Totals.ofRecords, Totals.ofRecords, Totals.addAll, Totals.addAll,
      List.foldl_append, List.foldl_cons, List.foldl_nil]
  · rename_i hmatches
    have hvisible : (s.records ++ [r]).filter s.matches? = s.records.filter s.matches? := by
      rw [List.filter_append, List.filter_cons_of_neg hmatches, List.filter_nil, List.append_nil]
    exact ⟨h.totals.trans (by rw [← hvisible]; rfl), rfl⟩

/-- The tables are those of the records that pass after every change, also after one that
failed half way. -/
theorem tablesAgree_apply (h : s.TablesAgree) (clock : Clock) (change : Change) :
    (s.apply clock change).state.TablesAgree := by
  cases change with
  | begin given =>
    simp only [apply, begin]
    split
    · exact h
    · exact ⟨rfl, rfl⟩
  | stop given =>
    simp only [apply, stop]
    split
    · exact h
    · rename_i now _
      exact tablesAgree_onChart (s := { s with capturing := false, finish := some now })
        ⟨h.totals, h.rows⟩ _
  | ingest r => exact tablesAgree_ingest h r
  | setFilter text =>
    rw [apply, setFilter_eq]
    split
    · exact h
    · exact tablesAgree_rebuild _ clock
  | setMode mode =>
    simp only [apply, setMode]
    split
    · exact tablesAgree_rebuildChart (s := { s with mode }) ⟨h.totals, h.rows⟩ clock
    · exact ⟨h.totals, h.rows⟩
  | rebuild => exact tablesAgree_rebuild s clock
  | rebuildChart => exact tablesAgree_rebuildChart h clock
  | clearChart => exact ⟨h.totals, h.rows⟩

theorem tablesAgree_run (h : s.TablesAgree) (steps : List (Clock × Change)) :
    (s.run steps).TablesAgree := by
  induction steps generalizing s with
  | nil => exact h
  | cons step rest ih => exact ih (tablesAgree_apply h step.1 step.2)

/-! ### The chart -/

/-- Summed over all buckets, the chart shows the packets and bytes of the network table. -/
structure ChartAgrees (s : Session) : Prop where
  packets : Number.total (s.chart.buckets.toList.map (·.packets)) = s.totals.network.packets
  bytes : Number.total (s.chart.buckets.toList.map (·.bytes)) = s.totals.network.bytes

theorem chartAgrees_iff : s.ChartAgrees ↔ s.chart.traffic = s.totals.network.traffic := by
  simp only [Chart.traffic, Bucket.sum, NetworkTotals.traffic, Bucket.mk.injEq]
  exact ⟨fun h => ⟨h.packets, h.bytes⟩, fun h => ⟨h.1, h.2⟩⟩

theorem traffic_ofRecords (records : List Record) :
    (Totals.ofRecords records).network.traffic = .ofRecords records := by
  rw [Totals.ofRecords, Totals.network_addAll]
  exact Bucket.empty_plus _

/-- A change of the chart alone that is not stopped by the end of the calendar is not stopped. -/
theorem failure_onChart {f : Chart → Attempt TimeError Chart}
    (honly : Chart.OnlyOverflow (f s.chart))
    (hover : (s.onChart f).failure ≠ some (.time .overflow)) : (f s.chart).failure = none := by
  cases hfailure : (f s.chart).failure with
  | none => rfl
  | some e =>
    obtain rfl := honly e hfailure
    exact absurd (by simp [onChart, Attempt.lift, hfailure]) hover

/-- A chart is rebuilt, or else nothing changes: during a capture with an unreadable clock. -/
theorem rebuildChart_cases (hover : (s.rebuildChart clock).failure ≠ some (.time .overflow)) :
    (∃ e, s.capturing = true ∧ clock.now = .error e ∧
      s.rebuildChart clock = .stopped s (.time e)) ∨
    ((s.capturing = true → ∀ e, clock.now ≠ .error e) ∧ (s.rebuildChart clock).failure = none ∧
      ∃ chart, (s.rebuildChart clock).state = { s with chart } ∧
        chart.traffic = .ofRecords s.visible) := by
  unfold rebuildChart at hover ⊢
  split at hover
  · rename_i hcapturing
    split at hover
    · rename_i e hnow
      exact Or.inl ⟨e, hcapturing, hnow, by simp [hcapturing]⟩
    · rename_i now hnow
      have hdone := failure_onChart (Chart.onlyOverflow_rebuild _ _ _ _) hover
      refine Or.inr ⟨by simp [hnow], ?_⟩
      rw [if_pos hcapturing]
      exact ⟨by simp [onChart, Attempt.lift, hdone], _, rfl, Chart.traffic_rebuild hdone⟩
  · rename_i hcapturing
    have hdone := failure_onChart (Chart.onlyOverflow_andThen
      (Chart.onlyOverflow_rebuild _ _ _ _) fun c => Chart.onlyOverflow_commit c) hover
    refine Or.inr ⟨fun h => absurd h hcapturing, ?_⟩
    rw [if_neg hcapturing]
    refine ⟨by simp [onChart, Attempt.lift, hdone], _, rfl, ?_⟩
    obtain ⟨hrebuild, -⟩ := Attempt.andThen_failure_eq_none.mp hdone
    rw [Attempt.state_andThen hrebuild, Chart.traffic_commit, Chart.traffic_rebuild hrebuild]

/-- A filter installed during a capture while the clock cannot be read selects as many packets
and bytes as the network table held before. -/
def KeepsUp (clock : Clock) (change : Change) (s : Session) : Prop :=
  ∀ text filter e, change = .setFilter text → s.capturing = true → clock.now = .error e →
    requested clock.zone text = .ok filter →
    (Totals.ofRecords ({ s with filter } : Session).visible).network = s.totals.network

theorem chartAgrees_rebuild
    (hover : (s.rebuild clock).failure ≠ some (.time .overflow)) :
    (s.rebuild clock).state.ChartAgrees ↔ (s.capturing = true → ∀ e, clock.now = .error e →
      s.chart.traffic = (Totals.ofRecords s.visible).network.traffic) := by
  unfold rebuild at hover ⊢
  rw [chartAgrees_iff]
  rcases rebuildChart_cases hover with ⟨e, hcapturing, hnow, heq⟩ |
    ⟨hnow, -, chart, hstate, htraffic⟩
  · rw [heq]
    constructor
    · exact fun h _ _ _ => h
    · exact fun h => h hcapturing e hnow
  · rw [hstate]
    constructor
    · exact fun _ hcapturing e he => absurd he (hnow hcapturing e)
    · exact fun _ => htraffic.trans (traffic_ofRecords s.visible).symm

theorem chartAgrees_rebuildChart (htotals : s.totals = Totals.ofRecords s.visible)
    (h : s.ChartAgrees) (hover : (s.rebuildChart clock).failure ≠ some (.time .overflow)) :
    (s.rebuildChart clock).state.ChartAgrees := by
  rcases rebuildChart_cases hover with ⟨e, -, -, heq⟩ | ⟨-, -, chart, hstate, htraffic⟩
  · rw [heq]
    exact h
  · rw [chartAgrees_iff, hstate, htotals, traffic_ofRecords]
    exact htraffic

theorem chartAgrees_stop (h : s.ChartAgrees) {given : Option Moment}
    (hover : (s.stop clock given).failure ≠ some (.time .overflow)) :
    (s.stop clock given).state.ChartAgrees := by
  unfold stop at hover ⊢
  split at hover
  · exact h
  · rename_i now _
    have honly := Chart.onlyOverflow_andThen
      (Chart.onlyOverflow_update [] (some now) s.chart) fun c =>
        Chart.onlyOverflow_commit (c.extend now)
    obtain ⟨hupdate, -⟩ := Attempt.andThen_failure_eq_none.mp (failure_onChart honly hover)
    rw [chartAgrees_iff] at h ⊢
    show ((s.chart.update [] (some now)).andThen fun chart =>
      (chart.extend now).commit).state.traffic = s.totals.network.traffic
    rw [Attempt.state_andThen hupdate, Chart.traffic_commit, Chart.traffic_extend,
      Chart.traffic_update hupdate, Bucket.ofRecords_nil, Bucket.plus_empty, h]

theorem chartAgrees_ingest (h : s.ChartAgrees) {r : Record}
    (hover : (s.ingest r).failure ≠ some (.time .overflow)) :
    (s.ingest r).state.ChartAgrees := by
  rw [ingest_eq] at hover ⊢
  split
  · rename_i hmatches
    rw [if_pos hmatches] at hover
    have hdone := failure_onChart (Chart.onlyOverflow_update [r] none s.chart) hover
    rw [chartAgrees_iff] at h ⊢
    exact (Chart.traffic_update hdone).trans
      (by rw [h]; exact (Totals.network_addAll s.totals [r]).symm)
  · exact ⟨h.packets, h.bytes⟩

/-- A refused text changes nothing, and an accepted one rebuilds. -/
theorem chartAgrees_setFilter (h : s.ChartAgrees) {text : String}
    (hover : (s.setFilter clock text).failure ≠ some (.time .overflow)) :
    (s.setFilter clock text).state.ChartAgrees ↔ KeepsUp clock (.setFilter text) s := by
  have hagrees := chartAgrees_iff.mp h
  rw [setFilter_eq] at hover ⊢
  split at hover
  · rename_i e hrequested
    refine iff_of_true h ?_
    intro text' filter _ hchange _ _ hok
    cases hchange
    rw [hrequested] at hok
    cases hok
  · rename_i filter hrequested
    rw [chartAgrees_rebuild hover]
    constructor
    · intro hrebuilt text' filter' e hchange hcapturing hnow hok
      cases hchange
      rw [hrequested] at hok
      cases hok
      exact NetworkTotals.eq_of_traffic ((hrebuilt hcapturing e hnow).symm.trans hagrees)
    · intro hkeeps hcapturing e hnow
      rw [hkeeps text filter e rfl hcapturing hnow hrequested]
      exact hagrees

/-- Every change leaves the chart in agreement, but for a filter that does not keep up. -/
theorem chartAgrees_apply (htables : s.TablesAgree) (h : s.ChartAgrees) {change : Change}
    (hclear : change ≠ .clearChart)
    (hover : (s.apply clock change).failure ≠ some (.time .overflow)) :
    (s.apply clock change).state.ChartAgrees ↔ KeepsUp clock change s := by
  have htotals : s.totals = Totals.ofRecords s.visible := htables.totals
  have hagrees := chartAgrees_iff.mp h
  have hother : (∀ text, change ≠ .setFilter text) → KeepsUp clock change s :=
    fun hne text _ _ htext => absurd htext (hne text)
  cases change with
  | begin given =>
    refine iff_of_true ?_ (hother (by simp))
    simp only [apply, begin]
    split
    · exact h
    · exact ⟨rfl, rfl⟩
  | stop given => exact iff_of_true (chartAgrees_stop h hover) (hother (by simp))
  | ingest r => exact iff_of_true (chartAgrees_ingest h hover) (hother (by simp))
  | setFilter text => exact chartAgrees_setFilter h hover
  | setMode mode =>
    refine iff_of_true ?_ (hother (by simp))
    simp only [apply, setMode] at hover ⊢
    split
    · rename_i hplot
      rw [if_pos hplot] at hover
      exact chartAgrees_rebuildChart (s := { s with mode }) htotals ⟨h.packets, h.bytes⟩ hover
    · exact ⟨h.packets, h.bytes⟩
  | rebuild =>
    refine iff_of_true ?_ (hother (by simp))
    exact (chartAgrees_rebuild hover).mpr fun _ _ _ => by rw [hagrees, htotals]
  | rebuildChart =>
    exact iff_of_true (chartAgrees_rebuildChart htotals h hover) (hother (by simp))
  | clearChart => exact absurd rfl hclear

/-! ### Runs -/

/-- The state before the step with number `n` of a run. -/
def before (interval : Interval) (steps : List (Clock × Change)) (n : Nat) : Session :=
  (new interval).run (steps.take n)

theorem before_succ (interval : Interval) {steps : List (Clock × Change)} {n : Nat}
    (h : n < steps.length) : before interval steps (n + 1) =
      ((before interval steps n).apply steps[n].1 steps[n].2).state := by
  rw [before, List.take_succ_eq_append_getElem h, run_append]
  rfl

/-- **The views agree, but for one case.** In a run in which no change overflows, tables and rows
always show the records that pass. The chart agrees with them after every change exactly when
every filter that is installed during a capture, while the clock cannot be read, keeps up. -/
theorem views_agree (interval : Interval) (steps : List (Clock × Change))
    (hclear : ∀ step ∈ steps, step.2 ≠ .clearChart)
    (hover : ∀ n (h : n < steps.length),
      ((before interval steps n).apply steps[n].1 steps[n].2).failure ≠ some (.time .overflow)) :
    (∀ n, (before interval steps n).TablesAgree) ∧
    ((∀ n, (before interval steps n).ChartAgrees) ↔
      ∀ n (h : n < steps.length), KeepsUp steps[n].1 steps[n].2 (before interval steps n)) := by
  have htables : ∀ n, (before interval steps n).TablesAgree := fun n =>
    tablesAgree_run (tablesAgree_new interval) (steps.take n)
  have hstep : ∀ n (h : n < steps.length), (before interval steps n).ChartAgrees →
      ((before interval steps (n + 1)).ChartAgrees ↔
        KeepsUp steps[n].1 steps[n].2 (before interval steps n)) := by
    intro n hn hagrees
    rw [before_succ interval hn]
    exact chartAgrees_apply (htables n) hagrees (hclear _ (List.getElem_mem hn)) (hover n hn)
  refine ⟨htables, fun hagrees n hn => (hstep n hn (hagrees n)).mp (hagrees (n + 1)), ?_⟩
  intro hkeeps n
  induction n with
  | zero => exact ⟨rfl, rfl⟩
  | succ n ih =>
    rcases Nat.lt_or_ge n steps.length with hn | hn
    · exact (hstep n hn ih).mpr (hkeeps n hn)
    · rw [before, List.take_of_length_le (by omega)]
      rwa [before, List.take_of_length_le hn] at ih

/-- A packet captured at noon of the last day, and a filter installed in the evening, when the
clock can no longer be read. -/
def lastDay (text : String) : List (Clock × Change) :=
  let zone : Zone := ⟨28800⟩
  let noon : Timestamp := ⟨⟨span - 43200000000, by decide⟩, 28800⟩
  let evening : LocalTime := ⟨span - 14400000000, by decide⟩
  [(⟨zone, .ok noon⟩, .begin none),
    (⟨zone, .ok noon⟩, .ingest { time := noon, length := 100, transport := .tcp }),
    (⟨zone, zone.attach evening⟩, .setFilter text)]

theorem lastDay_steps {text : String} {n : Nat} (h : n < (lastDay text).length) :
    n = 0 ∨ n = 1 ∨ n = 2 := by
  simp only [lastDay, List.length_cons, List.length_nil] at h
  omega

/-- A blank text selects the same packet, so the old chart is still right. -/
theorem views_agree_blank :
    let steps := lastDay ""
    let state := before ⟨1000000, by decide⟩ steps
    (∀ step ∈ steps, step.2 ≠ .clearChart) ∧
    (∀ n (h : n < steps.length),
      ((state n).apply steps[n].1 steps[n].2).failure ≠ some (.time .overflow)) ∧
    ((state 2).apply steps[2].1 steps[2].2).failure = some (.time (.yearOutOfRange 10000)) ∧
    (∀ n, (state n).TablesAgree) ∧ (∀ n, (state n).ChartAgrees) := by
  intro steps state
  have hclear : ∀ step ∈ steps, step.2 ≠ .clearChart := by simp [steps, lastDay]
  have hover : ∀ n (h : n < steps.length),
      ((state n).apply steps[n].1 steps[n].2).failure ≠ some (.time .overflow) := by
    decide +kernel
  obtain ⟨htables, hchart⟩ := views_agree ⟨1000000, by decide⟩ steps hclear hover
  refine ⟨hclear, hover, by decide +kernel, htables, hchart.mpr fun n hn => ?_⟩
  rcases lastDay_steps hn with rfl | rfl | rfl
  · intro text filter e hchange
    cases hchange
  · intro text filter e hchange
    cases hchange
  · intro text filter e hchange _ _ hrequested
    cases hchange
    obtain rfl : filter = none := by
      cases hrequested
      rfl
    decide +kernel

/-- A filter that selects nothing leaves the packet in the chart. -/
theorem views_disagree_unreadable_clock :
    let steps := lastDay "len == 5"
    let state := before ⟨1000000, by decide⟩ steps
    (∀ step ∈ steps, step.2 ≠ .clearChart) ∧
    (∀ n (h : n < steps.length),
      ((state n).apply steps[n].1 steps[n].2).failure ≠ some (.time .overflow)) ∧
    (state 3).totals.network.traffic = ⟨0, 0⟩ ∧ (state 3).chart.traffic = ⟨1, 100⟩ ∧
    ¬ (state 3).ChartAgrees := by
  intro steps state
  let five : Filter := .leaf ⟨.length, .eq, .number 5⟩
  have hparse : Filter.parse ⟨28800⟩ "len == 5".toList = .ok five := by
    have hwritable : ∀ c ∈ five.leaves, c.IsWritable ⟨28800⟩ := by
      intro c hc
      obtain rfl := List.mem_singleton.mp hc
      exact ⟨rfl, Or.inl ⟨['5'], rfl⟩⟩
    have hdisplay : five.display = "len == 5".toList := by decide +kernel
    rw [← hdisplay]
    exact Filter.parse_display hwritable
  have hlast : (state 2).apply steps[2].1 steps[2].2 =
      rebuild steps[2].1 { state 2 with filter := some five } := by
    show (state 2).setFilter steps[2].1 "len == 5" = _
    have hzone : steps[2].1.zone = ⟨28800⟩ := rfl
    rw [setFilter_eq, requested, if_neg (by decide), hzone, hparse]
    rfl
  have hstate : state 3 = (rebuild steps[2].1 { state 2 with filter := some five }).state := by
    rw [← hlast]
    exact before_succ _ (by decide : 2 < steps.length)
  have hbegin : ((state 0).apply steps[0].1 steps[0].2).failure = none := by decide +kernel
  have hingest : ((state 1).apply steps[1].1 steps[1].2).failure = none := by decide +kernel
  refine ⟨by simp [steps, lastDay], ?_, ?_, ?_, ?_⟩
  · intro n hn
    rcases lastDay_steps hn with rfl | rfl | rfl
    · simp [hbegin]
    · simp [hingest]
    · rw [hlast]
      decide +kernel
  · rw [hstate]
    decide +kernel
  · rw [hstate]
    decide +kernel
  · rw [chartAgrees_iff, hstate]
    decide +kernel

end Session

end TrafficMonitor
