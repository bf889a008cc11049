import TrafficMonitor.Proofs.Analysis.Consistency
import TrafficMonitor.Proofs.Analysis.Spread
import TrafficMonitor.Proofs.Analysis.Traffic

/-! The ledger of a chart: the records that it counted since it was last emptied. The buckets hold
what the ledger says after every call, also after one that failed half way (`traffic_apply`). As
long as no call fails, the record of time ends in the open window or in the one before it
(`inTime_apply`). `sound_run` says this, and what a consistent chart promises, of any calls. -/
namespace TrafficMonitor
open Time
open Number (total)

namespace Attempt

/-- The items whose change was made, up to the first that failed. -/
def made (f : α → σ → Attempt ε σ) : List α → σ → List α
  | [], _ => []
  | a :: rest, s => if (f a s).failure.isNone then a :: made f rest (f a s).state else []

theorem state_andThen_failed {a : Attempt ε σ} {e : ε} (h : a.failure = some e)
    (f : σ → Attempt ε σ) : (a.andThen f).state = a.state := by
  obtain ⟨s, _ | e⟩ := a
  · cases h
  · rfl

end Attempt

theorem Bucket.ofRecords_append (a b : List Record) :
    ofRecords (a ++ b) = (ofRecords a).plus (ofRecords b) := by
  simp [ofRecords, plus, Number.total_append]

namespace Chart
variable {c : Chart} {f : Frame}

/-! ### The ledger -/

/-- The records of an update that it counts: all of them, or those before the one whose window
does not fit into the calendar. -/
def taken (c : Chart) (records : List Record) : List Record :=
  Attempt.made add records (records.head?.elim c fun r => c.anchored r.time)

theorem traffic_add (c : Chart) (r : Record) : (c.add r).state.traffic =
    c.traffic.plus (if (c.add r).failure.isNone then .ofRecords [r] else {}) := by
  rw [← traffic_advance c r.time, add]
  obtain ⟨s, _ | e⟩ := c.advance r.time
  · exact traffic_count s r
  · rfl

/-- A replay adds the traffic of the records it got through. -/
theorem traffic_each_made (records : List Record) (c : Chart) :
    (Attempt.each add records c).state.traffic =
      c.traffic.plus (.ofRecords (Attempt.made add records c)) := by
  induction records generalizing c with
  | nil => rfl
  | cons r rest ih =>
    have hadd := traffic_add c r
    rw [Attempt.each, Attempt.made]
    cases hfailure : (c.add r).failure with
    | none =>
      simp only [hfailure, Option.isNone_none, if_true] at hadd ⊢
      rw [Attempt.state_andThen hfailure, ih, hadd, Bucket.plus_assoc, ← Bucket.ofRecords_cons]
    | some e =>
      simp only [hfailure, Option.isNone_some, Bool.false_eq_true, if_false] at hadd ⊢
      rw [Attempt.state_andThen_failed hfailure, hadd, Bucket.ofRecords_nil]

theorem traffic_update_taken (c : Chart) (records : List Record) (passed : Option Timestamp) :
    (c.update records passed).state.traffic =
      c.traffic.plus (.ofRecords (c.taken records)) := by
  cases hfirst : (records.head?.map (·.time)).or passed with
  | none =>
    obtain ⟨rfl, rfl, hnone⟩ := update_eq_done (c := c) hfirst
    rw [hnone]
    rfl
  | some first =>
    have htaken : c.taken records = Attempt.made add records (c.anchored first) := by
      cases records with
      | nil => rfl
      | cons r rest =>
        obtain rfl : r.time = first := Option.some.inj hfirst
        rfl
    have heach := traffic_each_made records (c.anchored first)
    rw [traffic_anchored, ← htaken] at heach
    rw [update_eq_replay hfirst, replay, Attempt.andThen_assoc]
    refine Attempt.state_andThen_of
      (P := fun c' : Chart => c'.traffic = c.traffic.plus (.ofRecords (c.taken records))) heach
      fun c' hc' => ?_
    refine Attempt.state_andThen_of
      (P := fun c' : Chart => c'.traffic = c.traffic.plus (.ofRecords (c.taken records))) ?_
      fun _ h => h
    cases passed with
    | none => exact hc'
    | some time => exact (traffic_advance c' time).trans hc'

theorem traffic_rebuild_taken (c : Chart) (records : List Record)
    (first passed : Option Timestamp) : (c.rebuild records first passed).state.traffic =
      .ofRecords ((first.elim c.clear c.restart).taken records) := by
  have hempty : (first.elim c.clear c.restart).traffic = {} := by cases first <;> rfl
  have hupdate := traffic_update_taken (first.elim c.clear c.restart) records passed
  rw [hempty, Bucket.empty_plus] at hupdate
  refine Attempt.state_andThen_of (P := fun c' : Chart => c'.traffic = _) hupdate fun c' hc' => ?_
  cases passed with
  | none => exact hc'
  | some time => exact (traffic_extend c' time).trans hc'

/-- The records counted since the chart was last emptied, after a change of a chart for which
they were `counted`. A call with a time that cannot be resolved counts and empties nothing. -/
def ledger (zone : Zone) (change : Change) (c : Chart) (counted : List Record) : List Record :=
  match change with
  | .clear => []
  | .restart time =>
    match zone.resolve time with
    | .error _ => counted
    | .ok _ => []
  | .update records passed =>
    match passed.mapM zone.resolve with
    | .error _ => counted
    | .ok _ => counted ++ c.taken records
  | .rebuild records start finish =>
    match finish.mapM zone.resolve, start.mapM zone.resolve with
    | .error _, _ => counted
    | .ok _, .error _ => counted
    | .ok _, .ok first => (first.elim c.clear c.restart).taken records
  | .commit => counted

/-- The buckets hold what the ledger says. -/
theorem traffic_apply {counted : List Record} (h : c.traffic = .ofRecords counted) (zone : Zone)
    (change : Change) :
    (c.apply zone change).state.traffic = .ofRecords (c.ledger zone change counted) := by
  cases change with
  | clear => rfl
  | restart time =>
    rw [apply_restart, ledger]
    cases zone.resolve time with
    | error e => exact h
    | ok t => rfl
  | update records passed =>
    rw [apply_update_eq, ledger]
    cases passed.mapM zone.resolve with
    | error e => exact h
    | ok p =>
      show (c.update records p).state.traffic = .ofRecords (counted ++ c.taken records)
      rw [traffic_update_taken, h, Bucket.ofRecords_append]
  | rebuild records start finish =>
    rw [apply_rebuild, ledger]
    cases finish.mapM zone.resolve with
    | error e => exact h
    | ok passed =>
      cases start.mapM zone.resolve with
      | error e => exact h
      | ok first => exact traffic_rebuild_taken c records first passed
  | commit => exact (traffic_commit c).trans h

/-! ### The record of time -/

/-- The record of time goes from the origin to a time in the open window or in the one before it;
in the open one if that holds anything. -/
def InTime (c : Chart) : Prop :=
  ∀ f, c.frame = some f → ∃ s e, c.start = some s ∧ c.finish = some e ∧ s.instant ≤ e.instant ∧
    f.cursor.instant - c.interval.micros ≤ e.instant ∧
    e.instant < f.cursor.instant + c.interval.micros ∧
    (c.current.isEmpty = false → f.cursor.instant ≤ e.instant)

theorem inTime_of_finish (hc : c.Consistent)
    (h : ∀ f, c.frame = some f → ∃ e, c.finish = some e ∧ f.cursor.instant ≤ e.instant ∧
      e.instant < f.cursor.instant + c.interval.micros) : c.InTime := by
  intro f hf
  obtain ⟨e, he, hle, hlt⟩ := h f hf
  obtain ⟨hstart, hapart⟩ := hc.anchored f hf
  have hcursor := hapart.instant
  have hwindows : (0 : Int) ≤ c.closed.size * c.interval.micros :=
    Int.natCast_nonneg (c.closed.size * c.interval.micros)
  exact ⟨f.origin, e, hstart, he, by omega, by omega, hlt, fun _ => hle⟩

theorem inTime_clear (c : Chart) : c.clear.InTime := nofun

/-- The record of time ends where the open window begins. -/
theorem inTime_of_finish_eq (hc : c.Consistent) (h : c.finish = c.frame.map (·.cursor)) :
    c.InTime := by
  have hw : (0 : Int) < c.interval.micros := by exact_mod_cast c.interval.positive
  refine inTime_of_finish hc fun f hf => ⟨f.cursor, by rw [h, hf]; rfl, Int.le_refl _, ?_⟩
  omega

theorem inTime_restart (c : Chart) (time : Timestamp) : (c.restart time).InTime :=
  inTime_of_finish_eq (consistent_restart c time) rfl

theorem inTime_update (hc : c.Consistent) (h : c.InTime) {records : List Record}
    {passed : Option Timestamp} (hdone : (c.update records passed).failure = none) :
    (c.update records passed).state.InTime := by
  cases hfirst : (records.head?.map (·.time)).or passed with
  | none =>
    rw [(update_eq_done hfirst).2.2]
    exact h
  | some first =>
    refine inTime_of_finish_eq (consistent_update hc records passed) (finish_update ?_ hdone)
    intro hnone
    cases hfirst.symm.trans hnone

/-- An advance ends in the window of its time, or in a later one. -/
theorem lt_cursor_advance {time : Timestamp} (hf : c.frame = some f)
    (hdone : (c.advance time).failure = none) {g : Frame}
    (hg : (c.advance time).state.frame = some g) :
    time.instant < g.cursor.instant + c.interval.micros := by
  obtain ⟨hroom, hstate⟩ := state_advance hf hdone
  obtain ⟨k, hk, -, hcursor⟩ := frame_close (h := hroom) hf
  rw [hstate, hk] at hg
  cases hg
  have hlt : time.instant < f.cursor.instant +
      (f.passed c.interval time + 1 : Nat) * c.interval.micros := lt_passed_mul c.interval
  rw [Int.natCast_add, Int.add_mul] at hlt
  omega

/-- An update ends in the window of the time that has passed, or in a later one. -/
theorem lt_cursor_update {records : List Record} {time : Timestamp}
    (hdone : (c.update records (some time)).failure = none) {g : Frame}
    (hg : (c.update records (some time)).state.frame = some g) :
    time.instant < g.cursor.instant + c.interval.micros := by
  obtain ⟨first, hfirst⟩ : ∃ first, (records.head?.map (·.time)).or (some time) = some first := by
    cases records <;> exact ⟨_, rfl⟩
  obtain ⟨heach, hpassed, hstate⟩ := state_update hfirst hdone
  obtain ⟨f, hf⟩ := exists_frame_anchored c first
  obtain ⟨k, hk, -⟩ := frame_each hf heach
  rw [hstate] at hg
  simpa using lt_cursor_advance hk hpassed hg

theorem finish_extend {a : Timestamp} (h : c.finish = some a) (time : Timestamp) :
    ∃ e, (c.extend time).finish = some e ∧ a.instant ≤ e.instant ∧ (e = a ∨ e = time) := by
  simp only [extend, h]
  split
  · rename_i hbefore
    exact ⟨time, rfl, Int.le_of_lt (of_decide_eq_true hbefore), Or.inr rfl⟩
  · exact ⟨a, h, Int.le_refl _, Or.inl rfl⟩

theorem inTime_rebuild {records : List Record} {first passed : Option Timestamp}
    (hdone : (c.rebuild records first passed).failure = none) :
    (c.rebuild records first passed).state.InTime := by
  obtain ⟨hconsistent, hempty⟩ : (first.elim c.clear c.restart).Consistent ∧
      (first.elim c.clear c.restart).InTime := by
    cases first with
    | none => exact ⟨consistent_clear c, inTime_clear c⟩
    | some time => exact ⟨consistent_restart c time, inTime_restart c time⟩
  obtain ⟨hupdate, hstate⟩ := state_rebuild hdone
  have hresult := consistent_update hconsistent records passed
  rw [hstate]
  cases passed with
  | none => exact inTime_update hconsistent hempty hupdate
  | some time =>
    rw [Option.elim_some, extend_eq_dated]
    refine inTime_of_finish (consistent_dated hresult _) fun f hf => ?_
    have hlt := lt_cursor_update hupdate hf
    have hfinish := finish_update (by cases records <;> exact nofun) hupdate
    rw [show ((first.elim c.clear c.restart).update records (some time)).state.frame = some f
      from hf, Option.map_some] at hfinish
    obtain ⟨e, he, hle, heq⟩ := finish_extend hfinish time
    refine ⟨e, he, hle, ?_⟩
    show e.instant < f.cursor.instant +
      ((first.elim c.clear c.restart).update records (some time)).state.interval.micros
    rw [interval_update hupdate]
    have hw : (0 : Int) < (first.elim c.clear c.restart).interval.micros := by
      exact_mod_cast (first.elim c.clear c.restart).interval.positive
    rcases heq with rfl | rfl
    · omega
    · exact hlt

theorem inTime_commit (hc : c.Consistent) (h : c.InTime) : c.commit.state.InTime := by
  rcases commit_cases hc with ⟨-, hcommit⟩ | ⟨f, hroom, hf, hopen, hcommit⟩
  · rw [hcommit]
    exact h
  · obtain ⟨s, e, hs, he, hle, -, hlt, hcursor⟩ := h f hf
    have hfrom := hcursor hopen
    obtain ⟨k, hk, -, hmoved⟩ := frame_close (h := hroom) hf
    have hinterval : (c.close f 1 hroom).interval = c.interval := interval_close
    rw [hcommit, Attempt.state_done]
    intro g hg
    cases hk.symm.trans hg
    refine ⟨s, e, hs, he, hle, ?_, ?_, nofun⟩ <;> rw [hinterval] <;> omega

theorem inTime_apply (hc : c.Consistent) (h : c.InTime) {zone : Zone} {change : Change}
    (hdone : (c.apply zone change).failure = none) : (c.apply zone change).state.InTime := by
  cases change with
  | clear => exact inTime_clear c
  | restart time =>
    rw [apply_restart] at hdone ⊢
    split at hdone
    · exact h
    · exact inTime_restart c _
  | update records passed =>
    rw [apply_update_eq] at hdone ⊢
    split at hdone
    · exact h
    · exact inTime_update hc h hdone
  | rebuild records start finish =>
    rw [apply_rebuild] at hdone ⊢
    split at hdone
    · exact h
    · exact h
    · exact inTime_rebuild hdone
  | commit => exact inTime_commit hc h

/-! ### Runs -/

/-- Calls one after another, each in the local zone of its moment. A call that fails leaves the
state that it reached. -/
def run (c : Chart) : List (Zone × Change) → Chart
  | [] => c
  | (zone, change) :: rest => run (c.apply zone change).state rest

/-- The ledger after the calls of a run. -/
def runLedger (c : Chart) (counted : List Record) : List (Zone × Change) → List Record
  | [] => counted
  | (zone, change) :: rest =>
    runLedger (c.apply zone change).state (c.ledger zone change counted) rest

/-- No call of the run fails. -/
def Unfailing (c : Chart) : List (Zone × Change) → Prop
  | [] => True
  | (zone, change) :: rest =>
    (c.apply zone change).failure = none ∧ Unfailing (c.apply zone change).state rest

/-- What holds of a chart that counted some records since it was last emptied. Origin and cursor
are absent together, as there is no frame without both. -/
structure Sound (width : Interval) (counted : List Record) (c : Chart) : Prop where
  interval : c.interval = width
  unanchored : c.frame = none → c.closed = #[] ∧ c.current = {}
  anchored : ∀ f, c.frame = some f → c.start = some f.origin ∧ f.Apart width c.closed.size
  packets : total (c.windows.map (·.packets)) = counted.length
  bytes : total (c.windows.map (·.bytes)) = total (counted.map (·.length.toNat))
  commits : c.commit.failure = none
  commits_once : c.commit.state.commit = .done c.commit.state
  commits_alike : c.commit.state.buckets = c.buckets

theorem sound_of_consistent {counted : List Record} (h : c.Consistent)
    (htraffic : c.traffic = .ofRecords counted) : c.Sound c.interval counted := by
  rw [traffic_eq] at htraffic
  exact {
    interval := rfl
    unanchored := fun hf => ⟨(h.unanchored hf).1, (h.unanchored hf).2.1⟩
    anchored := h.anchored
    packets := congrArg Bucket.packets htraffic
    bytes := congrArg Bucket.bytes htraffic
    commits := failure_commit h
    commits_once := commit_commit h
    commits_alike := buckets_commit h }

theorem sound_run_from {counted : List Record} (h : c.Consistent)
    (htraffic : c.traffic = .ofRecords counted) (calls : List (Zone × Change)) :
    (c.run calls).Sound c.interval (c.runLedger counted calls) ∧
      (c.InTime → c.Unfailing calls → (c.run calls).InTime) := by
  induction calls generalizing c counted with
  | nil => exact ⟨sound_of_consistent h htraffic, fun htime _ => htime⟩
  | cons call rest ih =>
    obtain ⟨zone, change⟩ := call
    obtain ⟨hsound, htime⟩ :=
      ih (consistent_apply h zone change) (traffic_apply htraffic zone change)
    rw [interval_apply] at hsound
    exact ⟨hsound, fun hin hdone => htime (inTime_apply h hin hdone.1) hdone.2⟩

/-- **A chart is sound after any calls**, whichever of them failed, and the record of time keeps
up with the windows as long as none did. -/
theorem sound_run (interval : Interval) (calls : List (Zone × Change)) :
    (run { interval } calls).Sound interval (runLedger { interval } [] calls) ∧
      (Unfailing { interval } calls → (run { interval } calls).InTime) := by
  have hnew : (({ interval } : Chart)).Consistent := consistent_clear { interval }
  have htraffic : ({ interval } : Chart).traffic = .ofRecords [] := rfl
  obtain ⟨hsound, htime⟩ := sound_run_from hnew htraffic calls
  exact ⟨hsound, htime (inTime_clear { interval })⟩

/-- Calls that succeed, and then a time that cannot be resolved, a record whose window the
calendar cannot hold, and the open window closed early. -/
theorem sound_run_calendar_end :
    let interval : Interval := ⟨1000000, by decide⟩
    let fixed (micros : Nat) (h : micros < span) : Timestamp := ⟨⟨micros, h⟩, 0⟩
    let record (time : Timestamp) (length : UInt16) : Record := { time, length, transport := .tcp }
    let first := record (fixed 63082281600000000 (by decide)) 100
    let second := record (fixed 63082281602500000 (by decide)) 60
    let finish := fixed 63082281603200000 (by decide)
    let eve := fixed (span - 1500000) (by decide)
    let fits := record (fixed (span - 1400000) (by decide)) 7
    let beyond := record (fixed (span - 100000) (by decide)) 9
    let good : List (Zone × Change) :=
      [(⟨0⟩, .rebuild [first, second] none (some (.fixed finish))), (⟨0⟩, .commit),
        (⟨0⟩, .update [first] none)]
    let bad : List (Zone × Change) :=
      [(⟨0⟩, .restart (.floating ⟨0, by decide⟩)), (⟨0⟩, .restart (.fixed eve)),
        (⟨0⟩, .update [fits, beyond] none), (⟨0⟩, .commit)]
    Unfailing { interval } good ∧ ¬ Unfailing { interval } (good ++ bad) ∧
      runLedger { interval } [] (good ++ bad) = [fits] ∧ (run { interval } good).InTime ∧
      (run { interval } (good ++ bad)).Sound interval [fits] := by
  intro interval fixed record first second finish eve fits beyond good bad
  have hgood : Unfailing { interval } good :=
    ⟨by decide +kernel, by decide +kernel, by decide +kernel, trivial⟩
  have hbad : ¬ Unfailing { interval } (good ++ bad) := by
    rintro ⟨-, -, -, hrestart, -⟩
    revert hrestart
    decide +kernel
  have hledger : runLedger { interval } [] (good ++ bad) = [fits] := by decide +kernel
  refine ⟨hgood, hbad, hledger, (sound_run interval good).2 hgood, ?_⟩
  rw [← hledger]
  exact (sound_run interval (good ++ bad)).1

end Chart

end TrafficMonitor
