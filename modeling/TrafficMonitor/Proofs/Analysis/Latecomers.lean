import TrafficMonitor.Proofs.Analysis.Consistency
import TrafficMonitor.Proofs.Analysis.Spread
import TrafficMonitor.Proofs.Analysis.Traffic

/-! Records that come late for a chart. A chart that is rebuilt during a capture reaches up to the
present. A record that comes afterwards counts in the open window or in a later one
(`getD_windows_resumed`), also if it was captured in a window before that. `resumed_iff_prompt`
says that these latecomers are the only records that end up in the wrong window, and that a
further rebuild after the capture shows it. -/
namespace TrafficMonitor
open Time

/-! ### The window of a time -/

/-- The number of the window in which a time lies, from an origin on. -/
def Time.Timestamp.windowAt (origin : Timestamp) (width : Interval) (time : Timestamp) : Int :=
  (time.instant - origin.instant) / width.micros

theorem windowAt_eq_iff {origin time : Timestamp} {width : Interval} {i : Nat} :
    origin.windowAt width time = i ↔ origin.instant + i * width.micros ≤ time.instant ∧
      time.instant < origin.instant + (i + 1) * width.micros := by
  have hw : (0 : Int) < width.micros := by exact_mod_cast width.positive
  have hle := Int.le_ediv_iff_mul_le (a := i) (b := time.instant - origin.instant) hw
  have hlt := Int.ediv_lt_iff_lt_mul (a := time.instant - origin.instant) (b := i + 1) hw
  unfold Timestamp.windowAt
  omega

theorem windowAt_nonneg {origin time : Timestamp} (h : origin.instant ≤ time.instant)
    (width : Interval) : 0 ≤ origin.windowAt width time := by
  have hw : (0 : Int) < width.micros := by exact_mod_cast width.positive
  exact Int.ediv_nonneg (by omega) (Int.le_of_lt hw)

/-- Records that count at their own times. -/
theorem window_map_time (origin : Timestamp) (width : Interval) (i : Nat) (records : List Record) :
    window origin.instant width.micros i (records.map fun r => (r.time.instant, r)) =
      records.filter fun r => origin.windowAt width r.time = i := by
  simp [window, windowAt_eq_iff, List.filter_map, Function.comp_def]

/-- A window that ends before all times is empty. -/
theorem window_eq_nil_of_le {origin time : Int} {width i : Nat} {counted : List (Int × Record)}
    (hfrom : ∀ p ∈ counted, time ≤ p.1) (h : origin + (i + 1) * width ≤ time) :
    window origin width i counted = [] := by
  simp only [window, List.map_eq_nil_iff, List.filter_eq_nil_iff, decide_eq_true_eq, not_and]
  intro p hp _
  have := hfrom p hp
  omega

/-- No record counts before the time that was reached. -/
theorem le_of_mem_reached {time : Int} {records : List Record} {p : Int × Record}
    (h : p ∈ reached time records) : time ≤ p.1 := by
  induction records generalizing time with
  | nil => cases h
  | cons r rest ih =>
    rcases List.mem_cons.mp h with rfl | h
    · exact Int.le_max_left _ _
    · exact Int.le_trans (Int.le_max_left _ _) (ih h)

namespace Chart
variable {c : Chart} {origin start finish : Timestamp} {time : Int}
  {counted : List (Int × Record)} {interval : Interval} {before since records : List Record}
  {upTo : Option Timestamp}

/-! ### Windows by their number -/

/-- An empty window at the end shows in no window. -/
theorem getD_append_empty (bs : List Bucket) (n i : Nat) :
    (bs ++ List.replicate n ({} : Bucket)).getD i {} = bs.getD i {} := by
  rw [List.getD_eq_getElem?_getD, List.getD_eq_getElem?_getD]
  rcases Nat.lt_or_ge i bs.length with h | h
  · rw [List.getElem?_append_left h]
  · rw [List.getElem?_append_right h, List.getElem?_eq_none h, List.getElem?_replicate]
    split <;> rfl

theorem getD_buckets (c : Chart) (i : Nat) : c.buckets.toList.getD i {} = c.windows.getD i {} := by
  unfold windows buckets
  split
  · rename_i hempty
    rw [Bucket.eq_empty_of_isEmpty hempty]
    exact (getD_append_empty c.closed.toList 1 i).symm
  · rw [Array.toList_push]

theorem getD_windows_commit (h : c.Consistent) (i : Nat) :
    c.commit.state.windows.getD i {} = c.windows.getD i {} := by
  rw [← getD_buckets, buckets_commit h, getD_buckets]

theorem Spread.getD_windows (h : c.Spread origin time counted) (i : Nat) :
    c.windows.getD i {} =
      .ofRecords (window origin.instant c.interval.micros i counted) := by
  rcases Nat.lt_or_ge i (c.closed.size + 1) with hi | hi
  · simp [h.windows, List.getD_eq_getElem?_getD, hi]
  · have hpast : window origin.instant c.interval.micros i counted = [] := by
      have hinside := h.inside
      have hle : ((c.closed.size : Int) + 1) * c.interval.micros ≤ i * c.interval.micros := by
        exact_mod_cast Nat.mul_le_mul_right c.interval.micros hi
      exact window_eq_nil h.past (by omega)
    rw [hpast, List.getD_eq_getElem?_getD, List.getElem?_eq_none (by rw [length_windows]; exact hi)]
    rfl

/-- The chart holds each of the records in the window of its own time, and nothing else. -/
def Places (c : Chart) (origin : Timestamp) (records : List Record) : Prop :=
  ∀ i : Nat, c.windows.getD i {} =
    .ofRecords (records.filter fun r => origin.windowAt c.interval r.time = i)

theorem Places.congr {c' : Chart} (hbuckets : c'.buckets = c.buckets)
    (hinterval : c'.interval = c.interval) (h : c.Places origin records) :
    c'.Places origin records := by
  intro i
  rw [← getD_buckets, hbuckets, getD_buckets, h i, hinterval]

/-- Records in order, none of them before the origin. -/
structure InOrder (origin : Timestamp) (records : List Record) : Prop where
  from_origin : ∀ r ∈ records, origin.instant ≤ r.time.instant
  chronological : records.Pairwise fun a b => a.time.instant ≤ b.time.instant

theorem InOrder.filter (h : InOrder origin records) (keep : Record → Bool) :
    InOrder origin (records.filter keep) :=
  ⟨fun r hr => h.from_origin r (List.mem_filter.mp hr).1, h.chronological.filter keep⟩

/-! ### Charts at the end of a capture -/

/-- Counts the last records of a capture and closes the chart at its end. -/
def conclude (records : List Record) (finish : Timestamp) (c : Chart) : Attempt TimeError Chart :=
  (c.update records (some finish)).andThen fun c => (c.extend finish).commit

/-- A concluded chart counts each record at the latest time up to it. -/
theorem getD_windows_conclude {c' : Chart} (hc : c.Consistent) (h : c.Spread origin time counted)
    (hok : (c.conclude records finish).result = .ok c') (i : Nat) :
    c'.windows.getD i {} = .ofRecords
      (window origin.instant c.interval.micros i (counted ++ reached time records)) := by
  obtain ⟨hdone, rfl⟩ := Attempt.result_eq_ok.mp hok
  obtain ⟨hupdate, -⟩ := Attempt.andThen_failure_eq_none.mp hdone
  have hspread := (spread_update h hupdate).getD_windows i
  rw [interval_update_state] at hspread
  rw [conclude, Attempt.state_andThen hupdate, extend_eq_dated,
    getD_windows_commit (consistent_dated (consistent_update hc _ _) _)]
  exact hspread

theorem interval_conclude (records : List Record) (finish : Timestamp) (c : Chart) :
    (c.conclude records finish).state.interval = c.interval :=
  Attempt.state_andThen_of (P := fun c' : Chart => c'.interval = c.interval)
    (interval_update_state ..)
    fun c' hc' => (interval_commit _).trans ((interval_extend c' _).trans hc')

/-- A conclusion fails only by a time whose window does not fit. -/
theorem failure_conclude {f : Frame} (hc : c.Consistent) (hf : c.frame = some f) :
    (c.conclude records finish).failure = none ↔
      (∀ r ∈ records, f.Fits c.interval r.time) ∧ f.Fits c.interval finish := by
  have hcommit :
      (((c.update records (some finish)).state.extend finish).commit).failure = none := by
    rw [extend_eq_dated]
    exact failure_commit (consistent_dated (consistent_update hc _ _) _)
  rw [conclude, Attempt.andThen_failure_eq_none, and_iff_left hcommit, failure_update hf]
  simp

/-- A conclusion does not read the end of the record of time. -/
theorem result_conclude_dated {f : Frame} (hf : c.frame = some f) (e : Option Timestamp) :
    ((c.dated e).conclude records finish).result = (c.conclude records finish).result := by
  obtain ⟨first, hfirst⟩ : ∃ first, (records.head?.map (·.time)).or (some finish) = some first := by
    cases records <;> exact ⟨_, rfl⟩
  have hself : (c.update records (some finish)).result = _ :=
    result_update_dated (e := c.finish) hf hfirst
  rw [conclude, Attempt.result_andThen, result_update_dated hf hfirst, ← hself, conclude,
    Attempt.result_andThen]

/-- One update for each record, and then the end, is one update with all of them. -/
theorem result_conclude_followed {base : Chart} (finish : Timestamp)
    (h : (base.update records none).result = .ok c) :
    (base.conclude records finish).result = (c.conclude [] finish).result := by
  have happend := result_update_append records [] (some finish) base
  rw [List.append_nil, h] at happend
  rw [conclude, Attempt.result_andThen, happend, conclude, Attempt.result_andThen]
  rfl

/-! ### Charts that were rebuilt during a capture -/

/-- What the chart of a capture begins with. -/
abbrev empty (interval : Interval) (start : Timestamp) : Chart := restart start { interval }

/-- A rebuild keeps nothing but the width of the windows. -/
theorem rebuild_eq_ofRecords (c : Chart) (records : List Record) (first passed : Option Timestamp) :
    c.rebuild records first passed = ofRecords c.interval records first passed := by
  cases first <;> rfl

/-- The chart that is rebuilt after a capture. -/
theorem ofRecords_commit (interval : Interval) (records : List Record) (start finish : Timestamp) :
    (ofRecords interval records (some start) (some finish)).andThen (·.commit) =
      (empty interval start).conclude records finish := by
  rw [ofRecords, rebuild, Attempt.andThen_assoc]
  rfl

theorem spread_empty (interval : Interval) (start : Timestamp) :
    (empty interval start).Spread start start.instant [] := spread_anchor _ start rfl rfl

theorem interval_conclude_empty (interval : Interval) (start : Timestamp) (records : List Record)
    (finish : Timestamp) :
    ((empty interval start).conclude records finish).state.interval = interval :=
  interval_conclude records finish _

/-- A chart that is rebuilt after the capture holds every record in its window. -/
theorem places_conclude (horder : InOrder start records)
    (hok : ((empty interval start).conclude records finish).result = .ok c) :
    c.Places start records := by
  have hinterval : c.interval = interval := by
    rw [← (Attempt.result_eq_ok.mp hok).2, interval_conclude_empty]
  intro i
  rw [getD_windows_conclude (consistent_restart _ start) (spread_empty interval start) hok i,
    List.nil_append, reached_of_chronological horder.from_origin horder.chronological,
    hinterval]
  exact congrArg Bucket.ofRecords (window_map_time start interval i records)

/-- A rebuild is one update of an empty chart, which then ends later. -/
theorem ofRecords_cases {u : Chart}
    (hok : (ofRecords interval before (some start) upTo).result = .ok u) :
    ∃ v e f, ((empty interval start).update before upTo).result = .ok v ∧ u = v.dated e ∧
      v.frame = some f ∧ f.Follows ⟨start, start⟩ interval ∧ v.interval = interval := by
  rw [ofRecords, rebuild, Attempt.result_andThen_done] at hok
  have hempty : (some start).elim ({ interval } : Chart).clear ({ interval } : Chart).restart =
    empty interval start := rfl
  rw [hempty] at hok
  cases hupdate : ((empty interval start).update before upTo).result with
  | error e =>
    rw [hupdate] at hok
    cases hok
  | ok v =>
    rw [hupdate] at hok
    cases hok
    obtain ⟨f, hf, hfollows⟩ := frame_update (f := ⟨start, start⟩) rfl hupdate
    have hinterval : v.interval = interval := by
      rw [← (Attempt.result_eq_ok.mp hupdate).2, interval_update_state]
      rfl
    cases upTo with
    | none => exact ⟨v, v.finish, f, rfl, rfl, hf, hfollows, hinterval⟩
    | some now => exact ⟨v, _, f, rfl, extend_eq_dated v now, hf, hfollows, hinterval⟩

/-- The chart of a capture that was rebuilt once, from the records before, and then followed the
records since to the end. -/
def resumed (interval : Interval) (start : Timestamp) (before : List Record)
    (upTo : Option Timestamp) (since : List Record) (finish : Timestamp) :
    Attempt TimeError Chart :=
  (ofRecords interval before (some start) upTo).andThen (conclude since finish)

/-- None of the records comes from a window before that of a time. -/
def Prompt (origin : Timestamp) (interval : Interval) (upTo : Option Timestamp)
    (since : List Record) : Prop :=
  ∀ now ∈ upTo, ∀ r ∈ since, origin.windowAt interval now ≤ origin.windowAt interval r.time

/-- A capture without a rebuild knows no latecomers. -/
theorem prompt_none : Prompt origin interval none since := by
  intro now hnow
  cases hnow

theorem resumed_cases (hok : (resumed interval start before upTo since finish).result = .ok c) :
    ∃ v f, ((empty interval start).update before upTo).result = .ok v ∧
      (v.conclude since finish).result = .ok c ∧ v.frame = some f ∧
      f.Follows ⟨start, start⟩ interval ∧ v.interval = interval := by
  rw [resumed, Attempt.result_andThen] at hok
  cases hrebuilt : (ofRecords interval before (some start) upTo).result with
  | error e =>
    rw [hrebuilt] at hok
    cases hok
  | ok u =>
    rw [hrebuilt] at hok
    obtain ⟨v, e, f, hupdate, rfl, hf, hfollows, hinterval⟩ := ofRecords_cases hrebuilt
    exact ⟨v, f, hupdate, (result_conclude_dated hf e).symm.trans hok, hf, hfollows, hinterval⟩

theorem interval_resumed
    (hok : (resumed interval start before upTo since finish).result = .ok c) :
    c.interval = interval := by
  obtain ⟨v, f, -, hconclude, -, -, hinterval⟩ := resumed_cases hok
  rw [← (Attempt.result_eq_ok.mp hconclude).2, interval_conclude, hinterval]

/-- A rebuild after the capture does not fail if the chart has come to its end. -/
theorem failure_conclude_resumed
    (hok : (resumed interval start before upTo since finish).result = .ok c) :
    ((empty interval start).conclude (before ++ since) finish).failure = none := by
  obtain ⟨v, f, hupdate, hconclude, hf, hfollows, hinterval⟩ := resumed_cases hok
  obtain ⟨hdone, rfl⟩ := Attempt.result_eq_ok.mp hupdate
  have hconsistent := consistent_update (consistent_restart { interval } start) before upTo
  obtain ⟨hbefore, -⟩ := (failure_update (f := ⟨start, start⟩) rfl).mp hdone
  obtain ⟨hsince, hfinish⟩ :=
    (failure_conclude hconsistent hf).mp (Attempt.result_eq_ok.mp hconclude).1
  rw [hinterval] at hsince hfinish
  refine (failure_conclude (f := ⟨start, start⟩) (consistent_restart _ start) rfl).mpr
    ⟨fun r hr => ?_, hfollows.fits_iff.mp hfinish⟩
  rcases List.mem_append.mp hr with hr | hr
  · exact hbefore r hr
  · exact hfollows.fits_iff.mp (hsince r hr)

/-- The windows that have passed are counted by the number of a time's window. -/
theorem passed_le_of_windowAt {a b : Timestamp}
    (h : start.windowAt interval a ≤ start.windowAt interval b) :
    (⟨start, start⟩ : Frame).passed interval a ≤ (⟨start, start⟩ : Frame).passed interval b :=
  Int.toNat_le_toNat h

/-- A chart that followed the records since and is then closed. -/
theorem result_resumed_followed (finish : Timestamp)
    (h : ((ofRecords interval before (some start) upTo).andThen fun u =>
      u.update since none).result = .ok c) :
    (resumed interval start before upTo since finish).result = (c.conclude [] finish).result := by
  rw [Attempt.result_andThen] at h
  rw [resumed, Attempt.result_andThen]
  cases hrebuilt : (ofRecords interval before (some start) upTo).result with
  | error e =>
    rw [hrebuilt] at h
    cases h
  | ok u =>
    rw [hrebuilt] at h
    exact result_conclude_followed finish h

/-- **Without latecomers the rebuild during the capture makes no difference.** -/
theorem result_resumed (hprompt : Prompt start interval upTo since)
    (hclock : ∀ now ∈ upTo, now.instant ≤ finish.instant)
    (hok : (resumed interval start before upTo since finish).result = .ok c) :
    ((empty interval start).conclude (before ++ since) finish).result = .ok c := by
  obtain ⟨v, f, hupdate, hconclude, -, -, -⟩ := resumed_cases hok
  have hlater : (v.update since (some finish)).result =
      ((empty interval start).update (before ++ since) (some finish)).result := by
    rw [result_update_append]
    cases upTo with
    | none => rw [hupdate]; rfl
    | some now =>
      -- The rebuild counts the records before it, and then tells the chart the time.
      have hsplit := result_update_append before [] (some now) (empty interval start)
      rw [List.append_nil, hupdate] at hsplit
      cases hbefore : ((empty interval start).update before none).result with
      | error e =>
        rw [hbefore] at hsplit
        cases hsplit
      | ok u =>
        rw [hbefore] at hsplit
        obtain ⟨g, hg, hfollows⟩ := frame_update (f := ⟨start, start⟩) rfl hbefore
        have hinterval : u.interval = interval := by
          rw [← (Attempt.result_eq_ok.mp hbefore).2, interval_update_state]
          rfl
        obtain ⟨next, hnext, hle⟩ : ∃ next,
            (since.head?.map (·.time)).or (some finish) = some next ∧
              (⟨start, start⟩ : Frame).passed interval now ≤
                (⟨start, start⟩ : Frame).passed interval next := by
          cases since with
          | nil => exact ⟨finish, rfl, Frame.passed_mono (hclock now rfl)⟩
          | cons r rest =>
            exact ⟨r.time, rfl, passed_le_of_windowAt (hprompt now rfl r List.mem_cons_self)⟩
        have hpassed : g.passed u.interval now ≤ g.passed u.interval next := by
          rw [hinterval]
          exact hfollows.passed_le hle
        have htold := result_update_passed hg hnext hpassed
        have hnow : (u.update [] (some now)).result = .ok v := hsplit.symm
        rw [hnow] at htold
        exact htold
  rw [conclude, Attempt.result_andThen] at hconclude ⊢
  rw [← hlater]
  exact hconclude

/-- After the rebuild no record counts in a window before that of its time. -/
theorem getD_windows_resumed {now : Timestamp} (horder : InOrder start before)
    (hok : (resumed interval start before (some now) since finish).result = .ok c) {i : Nat}
    (hi : i < start.windowAt interval now) : c.windows.getD i {} =
      .ofRecords (before.filter fun r => start.windowAt interval r.time = i) := by
  obtain ⟨v, f, hupdate, hconclude, -, -, hinterval⟩ := resumed_cases hok
  obtain ⟨hdone, rfl⟩ := Attempt.result_eq_ok.mp hupdate
  have hconsistent := consistent_update (consistent_restart { interval } start) before (some now)
  have hspread := spread_update (spread_empty interval start) hdone
  have hw : (0 : Int) < interval.micros := by exact_mod_cast interval.positive
  have hnow : start.instant + (i + 1) * interval.micros ≤ now.instant := by
    have := (Int.le_ediv_iff_mul_le (a := i + 1) (b := now.instant - start.instant) hw).mp hi
    omega
  have hsince : window start.instant interval.micros i
      (reached (reach start.instant before (some now)) since) = [] :=
    window_eq_nil_of_le (fun p hp => le_of_mem_reached hp)
      (Int.le_trans hnow (Int.le_max_right _ _))
  rw [getD_windows_conclude hconsistent hspread hconclude i, hinterval, window_append, hsince,
    List.append_nil, List.nil_append,
    reached_of_chronological horder.from_origin horder.chronological, window_map_time]

/-- **A chart that holds every record in its window had no latecomers.** -/
theorem Places.prompt (horder : InOrder start (before ++ since))
    (hok : (resumed interval start before upTo since finish).result = .ok c)
    (hplaces : c.Places start (before ++ since)) : Prompt start interval upTo since := by
  have hbefore : InOrder start before :=
    ⟨fun r hr => horder.from_origin r (List.mem_append_left _ hr),
      (List.pairwise_append.mp horder.chronological).1⟩
  have hinterval := interval_resumed hok
  rintro now rfl r hr
  refine Int.not_lt.mp fun hlate => ?_
  obtain ⟨i, hi⟩ := Int.eq_ofNat_of_zero_le
    (windowAt_nonneg (horder.from_origin r (List.mem_append_right _ hr)) interval)
  -- The window of the latecomer was closed by the rebuild and does not hold it.
  have hwindow := hplaces i
  rw [hinterval, getD_windows_resumed hbefore hok (hi ▸ hlate), List.filter_append] at hwindow
  have hcount := congrArg Bucket.packets hwindow
  simp only [Bucket.ofRecords, List.length_append] at hcount
  have hmem : r ∈ since.filter fun r => start.windowAt interval r.time = i :=
    List.mem_filter.mpr ⟨hr, decide_eq_true hi⟩
  have hpos := List.length_pos_of_mem hmem
  omega

/-- **Whether the rebuild during the capture shows.** Every record is in its window, or a rebuild
after the capture leaves the buckets as they are, exactly if there were no latecomers. -/
theorem resumed_iff_prompt (horder : InOrder start (before ++ since))
    (hclock : ∀ now ∈ upTo, now.instant ≤ finish.instant)
    (hok : (resumed interval start before upTo since finish).result = .ok c) :
    (c.Places start (before ++ since) ↔ Prompt start interval upTo since) ∧
      ((((empty interval start).conclude (before ++ since) finish).state.buckets = c.buckets) ↔
        Prompt start interval upTo since) := by
  have hrebuilt := Attempt.result_of_done (failure_conclude_resumed hok)
  have hinterval := interval_resumed hok
  have hsame : Prompt start interval upTo since →
      ((empty interval start).conclude (before ++ since) finish).state = c := fun hprompt =>
    (Attempt.result_eq_ok.mp (result_resumed hprompt hclock hok)).2
  have hplaces : ((empty interval start).conclude (before ++ since) finish).state.buckets =
      c.buckets → c.Places start (before ++ since) := fun hbuckets =>
    (places_conclude horder hrebuilt).congr hbuckets.symm
      (hinterval.trans (interval_conclude_empty ..).symm)
  exact ⟨⟨Places.prompt horder hok, fun h => hplaces (congrArg buckets (hsame h))⟩,
    ⟨fun h => (hplaces h).prompt horder hok, fun h => congrArg buckets (hsame h)⟩⟩

end Chart

end TrafficMonitor
