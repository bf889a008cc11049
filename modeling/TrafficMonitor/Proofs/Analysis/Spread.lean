import TrafficMonitor.Proofs.Analysis.Windows

/-! Where a chart counts its records. Time only moves forward, so a record counts at the latest
time seen so far, its own included (`reached`), and in the window in which that time lies.
`Spread` says this of a chart in the middle of a replay; every advance and every record keeps it
(`spread_advance`, `spread_add`), and so does a replay (`spread_each`). `windows_of_rebuild` is
what follows for a chart that was rebuilt. -/
namespace TrafficMonitor
open Time

/-! ### The time at which a record counts -/

/-- The latest of a time and the times of records. -/
def latest (time : Int) (records : List Record) : Int :=
  records.foldl (fun time r => max time r.time.instant) time

/-- The records, each with the latest time up to it. -/
def reached (time : Int) : List Record → List (Int × Record)
  | [] => []
  | r :: rest => (max time r.time.instant, r) :: reached (max time r.time.instant) rest

/-- The records that count in the window with number `i`. -/
def window (origin : Int) (width i : Nat) (counted : List (Int × Record)) : List Record :=
  (counted.filter fun (time, _) =>
    origin + i * width ≤ time ∧ time < origin + (i + 1) * width).map (·.2)

theorem window_append (origin : Int) (width i : Nat) (a b : List (Int × Record)) :
    window origin width i (a ++ b) = window origin width i a ++ window origin width i b := by
  simp [window]

/-- A window that begins after all times is empty. -/
theorem window_eq_nil {origin time : Int} {width i : Nat} {counted : List (Int × Record)}
    (hpast : ∀ p ∈ counted, p.1 ≤ time) (h : time < origin + i * width) :
    window origin width i counted = [] := by
  simp only [window, List.map_eq_nil_iff, List.filter_eq_nil_iff, decide_eq_true_eq, not_and]
  intro p hp hle
  have := hpast p hp
  omega

/-- A record counts in the window of its time and in no other. -/
theorem window_singleton (origin time : Int) (width i : Nat) (r : Record) :
    window origin width i [(time, r)] =
      if origin + i * width ≤ time ∧ time < origin + (i + 1) * width then [r] else [] := by
  by_cases h : origin + i * width ≤ time ∧ time < origin + (i + 1) * width <;> simp [window, h]

/-- Records in the order of their times count at their own times. -/
theorem reached_of_chronological {time : Int} {records : List Record}
    (hstart : ∀ r ∈ records, time ≤ r.time.instant)
    (horder : records.Pairwise fun a b => a.time.instant ≤ b.time.instant) :
    reached time records = records.map fun r => (r.time.instant, r) := by
  induction records generalizing time with
  | nil => rfl
  | cons r rest ih =>
    obtain ⟨hfirst, hrest⟩ := List.pairwise_cons.mp horder
    have hmax : max time r.time.instant = r.time.instant :=
      Int.max_eq_right (hstart r List.mem_cons_self)
    rw [reached, hmax, ih hfirst hrest, List.map_cons]

/-- The later of a time and another one, if there is one. -/
def Time.Timestamp.later (a : Timestamp) (b : Option Timestamp) : Timestamp :=
  b.elim a fun b => if a.before b then b else a

/-! ### A chart in the middle of a replay -/

namespace Chart
variable {c : Chart} {origin : Timestamp} {time : Int} {counted : List (Int × Record)}

/-- The chart holds the records that were counted, each in its window, and the latest time so
far lies in the open window. -/
structure Spread (c : Chart) (origin : Timestamp) (time : Int) (counted : List (Int × Record)) :
    Prop where
  frame : ∃ f, c.frame = some f ∧ f.origin = origin ∧
    f.cursor.instant = origin.instant + c.closed.size * c.interval.micros
  opened : origin.instant + c.closed.size * c.interval.micros ≤ time
  inside : time < origin.instant + (c.closed.size + 1) * c.interval.micros
  past : ∀ p ∈ counted, p.1 ≤ time
  windows : c.windows = (List.range (c.closed.size + 1)).map fun i =>
    Bucket.ofRecords (window origin.instant c.interval.micros i counted)

/-- A chart without traffic that is anchored at a time. -/
theorem spread_anchor (c : Chart) (time : Timestamp) (hclosed : c.closed = #[])
    (hcurrent : c.current = {}) : (c.anchor time).Spread time time.instant [] := by
  have hw : (0 : Int) < c.interval.micros := by exact_mod_cast c.interval.positive
  refine ⟨⟨⟨time, time⟩, rfl, rfl, ?_⟩, ?_, ?_, by simp, ?_⟩
  · simp [anchor, hclosed]
  · simp [anchor, hclosed]
  · simp only [anchor, hclosed, Array.size_empty]
    omega
  · simp [anchor, Chart.windows, hclosed, hcurrent, window]

/-- The latest time lies in the window that an advance opens. -/
theorem between_of_passed {f : Frame} {width : Interval} (t : Timestamp)
    (hopened : f.cursor.instant ≤ time) (hinside : time < f.cursor.instant + width.micros) :
    f.cursor.instant + f.passed width t * width.micros ≤ max time t.instant ∧
      max time t.instant < f.cursor.instant + (f.passed width t + 1 : Nat) * width.micros := by
  rcases Int.lt_or_le t.instant (f.cursor.instant + width.micros) with hlt | hle
  · rw [passed_eq_zero hlt]
    simp only [Int.natCast_add, Int.cast_ofNat_Int]
    omega
  · have hw : (0 : Int) < width.micros := by exact_mod_cast width.positive
    rw [Int.max_eq_right (by omega)]
    exact ⟨passed_mul_le width (by omega), lt_passed_mul width⟩

/-- An advance that does not fail moves the latest time. -/
theorem spread_advance (h : c.Spread origin time counted) (t : Timestamp)
    (hdone : (c.advance t).failure = none) :
    (c.advance t).state.Spread origin (max time t.instant) counted := by
  obtain ⟨f, hf, horigin, hcursor⟩ := h.frame
  obtain ⟨hroom, hstate⟩ := state_advance hf hdone
  obtain ⟨g, hg, hgorigin, hgcursor⟩ := frame_close (h := hroom) hf
  have hopened := h.opened
  have hinside := h.inside
  rw [Int.add_mul] at hinside
  obtain ⟨hopened', hinside'⟩ := between_of_passed t
    (show f.cursor.instant ≤ time by omega)
    (show time < f.cursor.instant + c.interval.micros by omega)
  rw [hstate]
  generalize f.passed c.interval t = n at *
  rw [Int.natCast_add, Int.add_mul] at hinside'
  have hpast : ∀ p ∈ counted, p.1 ≤ max time t.instant := fun p hp =>
    Int.le_trans (h.past p hp) (Int.le_max_left _ _)
  refine ⟨⟨g, hg, by rw [hgorigin, horigin], ?_⟩, ?_, ?_, hpast, ?_⟩ <;>
    simp only [size_close, interval_close, Int.natCast_add, Int.add_mul]
  · omega
  · omega
  · omega
  · -- The windows that were closed begin after every record so far.
    have hempty : (List.range n).map (fun i => Bucket.ofRecords
        (window origin.instant c.interval.micros (c.closed.size + 1 + i) counted)) =
        List.replicate n {} := by
      refine List.eq_replicate_iff.mpr ⟨by simp, fun b hb => ?_⟩
      obtain ⟨i, -, rfl⟩ := List.mem_map.mp hb
      rw [window_eq_nil h.past, Bucket.ofRecords_nil]
      have hnonneg : (0 : Int) ≤ i * c.interval.micros := Int.natCast_nonneg (i * c.interval.micros)
      simp only [Int.natCast_add, Int.add_mul]
      omega
    have hrange : List.range (c.closed.size + n + 1) =
        List.range (c.closed.size + 1) ++ (List.range n).map (c.closed.size + 1 + ·) := by
      rw [← List.range_add]
      congr 1
      omega
    rw [windows_close, h.windows, hrange, List.map_append, List.map_map, ← hempty]
    rfl

theorem spread_count (h : c.Spread origin time counted) (r : Record) :
    (c.count r).Spread origin time (counted ++ [(time, r)]) := by
  have hopened := h.opened
  have hinside := h.inside
  have hpast : ∀ p ∈ counted ++ [(time, r)], p.1 ≤ time := by
    intro p hp
    rcases List.mem_append.mp hp with hp | hp
    · exact h.past p hp
    · obtain rfl := List.mem_singleton.mp hp
      exact Int.le_refl _
  refine ⟨h.frame, hopened, hinside, hpast, ?_⟩
  have hwindows := h.windows
  rw [List.range_succ, List.map_append] at hwindows
  obtain ⟨hclosed, hcurrent⟩ := List.append_inj hwindows (by simp)
  show c.closed.toList ++ [c.current.add r] = (List.range (c.closed.size + 1)).map fun i =>
    Bucket.ofRecords (window origin.instant c.interval.micros i (counted ++ [(time, r)]))
  rw [List.range_succ, List.map_append]
  congr 1
  · rw [hclosed]
    refine List.map_congr_left fun i hi => ?_
    have hle : ((i : Int) + 1) * c.interval.micros ≤ c.closed.size * c.interval.micros := by
      exact_mod_cast Nat.mul_le_mul_right c.interval.micros (List.mem_range.mp hi)
    rw [window_append, window_singleton, if_neg, List.append_nil]
    intro h
    obtain ⟨-, hlt⟩ := h
    omega
  · rw [List.singleton_inj.mp hcurrent, List.map_singleton, window_append, window_singleton,
      if_pos ⟨hopened, hinside⟩, Bucket.ofRecords_concat]

theorem spread_add (h : c.Spread origin time counted) (r : Record)
    (hdone : (c.add r).failure = none) :
    (c.add r).state.Spread origin (max time r.time.instant)
      (counted ++ [(max time r.time.instant, r)]) := by
  obtain ⟨hadvance, -⟩ := Attempt.andThen_failure_eq_none.mp hdone
  rw [add, Attempt.state_andThen hadvance]
  exact spread_count (spread_advance h r.time hadvance) r

/-- A replay that does not fail counts every record at the latest time up to it. -/
theorem spread_each {records : List Record} (h : c.Spread origin time counted)
    (hdone : (Attempt.each add records c).failure = none) :
    (Attempt.each add records c).state.Spread origin (latest time records)
      (counted ++ reached time records) := by
  induction records generalizing c time counted with
  | nil => simpa [Attempt.each, latest, reached] using h
  | cons r rest ih =>
    obtain ⟨hadd, hrest⟩ := Attempt.andThen_failure_eq_none.mp hdone
    rw [Attempt.each, Attempt.state_andThen hadd]
    simpa [latest, reached] using ih (spread_add h r hadd) hrest

/-! ### Updating and rebuilding -/

/-- The latest of the times of records and a time that has passed. -/
def reach (time : Int) (records : List Record) (passed : Option Timestamp) : Int :=
  passed.elim (latest time records) fun t => max (latest time records) t.instant

theorem spread_update {records : List Record} {passed : Option Timestamp}
    (h : c.Spread origin time counted) (hdone : (c.update records passed).failure = none) :
    (c.update records passed).state.Spread origin (reach time records passed)
      (counted ++ reached time records) := by
  cases hfirst : (records.head?.map (·.time)).or passed with
  | none =>
    obtain ⟨rfl, rfl, hupdate⟩ := update_eq_done (c := c) hfirst
    rw [hupdate]
    simpa [reach, latest, reached] using h
  | some first =>
    obtain ⟨f, hf, -, -⟩ := h.frame
    obtain ⟨heach, hpassed, hstate⟩ := state_update hfirst hdone
    rw [show c.anchored first = c by simp [anchored, hf]] at heach hpassed hstate
    rw [hstate]
    have hspread := spread_each h heach
    cases passed with
    | none => exact ⟨hspread.frame, hspread.opened, hspread.inside, hspread.past, hspread.windows⟩
    | some t =>
      have hspread := spread_advance hspread t hpassed
      exact ⟨hspread.frame, hspread.opened, hspread.inside, hspread.past, hspread.windows⟩

/-- After an update the record of time ends at the cursor. -/
theorem finish_update {records : List Record} {passed : Option Timestamp}
    (h : (records.head?.map (·.time)).or passed = none → c.finish = c.frame.map (·.cursor))
    (hdone : (c.update records passed).failure = none) :
    (c.update records passed).state.finish =
      (c.update records passed).state.frame.map (·.cursor) := by
  cases hfirst : (records.head?.map (·.time)).or passed with
  | none =>
    rw [(update_eq_done hfirst).2.2]
    exact h hfirst
  | some first =>
    rw [(state_update hfirst hdone).2.2]
    rfl

/-- An update anchors a chart that is not anchored yet at its first time. -/
theorem update_anchor {records : List Record} {passed : Option Timestamp} {first : Timestamp}
    (hframe : c.frame = none) (hfirst : (records.head?.map (·.time)).or passed = some first) :
    c.update records passed = (c.anchor first).update records passed := by
  simp [update, hfirst, hframe, anchor]

/-- A chart that shows records in windows from an origin on, up to the latest of all times. -/
structure Shows (c : Chart) (origin : Timestamp) (records : List Record)
    (passed : Option Timestamp) : Prop where
  count : (c.windows.length : Int) =
    (reach origin.instant records passed - origin.instant) / c.interval.micros + 1
  window : ∀ i (h : i < c.windows.length), c.windows[i] = Bucket.ofRecords
    (window origin.instant c.interval.micros i (reached origin.instant records))
  /-- Records in order, none of them before the origin, are each in the window of its time. -/
  ordered : (∀ r ∈ records, origin.instant ≤ r.time.instant) →
    (records.Pairwise fun a b => a.time.instant ≤ b.time.instant) →
    ∀ i (h : i < c.windows.length), c.windows[i] = Bucket.ofRecords (records.filter fun r =>
      origin.instant + i * c.interval.micros ≤ r.time.instant ∧
        r.time.instant < origin.instant + (i + 1) * c.interval.micros)
  cursor : ∃ cursor, c.frame = some ⟨origin, cursor⟩ ∧
    cursor.instant = origin.instant + c.closed.size * c.interval.micros ∧
    c.finish = some (cursor.later passed)

/-- The number of the open window tells how far the latest time is from the origin. -/
theorem Spread.size_eq (h : c.Spread origin time counted) :
    (c.closed.size : Int) = (time - origin.instant) / c.interval.micros := by
  have hw : (0 : Int) < c.interval.micros := by exact_mod_cast c.interval.positive
  have hopened := h.opened
  have hinside := h.inside
  have hle := (Int.le_ediv_iff_mul_le hw).mpr
    (show (c.closed.size : Int) * c.interval.micros ≤ time - origin.instant by omega)
  have hlt := (Int.ediv_lt_iff_lt_mul hw).mpr
    (show time - origin.instant < ((c.closed.size : Int) + 1) * c.interval.micros by omega)
  omega

theorem Spread.shows {records : List Record} {passed : Option Timestamp}
    (h : c.Spread origin (reach origin.instant records passed)
      (reached origin.instant records))
    (hfinish : c.finish = c.frame.map (·.cursor.later passed)) : c.Shows origin records passed := by
  have hwindow : ∀ i (h : i < c.windows.length), c.windows[i] = Bucket.ofRecords
      (TrafficMonitor.window origin.instant c.interval.micros i
        (reached origin.instant records)) := by
    intro i hi
    simp [h.windows]
  refine ⟨?_, hwindow, ?_, ?_⟩
  · rw [length_windows, Int.natCast_add, h.size_eq]
    rfl
  · intro hstart horder i hi
    rw [hwindow i hi, reached_of_chronological hstart horder]
    simp [TrafficMonitor.window, List.filter_map, Function.comp_def]
  · obtain ⟨⟨o, cursor⟩, hf, rfl, hcursor⟩ := h.frame
    exact ⟨cursor, hf, hcursor, by rw [hfinish, hf]; rfl⟩

/-- Moving the end of the record of time changes no window. -/
theorem shows_extend {records : List Record} {passed : Option Timestamp}
    (h : c.Spread origin (reach origin.instant records passed) (reached origin.instant records))
    (hfinish : c.finish = c.frame.map (·.cursor)) :
    (passed.elim c fun t => c.extend t).Shows origin records passed := by
  obtain ⟨f, hf, -, -⟩ := h.frame
  cases passed with
  | none => exact h.shows hfinish
  | some t =>
    have hextend : c.extend t = { c with finish := some (f.cursor.later (some t)) } := by
      have hcursor : c.finish = some f.cursor := by rw [hfinish, hf]; rfl
      simp only [extend, hcursor, Timestamp.later, Option.elim_some]
      split
      · rfl
      · rw [← hcursor]
    rw [Option.elim_some, hextend]
    exact Spread.shows ⟨h.frame, h.opened, h.inside, h.past, h.windows⟩ (by simp [hf])

/-- A chart without traffic, anchored at a time, shows the records it is updated with. -/
theorem shows_update {records : List Record} {passed : Option Timestamp}
    (h : c.Spread origin origin.instant [])
    (hfinish : (records.head?.map (·.time)).or passed = none →
      c.finish = c.frame.map (·.cursor))
    (hdone : (c.update records passed).failure = none) :
    (passed.elim (c.update records passed).state fun t =>
      (c.update records passed).state.extend t).Shows origin records passed := by
  have hspread := spread_update h hdone
  rw [List.nil_append] at hspread
  exact shows_extend hspread (finish_update hfinish hdone)

/-- **Every record is in its window, and every idle window is there.** A chart that was rebuilt
without failure, and has an origin, has one window for each width from the origin to the latest
time; a window holds exactly the records that count in it. -/
theorem windows_of_rebuild (zone : Zone) (c : Chart) (records : List Record)
    (start finish : Option Moment)
    (hdone : (c.apply zone (.rebuild records start finish)).failure = none)
    (hanchored : (c.apply zone (.rebuild records start finish)).state.frame.isSome = true) :
    ∃ first passed origin, start.mapM zone.resolve = .ok first ∧
      finish.mapM zone.resolve = .ok passed ∧
      first.or ((records.head?.map (·.time)).or passed) = some origin ∧
      (c.apply zone (.rebuild records start finish)).state.interval = c.interval ∧
      (c.apply zone (.rebuild records start finish)).state.Shows origin records passed := by
  obtain ⟨first, passed, hfirst, hpassed, hrebuild⟩ := withTimes_eq hdone
  have happly : c.apply zone (.rebuild records start finish) = c.rebuild records first passed :=
    hrebuild
  rw [happly] at hdone hanchored ⊢
  obtain ⟨hupdate, hstate⟩ := state_rebuild hdone
  have hinterval : (c.rebuild records first passed).state.interval = c.interval := by
    have hempty : (first.elim c.clear c.restart).interval = c.interval := by
      cases first <;> rfl
    rw [hstate]
    cases passed with
    | none => exact (interval_update hupdate).trans hempty
    | some t => exact (interval_extend _ t).trans ((interval_update hupdate).trans hempty)
  rw [hstate] at hanchored hinterval ⊢
  cases first with
  | some time =>
    refine ⟨some time, passed, time, hfirst, hpassed, rfl, hinterval, ?_⟩
    exact shows_update (spread_anchor _ time rfl rfl) (fun _ => rfl) hupdate
  | none =>
    cases horigin : (records.head?.map (·.time)).or passed with
    | none =>
      obtain ⟨rfl, rfl, hnone⟩ := update_eq_done (c := c.clear) horigin
      rw [Option.elim_none, Option.elim_none, hnone] at hanchored
      cases hanchored
    | some origin =>
      refine ⟨none, passed, origin, hfirst, hpassed, by simpa using horigin, hinterval, ?_⟩
      simp only [Option.elim_none] at hupdate ⊢
      rw [update_anchor rfl horigin] at hupdate ⊢
      refine shows_update (spread_anchor _ origin rfl rfl) (fun hnone => ?_) hupdate
      rw [horigin] at hnone
      cases hnone

/-- Two records with an idle window between them, and a third that comes late. -/
theorem windows_of_rebuild_late :
    let instant (micros : Nat) (h : micros < span) : Timestamp := ⟨⟨micros, h⟩, 0⟩
    let records : List Record :=
      [{ time := instant 63082281600000000 (by decide), length := 100, transport := .tcp },
        { time := instant 63082281602000000 (by decide), length := 60, transport := .udp },
        { time := instant 63082281600500000 (by decide), length := 5, transport := .udp }]
    let c : Chart := { interval := ⟨1000000, by decide⟩ }
    let after := c.apply ⟨0⟩ (.rebuild records none none)
    after.failure = none ∧ after.state.frame.isSome = true ∧
      after.state.windows = [⟨1, 100⟩, ⟨0, 0⟩, ⟨2, 65⟩] ∧
      ∃ first passed origin, (none : Option Moment).mapM (Zone.resolve ⟨0⟩) = .ok first ∧
        (none : Option Moment).mapM (Zone.resolve ⟨0⟩) = .ok passed ∧
        first.or ((records.head?.map (·.time)).or passed) = some origin ∧
        after.state.interval = c.interval ∧ after.state.Shows origin records passed := by
  intro instant records c after
  have hdone : after.failure = none := by decide +kernel
  have hanchored : after.state.frame.isSome = true := by decide +kernel
  exact ⟨hdone, hanchored, by decide +kernel,
    windows_of_rebuild ⟨0⟩ c records none none hdone hanchored⟩

end Chart

end TrafficMonitor
