import TrafficMonitor.Analysis.Chart

/-! What each change of a chart does to its windows. All that a chart shows are its closed
windows followed by the open one (`windows`). Closing windows appends buckets of zeros and moves
the cursor (`windows_close`, `cursor_close`), and counting a record changes the open window.
Later modules cite these facts and never unfold a change. -/
namespace TrafficMonitor
open Time

namespace Attempt
variable {a : Attempt ε σ} {f : σ → Attempt ε σ}

@[simp] theorem state_done (s : σ) : (done s : Attempt ε σ).state = s := rfl

/-- Nothing failed, and so both changes were made. -/
theorem andThen_failure_eq_none :
    (a.andThen f).failure = none ↔ a.failure = none ∧ (f a.state).failure = none := by
  obtain ⟨s, _ | e⟩ := a <;> simp [andThen]

theorem state_andThen (h : a.failure = none) : (a.andThen f).state = (f a.state).state := by
  obtain ⟨s, _ | e⟩ := a
  · rfl
  · cases h

end Attempt

/-! ### Buckets -/

namespace Bucket

/-- The traffic of records: how many they are, and the sum of their lengths. -/
def ofRecords (records : List Record) : Bucket :=
  ⟨records.length, Number.total (records.map (·.length.toNat))⟩

@[simp] theorem ofRecords_nil : ofRecords [] = {} := rfl

theorem ofRecords_concat (records : List Record) (r : Record) :
    ofRecords (records ++ [r]) = (ofRecords records).add r := by
  simp [ofRecords, add, Number.total_append]

end Bucket

namespace Chart
variable {c : Chart} {f : Frame} {time : Timestamp}

/-- All windows of a chart, the open one last. -/
def windows (c : Chart) : List Bucket := c.closed.toList ++ [c.current]

@[simp] theorem length_windows (c : Chart) : c.windows.length = c.closed.size + 1 := by
  simp [windows]

/-! ### Closing windows -/

section Close
variable {n : Nat} {h : n ≤ f.room c.interval}

@[simp] theorem interval_close : (c.close f n h).interval = c.interval := by
  cases n <;> rfl

@[simp] theorem size_close : (c.close f n h).closed.size = c.closed.size + n := by
  cases n with
  | zero => rfl
  | succ n =>
    simp only [close, Array.size_append, Array.size_push, Array.size_replicate]
    omega

theorem windows_close : (c.close f n h).windows = c.windows ++ List.replicate n ({} : Bucket) := by
  cases n with
  | zero => simp [close]
  | succ n => simp [close, windows, List.replicate_succ']

/-- The open window begins `n` windows later; the origin stays. -/
theorem frame_close (hf : c.frame = some f) : ∃ g, (c.close f n h).frame = some g ∧
    g.origin = f.origin ∧ g.cursor.instant = f.cursor.instant + n * c.interval.micros := by
  cases n with
  | zero => exact ⟨f, hf, rfl, by simp⟩
  | succ n =>
    refine ⟨f.shift c.interval (n + 1) h, rfl, rfl, ?_⟩
    simp only [Frame.shift, Timestamp.instant]
    omega

end Close

/-! ### Advancing and counting -/

/-- An advance that did not fail closed the windows that end by the time. -/
theorem state_advance (hf : c.frame = some f) (h : (c.advance time).failure = none) :
    ∃ hroom, (c.advance time).state = c.close f (f.passed c.interval time) hroom := by
  unfold advance at h ⊢
  rw [hf] at h ⊢
  simp only at h ⊢
  split at h
  · rename_i hlt
    exact ⟨Nat.le_of_lt hlt, by rw [dif_pos hlt]; rfl⟩
  · cases h

theorem passed_mul_le (width : Interval) (h : f.cursor.instant ≤ time.instant) :
    f.cursor.instant + f.passed width time * width.micros ≤ time.instant := by
  have hw : (0 : Int) < width.micros := by exact_mod_cast width.positive
  have hq := Int.ediv_nonneg (show 0 ≤ time.instant - f.cursor.instant by omega) (Int.le_of_lt hw)
  have hle := Int.ediv_mul_le (time.instant - f.cursor.instant) (Int.ne_of_gt hw)
  rw [Frame.passed, Int.toNat_of_nonneg hq]
  omega

theorem lt_passed_mul (width : Interval) :
    time.instant < f.cursor.instant + (f.passed width time + 1 : Nat) * width.micros := by
  have hw : (0 : Int) < width.micros := by exact_mod_cast width.positive
  have hlt := Int.lt_ediv_add_one_mul_self (time.instant - f.cursor.instant) hw
  have hmono := Int.mul_le_mul_of_nonneg_right (Int.add_le_add_right
    (Int.self_le_toNat ((time.instant - f.cursor.instant) / width.micros)) 1) (Int.le_of_lt hw)
  simp only [Frame.passed, Int.natCast_add, Int.cast_ofNat_Int]
  omega

/-- No window ends by a time that comes before the end of the open one. -/
theorem passed_eq_zero {width : Interval}
    (h : time.instant < f.cursor.instant + width.micros) : f.passed width time = 0 := by
  have hw : (0 : Int) < width.micros := by exact_mod_cast width.positive
  have hlt : (time.instant - f.cursor.instant) / width.micros < 1 :=
    (Int.ediv_lt_iff_lt_mul hw).mpr (by omega)
  rw [Frame.passed]
  omega

/-! ### What no change touches -/

@[simp] theorem interval_advance (c : Chart) (time : Timestamp) :
    (c.advance time).state.interval = c.interval := by
  unfold advance
  split
  · rfl
  · split <;> simp [Attempt.done, Attempt.stopped]

@[simp] theorem interval_add (c : Chart) (r : Record) : (c.add r).state.interval = c.interval := by
  rw [← interval_advance c r.time, add]
  obtain ⟨s, _ | e⟩ := c.advance r.time <;> rfl

@[simp] theorem interval_each (c : Chart) (records : List Record) :
    (Attempt.each add records c).state.interval = c.interval := by
  induction records generalizing c with
  | nil => rfl
  | cons r rest ih =>
    rw [← interval_add c r, Attempt.each]
    obtain ⟨s, _ | e⟩ := c.add r
    · exact ih s
    · rfl

@[simp] theorem interval_extend (c : Chart) (time : Timestamp) :
    (c.extend time).interval = c.interval := by
  unfold extend
  repeat' split
  all_goals rfl

/-! ### Updates -/

/-- The chart in which an update counts its records: one that is not anchored yet is anchored
at the first time. -/
def anchored (c : Chart) (first : Timestamp) : Chart :=
  if c.frame.isSome then c else c.anchor first

@[simp] theorem interval_anchored (c : Chart) (first : Timestamp) :
    (c.anchored first).interval = c.interval := by
  unfold anchored
  split <;> rfl

/-- Nothing given, nothing changes. -/
theorem update_eq_done {records : List Record} {passed : Option Timestamp}
    (hnone : (records.head?.map (·.time)).or passed = none) :
    records = [] ∧ passed = none ∧ c.update records passed = .done c := by
  obtain ⟨hhead, hpassed⟩ := Option.or_eq_none_iff.mp hnone
  exact ⟨by simpa using hhead, hpassed, by simp [update, hnone]⟩

/-- An update that did not fail counted its records, advanced to the time that has passed, and
settled. -/
theorem state_update {records : List Record} {passed : Option Timestamp} {first : Timestamp}
    (hfirst : (records.head?.map (·.time)).or passed = some first)
    (hdone : (c.update records passed).failure = none) :
    (Attempt.each add records (c.anchored first)).failure = none ∧
      (passed.elim (.done (Attempt.each add records (c.anchored first)).state)
        (Attempt.each add records (c.anchored first)).state.advance).failure = none ∧
      (c.update records passed).state =
        (passed.elim (Attempt.each add records (c.anchored first)).state fun t =>
          ((Attempt.each add records (c.anchored first)).state.advance t).state).settle := by
  simp only [update, hfirst] at hdone ⊢
  obtain ⟨heach, hdone⟩ := Attempt.andThen_failure_eq_none.mp hdone
  obtain ⟨hpassed, -⟩ := Attempt.andThen_failure_eq_none.mp hdone
  refine ⟨heach, hpassed, ?_⟩
  rw [Attempt.state_andThen heach, Attempt.state_andThen hpassed]
  cases passed <;> rfl

theorem interval_update {records : List Record} {passed : Option Timestamp}
    (hdone : (c.update records passed).failure = none) :
    (c.update records passed).state.interval = c.interval := by
  cases hfirst : (records.head?.map (·.time)).or passed with
  | none => rw [(update_eq_done hfirst).2.2, Attempt.state_done]
  | some first =>
    rw [(state_update hfirst hdone).2.2]
    cases passed with
    | none => exact (interval_each ..).trans (interval_anchored ..)
    | some t =>
      exact (interval_advance ..).trans ((interval_each ..).trans (interval_anchored ..))

/-- A rebuild that did not fail updated an empty chart and moved the end of the record of time. -/
theorem state_rebuild {records : List Record} {first passed : Option Timestamp}
    (hdone : (c.rebuild records first passed).failure = none) :
    ((first.elim c.clear c.restart).update records passed).failure = none ∧
      (c.rebuild records first passed).state =
        passed.elim ((first.elim c.clear c.restart).update records passed).state fun t =>
          ((first.elim c.clear c.restart).update records passed).state.extend t := by
  obtain ⟨hupdate, -⟩ := Attempt.andThen_failure_eq_none.mp hdone
  exact ⟨hupdate, by rw [rebuild, Attempt.state_andThen hupdate]; rfl⟩

/-! ### Times given from outside -/

/-- A change that did not fail was made with all its times resolved. -/
theorem withTimes_eq {zone : Zone} {start finish : Option Moment}
    {change : Option Timestamp → Option Timestamp → Attempt TimeError Chart}
    (hdone : (c.withTimes zone start finish change).failure = none) :
    ∃ first passed, start.mapM zone.resolve = .ok first ∧ finish.mapM zone.resolve = .ok passed ∧
      c.withTimes zone start finish change = change first passed := by
  unfold withTimes at hdone ⊢
  split at hdone
  · cases hdone
  · rename_i passed hpassed
    split at hdone
    · cases hdone
    · rename_i first hfirst
      exact ⟨first, passed, hfirst, hpassed, rfl⟩

end Chart

end TrafficMonitor
