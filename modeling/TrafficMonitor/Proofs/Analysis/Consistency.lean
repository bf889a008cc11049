import TrafficMonitor.Proofs.Analysis.Pieces

/-! The windows of a chart, whatever it was asked for, also where a call stopped half way. The
closed windows lie between the origin and the cursor, and an open window that holds anything
ends within the calendar (`Consistent`). Every call keeps this (`consistent_apply`), because a
record is counted only after an advance has found room for its window. Therefore closing the open
window early never fails (`failure_commit`), changes nothing a second time (`commit_commit`) and
shows in no bucket (`buckets_commit`). -/
namespace TrafficMonitor
open Time

namespace Attempt

/-- What every step keeps holds of the state that was reached, whether or not a step failed. -/
theorem state_andThen_of {P : σ → Prop} {a : Attempt ε σ} {f : σ → Attempt ε σ}
    (ha : P a.state) (hf : ∀ s, P s → P (f s).state) : P (a.andThen f).state := by
  obtain ⟨s, _ | e⟩ := a
  · exact hf s ha
  · exact ha

theorem state_each_of {P : σ → Prop} {f : α → σ → Attempt ε σ}
    (hstep : ∀ a s, P s → P (f a s).state) {s : σ} (hs : P s) (items : List α) :
    P (each f items s).state := by
  induction items generalizing s with
  | nil => exact hs
  | cons a rest ih => exact state_andThen_of (hstep a s hs) fun s hs => ih hs

end Attempt

/-! ### Consistency -/

namespace Frame
variable {f : Frame} {width : Interval} {n m : Nat}

/-- The cursor is so many windows after the origin, on the same clock. -/
structure Apart (f : Frame) (width : Interval) (n : Nat) : Prop where
  offset : f.cursor.offset = f.origin.offset
  micros : f.cursor.clock.micros = f.origin.clock.micros + n * width.micros

theorem Apart.shift (h : f.Apart width n) {hm : m ≤ f.room width} :
    (f.shift width m hm).Apart width (n + m) := by
  refine ⟨h.offset, ?_⟩
  simp only [Frame.shift, h.micros, Nat.add_mul, Nat.add_assoc]

theorem Apart.instant (h : f.Apart width n) :
    f.cursor.instant = f.origin.instant + n * width.micros := by
  simp only [Timestamp.instant, h.offset, h.micros, Int.natCast_add, Int.natCast_mul]
  omega

end Frame

namespace Chart
variable {c : Chart} {f : Frame}

/-- The closed windows reach from the origin to the cursor, and an open window that holds
anything ends within the calendar. -/
structure Consistent (c : Chart) : Prop where
  unanchored : c.frame = none → c.closed = #[] ∧ c.current = {} ∧ c.start = none
  anchored : ∀ f, c.frame = some f → c.start = some f.origin ∧ f.Apart c.interval c.closed.size
  opened : ∀ f, c.frame = some f → c.current.isEmpty = false → 1 ≤ f.room c.interval

theorem consistent_clear (c : Chart) : c.clear.Consistent :=
  ⟨fun _ => ⟨rfl, rfl, rfl⟩, nofun, nofun⟩

theorem consistent_dated (h : c.Consistent) (e : Option Timestamp) : (c.dated e).Consistent :=
  ⟨h.unanchored, h.anchored, h.opened⟩

theorem consistent_restart (c : Chart) (time : Timestamp) : (c.restart time).Consistent := by
  refine ⟨nofun, ?_, ?_⟩
  · intro f hf
    cases hf
    refine ⟨?_, rfl, ?_⟩
    · simp [restart, anchor]
    · simp [restart, anchor, clear]
  · intro f _ hcurrent
    cases hcurrent

/-- Anchoring a chart that has no frame. -/
theorem consistent_anchored (h : c.Consistent) (first : Timestamp) :
    (c.anchored first).Consistent := by
  cases hf : c.frame with
  | some f =>
    rw [anchored_eq_self hf]
    exact h
  | none =>
    obtain ⟨hclosed, hcurrent, hstart⟩ := h.unanchored hf
    have hanchored : c.anchored first = c.anchor first := by simp [anchored, hf]
    rw [hanchored]
    refine ⟨?_, ?_, ?_⟩
    · intro hnone
      cases hnone
    · intro g hg
      cases hg
      refine ⟨?_, rfl, ?_⟩
      · simp [anchor, hstart]
      · simp [anchor, hclosed]
    · intro g _ hopen
      have : (c.anchor first).current = {} := hcurrent
      rw [this] at hopen
      cases hopen

theorem consistent_close (h : c.Consistent) (hf : c.frame = some f) {n : Nat}
    {hn : n ≤ f.room c.interval} : (c.close f n hn).Consistent := by
  cases n with
  | zero => exact h
  | succ n =>
    obtain ⟨hstart, hapart⟩ := h.anchored f hf
    refine ⟨nofun, ?_, ?_⟩
    · intro g hg
      cases hg
      rw [size_close]
      exact ⟨hstart, hapart.shift⟩
    · intro g _ hopen
      cases hopen

theorem consistent_advance (h : c.Consistent) (time : Timestamp) :
    (c.advance time).state.Consistent := by
  cases hf : c.frame with
  | none => simpa [advance, hf] using h
  | some f =>
    by_cases hfits : f.Fits c.interval time
    · rw [advance_eq_done hf hfits]
      exact consistent_close h hf
    · rw [advance_eq_stopped hf hfits]
      exact consistent_close h hf

theorem isSome_frame_advance (time : Timestamp) (hf : c.frame = some f) :
    ∃ g, (c.advance time).state.frame = some g := by
  by_cases hfits : f.Fits c.interval time
  · rw [advance_eq_done hf hfits]
    exact ⟨_, frame_close_eq hf⟩
  · rw [advance_eq_stopped hf hfits]
    exact ⟨_, frame_close_eq hf⟩

/-- A record is counted only after an advance that left room for its window. -/
theorem consistent_add (r : Record) (h : c.Consistent ∧ ∃ f, c.frame = some f) :
    (c.add r).state.Consistent ∧ ∃ f, (c.add r).state.frame = some f := by
  obtain ⟨hc, f, hf⟩ := h
  refine ⟨?_, by rw [frame_add]; exact isSome_frame_advance r.time hf⟩
  have hadvance := consistent_advance hc r.time
  by_cases hfits : f.Fits c.interval r.time
  · have hframe := frame_close_eq (h := Nat.le_of_lt hfits) hf
    rw [add, advance_eq_done hf hfits, Attempt.done_andThen, Attempt.state_done]
    rw [advance_eq_done hf hfits, Attempt.state_done] at hadvance
    refine ⟨fun hnone => ?_, hadvance.anchored, fun g hg _ => ?_⟩
    · cases hframe.symm.trans hnone
    · cases hframe.symm.trans hg
      show 1 ≤ (f.shift c.interval _ _).room (c.close f _ _).interval
      rw [interval_close, Frame.room_shift]
      exact Nat.sub_pos_of_lt hfits
  · rw [add, advance_eq_stopped hf hfits, Attempt.stopped_andThen]
    rwa [advance_eq_stopped hf hfits] at hadvance

theorem consistent_each (h : c.Consistent ∧ ∃ f, c.frame = some f) (records : List Record) :
    (Attempt.each add records c).state.Consistent :=
  (Attempt.state_each_of (P := fun c : Chart => c.Consistent ∧ ∃ f, c.frame = some f)
    (fun r _ => consistent_add r) h records).1

theorem consistent_update (h : c.Consistent) (records : List Record)
    (passed : Option Timestamp) : (c.update records passed).state.Consistent := by
  cases hfirst : (records.head?.map (·.time)).or passed with
  | none =>
    rw [(update_eq_done hfirst).2.2]
    exact h
  | some first =>
    rw [update_eq_replay hfirst, replay, Attempt.andThen_assoc]
    have heach := consistent_each
      ⟨consistent_anchored h first, exists_frame_anchored c first⟩ records
    refine Attempt.state_andThen_of heach fun c hc => ?_
    refine Attempt.state_andThen_of ?_ fun c hc => consistent_dated hc _
    cases passed with
    | none => exact hc
    | some time => exact consistent_advance hc time

theorem consistent_rebuild (c : Chart) (records : List Record) (first passed : Option Timestamp) :
    (c.rebuild records first passed).state.Consistent := by
  have hempty : (first.elim c.clear c.restart).Consistent := by
    cases first with
    | none => exact consistent_clear c
    | some time => exact consistent_restart c time
  refine Attempt.state_andThen_of (consistent_update hempty records passed) fun c hc => ?_
  cases passed with
  | none => exact hc
  | some time =>
    show (c.extend time).Consistent
    rw [extend_eq_dated]
    exact consistent_dated hc _

/-! ### Closing the open window early -/

/-- The open window is closed if it holds anything, and there is always room for that. -/
theorem commit_cases (h : c.Consistent) :
    (c.current.isEmpty = true ∧ c.commit = .done c) ∨
      ∃ f hroom, c.frame = some f ∧ c.current.isEmpty = false ∧
        c.commit = .done (c.close f 1 hroom) := by
  cases hempty : c.current.isEmpty with
  | true => exact Or.inl ⟨rfl, by simp [commit, hempty]⟩
  | false =>
    cases hf : c.frame with
    | none =>
      rw [(h.unanchored hf).2.1] at hempty
      cases hempty
    | some f =>
      have hroom := h.opened f hf hempty
      exact Or.inr ⟨f, hroom, rfl, rfl, by simp [commit, hempty, hf, hroom]⟩

theorem consistent_commit (h : c.Consistent) : c.commit.state.Consistent := by
  rcases commit_cases h with ⟨-, hcommit⟩ | ⟨f, hroom, hf, -, hcommit⟩
  · rw [hcommit]
    exact h
  · rw [hcommit, Attempt.state_done]
    exact consistent_close h hf

theorem failure_commit (h : c.Consistent) : c.commit.failure = none := by
  rcases commit_cases h with ⟨-, hcommit⟩ | ⟨f, hroom, -, -, hcommit⟩ <;> rw [hcommit] <;> rfl

theorem commit_commit (h : c.Consistent) : c.commit.state.commit = .done c.commit.state := by
  rcases commit_cases h with ⟨-, hcommit⟩ | ⟨f, hroom, -, -, hcommit⟩
  · rw [hcommit]
    exact hcommit
  · rw [hcommit]
    rfl

theorem buckets_commit (h : c.Consistent) : c.commit.state.buckets = c.buckets := by
  rcases commit_cases h with ⟨-, hcommit⟩ | ⟨f, hroom, -, hempty, hcommit⟩
  · rw [hcommit]
    rfl
  · have hnew : ({} : Bucket).isEmpty = true := rfl
    simp [hcommit, buckets, close, hempty, hnew]

/-! ### Calls and their times -/

theorem apply_restart (zone : Zone) (time : Moment) (c : Chart) :
    c.apply zone (.restart time) = match zone.resolve time with
      | .error e => .stopped c e
      | .ok t => .done (c.restart t) := by
  simp only [apply, withTimes, Option.mapM_some, Option.mapM_none]
  cases zone.resolve time <;> rfl

theorem apply_update_eq (zone : Zone) (records : List Record) (passed : Option Moment)
    (c : Chart) : c.apply zone (.update records passed) = match passed.mapM zone.resolve with
      | .error e => .stopped c e
      | .ok p => c.update records p := by
  simp only [apply, withTimes]
  cases passed.mapM zone.resolve <;> rfl

theorem apply_rebuild (zone : Zone) (records : List Record) (start finish : Option Moment)
    (c : Chart) : c.apply zone (.rebuild records start finish) =
      match finish.mapM zone.resolve, start.mapM zone.resolve with
      | .error e, _ => .stopped c e
      | .ok _, .error e => .stopped c e
      | .ok passed, .ok first => c.rebuild records first passed := by
  simp only [apply, withTimes]
  cases finish.mapM zone.resolve with
  | error e => rfl
  | ok passed => cases start.mapM zone.resolve <;> rfl

theorem consistent_apply (h : c.Consistent) (zone : Zone) (change : Change) :
    (c.apply zone change).state.Consistent := by
  cases change with
  | clear => exact consistent_clear c
  | restart time =>
    rw [apply_restart]
    split
    · exact h
    · exact consistent_restart c _
  | update records passed =>
    rw [apply_update_eq]
    split
    · exact h
    · exact consistent_update h records _
  | rebuild records start finish =>
    rw [apply_rebuild]
    split
    · exact h
    · exact h
    · exact consistent_rebuild c records _ _
  | commit => exact consistent_commit h

theorem interval_update_state (c : Chart) (records : List Record) (passed : Option Timestamp) :
    (c.update records passed).state.interval = c.interval := by
  cases hfirst : (records.head?.map (·.time)).or passed with
  | none => rw [(update_eq_done hfirst).2.2, Attempt.state_done]
  | some first =>
    rw [update_eq_replay hfirst, replay, Attempt.andThen_assoc]
    have heach := (interval_each (c.anchored first) records).trans (interval_anchored c first)
    refine Attempt.state_andThen_of (P := fun c' : Chart => c'.interval = c.interval) heach
      fun c' hc' => ?_
    refine Attempt.state_andThen_of (P := fun c' : Chart => c'.interval = c.interval) ?_
      fun _ h => h
    cases passed with
    | none => exact hc'
    | some time => exact (interval_advance c' time).trans hc'

theorem interval_rebuild (c : Chart) (records : List Record) (first passed : Option Timestamp) :
    (c.rebuild records first passed).state.interval = c.interval := by
  have hempty : (first.elim c.clear c.restart).interval = c.interval := by cases first <;> rfl
  refine Attempt.state_andThen_of (P := fun c' : Chart => c'.interval = c.interval)
    ((interval_update_state ..).trans hempty) fun c' hc' => ?_
  cases passed with
  | none => exact hc'
  | some time => exact (interval_extend c' time).trans hc'

theorem interval_commit (c : Chart) : c.commit.state.interval = c.interval := by
  unfold commit
  split
  · rfl
  · split
    · rfl
    · split
      · exact interval_close
      · rfl

/-- The width of the windows stays. -/
theorem interval_apply (zone : Zone) (change : Change) (c : Chart) :
    (c.apply zone change).state.interval = c.interval := by
  cases change with
  | clear => rfl
  | restart time =>
    rw [apply_restart]
    split <;> rfl
  | update records passed =>
    rw [apply_update_eq]
    split
    · rfl
    · exact interval_update_state c records _
  | rebuild records start finish =>
    rw [apply_rebuild]
    split
    · rfl
    · rfl
    · exact interval_rebuild c records _ _
  | commit => exact interval_commit c

end Chart

end TrafficMonitor
