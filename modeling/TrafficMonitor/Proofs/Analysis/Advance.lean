import TrafficMonitor.Proofs.Analysis.Windows

/-! Advances that follow each other. Closing windows twice is closing as many at once
(`close_close`), so an advance on the way to a later one changes nothing
(`advance_andThen_advance`), and closing the windows one at a time ends where the advance does
(`closeUntil_eq_advance`). Whether a time can be reached does not depend on the way either: it is
known from the first frame which records a chart can count (`failure_each`, `failure_update`). -/
namespace TrafficMonitor
open Time

namespace Frame
variable {f : Frame} {width : Interval} {time : Timestamp}

/-- The window of a time ends within the calendar. -/
def Fits (f : Frame) (width : Interval) (time : Timestamp) : Prop :=
  f.passed width time < f.room width

instance : Decidable (f.Fits width time) := inferInstanceAs (Decidable (_ < _))

section Shift
variable {n : Nat} {h : n ≤ f.room width}

@[simp] theorem shift_zero {h : 0 ≤ f.room width} : f.shift width 0 h = f := by
  simp [shift]

theorem room_shift : (f.shift width n h).room width = f.room width - n := by
  simp only [room, shift]
  rw [← Nat.sub_sub, Nat.mul_comm, Nat.sub_mul_div]

theorem passed_shift : (f.shift width n h).passed width time = f.passed width time - n := by
  have hw : (width.micros : Int) ≠ 0 := by exact_mod_cast Nat.ne_of_gt width.positive
  have hinstant : time.instant - (f.shift width n h).cursor.instant =
      time.instant - f.cursor.instant + -(n : Int) * width.micros := by
    simp only [shift, Timestamp.instant, Int.natCast_add, Int.natCast_mul, Int.neg_mul]
    omega
  rw [passed, hinstant, Int.add_mul_ediv_right _ _ hw, passed]
  omega

theorem shift_shift {m : Nat} {h' : m ≤ (f.shift width n h).room width} :
    (f.shift width n h).shift width m h' =
      f.shift width (n + m) (by rw [room_shift] at h'; omega) := by
  simp only [shift, Nat.add_mul, Nat.add_assoc]

end Shift

/-- The frame after an advance that did not fail, or after none. -/
def Follows (g f : Frame) (width : Interval) : Prop :=
  ∃ n h, (n < f.room width ∨ n = 0) ∧ g = f.shift width n h

theorem Follows.refl (f : Frame) (width : Interval) : f.Follows f width :=
  ⟨0, Nat.zero_le _, Or.inr rfl, shift_zero.symm⟩

theorem Follows.trans {g k : Frame} (hk : k.Follows g width) (hg : g.Follows f width) :
    k.Follows f width := by
  obtain ⟨n, hn, hroom, rfl⟩ := hg
  obtain ⟨m, hm, hroom', rfl⟩ := hk
  rw [room_shift] at hm hroom'
  exact ⟨n + m, by omega, by omega, shift_shift⟩

/-- The same times fit later on. -/
theorem Follows.fits_iff {g : Frame} (h : g.Follows f width) :
    g.Fits width time ↔ f.Fits width time := by
  obtain ⟨n, hn, hroom, rfl⟩ := h
  rw [Fits, Fits, room_shift, passed_shift]
  omega

/-- The windows of two times keep their order. -/
theorem Follows.passed_le {g : Frame} (h : g.Follows f width) {a b : Timestamp}
    (hle : f.passed width a ≤ f.passed width b) : g.passed width a ≤ g.passed width b := by
  obtain ⟨n, hn, -, rfl⟩ := h
  rw [passed_shift, passed_shift]
  omega

/-- A later time has passed no fewer windows. -/
theorem passed_mono {a b : Timestamp} (h : a.instant ≤ b.instant) :
    f.passed width a ≤ f.passed width b := by
  have hw : (0 : Int) < width.micros := by exact_mod_cast width.positive
  have hdiv := Int.ediv_le_ediv hw (Int.sub_le_sub_right h f.cursor.instant)
  rw [passed, passed]
  omega

/-! ### The next window -/

section Next
variable {g : Frame}

/-- The frame once the open window is over, unless that lies beyond the calendar. -/
def next? (f : Frame) (width : Interval) : Option Frame :=
  if h : f.cursor.clock.micros + width.micros < span then
    some { f with cursor := ⟨⟨f.cursor.clock.micros + width.micros, h⟩, f.cursor.offset⟩ }
  else none

theorem one_le_room_iff : 1 ≤ f.room width ↔ f.cursor.clock.micros + width.micros < span := by
  have := f.cursor.clock.inSpan
  rw [room, Nat.le_div_iff_mul_le width.positive]
  omega

theorem next?_eq_none (h : f.next? width = none) : f.room width = 0 := by
  have hbeyond : ¬ f.cursor.clock.micros + width.micros < span := fun hlt => by
    rw [next?, dif_pos hlt] at h
    cases h
  have := mt one_le_room_iff.mp hbeyond
  omega

theorem next?_eq_some (h : f.next? width = some g) :
    ∃ hroom : 1 ≤ f.room width, g = f.shift width 1 hroom := by
  unfold next? at h
  split at h
  · rename_i hlt
    cases h
    refine ⟨one_le_room_iff.mpr hlt, ?_⟩
    simp only [shift, Nat.one_mul]
  · cases h

theorem next?_later (h : f.next? width = some g) :
    span - g.cursor.clock.micros < span - f.cursor.clock.micros := by
  obtain ⟨-, rfl⟩ := next?_eq_some h
  have := f.cursor.clock.inSpan
  have := width.positive
  simp only [shift, Nat.one_mul]
  omega

/-- A time is in the open window, or before it, if it comes before the next. -/
theorem before_shift_one {h : 1 ≤ f.room width} :
    time.before (f.shift width 1 h).cursor = true ↔ f.passed width time = 0 := by
  have hw : (0 : Int) < width.micros := by exact_mod_cast width.positive
  have hinstant : (f.shift width 1 h).cursor.instant = f.cursor.instant + width.micros := by
    simp only [shift, Timestamp.instant, Nat.one_mul, Int.natCast_add]
    omega
  have hdiv := Int.ediv_lt_iff_lt_mul hw (a := time.instant - f.cursor.instant) (b := 1)
  rw [Timestamp.before, decide_eq_true_iff, hinstant, passed]
  omega

end Next

end Frame

namespace Chart
variable {c : Chart} {f : Frame} {time : Timestamp}

/-! ### Closing windows twice -/

theorem close_congr {n m : Nat} {hn : n ≤ f.room c.interval} (h : n = m)
    (hm : m ≤ f.room c.interval) : c.close f n hn = c.close f m hm := by
  subst h
  rfl

/-- The frame of a chart whose windows were closed. -/
theorem frame_close_eq {n : Nat} {h : n ≤ f.room c.interval} (hf : c.frame = some f) :
    (c.close f n h).frame = some (f.shift c.interval n h) := by
  cases n with
  | zero => simp [close, hf]
  | succ n => rfl

theorem close_close {n m : Nat} {hn : n ≤ f.room c.interval}
    {hm : m ≤ (f.shift c.interval n hn).room (c.close f n hn).interval}
    (h : n + m ≤ f.room c.interval) :
    (c.close f n hn).close (f.shift c.interval n hn) m hm = c.close f (n + m) h := by
  cases n with
  | zero =>
    simp only [Frame.shift_zero] at hm ⊢
    exact close_congr (Nat.zero_add m).symm h
  | succ n =>
    cases m with
    | zero => rfl
    | succ m =>
      have hclosed : (c.closed.push c.current ++ Array.replicate n ({} : Bucket)).push {} ++
          Array.replicate m ({} : Bucket) =
            c.closed.push c.current ++ Array.replicate (n + 1 + m) ({} : Bucket) := by
        rw [← Array.replicate_append_replicate, Array.replicate_succ, Array.push_append,
          Array.append_assoc]
      have hframe : (f.shift c.interval (n + 1) hn).shift c.interval (m + 1) hm =
          f.shift c.interval (n + 1 + (m + 1)) h := Frame.shift_shift
      exact (Chart.mk.injEq ..).mpr ⟨rfl, rfl, rfl, hclosed, rfl, congrArg some hframe⟩

/-! ### Advancing twice -/

theorem advance_eq_done (hf : c.frame = some f) (h : f.Fits c.interval time) :
    c.advance time = .done (c.close f (f.passed c.interval time) (Nat.le_of_lt h)) := by
  unfold advance
  rw [hf]
  exact dif_pos h

theorem advance_eq_stopped (hf : c.frame = some f) (h : ¬ f.Fits c.interval time) :
    c.advance time = .stopped (c.close f (f.room c.interval) (Nat.le_refl _)) .overflow := by
  unfold advance
  rw [hf]
  exact dif_neg h

theorem failure_advance (hf : c.frame = some f) :
    (c.advance time).failure = none ↔ f.Fits c.interval time := by
  by_cases h : f.Fits c.interval time
  · simp [advance_eq_done hf h, h, Attempt.done]
  · simp [advance_eq_stopped hf h, h, Attempt.stopped]

/-- Windows that will be closed anyway can be closed before. -/
theorem advance_close {n : Nat} {h : n ≤ f.room c.interval} (hf : c.frame = some f)
    (hle : n ≤ f.passed c.interval time) : (c.close f n h).advance time = c.advance time := by
  have hframe := frame_close_eq (h := h) hf
  have hinterval : (c.close f n h).interval = c.interval := interval_close
  have hfits : (f.shift c.interval n h).Fits (c.close f n h).interval time ↔
      f.Fits c.interval time := by
    rw [hinterval, Frame.Fits, Frame.Fits, Frame.room_shift, Frame.passed_shift]
    omega
  by_cases ht : f.Fits c.interval time
  · have hindex : (f.shift c.interval n h).passed (c.close f n h).interval time =
        f.passed c.interval time - n := by
      rw [hinterval, Frame.passed_shift]
    have hrest : f.passed c.interval time - n ≤
        (f.shift c.interval n h).room (c.close f n h).interval := by
      rw [hinterval, Frame.room_shift]
      exact Nat.sub_le_sub_right (Nat.le_of_lt ht) n
    have hsum : n + (f.passed c.interval time - n) = f.passed c.interval time :=
      Nat.add_sub_cancel' hle
    rw [advance_eq_done hf ht, advance_eq_done hframe (hfits.mpr ht),
      close_congr hindex hrest, close_close (Nat.le_trans (Nat.le_of_eq hsum) (Nat.le_of_lt ht)),
      close_congr hsum (Nat.le_of_lt ht)]
  · have hindex : (f.shift c.interval n h).room (c.close f n h).interval =
        f.room c.interval - n := by
      rw [hinterval, Frame.room_shift]
    have hsum : n + (f.room c.interval - n) = f.room c.interval := Nat.add_sub_cancel' h
    rw [advance_eq_stopped hf ht, advance_eq_stopped hframe (mt hfits.mp ht),
      close_congr hindex (Nat.le_of_eq hindex.symm), close_close (Nat.le_of_eq hsum),
      close_congr hsum (Nat.le_refl _)]

/-- **An advance on the way to a later one changes nothing.** -/
theorem advance_andThen_advance {a b : Timestamp} (hf : c.frame = some f)
    (hle : f.passed c.interval a ≤ f.passed c.interval b) :
    (c.advance a).andThen (advance b) = c.advance b := by
  by_cases ha : f.Fits c.interval a
  · rw [advance_eq_done hf ha, Attempt.done_andThen]
    exact advance_close hf hle
  · have hb : ¬ f.Fits c.interval b := fun h => ha (Nat.lt_of_le_of_lt hle h)
    rw [advance_eq_stopped hf ha, advance_eq_stopped hf hb, Attempt.stopped_andThen]

/-! ### One window at a time -/

/-- Closes windows one at a time: while the open one does not end after the time, it is closed and
an empty one opened behind it. The end of the open window must lie in the calendar. -/
def closeUntil (time : Timestamp) (f : Frame) (c : Chart) : Attempt TimeError Chart :=
  match h : f.next? c.interval with
  | none => .stopped c .overflow
  | some g =>
    if time.before g.cursor then .done c
    else
      have := Frame.next?_later h
      closeUntil time g
        { c with closed := c.closed.push c.current, current := {}, frame := some g }
termination_by span - f.cursor.clock.micros

/-- **Windows closed one at a time are those of an advance**, also where the calendar ends. -/
theorem closeUntil_eq_advance (hf : c.frame = some f) : closeUntil time f c = c.advance time := by
  fun_induction closeUntil time f c with
  | case1 f c hnext =>
    have hroom := Frame.next?_eq_none hnext
    have hfits : ¬ f.Fits c.interval time := by
      rw [Frame.Fits, hroom]
      exact Nat.not_lt_zero _
    rw [advance_eq_stopped hf hfits, close_congr hroom (Nat.zero_le _)]
    rfl
  | case2 f c g hnext hbefore =>
    obtain ⟨hroom, rfl⟩ := Frame.next?_eq_some hnext
    have hpassed := Frame.before_shift_one.mp hbefore
    have hfits : f.Fits c.interval time := by
      rw [Frame.Fits, hpassed]
      exact hroom
    rw [advance_eq_done hf hfits, close_congr hpassed (Nat.zero_le _)]
    rfl
  | case3 f c g hnext hbefore _ ih =>
    obtain ⟨hroom, rfl⟩ := Frame.next?_eq_some hnext
    have hpassed : 1 ≤ f.passed c.interval time :=
      Nat.pos_of_ne_zero (mt Frame.before_shift_one.mpr hbefore)
    -- What is left to do is the same advance from one window further on.
    have hclose : { c with
        closed := c.closed.push c.current
        current := {}
        frame := some (f.shift c.interval 1 hroom) } = c.close f 1 hroom := by
      simp [close]
    rw [ih rfl, hclose]
    exact advance_close hf hpassed

/-! ### Which records fit -/

theorem frame_advance (hf : c.frame = some f) (hdone : (c.advance time).failure = none) :
    ∃ g, (c.advance time).state.frame = some g ∧ g.Follows f c.interval := by
  have ht := (failure_advance hf).mp hdone
  rw [advance_eq_done hf ht]
  exact ⟨_, frame_close_eq hf, _, _, Or.inl ht, rfl⟩

theorem failure_add (c : Chart) (r : Record) :
    (c.add r).failure = (c.advance r.time).failure := by
  rw [add]
  obtain ⟨s, _ | e⟩ := c.advance r.time <;> rfl

theorem frame_add (c : Chart) (r : Record) :
    (c.add r).state.frame = (c.advance r.time).state.frame := by
  rw [add]
  obtain ⟨s, _ | e⟩ := c.advance r.time <;> rfl

/-- A replay that did not fail only moved the frame. -/
theorem frame_each {records : List Record} (hf : c.frame = some f)
    (hdone : (Attempt.each add records c).failure = none) :
    ∃ g, (Attempt.each add records c).state.frame = some g ∧ g.Follows f c.interval := by
  induction records generalizing c f with
  | nil => exact ⟨f, hf, .refl f _⟩
  | cons r rest ih =>
    obtain ⟨hadd, hrest⟩ := Attempt.andThen_failure_eq_none.mp hdone
    obtain ⟨g, hg, hfollows⟩ := frame_advance hf ((failure_add c r).symm.trans hadd)
    obtain ⟨k, hk, hfollows'⟩ := ih ((frame_add c r).trans hg) hrest
    rw [interval_add] at hfollows'
    rw [Attempt.each, Attempt.state_andThen hadd]
    exact ⟨k, hk, hfollows'.trans hfollows⟩

/-- A replay fails only by a record whose window does not fit. -/
theorem failure_each {records : List Record} (hf : c.frame = some f) :
    (Attempt.each add records c).failure = none ↔ ∀ r ∈ records, f.Fits c.interval r.time := by
  induction records generalizing c f with
  | nil => simp [Attempt.each, Attempt.done]
  | cons r rest ih =>
    have hadd : (c.add r).failure = none ↔ f.Fits c.interval r.time := by
      rw [failure_add, failure_advance hf]
    rw [Attempt.each, Attempt.andThen_failure_eq_none, List.forall_mem_cons, ← hadd]
    refine and_congr_right fun hdone => ?_
    obtain ⟨g, hg, hfollows⟩ := frame_advance hf ((failure_add c r).symm.trans hdone)
    rw [ih ((frame_add c r).trans hg), interval_add]
    simp only [hfollows.fits_iff]

end Chart

end TrafficMonitor
