import TrafficMonitor.Proofs.Analysis.Advance
import TrafficMonitor.Proofs.Time.Civil

/-! Streams in pieces. A chart can be given a stream of records at once or piece by piece, and
between the pieces it can be told of times that have passed. Two updates in a row are one update
with the records of both (`result_update_append`), because an update does not read the end of the
record of time that the one before it has written (`result_update_dated`). A time told in between
moves the cursor only where the next record moves it anyway (`result_update_passed`).
`update_in_pieces` is what follows for any cut of the stream. -/
namespace TrafficMonitor
open Time

namespace Attempt
variable {a : Attempt ε σ}

/-- The state that was reached, or else the failure that stopped the attempt. -/
def result (a : Attempt ε σ) : Except ε σ := a.failure.elim (.ok a.state) .error

@[simp] theorem failure_done (s : σ) : (done s : Attempt ε σ).failure = none := rfl

@[simp] theorem result_done (s : σ) : (done s : Attempt ε σ).result = .ok s := rfl

theorem result_andThen (a : Attempt ε σ) (f : σ → Attempt ε σ) :
    (a.andThen f).result = a.result.bind fun s => (f s).result := by
  obtain ⟨s, _ | e⟩ := a <;> rfl

theorem result_andThen_done (a : Attempt ε σ) (f : σ → σ) :
    (a.andThen fun s => done (f s)).result = a.result.map f := by
  obtain ⟨s, _ | e⟩ := a <;> rfl

theorem result_eq_ok {s : σ} : a.result = .ok s ↔ a.failure = none ∧ a.state = s := by
  obtain ⟨s', _ | e⟩ := a <;> simp [result]

theorem eq_done_of_result {s : σ} (h : a.result = .ok s) : a = .done s := by
  obtain ⟨hdone, rfl⟩ := result_eq_ok.mp h
  obtain ⟨s, _ | e⟩ := a
  · rfl
  · cases hdone

theorem result_of_done (h : a.failure = none) : a.result = .ok a.state :=
  result_eq_ok.mpr ⟨h, rfl⟩

/-- Attempts with one result fail together and reach the same state. -/
theorem agree_of_result_eq {b : Attempt ε σ} (h : a.result = b.result) :
    (a.failure = none ↔ b.failure = none) ∧ (b.failure = none → a.state = b.state) := by
  obtain ⟨s, _ | e⟩ := a <;> obtain ⟨s', _ | e'⟩ := b <;> simp_all [result]

end Attempt

namespace Chart
variable {c : Chart} {f : Frame} {e : Option Timestamp}

/-! ### The end of the record of time -/

/-- The chart with another end of the record of time. -/
def dated (finish : Option Timestamp) (c : Chart) : Chart := { c with finish }

theorem settle_eq_dated (c : Chart) : c.settle = c.dated (c.frame.map (·.cursor)) := rfl

theorem extend_eq_dated (c : Chart) (time : Timestamp) :
    c.extend time = c.dated (c.extend time).finish := by
  unfold extend
  repeat' split
  all_goals rfl

theorem close_dated {n : Nat} {h : n ≤ f.room c.interval} :
    (c.dated e).close f n h = (c.close f n h).dated e := by
  cases n <;> rfl

theorem result_advance_dated (time : Timestamp) :
    ((c.dated e).advance time).result = (c.advance time).result.map (dated e) := by
  cases hf : c.frame with
  | none =>
    have hdated : (c.dated e).frame = none := hf
    simp [advance, hf, hdated, Except.map]
  | some f =>
    have hdated : (c.dated e).frame = some f := hf
    by_cases hfits : f.Fits c.interval time
    · rw [advance_eq_done hf hfits, advance_eq_done hdated hfits]
      exact congrArg Except.ok close_dated
    · rw [advance_eq_stopped hf hfits, advance_eq_stopped hdated hfits]
      rfl

theorem result_add_dated (r : Record) :
    ((c.dated e).add r).result = (c.add r).result.map (dated e) := by
  rw [add, Attempt.result_andThen_done, result_advance_dated, add, Attempt.result_andThen_done]
  cases (c.advance r.time).result <;> rfl

theorem result_each_dated (records : List Record) :
    (Attempt.each add records (c.dated e)).result =
      (Attempt.each add records c).result.map (dated e) := by
  induction records generalizing c with
  | nil => rfl
  | cons r rest ih =>
    rw [Attempt.each, Attempt.result_andThen, result_add_dated, Attempt.each,
      Attempt.result_andThen]
    cases (c.add r).result with
    | error failure => rfl
    | ok c => exact ih

/-! ### What an update does between anchoring and settling -/

/-- Counts records, then advances to a time that is known to have passed. -/
def replay (records : List Record) (passed : Option Timestamp) (c : Chart) :
    Attempt TimeError Chart :=
  (Attempt.each add records c).andThen fun c => passed.elim (.done c) c.advance

theorem replay_append (a b : List Record) (passed : Option Timestamp) (c : Chart) :
    replay (a ++ b) passed c = (replay a none c).andThen (replay b passed) := by
  simp only [replay, Attempt.each_append, Attempt.andThen_assoc, Option.elim_none,
    Attempt.done_andThen]

theorem result_replay_dated (records : List Record) (passed : Option Timestamp) :
    (replay records passed (c.dated e)).result =
      (replay records passed c).result.map (dated e) := by
  rw [replay, Attempt.result_andThen, result_each_dated, replay, Attempt.result_andThen]
  cases (Attempt.each add records c).result with
  | error failure => rfl
  | ok c =>
    cases passed with
    | none => rfl
    | some time => exact result_advance_dated time

theorem update_eq_replay {records : List Record} {passed : Option Timestamp} {first : Timestamp}
    (hfirst : (records.head?.map (·.time)).or passed = some first) :
    c.update records passed =
      (replay records passed (c.anchored first)).andThen fun c => .done c.settle := by
  simp only [update, hfirst, replay, anchored, Attempt.andThen_assoc]

theorem anchored_eq_self {first : Timestamp} (hf : c.frame = some f) : c.anchored first = c := by
  simp [anchored, hf]

theorem exists_frame_anchored (c : Chart) (first : Timestamp) :
    ∃ f, (c.anchored first).frame = some f := by
  unfold anchored
  split
  · rename_i h
    exact Option.isSome_iff_exists.mp h
  · exact ⟨_, rfl⟩

/-- A replay that did not fail only moved the frame. -/
theorem frame_replay {records : List Record} {passed : Option Timestamp} (hf : c.frame = some f)
    {c' : Chart} (hok : (replay records passed c).result = .ok c') :
    ∃ g, c'.frame = some g ∧ g.Follows f c.interval := by
  obtain ⟨hdone, rfl⟩ := Attempt.result_eq_ok.mp hok
  obtain ⟨heach, hpassed⟩ := Attempt.andThen_failure_eq_none.mp hdone
  obtain ⟨g, hg, hfollows⟩ := frame_each hf heach
  rw [replay, Attempt.state_andThen heach]
  cases passed with
  | none => exact ⟨g, hg, hfollows⟩
  | some time =>
    obtain ⟨k, hk, hfollows'⟩ := frame_advance hg hpassed
    rw [interval_each] at hfollows'
    exact ⟨k, hk, hfollows'.trans hfollows⟩

/-- An anchored chart that is given anything replays it, whenever its record of time ended. -/
theorem result_update_dated {records : List Record} {passed : Option Timestamp}
    {first : Timestamp} (hf : c.frame = some f)
    (hfirst : (records.head?.map (·.time)).or passed = some first) :
    ((c.dated e).update records passed).result = (replay records passed c).result.map settle := by
  have hdated : (c.dated e).frame = some f := hf
  rw [update_eq_replay hfirst, anchored_eq_self hdated, Attempt.result_andThen_done,
    result_replay_dated]
  cases (replay records passed c).result <;> rfl

/-- An update that did not fail only moved the frame of an anchored chart. -/
theorem frame_update {records : List Record} {passed : Option Timestamp} (hf : c.frame = some f)
    {c' : Chart} (hok : (c.update records passed).result = .ok c') :
    ∃ g, c'.frame = some g ∧ g.Follows f c.interval := by
  cases hfirst : (records.head?.map (·.time)).or passed with
  | none =>
    rw [(update_eq_done hfirst).2.2] at hok
    cases hok
    exact ⟨f, hf, .refl f _⟩
  | some first =>
    rw [update_eq_replay hfirst, anchored_eq_self hf, Attempt.result_andThen_done] at hok
    cases hreplay : (replay records passed c).result with
    | error failure =>
      rw [hreplay] at hok
      cases hok
    | ok c₁ =>
      obtain ⟨g, hg, hfollows⟩ := frame_replay hf hreplay
      rw [hreplay] at hok
      cases hok
      exact ⟨g, hg, hfollows⟩

/-- An update of an anchored chart fails only by a time whose window does not fit. -/
theorem failure_update {records : List Record} {passed : Option Timestamp}
    (hf : c.frame = some f) : (c.update records passed).failure = none ↔
      (∀ r ∈ records, f.Fits c.interval r.time) ∧ ∀ t ∈ passed, f.Fits c.interval t := by
  cases hfirst : (records.head?.map (·.time)).or passed with
  | none =>
    obtain ⟨rfl, rfl, hnone⟩ := update_eq_done (c := c) hfirst
    simp [hnone]
  | some first =>
    rw [update_eq_replay hfirst, anchored_eq_self hf, Attempt.andThen_failure_eq_none,
      Attempt.failure_done, eq_self, and_true, replay, Attempt.andThen_failure_eq_none,
      ← failure_each hf]
    refine and_congr_right fun heach => ?_
    obtain ⟨g, hg, hfollows⟩ := frame_each hf heach
    cases passed with
    | none => simp
    | some time =>
      rw [Option.elim_some, failure_advance hg, interval_each, hfollows.fits_iff]
      simp

/-! ### Two updates in a row -/

/-- **One update after another is one update with the records of both.** -/
theorem result_update_append (a b : List Record) (passed : Option Timestamp) (c : Chart) :
    (c.update (a ++ b) passed).result =
      (c.update a none).result.bind fun c => (c.update b passed).result := by
  cases a with
  | nil => simp [update, Except.bind]
  | cons r rest =>
    have hfirst : ∀ (l : List Record) (p : Option Timestamp),
        (((r :: l).head?.map (·.time)).or p) = some r.time := fun l p => rfl
    obtain ⟨f, hf⟩ := exists_frame_anchored c r.time
    rw [List.cons_append, update_eq_replay (hfirst _ _), update_eq_replay (hfirst _ _),
      ← List.cons_append, replay_append, Attempt.andThen_assoc, Attempt.result_andThen,
      Attempt.result_andThen_done]
    cases hok : (replay (r :: rest) none (c.anchored r.time)).result with
    | error failure => rfl
    | ok c' =>
      obtain ⟨g, hg, -⟩ := frame_replay hf hok
      show ((replay b passed c').andThen fun c => .done c.settle).result =
        (c'.settle.update b passed).result
      cases hgiven : (b.head?.map (·.time)).or passed with
      | none =>
        obtain ⟨rfl, rfl, hnone⟩ := update_eq_done (c := c'.settle) hgiven
        rw [hnone]
        rfl
      | some first =>
        rw [Attempt.result_andThen_done, settle_eq_dated, result_update_dated hg hgiven]

/-- A chart that was given some records goes on to be given more. -/
theorem result_update_more {a : Attempt TimeError Chart} {records : List Record}
    (h : (a.andThen fun u => u.update records none).result = .ok c) (more : List Record) :
    (a.andThen fun u => u.update (records ++ more) none).result = (c.update more none).result := by
  obtain ⟨u, _ | e⟩ := a
  · have hu : (u.update records none).result = .ok c := h
    show (u.update (records ++ more) none).result = _
    rw [result_update_append, hu]
    rfl
  · cases h

/-- A time that has passed moves the cursor no further than what comes next. -/
theorem replay_passed {records : List Record} {passed : Option Timestamp} {time next : Timestamp}
    (hf : c.frame = some f) (hnext : (records.head?.map (·.time)).or passed = some next)
    (hle : f.passed c.interval time ≤ f.passed c.interval next) :
    (c.advance time).andThen (replay records passed) = replay records passed c := by
  cases records with
  | nil =>
    obtain rfl : passed = some next := hnext
    exact advance_andThen_advance hf hle
  | cons r rest =>
    obtain rfl : r.time = next := Option.some.inj hnext
    have hadd : (c.advance time).andThen (add r) = c.add r := by
      rw [add, ← advance_andThen_advance hf hle, Attempt.andThen_assoc]
      rfl
    have hreplay : ∀ c : Chart, replay (r :: rest) passed c =
        (c.add r).andThen (replay rest passed) := by
      intro c
      simp only [replay, Attempt.each, Attempt.andThen_assoc]
      rfl
    rw [hreplay, ← hadd, Attempt.andThen_assoc]
    exact congrArg _ (funext hreplay)

/-- **A time told in between changes nothing**, as long as its window does not come after that
of the next record, or of the time told last. -/
theorem result_update_passed {records : List Record} {passed : Option Timestamp}
    {time next : Timestamp} (hf : c.frame = some f)
    (hnext : (records.head?.map (·.time)).or passed = some next)
    (hle : f.passed c.interval time ≤ f.passed c.interval next) :
    ((c.update [] (some time)).result.bind fun c => (c.update records passed).result) =
      (c.update records passed).result := by
  have hupdate : (c.update records passed).result =
      (replay records passed c).result.map settle := result_update_dated hf hnext
  have hfirst : (([] : List Record).head?.map (·.time)).or (some time) = some time := rfl
  have hadvance : replay [] (some time) c = c.advance time := rfl
  rw [hupdate, ← replay_passed hf hnext hle, Attempt.result_andThen,
    update_eq_replay hfirst, anchored_eq_self hf, Attempt.result_andThen_done,
    ← hadvance]
  cases hok : (replay [] (some time) c).result with
  | error failure => rfl
  | ok c' =>
    obtain ⟨g, hg, -⟩ := frame_replay hf hok
    exact result_update_dated hg hnext

/-- An update anchors the chart if it is given anything. -/
theorem isSome_frame_update {records : List Record} {passed : Option Timestamp} {c' : Chart}
    (hok : (c.update records passed).result = .ok c') :
    c'.frame.isSome = (c.frame.isSome || ((records.head?.map (·.time)).or passed).isSome) := by
  cases hfirst : (records.head?.map (·.time)).or passed with
  | none =>
    rw [(update_eq_done hfirst).2.2] at hok
    cases hok
    simp
  | some first =>
    obtain ⟨f, hf⟩ := exists_frame_anchored c first
    rw [update_eq_replay hfirst, Attempt.result_andThen_done] at hok
    cases hreplay : (replay records passed (c.anchored first)).result with
    | error failure =>
      rw [hreplay] at hok
      cases hok
    | ok c₁ =>
      obtain ⟨g, hg, -⟩ := frame_replay hf hreplay
      rw [hreplay] at hok
      cases hok
      simp [settle, hg]

/-! ### Streams -/

/-- What a chart is given next: records, or the time that has passed. -/
inductive Piece where
  | records (rs : List Record)
  | passed (time : Moment)

namespace Piece

/-- The change that gives a piece to a chart. -/
def change : Piece → Change
  | records rs => .update rs none
  | passed time => .update [] (some time)

/-- The records of pieces, in order. -/
def stream : List Piece → List Record
  | [] => []
  | records rs :: rest => rs ++ stream rest
  | passed _ :: rest => stream rest

/-- Times are told only once the chart is anchored, and none of them is later than the next
record, or than the time told at the end if no record follows. -/
def Timely (zone : Zone) (last : List Record) (final : Option Moment) : Bool → List Piece → Prop
  | _, [] => True
  | anchored, records rs :: rest => Timely zone last final (anchored || !rs.isEmpty) rest
  | anchored, passed time :: rest =>
    anchored = true ∧
      (∃ next t n, ((stream rest ++ last).head?.map fun r => .fixed r.time).or final = some next ∧
        zone.resolve time = .ok t ∧ zone.resolve next = .ok n ∧ t.instant ≤ n.instant) ∧
      Timely zone last final anchored rest

end Piece

theorem apply_update {zone : Zone} {passed : Option Moment} {p : Option Timestamp}
    (hp : passed.mapM zone.resolve = .ok p) (records : List Record) :
    c.apply zone (.update records passed) = c.update records p := by
  simp only [apply, withTimes, hp]
  rfl

theorem mapM_resolve_some {zone : Zone} {time : Moment} {t : Timestamp}
    (h : zone.resolve time = .ok t) : (some time).mapM zone.resolve = .ok (some t) := by
  simp only [Option.mapM_some, h]
  rfl

/-- The time of the next record, or else the time told at the end. -/
theorem next_eq {zone : Zone} {final : Option Moment} {p : Option Timestamp} {next : Moment}
    {n : Timestamp} {records : List Record} (hp : final.mapM zone.resolve = .ok p)
    (hnext : (records.head?.map fun r => .fixed r.time).or final = some next)
    (hn : zone.resolve next = .ok n) : (records.head?.map (·.time)).or p = some n := by
  cases records with
  | nil =>
    obtain rfl : final = some next := hnext
    rw [mapM_resolve_some hn] at hp
    cases hp
    rfl
  | cons r rest =>
    obtain rfl : Moment.fixed r.time = next := Option.some.inj hnext
    cases hn
    rfl

theorem result_pieces {zone : Zone} {last : List Record} {final : Option Moment}
    {p : Option Timestamp} (hp : final.mapM zone.resolve = .ok p) {pieces : List Piece}
    (h : Piece.Timely zone last final c.frame.isSome pieces) :
    ((Attempt.each (fun piece c => c.apply zone piece.change) pieces c).andThen fun c =>
      c.update last p).result = (c.update (Piece.stream pieces ++ last) p).result := by
  induction pieces generalizing c with
  | nil => rfl
  | cons piece rest ih =>
    rw [Attempt.each, Attempt.andThen_assoc, Attempt.result_andThen]
    cases piece with
    | records rs =>
      rw [Piece.stream, List.append_assoc, result_update_append]
      show (c.update rs none).result.bind _ = _
      cases hok : (c.update rs none).result with
      | error failure => rfl
      | ok c' =>
        have hframe := isSome_frame_update hok
        refine ih ?_
        rw [hframe]
        cases rs <;> simpa [Piece.Timely] using h
    | passed time =>
      obtain ⟨hanchored, ⟨next, t, n, hnext, ht, hn, hle⟩, hrest⟩ := h
      obtain ⟨f, hf⟩ := Option.isSome_iff_exists.mp hanchored
      have happly : c.apply zone (Piece.change (.passed time)) = c.update [] (some t) :=
        apply_update (mapM_resolve_some ht) []
      rw [happly, Piece.stream,
        ← result_update_passed hf (next_eq hp hnext hn) (Frame.passed_mono hle)]
      cases hok : (c.update [] (some t)).result with
      | error failure => rfl
      | ok c' =>
        have hframe := isSome_frame_update hok
        refine ih ?_
        rw [hframe]
        simpa [hanchored] using hrest

/-- **A stream gives the same chart at once and in pieces.** -/
theorem update_in_pieces (zone : Zone) (c : Chart) (pieces : List Piece) (last : List Record)
    (final : Option Moment) (htimely : Piece.Timely zone last final c.frame.isSome pieces) :
    let whole := c.apply zone (.update (Piece.stream pieces ++ last) final)
    let parts := (Attempt.each (fun piece c => c.apply zone piece.change) pieces c).andThen
      fun c => c.apply zone (.update last final)
    (parts.failure = none ↔ whole.failure = none) ∧
      (whole.failure = none → parts.state = whole.state) := by
  intro whole parts
  cases hp : final.mapM zone.resolve with
  | error e =>
    have hlast : ∀ (c : Chart) (records : List Record),
        c.apply zone (.update records final) = .stopped c e := by
      intro c records
      simp only [apply, withTimes, hp]
    have hwhole : whole.failure = some e := by
      simp only [whole, hlast]
      rfl
    have hparts : parts.failure ≠ none := by
      intro hnone
      have hfinal := (Attempt.andThen_failure_eq_none.mp hnone).2
      rw [hlast] at hfinal
      cases hfinal
    simp [hwhole, hparts]
  | ok p =>
    have hresult := result_pieces hp htimely
    simp only [← apply_update hp] at hresult
    exact Attempt.agree_of_result_eq hresult

/-- In universal time every reading is a timestamp, but for those of the first day. -/
theorem resolve_universal {t : LocalTime} (h : secondsPerDay ≤ t.seconds) :
    (⟨0⟩ : Zone).resolve (.floating t) = .ok ⟨t, 0⟩ := by
  have hlast : t.seconds ≤ lastSecond := Nat.le_sub_one_of_lt t.seconds_lt
  simp only [Zone.resolve, Zone.attach, Int.add_zero, Int.sub_zero]
  rw [if_neg (by omega), if_neg (by omega), if_neg (by omega), if_neg (by omega)]

/-- A record, a time within an idle window and one on the edge of the next, two records of which
one is late, and a time that only the time told at the end follows. -/
theorem update_in_pieces_idle :
    let zone : Zone := ⟨0⟩
    let fixed (micros : Nat) (h : micros < span) : Timestamp := ⟨⟨micros, h⟩, 0⟩
    let record (time : Timestamp) (length : UInt16) : Record := { time, length, transport := .tcp }
    let c : Chart := { interval := ⟨1000000, by decide⟩ }
    let first := fixed 63082281600300000 (by decide)
    let idle := fixed 63082281602000000 (by decide)
    let edge := fixed 63082281602300000 (by decide)
    let second := fixed 63082281603500000 (by decide)
    let late := fixed 63082281601000000 (by decide)
    let final := fixed 63082281605000000 (by decide)
    let pieces : List Piece :=
      [.records [], .records [record first 100], .passed (.floating idle.clock),
        .passed (.fixed edge), .records [record second 60, record late 5], .passed (.fixed final)]
    let whole := c.apply zone (.update (Piece.stream pieces ++ []) (some (.floating final.clock)))
    let parts := (Attempt.each (fun piece c => c.apply zone piece.change) pieces c).andThen
      fun c => c.apply zone (.update [] (some (.floating final.clock)))
    Piece.Timely zone [] (some (.floating final.clock)) c.frame.isSome pieces ∧
      whole.state.windows = [⟨1, 100⟩, ⟨0, 0⟩, ⟨0, 0⟩, ⟨2, 65⟩, ⟨0, 0⟩] ∧
      parts.failure = none ∧ parts.state = whole.state := by
  intro zone fixed record c first idle edge second late final pieces whole parts
  have hidle : zone.resolve (.floating idle.clock) = .ok idle :=
    resolve_universal (by decide)
  have hfinal : zone.resolve (.floating final.clock) = .ok final :=
    resolve_universal (by decide)
  have htimely : Piece.Timely zone [] (some (.floating final.clock)) c.frame.isSome pieces :=
    ⟨rfl, ⟨_, _, _, rfl, hidle, rfl, by decide⟩, rfl, ⟨_, _, _, rfl, rfl, rfl, by decide⟩, rfl,
      ⟨_, _, _, rfl, rfl, hfinal, by decide⟩, trivial⟩
  have hwhole : whole.failure = none := by decide +kernel
  obtain ⟨hdone, hstate⟩ :=
    update_in_pieces zone c pieces [] (some (.floating final.clock)) htimely
  exact ⟨htimely, by decide +kernel, hdone.mpr hwhole, hstate hwhole⟩

end Chart

end TrafficMonitor
