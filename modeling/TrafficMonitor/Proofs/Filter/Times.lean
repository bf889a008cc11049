import TrafficMonitor.Proofs.Filter.LiteralText

/-! What a time in a filter denotes. A text is taken as a time only if the whole of it looks like
one: groups of digits of any script, any number of them, with the marks between. The numbers of the
groups have to be a date and a time of day that exist, and the shift to the local zone has to stay
in the calendar (`TimeText.Acceptable`). `parse_time` says that exactly these texts are accepted,
that the value shows the fields that are written, on the clock of the local zone, and that every
other text is refused as it stands. -/
namespace TrafficMonitor.Time

/-! ### The shift to the local zone -/

/-- The shift of a reading to the local zone stays in the calendar, so many seconds after the year 1
began. The zone is asked for its offset at the reading itself, where the offset is added, at the
instant that it denotes, where it is taken away, and one day earlier. -/
structure Zone.CanShift (zone : Zone) (seconds : Nat) : Prop where
  added : 0 ≤ seconds + zone.offset ∧ seconds + zone.offset ≤ lastSecond
  taken : 0 ≤ seconds - zone.offset ∧ seconds - zone.offset ≤ lastSecond
  dayBefore : secondsPerDay ≤ seconds

theorem Zone.attach_eq_ok_iff {zone : Zone} {reading : LocalTime} {t : Timestamp} :
    zone.attach reading = .ok t ↔ zone.CanShift reading.seconds ∧ t = ⟨reading, zone.offset⟩ := by
  constructor
  · intro h
    refine ⟨?_, Filter.eq_of_attach h⟩
    simp only [Zone.attach] at h
    split at h
    · cases h
    split at h
    · cases h
    split at h
    · cases h
    split at h
    · cases h
    exact ⟨by omega, by omega, by omega⟩
  · rintro ⟨⟨hadded, htaken, hday⟩, rfl⟩
    rw [Zone.attach, if_neg (by omega), if_neg (by omega), if_neg (by omega), if_neg (by omega)]

end TrafficMonitor.Time

namespace TrafficMonitor.Filter
open Text Time

/-! ### Numbers of groups -/

/-- Of a fraction of a second as many whole microseconds count as it has. -/
theorem fractionMicros_eq (fraction : List Char) :
    fractionMicros fraction =
      value fraction * microsPerSecond / Nat.pow 10 fraction.length := by
  have hsplit : ∀ {m n : Nat}, m ≤ n → Nat.pow 10 n = Nat.pow 10 (n - m) * Nat.pow 10 m := by
    intro m n h
    simp only [Nat.pow_eq]
    rw [← Nat.pow_add, Nat.sub_add_cancel h]
  have hpos : ∀ n : Nat, 0 < Nat.pow 10 n := fun n => Nat.pow_pos (by decide)
  rw [fractionMicros, List.rightpad, value_append, value_zeros, Nat.add_zero,
    List.length_replicate, List.length_take, show microsPerSecond = Nat.pow 10 6 from rfl]
  rcases Nat.le_total fraction.length 6 with hshort | hlong
  · rw [List.take_of_length_le hshort, Nat.min_eq_right hshort, hsplit hshort, ← Nat.mul_assoc,
      Nat.mul_div_cancel _ (hpos _)]
  · have hlength : (fraction.drop 6).length = fraction.length - 6 := List.length_drop
    have hvalue := value_append (fraction.take 6) (fraction.drop 6)
    rw [List.take_append_drop, hlength, Nat.mul_comm] at hvalue
    have hrest := value_lt (fraction.drop 6)
    rw [hlength] at hrest
    rw [Nat.min_eq_left hlong, hsplit hlong, Nat.mul_div_mul_right _ _ (hpos 6), hvalue,
      Nat.mul_add_div (hpos _), Nat.div_eq_of_lt hrest, Nat.sub_self]
    exact Nat.mul_one _

/-- The groups of digits, without the fraction. -/
def TimeText.groups (w : TimeText) : List (List Char) :=
  [w.date.first, w.date.second, w.date.third] ++
    match w.clock with
    | none => []
    | some (clock, _) => [clock.first, clock.second, clock.third]

/-- The fraction of a second, if one is written. -/
def TimeText.fraction? (w : TimeText) : Option (List Char) := w.clock.bind (·.2)

/-- The fields that are written. What is left out is zero, and of the fraction the whole
microseconds count. -/
def TimeText.fields (w : TimeText) : Civil where
  date := ⟨value w.date.first, value w.date.second, value w.date.third⟩
  hour := w.clock.elim 0 fun clock => value clock.1.first
  minute := w.clock.elim 0 fun clock => value clock.1.second
  second := w.clock.elim 0 fun clock => value clock.1.third
  micro := w.fraction?.elim 0 fun f => value f * microsPerSecond / Nat.pow 10 f.length

theorem TimeText.civil?_eq_some_iff {w : TimeText} {c : Civil} :
    w.civil? = some c ↔ (∀ group ∈ w.groups, group.length ≤ digitLimit) ∧ w.fields = c := by
  have hgroup : ∀ {group : List Char} {n : Nat}, group? group = some n ↔
      group.length ≤ digitLimit ∧ value group = n := by
    intro group n
    unfold group?
    split <;> simp [*]
  have hnone : fractionMicros [] = 0 := by decide +kernel
  obtain ⟨date, clock⟩ := w
  match clock with
  | none =>
    simp [civil?, groups, fields, fraction?, hgroup, Option.bind_eq_some_iff, and_assoc]
  | some (clock, none) =>
    simp [civil?, groups, fields, fraction?, hgroup, Option.bind_eq_some_iff, and_assoc, hnone]
  | some (clock, some fraction) =>
    simp [civil?, groups, fields, fraction?, hgroup, Option.bind_eq_some_iff, and_assoc,
      fractionMicros_eq]

/-! ### Texts that denote a time -/

/-- The time can be read: the numbers are not too long to be read, they are a date and a time of day
that exist, and the shift to the local zone stays in the calendar. -/
structure TimeText.Acceptable (zone : Zone) (w : TimeText) : Prop where
  counted : ∀ group ∈ w.groups, group.length ≤ digitLimit
  valid : w.fields.IsValid
  canShift : zone.CanShift (w.fields.micros / microsPerSecond)

/-- A text is written as a time that can be read. -/
def Writes (zone : Zone) (text : List Char) (w : TimeText) : Prop :=
  w.IsWritten ∧ w.text = text ∧ w.Acceptable zone

theorem time?_eq_some_iff {text : List Char} {w : TimeText} :
    time? text = some (w, []) ↔ w.IsWritten ∧ w.text = text := by
  constructor
  · intro h
    obtain ⟨htext, -⟩ := splits_of_time? h
    exact ⟨isWritten_of_time? h, by rwa [List.append_nil] at htext⟩
  · rintro ⟨hwritten, rfl⟩
    have hread := time?_append hwritten (show Ends [] by simp [Ends, trimStart])
    rwa [List.append_nil] at hread

/-- **A text denotes a timestamp that shows what is written.** -/
theorem timestamp?_eq_some {zone : Zone} {text : List Char} {t : Timestamp} :
    timestamp? zone text = some t ↔
      ∃ w, Writes zone text w ∧ t.clock.civil = w.fields ∧ t.offset = zone.offset := by
  have hseconds : ∀ reading : LocalTime,
      reading.civil.micros / microsPerSecond = reading.seconds := by
    intro reading
    rw [reading.micros_civil]
    rfl
  simp only [timestamp?_eq_some_iff, time?_eq_some_iff, TimeText.civil?_eq_some_iff,
    LocalTime.ofCivil?_eq_some_iff, Zone.attach_eq_ok_iff]
  constructor
  · rintro ⟨w, civil, reading, ⟨hwritten, htext⟩, ⟨hcounted, hfields⟩, hcivil, hshift, rfl⟩
    rw [← hfields] at hcivil
    refine ⟨w, ⟨hwritten, htext, hcounted, hcivil ▸ reading.isValid_civil, ?_⟩, hcivil, rfl⟩
    rwa [← hcivil, hseconds]
  · rintro ⟨w, ⟨hwritten, htext, hw⟩, hcivil, hoffset⟩
    obtain ⟨clock, offset⟩ := t
    refine ⟨w, w.fields, clock, ⟨hwritten, htext⟩, ⟨hw.counted, rfl⟩, hcivil, ?_, ?_⟩
    · rw [← hseconds clock, show clock.civil = w.fields from hcivil]
      exact hw.canShift
    · rw [show offset = zone.offset from hoffset]

theorem exists_timestamp {zone : Zone} {text : List Char} {w : TimeText} (h : Writes zone text w) :
    ∃ t, timestamp? zone text = some t := by
  obtain ⟨reading, hreading⟩ := LocalTime.exists_civil h.2.2.valid
  exact ⟨⟨reading, zone.offset⟩, timestamp?_eq_some.mpr ⟨w, h, hreading, rfl⟩⟩

/-- **Times denote exactly the local time that is written.** A text is read as a time if and only if
it is written as one that can be read; the value then shows the fields that are written, with the
offset of the local zone. Every other text is refused as a bad literal, and in no other way. -/
theorem parse_time (zone : Zone) (text : List Char) :
    ((∃ value, LiteralKind.time.parse zone text = .ok value) ↔ ∃ w, Writes zone text w) ∧
    (∀ value, LiteralKind.time.parse zone text = .ok value ↔
      ∃ w t, Writes zone text w ∧ value = .time t ∧ t.clock.civil = w.fields ∧
        t.offset = zone.offset) ∧
    ∀ e, LiteralKind.time.parse zone text = .error e ↔
      e = .filter (.badLiteral (String.ofList text)) ∧ ¬∃ w, Writes zone text w := by
  cases ht : timestamp? zone text with
  | none =>
    have hnone : ¬∃ w, Writes zone text w := by
      rintro ⟨w, hw⟩
      obtain ⟨t, hsome⟩ := exists_timestamp hw
      rw [ht] at hsome
      cases hsome
    have hparse : LiteralKind.time.parse zone text =
        .error (.filter (.badLiteral (String.ofList text))) := by
      simp [LiteralKind.parse, ht]
    rw [hparse]
    refine ⟨by simp [hnone], fun value => ?_, fun e => by simp [hnone, eq_comm]⟩
    simp only [reduceCtorEq, false_iff]
    rintro ⟨w, t, hw, -⟩
    exact hnone ⟨w, hw⟩
  | some t =>
    obtain ⟨w, hw, hcivil, hoffset⟩ := timestamp?_eq_some.mp ht
    have hparse : LiteralKind.time.parse zone text = .ok (.time t) := by
      simp [LiteralKind.parse, ht]
    rw [hparse]
    refine ⟨⟨fun _ => ⟨w, hw⟩, fun _ => ⟨_, rfl⟩⟩, fun value => ⟨fun h => ?_, ?_⟩,
      fun e => by simp [show ∃ w, Writes zone text w from ⟨w, hw⟩]⟩
    · cases h
      exact ⟨w, t, hw, rfl, hcivil, hoffset⟩
    · rintro ⟨w', t', hw', rfl, hcivil', hoffset'⟩
      have hsome := timestamp?_eq_some.mpr ⟨w', hw', hcivil', hoffset'⟩
      rw [ht] at hsome
      cases hsome
      rfl

end TrafficMonitor.Filter
