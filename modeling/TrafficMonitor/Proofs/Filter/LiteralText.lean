import TrafficMonitor.Proofs.Filter.Reading
import TrafficMonitor.Proofs.Network.Names
import TrafficMonitor.Proofs.Text.Decimal
import TrafficMonitor.Proofs.Time.Civil

/-! Literals are read back. `LiteralKind.parse_display` says that whatever a text denotes, the
text of the value denotes it too, and `isLiteral_display` that this text is one token. The only
values that share a text are the transport protocols without a name; they are read back as the
reserved one (`parse_display_transport`). -/
namespace TrafficMonitor.Filter
open Text Time Network

/-! ### Times -/

/-- The groups of digits that a reading is written with. -/
def timeText (t : LocalTime) : TimeText where
  date := ⟨zeroPadded 1 t.civil.date.year, zeroPadded 2 t.civil.date.month,
    zeroPadded 2 t.civil.date.day⟩
  clock := some (⟨zeroPadded 2 t.civil.hour, zeroPadded 2 t.civil.minute,
    zeroPadded 2 t.civil.second⟩, some (zeroPadded 6 t.civil.micro))

theorem text_timeText (t : LocalTime) : (timeText t).text = t.display := by
  simp [timeText, TimeText.text, Triple.text, LocalTime.display, LocalTime.dateText,
    LocalTime.clockText]

theorem isNumber_zeroPadded (width n : Nat) : IsNumber (zeroPadded width n) :=
  ⟨zeroPadded_ne_nil width n, fun _ hc => isDigit_of_ascii (isDigit_of_mem_zeroPadded hc)⟩

theorem isWritten_timeText (t : LocalTime) : (timeText t).IsWritten := by
  refine ⟨⟨isNumber_zeroPadded .., isNumber_zeroPadded .., isNumber_zeroPadded ..⟩, ?_⟩
  intro clock hclock
  cases hclock
  refine ⟨⟨isNumber_zeroPadded .., isNumber_zeroPadded .., isNumber_zeroPadded ..⟩, ?_⟩
  intro fraction hfraction
  cases hfraction
  exact isNumber_zeroPadded ..

theorem group?_zeroPadded {width n : Nat} (hwidth : width ≤ 4) (h : n < 10000) :
    group? (zeroPadded width n) = some n := by
  have hlength : (zeroPadded width n).length ≤ 4 :=
    length_zeroPadded_le hwidth ((Nat.length_toDigits_le_iff (by decide) (by decide)).mpr h)
  rw [group?, if_pos (by simp only [digitLimit]; omega), value_zeroPadded]

/-- Six digits of fraction are the microseconds. -/
theorem fractionMicros_zeroPadded {n : Nat} (h : n < microsPerSecond) :
    fractionMicros (zeroPadded 6 n) = n := by
  have hle : (zeroPadded 6 n).length ≤ 6 :=
    length_zeroPadded_le (by decide) ((Nat.length_toDigits_le_iff (by decide) (by decide)).mpr h)
  have hge : 6 ≤ (zeroPadded 6 n).length := by
    rw [zeroPadded, List.length_leftpad]
    omega
  have hlength : (zeroPadded 6 n).length = 6 := by omega
  rw [fractionMicros, List.take_of_length_le (by omega), List.rightpad, hlength, Nat.sub_self,
    List.replicate_zero, List.append_nil, value_zeroPadded]

theorem civil?_timeText (t : LocalTime) : (timeText t).civil? = some t.civil := by
  obtain ⟨hdate, hhour, hminute, hsecond, hmicro⟩ := t.isValid_civil
  have hday := hdate.day_le
  obtain ⟨-, hyear, -, hmonth, -, -⟩ := hdate
  simp only [TimeText.civil?, timeText, group?_zeroPadded (show 1 ≤ 4 by decide)
      (show t.civil.date.year < 10000 by omega),
    group?_zeroPadded (show 2 ≤ 4 by decide) (show t.civil.date.month < 10000 by omega),
    group?_zeroPadded (show 2 ≤ 4 by decide) (show t.civil.date.day < 10000 by omega),
    group?_zeroPadded (show 2 ≤ 4 by decide) (show t.civil.hour < 10000 by omega),
    group?_zeroPadded (show 2 ≤ 4 by decide) (show t.civil.minute < 10000 by omega),
    group?_zeroPadded (show 2 ≤ 4 by decide) (show t.civil.second < 10000 by omega),
    Option.getD_some, fractionMicros_zeroPadded hmicro, Option.bind_eq_bind, Option.bind_some,
    Option.pure_def]

theorem eq_of_attach {zone : Zone} {reading : LocalTime} {t : Timestamp}
    (h : zone.attach reading = .ok t) : t = ⟨reading, zone.offset⟩ := by
  simp only [Zone.attach] at h
  repeat' split at h
  all_goals cases h
  rfl

theorem timestamp?_eq_some_iff {zone : Zone} {text : List Char} {t : Timestamp} :
    timestamp? zone text = some t ↔ ∃ written civil reading, time? text = some (written, []) ∧
      written.civil? = some civil ∧ LocalTime.ofCivil? civil = some reading ∧
      zone.attach reading = .ok t := by
  have hok : ∀ r : Except TimeError Timestamp, r.toOption = some t ↔ r = .ok t := by
    intro r
    cases r <;> simp [Except.toOption]
  constructor
  · intro h
    simp only [timestamp?, Option.bind_eq_bind, Option.bind_eq_some_iff, Prod.exists] at h
    obtain ⟨written, rest, htime, h⟩ := h
    split at h
    · cases h
    · rename_i hrest
      obtain rfl : rest = [] := Classical.not_not.mp hrest
      obtain ⟨civil, hcivil, hreading⟩ := Option.bind_eq_some_iff.mp h
      obtain ⟨reading, hreading, hattach⟩ := Option.bind_eq_some_iff.mp hreading
      exact ⟨written, civil, reading, htime, hcivil, hreading, (hok _).mp hattach⟩
  · intro h
    obtain ⟨written, civil, reading, htime, hcivil, hreading, hattach⟩ := h
    refine Option.bind_eq_some_iff.mpr ⟨_, htime, ?_⟩
    refine (if_neg fun hne => hne rfl).trans ?_
    exact Option.bind_eq_some_iff.mpr ⟨civil, hcivil,
      Option.bind_eq_some_iff.mpr ⟨reading, hreading, (hok _).mpr hattach⟩⟩

/-- A timestamp of the local clock is read back. -/
theorem timestamp?_display {zone : Zone} {reading : LocalTime} {t : Timestamp}
    (hattach : zone.attach reading = .ok t) : timestamp? zone t.display = some t := by
  obtain rfl := eq_of_attach hattach
  refine timestamp?_eq_some_iff.mpr ⟨timeText reading, reading.civil, reading, ?_,
    civil?_timeText reading, reading.ofCivil?_civil, hattach⟩
  have hread : time? ((timeText reading).text ++ []) = some (timeText reading, []) :=
    time?_append (isWritten_timeText reading) (by simp [Ends, trimStart])
  rwa [List.append_nil, text_timeText] at hread

/-! ### Numbers and addresses -/

theorem all_toDigits (n : Nat) : (Nat.toDigits 10 n).all isAsciiDigit = true :=
  List.all_eq_true.mpr fun _ hc => isAsciiDigit_of_ascii (isDigit_of_mem_toDigits hc)

theorem numeral_toDigits {n : Nat} (h : n ≤ 65535) : numeral (Nat.toDigits 10 n) = .ok n := by
  have hlength := (Nat.length_toDigits_le_iff (b := 10) (n := n) (k := 5) (by decide)
    (by decide)).mpr (by omega)
  rw [numeral, if_neg (by simp [all_toDigits]), if_neg (by simp only [digitLimit]; omega),
    Nat.ofDigitChars_ten_toDigits]

theorem display_number (n : Nat) : Value.display (.number n) = Nat.toDigits 10 n := by
  show n.repr.toList = _
  rw [Nat.toList_repr]

theorem no_leading_zero : ∀ n < 256,
    ¬(Nat.toDigits 10 n ≠ ['0'] ∧ (Nat.toDigits 10 n).head? = some '0') := by
  decide +kernel

theorem parseOctet_toDigits (n : UInt8) :
    Address.parseOctet (Nat.toDigits 10 n.toNat) = .ok n := by
  have hlt : n.toNat < 256 := n.toNat_lt
  have hlength := (Nat.length_toDigits_le_iff (b := 10) (n := n.toNat) (k := 3) (by decide)
    (by decide)).mpr (by omega)
  rw [Address.parseOctet, if_neg (by simp), if_neg (by simp [all_toDigits]), if_neg (by omega),
    if_neg (no_leading_zero _ hlt)]
  simp only [Nat.ofDigitChars_ten_toDigits, if_neg (show ¬ 255 < n.toNat by omega)]
  simp

theorem not_mem_toDigits {c : Char} (h : c.isDigit = false) (n : Nat) : c ∉ Nat.toDigits 10 n := by
  intro hc
  rw [isDigit_of_mem_toDigits hc] at h
  cases h

/-- Any address is read back. -/
theorem parse_display_address (a : Address) : Address.parse a.display = .ok a := by
  have hslash : '/' ∉ a.display := by
    simp [Address.display, not_mem_toDigits (show '/'.isDigit = false by decide)]
  have hne : a.display.isEmpty = false := by simp [Address.display]
  have hsplit : split '.' a.display = [Nat.toDigits 10 a.first.toNat,
      Nat.toDigits 10 a.second.toNat, Nat.toDigits 10 a.third.toNat,
      Nat.toDigits 10 a.fourth.toNat] := by
    have hdot := not_mem_toDigits (show '.'.isDigit = false by decide)
    simp only [Address.display, List.append_assoc, List.cons_append, split_append _ _ _ (hdot _),
      split_of_not_mem _ _ (hdot _)]
  simp only [Address.parse, List.contains_iff_mem, hslash, hne, hsplit, parseOctet_toDigits]
  rfl

/-! ### Names -/

theorem isLiteral_of_all {cs : List Char} (h : cs ≠ [] ∧ cs.all isPlain = true) : IsLiteral cs :=
  .plain h.1 (List.all_eq_true.mp h.2)

/-- The names of protocols are plain words. -/
theorem plain_names : ∀ s ∈ "Unknown" :: "Test1" :: "Test2" :: assignedNames,
    s.toList ≠ [] ∧ s.toList.all isPlain = true := by
  decide +kernel

theorem plain_name (p : Transport) : p.name.toList ≠ [] ∧ p.name.toList.all isPlain = true := by
  have hmem : p.name ∈ "Unknown" :: "Test1" :: "Test2" :: assignedNames := by
    cases h : p.name? with
    | none => simp [Transport.name, h]
    | some s =>
      rw [Transport.name, h, Option.getD_some]
      rcases Transport.name?_eq_some h with ⟨-, rfl⟩ | ⟨-, rfl⟩ | ⟨i, -, hi⟩
      · simp
      · simp
      · simp [List.mem_of_getElem? hi]
  exact plain_names _ hmem

theorem isLiteral_transport (p : Transport) : IsLiteral p.name.toList :=
  isLiteral_of_all (plain_name p)

theorem isLiteral_application (a : Application) : IsLiteral a.name.toList := by
  have hplain : ∀ a ∈ Application.all,
      a.name.toList ≠ [] ∧ a.name.toList.all isPlain = true := by
    decide +kernel
  exact isLiteral_of_all (hplain a (by cases a <;> decide))

theorem isPlain_of_mem_toDigits {c : Char} {n : Nat} (h : c ∈ Nat.toDigits 10 n) :
    isPlain c = true := by
  simp [isPlain, isWord_of_ascii (isDigit_of_mem_toDigits h)]

theorem isLiteral_number (n : Nat) : IsLiteral (Nat.toDigits 10 n) :=
  .plain Nat.toDigits_ne_nil fun _ hc => isPlain_of_mem_toDigits hc

theorem isLiteral_address (a : Address) : IsLiteral a.display := by
  refine .plain (by simp [Address.display]) fun c hc => ?_
  simp only [Address.display, List.mem_append, List.mem_cons] at hc
  rcases hc with ((hc | rfl | hc) | rfl | hc) | rfl | hc
  all_goals first | rfl | exact isPlain_of_mem_toDigits hc

/-! ### All literals -/

/-- The values that a literal of a kind can denote. -/
inductive LiteralKind.Admits (zone : Zone) : LiteralKind → Value → Prop where
  | time {reading t} : zone.attach reading = .ok t → Admits zone .time (.time t)
  | address (a : Address) : Admits zone .address (.address a)
  | port {n : Nat} : n ≤ 65535 → Admits zone .port (.number n)
  | length {n : Nat} : n ≤ 65535 → Admits zone .length (.number n)
  | transport {p : Transport} : p.canonical = p → Admits zone .transport (.transport p)
  | application (a : Application) : Admits zone .application (.application a)

theorem parse_display_transport (zone : Zone) (p : Transport) :
    LiteralKind.parse zone .transport p.name.toList = .ok (.transport p.canonical) := by
  simp [LiteralKind.parse, Transport.ofName?_name]

namespace LiteralKind
variable {zone : Zone} {kind : LiteralKind} {text : List Char} {value : Value}

theorem admits_of_parse (h : kind.parse zone text = .ok value) : kind.Admits zone value := by
  cases kind with
  | time =>
    cases ht : timestamp? zone text with
    | none => simp [parse, ht] at h
    | some t =>
      obtain ⟨-, -, reading, -, -, -, hattach⟩ := timestamp?_eq_some_iff.mp ht
      simp [parse, ht] at h
      exact h ▸ .time hattach
  | address =>
    cases ha : Address.parse text with
    | error e => simp [parse, ha, Except.toOption] at h
    | ok a =>
      simp [parse, ha, Except.toOption] at h
      exact h ▸ .address a
  | port =>
    obtain ⟨n, -, h⟩ := bind_eq_ok.mp h
    split at h
    · cases h
    · cases h
      exact .port (by omega)
  | length =>
    obtain ⟨n, -, h⟩ := bind_eq_ok.mp h
    cases h
    rw [show min (n : Int) 65535 = (min n 65535 : Nat) by omega]
    exact .length (Nat.min_le_right n 65535)
  | transport =>
    cases hp : Transport.ofName? (String.ofList text) with
    | none => simp [parse, hp] at h
    | some p =>
      simp [parse, hp] at h
      exact h ▸ .transport (Transport.canonical_of_ofName? hp)
  | application =>
    cases ha : Application.ofName? (String.ofList text) with
    | none => simp [parse, ha] at h
    | some a =>
      simp [parse, ha] at h
      exact h ▸ .application a

/-- The text of a literal is one token. -/
theorem Admits.isLiteral_display (h : kind.Admits zone value) : IsLiteral value.display := by
  cases h with
  | @time reading t hattach =>
    obtain rfl := eq_of_attach hattach
    rw [show Value.display (.time ⟨reading, zone.offset⟩) = reading.display from rfl,
      ← text_timeText]
    exact .time (isWritten_timeText reading)
  | address a => exact isLiteral_address a
  | port _ | length _ =>
    rw [display_number]
    exact isLiteral_number _
  | @transport p _ => exact isLiteral_transport p
  | application a => exact isLiteral_application a

/-- **A literal is read back from its text.** -/
theorem Admits.parse_display (h : kind.Admits zone value) :
    kind.parse zone value.display = .ok value := by
  cases h with
  | @time reading t hattach =>
    show parse zone .time t.display = _
    simp [parse, timestamp?_display hattach]
  | address a =>
    show parse zone .address a.display = _
    simp [parse, parse_display_address, Except.toOption]
  | port hn =>
    rw [display_number]
    refine bind_eq_ok.mpr ⟨_, numeral_toDigits hn, ?_⟩
    exact if_neg (by omega)
  | @length n hn =>
    rw [display_number]
    refine bind_eq_ok.mpr ⟨_, numeral_toDigits hn, ?_⟩
    rw [show min (n : Int) 65535 = n by omega]
    rfl
  | @transport p hp =>
    show parse zone .transport p.name.toList = _
    rw [parse_display_transport, hp]
  | application a =>
    show parse zone .application a.name.toList = _
    simp [parse, Application.ofName?_name]

end LiteralKind

end TrafficMonitor.Filter
