import TrafficMonitor.Proofs.Filter.Typing

/-! Cells of the record table as filters. The heading of a column is a name of its field, and what
a cell shows is the text of a literal (`word_label`), so that heading, operator and cell make a
filter (`parse_query`). Its literal is what the record holds, except that an unnamed transport
protocol becomes the one that stands for all of them. `selects_agreeing` says which records such
a filter selects. -/
namespace TrafficMonitor
open Network Time TrafficMonitor.Filter

/-! ### The text made of a cell -/

/-- The word for a cell in a filter: the cell itself, but for a transport protocol that is shown
with its number the name alone. -/
def Field.word (field : Field) (cell : String) : String :=
  if field = .transport ∧ "Unknown (".toList.isPrefixOf cell.toList then "Unknown" else cell

/-- The heading of a column, an operator and a cell of the column, with spaces between. -/
def Field.query (field : Field) (op : Operator) (cell : String) : String :=
  field.title ++ " " ++ op.symbol ++ " " ++ field.word cell

/-! ### What records have in common -/

/-- Both are there, and they are the same. -/
def Shared (a b : Option α) : Prop := ∃ v, a = some v ∧ b = some v

/-- Both records have a value in the field, and it is the same: the same instant, address or
number, or a protocol of the same name. -/
def Record.Agree (q r : Record) : Field → Prop
  | .time => q.time.instant = r.time.instant
  | .source => Shared q.source r.source
  | .sourcePort => Shared q.sourcePort r.sourcePort
  | .destination => Shared q.destination r.destination
  | .destinationPort => Shared q.destinationPort r.destinationPort
  | .length => q.length = r.length
  | .ipPayload => Shared q.ipPayload r.ipPayload
  | .transport => q.transport.name = r.transport.name
  | .transportPayload => Shared q.transportPayload r.transportPayload
  | .application => q.application.name = r.application.name

namespace Network

theorem Transport.name_canonical (p : Transport) : p.canonical.name = p.name := by
  unfold canonical
  split
  · rename_i hunknown
    rw [isUnknown, Option.isNone_iff_eq_none] at hunknown
    rw [name, name, hunknown]
    rfl
  · rfl

theorem Transport.canonical_canonical (p : Transport) : p.canonical.canonical = p.canonical :=
  canonical_of_ofName? (ofName?_name p)

/-- Filters count two protocols as one if they have one name. -/
theorem Transport.same_iff {p q : Transport} : p.same q = true ↔ p.name = q.name := by
  have hcanonical : p.name = q.name ↔ p.canonical = q.canonical := by
    constructor
    · intro h
      have hp := ofName?_name p
      rw [h, ofName?_name q] at hp
      exact (Option.some.inj hp).symm
    · intro h
      rw [← p.name_canonical, h, q.name_canonical]
  have hreserved : unknown.isUnknown = true := by decide +kernel
  rw [hcanonical, same, Bool.or_eq_true, Bool.and_eq_true, decide_eq_true_iff]
  unfold canonical
  cases hp : p.isUnknown <;> cases hq : q.isUnknown
  · simp
  · have hne : p ≠ unknown := fun h => by simp [h, hreserved] at hp
    have hne' : p ≠ q := fun h => by simp [h, hq] at hp
    simp [hne, hne']
  · have hne : unknown ≠ q := fun h => by simp [← h, hreserved] at hq
    have hne' : p ≠ q := fun h => by simp [← h, hp] at hq
    simp [hne, hne']
  · simp

theorem Application.eq_iff_name {a b : Application} : a = b ↔ a.name = b.name := by
  refine ⟨fun h => h ▸ rfl, fun h => ?_⟩
  have ha := ofName?_name a
  rw [h, ofName?_name b] at ha
  exact (Option.some.inj ha).symm

end Network

theorem shared_map {f : α → Value} {a b : Option α} {v : Value} (hb : b.map f = some v)
    (hf : ∀ x y, (f x).same (f y) = true ↔ x = y) :
    Shared a b ↔ ∃ held, a.map f = some held ∧ held.same v = true := by
  obtain ⟨y, rfl, rfl⟩ := Option.map_eq_some_iff.mp hb
  constructor
  · rintro ⟨x, rfl, hx⟩
    cases hx
    exact ⟨f y, rfl, (hf y y).mpr rfl⟩
  · rintro ⟨held, hheld, hsame⟩
    obtain ⟨x, rfl, rfl⟩ := Option.map_eq_some_iff.mp hheld
    obtain rfl := (hf x y).mp hsame
    exact ⟨x, rfl, rfl⟩

/-- Records agree in a field if a filter counts their values there as the same. -/
theorem Record.agree_iff {q r : Record} {field : Field} {v : Value} (h : r.value? field = some v) :
    q.Agree r field ↔ ∃ held, q.value? field = some held ∧ held.same v = true := by
  have hlength : ∀ x y : UInt16, (Value.number x.toNat).same (.number y.toNat) = true ↔ x = y := by
    intro x y
    rw [Value.same, decide_eq_true_iff, Int.natCast_inj, UInt16.toNat_inj]
  cases field with
  | time =>
    cases h
    simp [Agree, value?, Value.same, Timestamp.same]
  | length =>
    cases h
    simp [Agree, value?, hlength]
  | transport =>
    cases h
    simp [Agree, value?, Value.same, Transport.same_iff]
  | application =>
    cases h
    simp [Agree, value?, Value.same, Application.eq_iff_name]
  | source | destination => exact shared_map h (by simp [Value.same])
  | sourcePort | destinationPort => exact shared_map h (by simp [Value.same])
  | ipPayload | transportPayload => exact shared_map h hlength

/-- A record agrees with itself in every field where it has a value. -/
theorem Record.agree_self {r : Record} {field : Field} {v : Value} (h : r.value? field = some v) :
    r.Agree r field := by
  refine (agree_iff h).mpr ⟨v, h, ?_⟩
  cases v with
  | transport p => exact Transport.same_iff.mpr rfl
  | time _ | address _ | number _ | application _ => simp [Value.same, Timestamp.same]

/-! ### Records of the local clock -/

/-- The time was read on the local clock, and ports are numbers of sixteen bits. -/
structure Record.IsLocal (zone : Zone) (r : Record) : Prop where
  time : ∃ reading, zone.attach reading = .ok r.time
  sourcePort : ∀ p ∈ r.sourcePort, 0 ≤ p ∧ p ≤ 65535
  destinationPort : ∀ p ∈ r.destinationPort, 0 ≤ p ∧ p ≤ 65535

/-- What such a record holds is what a literal of the field can denote. -/
theorem Record.IsLocal.admits {zone : Zone} {r : Record} (hr : r.IsLocal zone) {field : Field}
    {v : Value} (h : r.value? field = some v) : field.literalKind.Admits zone v.canonical := by
  have hport : ∀ p : Int, 0 ≤ p ∧ p ≤ 65535 → LiteralKind.Admits zone .port (.number p) := by
    intro p ⟨hnonneg, hle⟩
    obtain ⟨n, rfl⟩ := Int.eq_ofNat_of_zero_le hnonneg
    exact .port (by omega)
  have hlength : ∀ n : UInt16, LiteralKind.Admits zone .length (.number n.toNat) := by
    intro n
    have := n.toNat_lt
    exact .length (by omega)
  cases field with
  | time =>
    cases h
    obtain ⟨reading, hreading⟩ := hr.time
    exact .time hreading
  | length =>
    cases h
    exact hlength r.length
  | transport =>
    cases h
    exact .transport r.transport.canonical_canonical
  | application =>
    cases h
    exact .application r.application
  | source | destination =>
    obtain ⟨a, -, rfl⟩ := Option.map_eq_some_iff.mp h
    exact .address a
  | sourcePort =>
    obtain ⟨p, hp, rfl⟩ := Option.map_eq_some_iff.mp h
    exact hport p (hr.sourcePort p hp)
  | destinationPort =>
    obtain ⟨p, hp, rfl⟩ := Option.map_eq_some_iff.mp h
    exact hport p (hr.destinationPort p hp)
  | ipPayload | transportPayload =>
    obtain ⟨n, -, rfl⟩ := Option.map_eq_some_iff.mp h
    exact hlength n

theorem Draft.isLocal_of_check {zone : Zone} {d : Draft} {reading : LocalTime} {r : Record}
    (hlocal : d.time = .floating reading)
    (hports : ∀ p, d.sourcePort = some p ∨ d.destinationPort = some p → 0 ≤ p ∧ p ≤ 65535)
    (hr : d.check zone = .ok r) : r.IsLocal zone := by
  obtain ⟨time, htime, hr⟩ := bind_eq_ok.mp hr
  obtain ⟨source, -, hr⟩ := bind_eq_ok.mp hr
  obtain ⟨destination, -, hr⟩ := bind_eq_ok.mp hr
  cases hr
  refine ⟨⟨reading, ?_⟩, fun p hp => hports p (Or.inl hp), fun p hp => hports p (Or.inr hp)⟩
  rw [hlocal, Zone.resolve] at htime
  cases hattach : zone.attach reading with
  | error e =>
    rw [hattach] at htime
    cases htime
  | ok t =>
    rw [hattach] at htime
    cases htime
    rfl

/-! ### Cells are literals -/

theorem Record.value?_of_cell {r : Record} {field : Field} {cell : String}
    (hcell : (field, cell) ∈ Field.all.zip r.row) (hshown : cell ≠ "") :
    ∃ v, r.value? field = some v ∧ cell = v.label := by
  have hzip : Field.all.zip r.row = Field.all.map fun f => (f, r.cell f) :=
    List.zip_map' (f := id) (g := r.cell) (l := Field.all)
  rw [hzip] at hcell
  obtain ⟨f, -, heq⟩ := List.mem_map.mp hcell
  cases heq
  cases hv : r.shown? field with
  | none => simp [cell, hv] at hshown
  | some v =>
    refine ⟨v, ?_, by simp [cell, hv]⟩
    unfold shown? at hv
    split at hv
    · cases hv
    · exact hv

theorem display_canonical (v : Value) : v.canonical.display = v.display := by
  cases v with
  | transport p => exact congrArg String.toList p.name_canonical
  | _ => rfl

/-- No name of a protocol contains a space, so only a number beside the name makes a cell begin
with `Unknown (`. -/
theorem isPrefixOf_label (p : Transport) :
    "Unknown (".toList.isPrefixOf p.label.toList = p.isUnknown := by
  cases h : p.name? with
  | none =>
    have hlabel : p.label = "Unknown (" ++ s!"{p.number})" := by
      rw [Transport.label, h, Option.getD_none]
      exact String.append_assoc
    rw [hlabel, Transport.isUnknown, h, String.toList_append, Option.isNone_none,
      List.isPrefixOf_iff_prefix]
    exact List.prefix_append _ _
  | some s =>
    have hlabel : p.label = p.name := by simp [Transport.label, Transport.name, h]
    rw [hlabel, Transport.isUnknown, h, Option.isNone_some, ← Bool.not_eq_true]
    intro hprefix
    have hspace : ' ' ∈ p.name.toList :=
      (List.isPrefixOf_iff_prefix.mp hprefix).subset (by decide)
    have hplain := List.all_eq_true.mp (plain_name p).2 ' ' hspace
    exact absurd hplain (by decide +kernel)

/-- The word for a cell is the text of its value in a filter. -/
theorem word_label {r : Record} {field : Field} {v : Value} (h : r.value? field = some v) :
    (field.word v.label).toList = v.display := by
  cases v with
  | transport p =>
    obtain rfl : field = .transport := by
      have hkind : field.kind = .transport := (Record.kind_of_value? h).symm
      cases field <;> first | rfl | cases hkind
    rw [Field.word, Value.label, isPrefixOf_label]
    cases hname : p.name? with
    | none => simp [Transport.isUnknown, hname, Value.display, Transport.name]
    | some s => simp [Transport.isUnknown, hname, Value.display, Transport.name, Transport.label]
  | time _ | address _ | number _ | application _ =>
    have hne : field ≠ .transport := by
      rintro rfl
      cases h
    rw [Field.word, if_neg fun hboth => hne hboth.1, Value.label, String.toList_ofList]
    all_goals
      intro _ h
      cases h

/-- **Heading, operator and cell make a filter.** -/
theorem parse_query {zone : Zone} {r : Record} (hr : r.IsLocal zone) {field : Field} {v : Value}
    (h : r.value? field = some v) {op : Operator} (hop : field.supports op = true) :
    Filter.parse zone (field.query op v.label).toList = .ok (.leaf ⟨field, op, v.canonical⟩) := by
  have hadmits := hr.admits h
  have hliteral := hadmits.isLiteral_display
  have hparse := hadmits.parse_display
  rw [display_canonical] at hliteral hparse
  have htitle : field.title ∈ field.aliases := by
    cases field <;> simp [Field.aliases, Field.title]
  have hderives : Derives zone .term
      [.name field.title, .operator op, .literal v.display] (.leaf ⟨field, op, v.canonical⟩) :=
    .comparison htitle hop hliteral hparse
  refine parse_of_derives ?_ (.ofConjunction (.ofTerm hderives))
  have hspells : Spells
      (field.title.toList ++ ' ' :: (op.symbol.toList ++ ' ' :: (v.display ++ [])))
      [.name field.title, .operator op, .literal v.display] [] :=
    .next (.name _) (.spaced (.next (.operator _) (.spaced (.next (.literal _) (.refl [])))))
  simpa [Field.query, Layout, ← word_label h] using hspells

/-! ### What the filters select -/

/-- A value stands where the literal of a cell does exactly if the records agree. -/
theorem standing_eq_iff {zone : Zone} {q r : Record} (hr : r.IsLocal zone) {field : Field}
    {v : Value} (h : r.value? field = some v) (op : Operator) :
    Comparison.standing ⟨field, op, v.canonical⟩ q = .eq ↔ q.Agree r field := by
  have hcanonical : ∀ held : Value, held.same v.canonical = held.same v := by
    intro held
    cases v with
    | transport p =>
      cases held with
      | transport p' =>
        rw [Bool.eq_iff_iff]
        simp only [Value.canonical, Value.same, Transport.same_iff, p.name_canonical]
      | _ => rfl
    | _ => rfl
  rw [Record.agree_iff h, Comparison.standing]
  cases hv : q.value? field with
  | none => simp [Value.standing]
  | some held =>
    have hkind : held.kind = v.canonical.kind := by
      rw [Record.kind_of_value? hv, (hr.admits h).kind_eq]
      rfl
    have hsame := Value.same_eq_standing hkind
    rw [hcanonical] at hsame
    simp [hsame]

/-- **A cell selects the records that agree.** Take a record that was made from a reading of the
local clock, with ports of sixteen bits if any, and a cell of its row that is not empty. The heading
of its column, `==` and the cell make a filter that selects this record, and of all records exactly
those that agree with it in the field. With `!=` it selects exactly the others. -/
theorem selects_agreeing (zone : Zone) (d : Draft) (reading : LocalTime) (r : Record)
    (hlocal : d.time = .floating reading)
    (hports : ∀ p, d.sourcePort = some p ∨ d.destinationPort = some p → 0 ≤ p ∧ p ≤ 65535)
    (hr : d.check zone = .ok r) (field : Field) (cell : String)
    (hcell : (field, cell) ∈ Field.all.zip r.row) (hshown : cell ≠ "") :
    ∃ same other : Filter,
      Filter.parse zone (field.query .eq cell).toList = .ok same ∧
      Filter.parse zone (field.query .ne cell).toList = .ok other ∧
      (Filter.evaluate same r).outcome = .ok true ∧
      ∀ q : Record, ∃ selected, (Filter.evaluate same q).outcome = .ok selected ∧
        (Filter.evaluate other q).outcome = .ok (!selected) ∧
        (selected = true ↔ q.Agree r field) := by
  have hrecord := Draft.isLocal_of_check hlocal hports hr
  obtain ⟨v, hv, rfl⟩ := Record.value?_of_cell hcell hshown
  have hsupports : ∀ op : Operator, op.isOrdering = false → field.supports op = true := by
    intro op hop
    simp [Field.supports, hop]
  have hkind : v.canonical.kind = field.kind := (hrecord.admits hv).kind_eq
  have hselects : ∀ q : Record, ∃ selected,
      (Filter.evaluate (.leaf ⟨field, .eq, v.canonical⟩) q).outcome = .ok selected ∧
        (Filter.evaluate (.leaf ⟨field, .ne, v.canonical⟩) q).outcome = .ok (!selected) ∧
        (selected = true ↔ q.Agree r field) := by
    intro q
    have heq : Comparison.Fits ⟨field, .eq, v.canonical⟩ := ⟨hsupports _ rfl, hkind⟩
    have hne : Comparison.Fits ⟨field, .ne, v.canonical⟩ := ⟨hsupports _ rfl, hkind⟩
    exact ⟨_, heq.holds_eq q, hne.holds_eq q, by
      rw [← standing_eq_iff hrecord hv .eq]
      simp [Operator.admits]⟩
  refine ⟨_, _, parse_query hrecord hv (hsupports _ rfl), parse_query hrecord hv (hsupports _ rfl),
    ?_, hselects⟩
  obtain ⟨selected, hsame, -, hiff⟩ := hselects r
  rw [hsame, hiff.mpr (Record.agree_self hv)]

/-- The cell of an unnamed protocol selects every unnamed protocol. -/
theorem selects_agreeing_unnamed :
    let zone : Zone := ⟨28800⟩
    let draft : Draft := { time := .floating ⟨63082281600250000, by decide⟩, length := 60,
                           transport := ⟨200⟩, sourcePort := some 443 }
    let record : Record := { time := ⟨⟨63082281600250000, by decide⟩, 28800⟩, length := 60,
                             transport := ⟨200⟩, sourcePort := some 443 }
    let of (number : Int) : Record := { record with length := 1500, transport := ⟨number⟩ }
    let text := Field.query .transport .eq "Unknown (200)"
    draft.check zone = .ok record ∧ (Field.transport, "Unknown (200)") ∈ Field.all.zip record.row ∧
    text = "传输层协议 == Unknown" ∧
    ∃ f : Filter, Filter.parse zone text.toList = .ok f ∧
      (Filter.evaluate f (of 201)).outcome = .ok true ∧
      (Filter.evaluate f (of 6)).outcome = .ok false := by
  intro zone draft record of text
  have hcheck : draft.check zone = .ok record := rfl
  have hcell : (Field.transport, "Unknown (200)") ∈ Field.all.zip record.row := by decide +kernel
  have hports : ∀ p, draft.sourcePort = some p ∨ draft.destinationPort = some p →
      0 ≤ p ∧ p ≤ 65535 := by
    intro p hp
    have hp : 443 = p := by simpa [draft] using hp
    omega
  obtain ⟨same, other, hsame, -, -, hselects⟩ := selects_agreeing zone draft _ record rfl hports
    hcheck .transport "Unknown (200)" hcell (by decide)
  refine ⟨hcheck, hcell, by decide +kernel, same, hsame, ?_, ?_⟩
  · obtain ⟨selected, houtcome, -, hiff⟩ := hselects (of 201)
    rw [houtcome, hiff.mpr (by decide +kernel : (of 201).transport.name = record.transport.name)]
  · obtain ⟨selected, houtcome, -, hiff⟩ := hselects (of 6)
    have hdiffer : ¬(of 6).transport.name = record.transport.name := by decide +kernel
    rw [houtcome, Bool.eq_false_iff.mpr fun h => hdiffer (hiff.mp h)]

end TrafficMonitor
