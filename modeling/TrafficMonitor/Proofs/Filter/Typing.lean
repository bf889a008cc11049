import TrafficMonitor.Filter.Evaluation
import TrafficMonitor.Proofs.Filter.RoundTrip

/-! Comparisons whose operator and literal fit their field. Such a comparison has a truth value on
every record: it asks where what the record holds stands to the literal (`standing`), and the
operator admits that or not (`Comparison.holds_eq`). What the record lacks stands below every
literal. Every comparison of a filter that was parsed fits (`fits_of_parse`), so a parsed filter has
a truth value on every record, the ordinary one of its tree (`outcome_evaluate`). -/
namespace TrafficMonitor
open Network Time

/-! ### Kinds -/

/-- The kind of the values that literals denote. -/
def Filter.LiteralKind.valueKind : Filter.LiteralKind → Value.Kind
  | time => .time
  | address => .address
  | port | length => .number
  | transport => .transport
  | application => .application

/-- The kind of the values in a field. -/
def Field.kind (field : Field) : Value.Kind := field.literalKind.valueKind

theorem Filter.LiteralKind.Admits.kind_eq {zone : Zone} {kind : LiteralKind} {value : Value}
    (h : kind.Admits zone value) : value.kind = kind.valueKind := by
  cases h <;> rfl

theorem Record.kind_of_value? {r : Record} {field : Field} {held : Value}
    (h : r.value? field = some held) : held.kind = field.kind := by
  cases field with
  | time | length | transport | application =>
    cases h
    rfl
  | source | destination | sourcePort | destinationPort | ipPayload | transportPayload =>
    obtain ⟨_, -, rfl⟩ := Option.map_eq_some_iff.mp h
    rfl

/-- Fields that have an order hold times or numbers. -/
theorem Field.kind_of_isOrdered {field : Field} (h : field.isOrdered = true) :
    field.kind = .time ∨ field.kind = .number := by
  cases field <;> first | exact Or.inl rfl | exact Or.inr rfl | cases h

/-! ### The standing of a value -/

/-- Where what is held stands to a literal. What is absent stands below; values without an order
are the same or not. -/
def Value.standing : Option Value → Value → Ordering
  | none, _ => .lt
  | some (time a), time b => a.compare b
  | some (number a), number b => compareOfLessAndEq a b
  | some held, literal => if held.same literal then .eq else .gt

theorem compareOfLessAndEq_beq_eq (a b : Int) :
    (compareOfLessAndEq a b == .eq) = decide (a = b) := by
  unfold compareOfLessAndEq
  split
  · rename_i hlt
    simp [Int.ne_of_lt hlt]
  · split <;> simp_all

namespace Value
variable {held literal : Value}

/-- Equality asks whether the two stand at one place. -/
theorem same_eq_standing (h : held.kind = literal.kind) :
    held.same literal = (standing (some held) literal == .eq) := by
  have hunordered : held.same literal =
      ((if held.same literal then Ordering.eq else .gt) == .eq) := by
    cases held.same literal <;> rfl
  cases held with
  | time a =>
    cases literal with
    | time b => exact (compareOfLessAndEq_beq_eq a.instant b.instant).symm
    | _ => cases h
  | number a =>
    cases literal with
    | number b => exact (compareOfLessAndEq_beq_eq a b).symm
    | _ => cases h
  | address a | transport p | application a => exact hunordered

theorem compare?_eq_standing (h : held.kind = literal.kind)
    (hordered : literal.kind = .time ∨ literal.kind = .number) :
    held.compare? literal = some (standing (some held) literal) := by
  rw [← h] at hordered
  cases held with
  | time a =>
    cases literal with
    | time b => rfl
    | _ => cases h
  | number a =>
    cases literal with
    | number b => rfl
    | _ => cases h
  | address _ | transport _ | application _ => rcases hordered with h' | h' <;> cases h'

end Value

namespace Filter

theorem equals_eq_standing {held literal : Value} (h : held.kind = literal.kind) :
    equals held literal = .ok (Value.standing (some held) literal == .eq) := by
  rw [← Value.same_eq_standing h]
  unfold equals
  split
  · rename_i p
    rw [if_neg fun hbad => hbad.2 h.symm]
  · rfl

/-! ### Comparisons that fit -/

/-- The field supports the operator, and the literal is of the kind that the field holds. -/
structure Comparison.Fits (c : Comparison) : Prop where
  supported : c.field.supports c.op = true
  kind : c.literal.kind = c.field.kind

namespace Comparison
variable {c : Comparison} {r : Record}

/-- Where what the record holds stands to the literal. -/
def standing (c : Comparison) (r : Record) : Ordering :=
  Value.standing (r.value? c.field) c.literal

/-- A field that the record lacks stands below every literal. -/
theorem holds_of_absent (c : Comparison) (h : r.value? c.field = none) :
    c.holds r = .ok (c.op.admits .lt) := by
  obtain ⟨field, op, literal⟩ := c
  cases op <;> simp only [holds, h] <;> rfl

/-- **A comparison that fits holds as its operator admits.** -/
theorem Fits.holds_eq (h : c.Fits) (r : Record) : c.holds r = .ok (c.op.admits (c.standing r)) := by
  cases hv : r.value? c.field with
  | none => rw [c.holds_of_absent hv, standing, hv, Value.standing]
  | some held =>
    have hkind : held.kind = c.literal.kind := by rw [Record.kind_of_value? hv, h.kind]
    have hsupported := h.supported
    rw [Field.supports, Bool.or_eq_true] at hsupported
    have hordering : c.op.isOrdering = true →
        held.compare? c.literal = some (Value.standing (some held) c.literal) := by
      intro hop
      simp only [hop, Bool.not_true, Bool.false_eq_true, or_false] at hsupported
      refine Value.compare?_eq_standing hkind ?_
      rw [h.kind]
      exact Field.kind_of_isOrdered hsupported
    rw [standing, hv]
    cases hop : c.op with
    | eq | ne =>
      simp only [holds, hop, hv, equals_eq_standing hkind]
      rfl
    | lt | le | gt | ge => simp only [holds, hop, hv, hordering (by rw [hop]; rfl)]

end Comparison

/-! ### Filters that were parsed -/

/-- Every comparison of a filter that derives from lexemes has an operator that its field supports
and a literal that its field admits. -/
theorem admits_of_derives {zone : Zone} {level : Level} {tokens : List Lexeme} {f : Filter}
    (h : Derives zone level tokens f) :
    ∀ c ∈ f.leaves, c.field.supports c.op = true ∧ c.field.literalKind.Admits zone c.literal := by
  induction h with
  | comparison _ hop _ hvalue =>
    intro c hc
    obtain rfl := List.mem_singleton.mp hc
    exact ⟨hop, LiteralKind.admits_of_parse hvalue⟩
  | group _ ih | not _ ih | ofTerm _ ih | ofConjunction _ ih => exact ih
  | and _ _ ihf ihg | or _ _ ihf ihg =>
    intro c hc
    rcases List.mem_append.mp hc with hc | hc
    · exact ihf c hc
    · exact ihg c hc

theorem fits_of_parse {zone : Zone} {text : List Char} {f : Filter} (h : parse zone text = .ok f) :
    ∀ c ∈ f.leaves, c.Fits := by
  intro c hc
  obtain ⟨tokens, -, hf⟩ := derives_of_parse h
  obtain ⟨hop, hadmits⟩ := admits_of_derives hf c hc
  exact ⟨hop, hadmits.kind_eq⟩

/-! ### Truth values of trees -/

/-- If every leaf has a truth value, so has the formula. An `and` that leaves out its right side is
false whatever that is. -/
theorem Formula.outcome_judge {α : Type} {f : Formula α} {verdict : α → Verdict} {truth : α → Bool}
    (h : ∀ a ∈ f.leaves, (verdict a).outcome = .ok (truth a)) :
    (f.judge verdict).outcome = .ok (f.holds truth) := by
  induction f with
  | leaf a => exact h a (List.mem_singleton.mpr rfl)
  | not f ih =>
    simp only [judge, Verdict.not, ih h]
    rfl
  | and f g ihf ihg =>
    have hf := ihf fun a ha => h a (List.mem_append_left _ ha)
    have hg := ihg fun a ha => h a (List.mem_append_right _ ha)
    simp only [judge, Verdict.and, holds, hf]
    cases htruth : f.holds truth with
    | true => exact hg
    | false => rw [hf, htruth, Bool.false_and]
  | or f g ihf ihg =>
    have hf := ihf fun a ha => h a (List.mem_append_left _ ha)
    have hg := ihg fun a ha => h a (List.mem_append_right _ ha)
    simp only [judge, Verdict.or, holds, hf, hg]
    rfl

/-- Whether a comparison that fits holds on a record. -/
def Comparison.truth (r : Record) (c : Comparison) : Bool := c.op.admits (c.standing r)

/-- **A filter whose comparisons fit has its ordinary truth value on every record.** -/
theorem outcome_evaluate {f : Filter} (h : ∀ c ∈ f.leaves, c.Fits) (r : Record) :
    (evaluate f r).outcome = .ok (f.holds (Comparison.truth r)) :=
  Formula.outcome_judge fun c hc => (h c hc).holds_eq r

end Filter

end TrafficMonitor
