import TrafficMonitor.Proofs.Filter.Typing

/-! Negations carried down to the comparisons. Negation turns an `and` into an `or` and back, two of
them cancel, and a comparison is negated by the complement of its operator (`Formula.pushed`). For
any leaves with truth values the tree means the same (`Formula.holds_pushed`); for comparisons this
rests on `Comparison.Fits.truth_complement`, which holds because a record stands at one place to a
literal, also where it lacks the field. The main statement is `pushed_of_parse`. -/
namespace TrafficMonitor
open Network Time

/-- An unnamed protocol is the same as any unnamed one, and as no other. -/
theorem Network.Transport.same_of_isUnknown {p : Transport} (hp : p.isUnknown = true)
    (q : Transport) : p.same q = q.isUnknown ∧ q.same p = q.isUnknown := by
  have hne : q.isUnknown = false → p ≠ q := fun hq heq => by
    rw [heq, hq] at hp
    cases hp
  unfold Transport.same
  cases hq : q.isUnknown with
  | true => simp [hp]
  | false => simp [hne hq, (hne hq).symm]

namespace Filter

/-! ### Formulas -/

namespace Formula
variable {α : Type}

mutual

/-- The formula with its negations carried down to the leaves, where an opposite leaf stands for a
negated one. -/
def pushed (opposite : α → α) : Formula α → Formula α
  | leaf a => leaf a
  | not f => f.refuted opposite
  | and f g => and (f.pushed opposite) (g.pushed opposite)
  | or f g => or (f.pushed opposite) (g.pushed opposite)

/-- The negation of the formula, carried down to the leaves. -/
def refuted (opposite : α → α) : Formula α → Formula α
  | leaf a => leaf (opposite a)
  | not f => f.pushed opposite
  | and f g => or (f.refuted opposite) (g.refuted opposite)
  | or f g => and (f.refuted opposite) (g.refuted opposite)

end

/-- The formula has no negation. -/
def IsPositive : Formula α → Prop
  | leaf _ => True
  | not _ => False
  | and f g => f.IsPositive ∧ g.IsPositive
  | or f g => f.IsPositive ∧ g.IsPositive

variable {opposite : α → α}

theorem isPositive_pushed (f : Formula α) :
    (f.pushed opposite).IsPositive ∧ (f.refuted opposite).IsPositive := by
  induction f with
  | leaf a => exact ⟨trivial, trivial⟩
  | not f ih => exact ⟨ih.2, ih.1⟩
  | and f g ihf ihg | or f g ihf ihg => exact ⟨⟨ihf.1, ihg.1⟩, ⟨ihf.2, ihg.2⟩⟩

/-- What opposite leaves keep is kept. -/
theorem forall_leaves_pushed {p : α → Prop} (hopposite : ∀ a, p a → p (opposite a)) {f : Formula α}
    (h : ∀ a ∈ f.leaves, p a) :
    (∀ a ∈ (f.pushed opposite).leaves, p a) ∧ ∀ a ∈ (f.refuted opposite).leaves, p a := by
  induction f with
  | leaf a =>
    have ha := h a (List.mem_singleton.mpr rfl)
    exact ⟨h, fun b hb => List.mem_singleton.mp hb ▸ hopposite a ha⟩
  | not f ih => exact (ih h).symm
  | and f g ihf ihg | or f g ihf ihg =>
    have hf := ihf fun a ha => h a (List.mem_append_left _ ha)
    have hg := ihg fun a ha => h a (List.mem_append_right _ ha)
    exact ⟨List.forall_mem_append.mpr ⟨hf.1, hg.1⟩, List.forall_mem_append.mpr ⟨hf.2, hg.2⟩⟩

/-- **Carrying negations down keeps the truth value.** -/
theorem holds_pushed {truth : α → Bool} {f : Formula α}
    (h : ∀ a ∈ f.leaves, truth (opposite a) = !truth a) :
    (f.pushed opposite).holds truth = f.holds truth ∧
      (f.refuted opposite).holds truth = !f.holds truth := by
  induction f with
  | leaf a => exact ⟨rfl, h a (List.mem_singleton.mpr rfl)⟩
  | not f ih =>
    obtain ⟨hpushed, hrefuted⟩ := ih h
    exact ⟨hrefuted, by rw [refuted, hpushed, holds, Bool.not_not]⟩
  | and f g ihf ihg =>
    have hf := ihf fun a ha => h a (List.mem_append_left _ ha)
    have hg := ihg fun a ha => h a (List.mem_append_right _ ha)
    exact ⟨by rw [pushed, holds, holds, hf.1, hg.1],
      by rw [refuted, holds, holds, hf.2, hg.2, Bool.not_and]⟩
  | or f g ihf ihg =>
    have hf := ihf fun a ha => h a (List.mem_append_left _ ha)
    have hg := ihg fun a ha => h a (List.mem_append_right _ ha)
    exact ⟨by rw [pushed, holds, holds, hf.1, hg.1],
      by rw [refuted, holds, holds, hf.2, hg.2, Bool.not_or]⟩

end Formula

/-! ### Comparisons -/

/-- The complement admits what the operator does not. -/
theorem Operator.admits_complement (op : Operator) (o : Ordering) :
    op.complement.admits o = !op.admits o := by
  cases op <;> cases o <;> rfl

theorem Operator.admits_le (o : Ordering) : le.admits o = (lt.admits o || eq.admits o) := by
  cases o <;> rfl

theorem Operator.admits_ge (o : Ordering) : ge.admits o = (gt.admits o || eq.admits o) := by
  cases o <;> rfl

namespace Comparison
variable {c : Comparison} {r : Record}

/-- The comparison that holds exactly when this one does not. -/
def complement (c : Comparison) : Comparison := { c with op := c.op.complement }

/-- A field that supports an operator supports its complement. -/
theorem Fits.complement (h : c.Fits) : c.complement.Fits := by
  have hordering : c.op.complement.isOrdering = c.op.isOrdering := by cases c.op <;> rfl
  refine ⟨?_, h.kind⟩
  show (c.field.isOrdered || !c.op.complement.isOrdering) = true
  rw [hordering]
  exact h.supported

theorem truth_complement (r : Record) (c : Comparison) :
    c.complement.truth r = !c.truth r := Operator.admits_complement c.op (c.standing r)

theorem Fits.holds_complement (h : c.Fits) (r : Record) :
    c.holds r = .ok (c.truth r) ∧ c.complement.holds r = .ok (!c.truth r) := by
  refine ⟨h.holds_eq r, ?_⟩
  rw [h.complement.holds_eq r, ← truth_complement]
  rfl

/-- On a field with an order the loose operators are the strict ones or equality. -/
theorem holds_loose {field : Field} {literal : Value} (hordered : field.isOrdered = true)
    (hkind : literal.kind = field.kind) (r : Record) :
    ∃ lt eq gt, Comparison.holds ⟨field, .lt, literal⟩ r = .ok lt ∧
      Comparison.holds ⟨field, .eq, literal⟩ r = .ok eq ∧
      Comparison.holds ⟨field, .gt, literal⟩ r = .ok gt ∧
      Comparison.holds ⟨field, .le, literal⟩ r = .ok (lt || eq) ∧
      Comparison.holds ⟨field, .ge, literal⟩ r = .ok (gt || eq) := by
  have hfits : ∀ op, Comparison.Fits ⟨field, op, literal⟩ := fun op =>
    ⟨by rw [Field.supports, hordered, Bool.true_or], hkind⟩
  refine ⟨_, _, _, (hfits .lt).holds_eq r, (hfits .eq).holds_eq r, (hfits .gt).holds_eq r, ?_, ?_⟩
  · rw [(hfits .le).holds_eq r, Operator.admits_le]
    rfl
  · rw [(hfits .ge).holds_eq r, Operator.admits_ge]
    rfl

end Comparison

/-! ### Unnamed protocols -/

/-- No comparison tells unnamed protocols of records apart. -/
theorem Comparison.holds_unnamed {p q : Transport} (hp : p.isUnknown = true)
    (hq : q.isUnknown = true) (c : Comparison) (r : Record) :
    c.holds { r with transport := p } = c.holds { r with transport := q } := by
  have hequals : equals (.transport p) c.literal = equals (.transport q) c.literal := by
    simp only [equals, hp, hq, Value.same]
    cases c.literal <;>
      simp [(Transport.same_of_isUnknown hp _).1, (Transport.same_of_isUnknown hq _).1]
  obtain ⟨field, op, literal⟩ := c
  cases field with
  | transport => cases op <;> simp only [holds, Record.value?, hequals] <;> rfl
  | _ => rfl

/-- No record tells unnamed protocols of literals apart. -/
theorem Comparison.holds_unnamed_literal {p q : Transport} (hp : p.isUnknown = true)
    (hq : q.isUnknown = true) (op : Operator) (r : Record) :
    Comparison.holds ⟨.transport, op, .transport p⟩ r =
      Comparison.holds ⟨.transport, op, .transport q⟩ r := by
  have hequals : ∀ held : Transport,
      equals (.transport held) (.transport p) = equals (.transport held) (.transport q) := by
    intro held
    simp only [equals, Value.kind, Value.same, (Transport.same_of_isUnknown hp held).2,
      (Transport.same_of_isUnknown hq held).2]
  cases op <;> simp only [holds, Record.value?, hequals] <;> rfl

/-! ### Filters -/

/-- The filter with its negations carried down to the comparisons. -/
def pushed (f : Filter) : Filter := Formula.pushed Comparison.complement f

theorem fits_pushed {f : Filter} (h : ∀ c ∈ f.leaves, c.Fits) :
    ∀ c ∈ f.pushed.leaves, c.Fits :=
  (Formula.forall_leaves_pushed (fun _ hc => hc.complement) h).1

/-- **Negations can be carried down to the comparisons.** What comes of a filter that was parsed has
no negation left, asks of every field only what it supports, and has the same truth value on every
record, whatever that lacks. For of a comparison and its complement exactly one holds, and the loose
operators are the strict ones or equality. A field that a record lacks is below every literal, and
no comparison tells unnamed protocols apart, in records or in literals. -/
theorem pushed_of_parse (zone : Zone) :
    (∀ text f, parse zone text = .ok f →
      f.pushed.IsPositive ∧ (∀ c ∈ f.pushed.leaves, c.field.supports c.op = true) ∧
      ∀ r, ∃ b, (evaluate f r).outcome = .ok b ∧ (evaluate f.pushed r).outcome = .ok b) ∧
    (∀ c : Comparison, c.Fits → ∀ r, ∃ b, c.holds r = .ok b ∧ c.complement.holds r = .ok (!b)) ∧
    (∀ (field : Field) (literal : Value), field.isOrdered = true → literal.kind = field.kind →
      ∀ r, ∃ lt eq gt, Comparison.holds ⟨field, .lt, literal⟩ r = .ok lt ∧
        Comparison.holds ⟨field, .eq, literal⟩ r = .ok eq ∧
        Comparison.holds ⟨field, .gt, literal⟩ r = .ok gt ∧
        Comparison.holds ⟨field, .le, literal⟩ r = .ok (lt || eq) ∧
        Comparison.holds ⟨field, .ge, literal⟩ r = .ok (gt || eq)) ∧
    (∀ (c : Comparison) (r : Record), r.value? c.field = none →
      c.holds r = .ok (c.op.admits .lt)) ∧
    ∀ p q : Transport, p.isUnknown = true → q.isUnknown = true → ∀ r : Record,
      (∀ c : Comparison, c.holds { r with transport := p } = c.holds { r with transport := q }) ∧
      ∀ op, Comparison.holds ⟨.transport, op, .transport p⟩ r =
        Comparison.holds ⟨.transport, op, .transport q⟩ r := by
  refine ⟨fun text f h => ?_, fun c hc r => ⟨c.truth r, hc.holds_complement r⟩,
    fun field literal hordered hkind r => Comparison.holds_loose hordered hkind r,
    fun c r habsent => c.holds_of_absent habsent,
    fun p q hp hq r => ⟨fun c => c.holds_unnamed hp hq r,
      fun op => Comparison.holds_unnamed_literal hp hq op r⟩⟩
  have hfits := fits_of_parse h
  have hpushed := fits_pushed hfits
  refine ⟨(Formula.isPositive_pushed f).1, fun c hc => (hpushed c hc).supported, fun r => ?_⟩
  have htruth : f.pushed.holds (Comparison.truth r) = f.holds (Comparison.truth r) :=
    (Formula.holds_pushed fun c _ => c.truth_complement r).1
  refine ⟨_, outcome_evaluate hfits r, ?_⟩
  rw [outcome_evaluate hpushed r, htruth]

/-- A record without ports, of a protocol that has no name. -/
theorem pushed_of_parse_portless :
    let zone : Zone := ⟨28800⟩
    let port (op : Operator) : Comparison := ⟨.sourcePort, op, .number 1024⟩
    let unnamed (op : Operator) : Comparison := ⟨.transport, op, .transport .unknown⟩
    let f : Filter := .not (.and (.leaf (port .lt)) (.not (.leaf (unnamed .eq))))
    let time : Timestamp := ⟨⟨63082281600000000, by decide⟩, 0⟩
    let r : Record := { time, length := 80, transport := ⟨200⟩ }
    f.display = "!((src_port < 1024) && (!(trans_proto == Unknown)))".toList ∧
      parse zone f.display = .ok f ∧
      f.pushed = .or (.leaf (port .ge)) (.leaf (unnamed .eq)) ∧
      (∃ b, (evaluate f r).outcome = .ok b ∧ (evaluate f.pushed r).outcome = .ok b) ∧
      (port .lt).Fits ∧ (∃ b, (port .lt).holds r = .ok b ∧ (port .ge).holds r = .ok (!b)) ∧
      (∃ lt eq, (port .lt).holds r = .ok lt ∧ (port .eq).holds r = .ok eq ∧
        (port .le).holds r = .ok (lt || eq)) ∧
      r.value? .sourcePort = none ∧ (port .lt).holds r = .ok true ∧
      (unnamed .eq).holds { r with transport := ⟨200⟩ } =
        (unnamed .eq).holds { r with transport := ⟨143⟩ } := by
  intro zone port unnamed f time r
  obtain ⟨hfilter, hcomplement, hloose, habsent, hunnamed⟩ := pushed_of_parse zone
  have hparse : parse zone f.display = .ok f := by
    have hwritable : ∀ c ∈ f.leaves, c.IsWritable zone := by
      have hport : (port .lt).IsWritable zone := ⟨rfl, Or.inl ⟨['1', '0', '2', '4'], rfl⟩⟩
      have hprotocol : (unnamed .eq).IsWritable zone :=
        ⟨rfl, Or.inr ⟨rfl, .unknown, by decide +kernel, rfl⟩⟩
      simp [f, Formula.leaves, hport, hprotocol]
    have hcanonical : f.canonical = f := by decide +kernel
    rw [parse_display hwritable, hcanonical]
  obtain ⟨-, -, hsame⟩ := hfilter _ f hparse
  obtain ⟨lt, eq, -, hlt, heq, -, hle, -⟩ := hloose .sourcePort (.number 1024) rfl rfl r
  exact ⟨by decide +kernel, hparse, rfl, hsame r, ⟨rfl, rfl⟩, hcomplement (port .lt) ⟨rfl, rfl⟩ r,
    ⟨lt, eq, hlt, heq, hle⟩, rfl, habsent (port .lt) r rfl,
    (hunnamed ⟨200⟩ ⟨143⟩ (by decide +kernel) (by decide +kernel) r).1 (unnamed .eq)⟩

end Filter

end TrafficMonitor
