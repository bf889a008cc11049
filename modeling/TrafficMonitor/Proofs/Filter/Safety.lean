import TrafficMonitor.Proofs.Filter.Typing

/-! Accepted filters are safe. What the parser lets through is well-typed (`Comparison.WellTyped`):
every comparison asks its field for what that supports and has a literal out of the field's range.
On a record such a comparison meets only values of its own kind, and asks only times and numbers for
their order (`Comparison.WellTyped.safe`), so none of the ways to fail can come up. No leaf of such
a tree is foreign, so the tree is judged as the filter that it is (`judge_nodes`). The main
statement is `safe_of_parse`. -/
namespace TrafficMonitor.Filter
open Network Time

/-! ### Ranges of literals -/

/-- The range of a literal: a time of the local clock, any address, a number of sixteen bits, a
protocol that has a name or is the reserved one, any application. -/
def LiteralKind.InRange (zone : Zone) : LiteralKind → Value → Prop
  | time, .time t => t.offset = zone.offset
  | address, .address _ => True
  | port, .number n | length, .number n => 0 ≤ n ∧ n ≤ 65535
  | transport, .transport p => p.isUnknown = false ∨ p = Transport.unknown
  | application, .application _ => True
  | _, _ => False

theorem LiteralKind.Admits.inRange {zone : Zone} {kind : LiteralKind} {value : Value}
    (h : kind.Admits zone value) : kind.InRange zone value := by
  cases h with
  | time hattach =>
    obtain rfl := eq_of_attach hattach
    rfl
  | address a | application a => trivial
  | port hn | length hn => exact ⟨Int.natCast_nonneg _, Int.ofNat_le.mpr hn⟩
  | @transport p hp =>
    cases hunknown : p.isUnknown with
    | false => exact Or.inl hunknown
    | true =>
      refine Or.inr ?_
      rw [← hp, Transport.canonical, if_pos hunknown]

theorem LiteralKind.InRange.kind_eq {zone : Zone} {kind : LiteralKind} {value : Value}
    (h : kind.InRange zone value) : value.kind = kind.valueKind := by
  cases kind <;> cases value <;> first | rfl | cases h

/-! ### Comparisons -/

namespace Comparison
variable {zone : Zone} {c : Comparison}

/-- The field supports the operator, and the literal is in the field's range. -/
structure WellTyped (zone : Zone) (c : Comparison) : Prop where
  supported : c.field.supports c.op = true
  inRange : c.field.literalKind.InRange zone c.literal

/-- What the evaluation of a comparison on a record relies on. -/
structure Safe (r : Record) (c : Comparison) : Prop where
  /-- What is compared is of one kind. -/
  kind : ∀ held, r.value? c.field = some held → held.kind = c.literal.kind
  /-- Only times and numbers are asked for their order. -/
  ordered : c.op.isOrdering = true → c.literal.kind = .time ∨ c.literal.kind = .number
  /-- The comparison is true or false. -/
  decided : c.holds r = .ok (c.truth r)

theorem WellTyped.fits (h : c.WellTyped zone) : c.Fits := ⟨h.supported, h.inRange.kind_eq⟩

/-- **A comparison that is well-typed is safe on every record**, whatever that lacks. -/
theorem WellTyped.safe (h : c.WellTyped zone) (r : Record) : c.Safe r where
  kind held hheld := by rw [Record.kind_of_value? hheld, h.fits.kind]
  ordered hop := by
    have hsupported := h.supported
    simp only [Field.supports, hop, Bool.not_true, Bool.or_false] at hsupported
    rw [h.fits.kind]
    exact Field.kind_of_isOrdered hsupported
  decided := h.fits.holds_eq r

end Comparison

/-! ### Trees -/

namespace Formula
variable {α β : Type}

/-- The formula with its leaves replaced. -/
def map (g : α → β) : Formula α → Formula β
  | leaf a => leaf (g a)
  | not f => not (f.map g)
  | and f f' => and (f.map g) (f'.map g)
  | or f f' => or (f.map g) (f'.map g)

/-- Replaced leaves are judged as their replacements are. -/
theorem judge_map (g : α → β) (verdict : β → Verdict) (f : Formula α) :
    (f.map g).judge verdict = f.judge (verdict ∘ g) := by
  induction f with
  | leaf a => rfl
  | not f ih => simp only [map, judge, ih]
  | and f f' ihf ihf' | or f f' ihf ihf' => simp only [map, judge, ihf, ihf']

end Formula

/-- The filter as a tree that could have other leaves too. -/
def nodes (f : Filter) : Formula Node := Formula.map Node.comparison f

/-- A tree of comparisons only is judged as the filter that it is. -/
theorem judge_nodes (f : Filter) (r : Record) : f.nodes.judge (Node.judge r) = evaluate f r :=
  Formula.judge_map Node.comparison (Node.judge r) f

/-! ### Filters that were parsed -/

theorem wellTyped_of_parse {zone : Zone} {text : List Char} {f : Filter}
    (h : parse zone text = .ok f) : ∀ c ∈ f.leaves, c.WellTyped zone := by
  intro c hc
  obtain ⟨tokens, -, hf⟩ := derives_of_parse h
  obtain ⟨hop, hadmits⟩ := admits_of_derives hf c hc
  exact ⟨hop, hadmits.inRange⟩

/-- **A filter that was accepted is well-typed and has a truth value on every record.** Every
comparison in its tree has an operator that the field supports and a literal of the field's type and
range. On a record, whatever that lacks, no comparison meets values of two kinds or asks for an
order where there is none, so each is true or false, and the tree has the truth value that these
make up. A tree that could have had other leaves evaluates alike. -/
theorem safe_of_parse {zone : Zone} {text : List Char} {f : Filter} (h : parse zone text = .ok f) :
    (∀ c ∈ f.leaves, c.WellTyped zone) ∧
    ∀ r : Record, (∀ c ∈ f.leaves, c.Safe r) ∧
      (evaluate f r).outcome = .ok (f.holds (Comparison.truth r)) ∧
      (f.nodes.judge (Node.judge r)).outcome = .ok (f.holds (Comparison.truth r)) ∧
      passes f r = f.holds (Comparison.truth r) := by
  have hwellTyped := wellTyped_of_parse h
  refine ⟨hwellTyped, fun r => ?_⟩
  have houtcome : (evaluate f r).outcome = .ok (f.holds (Comparison.truth r)) :=
    outcome_evaluate (fun c hc => (hwellTyped c hc).fits) r
  refine ⟨fun c hc => (hwellTyped c hc).safe r, houtcome, ?_, ?_⟩
  · rw [judge_nodes, houtcome]
  · rw [passes, houtcome]

/-- A record without addresses and ports, of a zone of its own. -/
theorem safe_of_parse_bare :
    let zone : Zone := ⟨28800⟩
    let source : Comparison := ⟨.source, .ne, .address ⟨10, 0, 0, 1⟩⟩
    let port : Comparison := ⟨.destinationPort, .le, .number 443⟩
    let unnamed : Comparison := ⟨.transport, .eq, .transport .unknown⟩
    let f : Filter := .and (.leaf source) (.or (.not (.leaf port)) (.leaf unnamed))
    let time : Timestamp := ⟨⟨63082281600000000, by decide⟩, -18000⟩
    let r : Record := { time, length := 80, transport := ⟨200⟩ }
    f.display =
        "(src_ip != 10.0.0.1) && ((!(dest_port <= 443)) || (trans_proto == Unknown))".toList ∧
      parse zone f.display = .ok f ∧ source.WellTyped zone ∧ port.Safe r ∧
      f.holds (Comparison.truth r) = true ∧ (evaluate f r).outcome = .ok true := by
  intro zone source port unnamed f time r
  have hparse : parse zone f.display = .ok f := by
    have hwritable : ∀ c ∈ f.leaves, c.IsWritable zone := by
      have hsource : source.IsWritable zone :=
        ⟨rfl, Or.inl ⟨_, (LiteralKind.Admits.address _).parse_display⟩⟩
      have hport : port.IsWritable zone := ⟨rfl, Or.inl ⟨['4', '4', '3'], rfl⟩⟩
      have hunnamed : unnamed.IsWritable zone :=
        ⟨rfl, Or.inr ⟨rfl, .unknown, by decide +kernel, rfl⟩⟩
      simp [f, Formula.leaves, hsource, hport, hunnamed]
    have hcanonical : f.canonical = f := by decide +kernel
    rw [parse_display hwritable, hcanonical]
  obtain ⟨hwellTyped, hsafe⟩ := safe_of_parse hparse
  obtain ⟨hleaves, houtcome, -⟩ := hsafe r
  have htruth : f.holds (Comparison.truth r) = true := by decide +kernel
  exact ⟨by decide +kernel, hparse, hwellTyped source (by simp [f, Formula.leaves]),
    hleaves port (by simp [f, Formula.leaves]), htruth, by rw [houtcome, htruth]⟩

end TrafficMonitor.Filter
