import TrafficMonitor.Proofs.Filter.LiteralText
import TrafficMonitor.Proofs.Filter.Recognition

/-! Printing a filter and parsing the text. `display_round_trip` says that the text of a filter
is parsed to the same tree, whatever its shape; only a transport protocol without a name comes
back as the one number that stands for all of them (`canonical`).

The text of a filter is a layout of lexemes (`spells_display`) that derive the filter
(`derives_lexemes`), and the parser reads whatever the grammar derives. -/
namespace TrafficMonitor
open Network Time

/-- The value that the text of a value denotes. -/
def Value.canonical : Value → Value
  | .transport p => .transport p.canonical
  | value => value

namespace Filter

/-- A filter as its text is read: unnamed transport protocols become the reserved one. -/
def canonical : Filter → Filter
  | .leaf c => .leaf { c with literal := c.literal.canonical }
  | .not f => .not (canonical f)
  | .and f g => .and (canonical f) (canonical g)
  | .or f g => .or (canonical f) (canonical g)

/-- The field supports the operator, and the literal is one that the field's literals can
denote, or any unnamed protocol where the field holds transport protocols. -/
def Comparison.IsWritable (zone : Zone) (c : Comparison) : Prop :=
  c.field.supports c.op = true ∧
    ((∃ text, c.field.literalKind.parse zone text = .ok c.literal) ∨
      c.field = .transport ∧ ∃ p : Transport, p.isUnknown = true ∧ c.literal = .transport p)

/-! ### The text as a layout -/

/-- The lexemes that a filter is written with. -/
def lexemes : Filter → List Lexeme
  | .leaf c => [.name c.field.name, .operator c.op, .literal c.literal.display]
  | .not f => [.negation, .opening] ++ lexemes f ++ [.closing]
  | .and f g => ([.opening] ++ lexemes f ++ [.closing]) ++ [.both] ++
      ([.opening] ++ lexemes g ++ [.closing])
  | .or f g => ([.opening] ++ lexemes f ++ [.closing]) ++ [.either] ++
      ([.opening] ++ lexemes g ++ [.closing])

namespace Spells
variable {text rest : List Char} {tokens : List Lexeme}

theorem next (token : Lexeme) (h : Spells text tokens rest) :
    Spells (token.text ++ text) (token :: tokens) rest :=
  cons token (show Text.IsGap [] by simp [Text.IsGap]) h

theorem spaced (h : Spells text tokens rest) : Spells (' ' :: text) tokens rest :=
  gap_append (show Text.IsGap [' '] by simp [Text.IsGap]; decide +kernel) h

end Spells

theorem spells_group {text : List Char} {tokens : List Lexeme}
    (h : ∀ rest, Spells (text ++ rest) tokens rest) (rest : List Char) :
    Spells ('(' :: (text ++ ')' :: rest)) ([.opening] ++ tokens ++ [.closing]) rest :=
  .next .opening ((h _).append (.next .closing (.refl rest)))

/-- The text of a filter is its lexemes, in order. -/
theorem spells_display (f : Filter) (rest : List Char) :
    Spells (f.display ++ rest) (lexemes f) rest := by
  induction f generalizing rest with
  | leaf c =>
    have h : Spells (c.field.name.toList ++ ' ' :: (c.op.symbol.toList ++
        ' ' :: (c.literal.display ++ rest))) (lexemes (.leaf c)) rest :=
      .next (.name _) (.spaced (.next (.operator _) (.spaced (.next (.literal _) (.refl rest)))))
    simpa [display, Formula.display, Comparison.display] using h
  | not f ih =>
    have h := Spells.next .negation (spells_group ih rest)
    simpa [display, Formula.display, lexemes, Lexeme.text] using h
  | and f g ihf ihg =>
    have hg := Spells.next .both (.spaced (spells_group ihg rest))
    have h := (spells_group ihf _).append (.spaced hg)
    simpa [display, Formula.display, lexemes, Lexeme.text] using h
  | or f g ihf ihg =>
    have hg := Spells.next .either (.spaced (spells_group ihg rest))
    have h := (spells_group ihf _).append (.spaced hg)
    simpa [display, Formula.display, lexemes, Lexeme.text] using h

/-! ### The lexemes derive the filter -/

theorem LiteralKind.Admits.canonical_eq {zone : Zone} {kind : LiteralKind} {value : Value}
    (h : kind.Admits zone value) : value.canonical = value := by
  cases h with
  | transport hp => simp [Value.canonical, hp]
  | _ => rfl

theorem Comparison.IsWritable.derives {zone : Zone} {c : Comparison} (h : c.IsWritable zone) :
    Derives zone .term (lexemes (.leaf c)) (canonical (.leaf c)) := by
  have hname : c.field.name ∈ c.field.aliases := by
    cases c.field <;> simp [Field.aliases, Field.name]
  obtain ⟨hop, ⟨text, hvalue⟩ | ⟨hfield, p, -, hp⟩⟩ := h
  · have hadmits := LiteralKind.admits_of_parse hvalue
    rw [canonical, hadmits.canonical_eq]
    exact .comparison hname hop hadmits.isLiteral_display hadmits.parse_display
  · obtain ⟨field, op, literal⟩ := c
    obtain rfl : field = .transport := hfield
    obtain rfl : literal = .transport p := hp
    exact .comparison hname hop (isLiteral_transport p) (parse_display_transport zone p)

theorem derives_lexemes {zone : Zone} {f : Filter} (h : ∀ c ∈ f.leaves, c.IsWritable zone) :
    Derives zone .disjunction (lexemes f) (canonical f) := by
  induction f with
  | leaf c => exact .ofConjunction (.ofTerm (h c (by simp [Formula.leaves])).derives)
  | not f ih => exact .ofConjunction (.ofTerm (.not (ih h)))
  | and f g ihf ihg =>
    simp only [Formula.leaves, List.mem_append] at h
    exact .ofConjunction (.and (.ofTerm (.group (ihf fun c hc => h c (Or.inl hc))))
      (.group (ihg fun c hc => h c (Or.inr hc))))
  | or f g ihf ihg =>
    simp only [Formula.leaves, List.mem_append] at h
    exact .or (.ofConjunction (.ofTerm (.group (ihf fun c hc => h c (Or.inl hc)))))
      (.ofTerm (.group (ihg fun c hc => h c (Or.inr hc))))

/-! ### Filters that were parsed -/

/-- A filter that derives from lexemes can be written, and is its own canonical form. -/
theorem writable_of_derives {zone : Zone} {level : Level} {tokens : List Lexeme} {f : Filter}
    (h : Derives zone level tokens f) : (∀ c ∈ f.leaves, c.IsWritable zone) ∧ f.canonical = f := by
  induction h with
  | @comparison field _ op text value _ hop _ hvalue =>
    refine ⟨fun c hc => ?_, ?_⟩
    · obtain rfl := List.mem_singleton.mp hc
      exact ⟨hop, Or.inl ⟨text, hvalue⟩⟩
    · rw [canonical, (LiteralKind.admits_of_parse hvalue).canonical_eq]
  | group _ ih | ofTerm _ ih | ofConjunction _ ih => exact ih
  | not _ ih => exact ⟨ih.1, by rw [canonical, ih.2]⟩
  | and _ _ ihf ihg | or _ _ ihf ihg =>
    refine ⟨fun c hc => ?_, by rw [canonical, ihf.2, ihg.2]⟩
    rcases List.mem_append.mp hc with hc | hc
    · exact ihf.1 c hc
    · exact ihg.1 c hc

theorem parse_display {zone : Zone} {f : Filter} (h : ∀ c ∈ f.leaves, c.IsWritable zone) :
    parse zone f.display = .ok f.canonical := by
  have hs := spells_display f []
  rw [List.append_nil] at hs
  exact parse_of_derives hs (derives_lexemes h)

theorem parse_display_of_parse {zone : Zone} {text : List Char} {f : Filter}
    (h : parse zone text = .ok f) : parse zone f.display = .ok f := by
  obtain ⟨tokens, -, hf⟩ := derives_of_parse h
  obtain ⟨hwritable, hcanonical⟩ := writable_of_derives hf
  rw [parse_display hwritable, hcanonical]

/-- **Printing and parsing a filter gives it back.** First for every tree whose comparisons can
be written at all; then for every text that is accepted, where printing again changes nothing;
so two accepted texts with the same printed form mean the same filter. -/
theorem display_round_trip (zone : Zone) :
    (∀ f : Filter, (∀ c ∈ f.leaves, c.IsWritable zone) → parse zone f.display = .ok f.canonical) ∧
    (∀ (text : List Char) (f : Filter), parse zone text = .ok f →
      parse zone f.display = .ok f ∧ (parse zone f.display).map display = .ok f.display) ∧
    (∀ (text₁ text₂ : List Char) (f₁ f₂ : Filter), parse zone text₁ = .ok f₁ →
      parse zone text₂ = .ok f₂ → f₁.display = f₂.display → f₁ = f₂) := by
  refine ⟨fun f h => parse_display h, fun text f h => ?_, fun text₁ text₂ f₁ f₂ h₁ h₂ heq => ?_⟩
  · have hparse := parse_display_of_parse h
    exact ⟨hparse, by rw [hparse]; rfl⟩
  · have hparse := parse_display_of_parse h₁
    rw [heq, parse_display_of_parse h₂] at hparse
    cases hparse
    rfl

/-- An unnamed protocol is written like the reserved one. -/
theorem display_round_trip_unnamed :
    let zone : Zone := ⟨28800⟩
    let filter (number : Int) : Filter := .not (.and (.leaf ⟨.length, .ge, .number 80⟩)
      (.leaf ⟨.transport, .eq, .transport ⟨number⟩⟩))
    (filter 200).display = "!((len >= 80) && (trans_proto == Unknown))".toList ∧
    (∀ c ∈ (filter 200).leaves, c.IsWritable zone) ∧
    parse zone (filter 200).display = .ok (filter 255) ∧
    parse zone (filter 255).display = .ok (filter 255) ∧
    (filter 200).canonical = filter 255 := by
  intro zone filter
  have hwritable : ∀ c ∈ (filter 200).leaves, c.IsWritable zone := by
    have hlength : Comparison.IsWritable zone ⟨.length, .ge, .number 80⟩ :=
      ⟨rfl, Or.inl ⟨['8', '0'], rfl⟩⟩
    have htransport : Comparison.IsWritable zone ⟨.transport, .eq, .transport ⟨200⟩⟩ :=
      ⟨rfl, Or.inr ⟨rfl, ⟨200⟩, by decide +kernel, rfl⟩⟩
    simp [filter, Formula.leaves, hlength, htransport]
  have hparse : parse zone (filter 200).display = .ok (filter 255) :=
    (display_round_trip zone).1 (filter 200) hwritable
  have hagain := ((display_round_trip zone).2.1 _ _ hparse).1
  refine ⟨by decide +kernel, hwritable, hparse, hagain, ?_⟩
  exact (display_round_trip zone).2.2 _ _ _ _ ((display_round_trip zone).1 _ hwritable) hagain rfl

end Filter

end TrafficMonitor
