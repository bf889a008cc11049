import TrafficMonitor.Proofs.Filter.LongestMatch
import TrafficMonitor.Filter.Formula
import TrafficMonitor.Filter.Literal

/-! The grammar of the filter language, said without a parser. A text is a layout of lexemes,
with any white space between them (`Layout`), and a row of lexemes derives a filter by the
rules

    disjunction := conjunction ('||' conjunction)*
    conjunction := term ('&&' term)*
    term        := '(' disjunction ')' | '!' '(' disjunction ')' | field operator literal

where both chains fold to the left (`Derives`). A rule says nothing of where one lexeme ends
and the next begins; that is the reader's business. -/
namespace TrafficMonitor.Filter
open Text Time

/-! ### Lexemes and layouts -/

/-- A piece of a filter's text. -/
inductive Lexeme where
  | opening
  | closing
  | negation
  | both
  | either
  | name (name : String)
  | operator (op : Operator)
  | literal (text : List Char)
deriving Repr, DecidableEq

def Lexeme.text : Lexeme → List Char
  | opening => ['(']
  | closing => [')']
  | negation => ['!']
  | both => ['&', '&']
  | either => ['|', '|']
  | name s => s.toList
  | operator op => op.symbol.toList
  | literal cs => cs

/-- `Spells text tokens rest`: the text is the lexemes in order, with any white space before,
between and behind them, and goes on with `rest`. -/
inductive Spells : List Char → List Lexeme → List Char → Prop where
  | nil {gap rest} : IsGap gap → Spells (gap ++ rest) [] rest
  | cons {gap text tokens rest} (token : Lexeme) : IsGap gap → Spells text tokens rest →
      Spells (gap ++ (token.text ++ text)) (token :: tokens) rest

/-- The whole text is the lexemes and white space. -/
abbrev Layout (tokens : List Lexeme) (text : List Char) : Prop := Spells text tokens []

namespace Spells
variable {text mid rest : List Char} {tokens more : List Lexeme} {token : Lexeme}

theorem refl (rest : List Char) : Spells rest [] rest :=
  nil (show IsGap [] by simp [IsGap])

theorem gap_append {gap : List Char} (hgap : IsGap gap) (h : Spells text tokens rest) :
    Spells (gap ++ text) tokens rest := by
  cases h with
  | @nil gap' _ hgap' =>
    rw [← List.append_assoc]
    exact nil (List.forall_mem_append.mpr ⟨hgap, hgap'⟩)
  | @cons gap' _ _ _ token hgap' h =>
    rw [← List.append_assoc]
    exact cons token (List.forall_mem_append.mpr ⟨hgap, hgap'⟩) h

theorem of_trimStart (h : trimStart text = rest) : Spells text [] rest := by
  obtain ⟨gap, hgap, heq⟩ := exists_gap text
  rw [heq, h]
  exact nil hgap

/-- What a cursor finds behind white space is a lexeme. -/
theorem one (h : trimStart text = token.text ++ rest) : Spells text [token] rest := by
  obtain ⟨gap, hgap, heq⟩ := exists_gap text
  rw [heq, h]
  exact cons token hgap (refl rest)

theorem append (h : Spells text tokens mid) (h' : Spells mid more rest) :
    Spells text (tokens ++ more) rest := by
  induction h with
  | nil hgap => exact gap_append hgap h'
  | cons token hgap _ ih => exact cons token hgap (ih h')

theorem split (h : Spells text (tokens ++ more) rest) :
    ∃ mid, Spells text tokens mid ∧ Spells mid more rest := by
  induction tokens generalizing text with
  | nil => exact ⟨text, refl text, h⟩
  | cons token tokens ih =>
    cases h with
    | cons _ hgap h =>
      obtain ⟨mid, hleft, hright⟩ := ih h
      exact ⟨mid, cons token hgap hleft, hright⟩

theorem trimStart_nil (h : Spells text [] rest) : trimStart text = trimStart rest := by
  cases h with
  | nil hgap => exact trimStart_gap_append hgap rest

/-- Behind white space the text begins with its first lexeme. -/
theorem exists_of_cons (h : Spells text (token :: tokens) rest) :
    ∃ mid, trimStart text = trimStart (token.text ++ mid) ∧ Spells mid tokens rest := by
  cases h with
  | cons _ hgap h => exact ⟨_, trimStart_gap_append hgap _, h⟩

end Spells

/-! ### Derivations -/

/-- How loosely the parts of a filter are bound. -/
inductive Level where
  | term
  | conjunction
  | disjunction

/-- The lexemes derive the filter at the level. -/
inductive Derives (zone : Zone) : Level → List Lexeme → Filter → Prop where
  | comparison {field name op text value} : name ∈ field.aliases → field.supports op = true →
      IsLiteral text → field.literalKind.parse zone text = .ok value →
      Derives zone .term [.name name, .operator op, .literal text] (.leaf ⟨field, op, value⟩)
  | group {tokens f} : Derives zone .disjunction tokens f →
      Derives zone .term ([.opening] ++ tokens ++ [.closing]) f
  | not {tokens f} : Derives zone .disjunction tokens f →
      Derives zone .term ([.negation, .opening] ++ tokens ++ [.closing]) (.not f)
  | ofTerm {tokens f} : Derives zone .term tokens f → Derives zone .conjunction tokens f
  | and {left right f g} : Derives zone .conjunction left f → Derives zone .term right g →
      Derives zone .conjunction (left ++ [.both] ++ right) (.and f g)
  | ofConjunction {tokens f} : Derives zone .conjunction tokens f →
      Derives zone .disjunction tokens f
  | or {left right f g} : Derives zone .disjunction left f → Derives zone .conjunction right g →
      Derives zone .disjunction (left ++ [.either] ++ right) (.or f g)

end TrafficMonitor.Filter
