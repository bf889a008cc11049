import TrafficMonitor.Filter.Error
import TrafficMonitor.Filter.Shape

/-! A cursor over the text of a filter. Tokens are read on demand, because what a literal looks
like depends on where it stands; white space before a token is skipped. A reading that fails
moves the cursor over white space only, and one that succeeds moves it behind the token. -/
namespace TrafficMonitor.Filter
open Text

/-- How many characters have been read, and the characters that follow. -/
structure Cursor where
  position : Nat
  rest : List Char
deriving Repr, DecidableEq

/-- A token and where it begins. -/
structure Token where
  text : List Char
  position : Nat
deriving Repr, DecidableEq

/-- The result of a reading and the cursor after it. -/
abbrev Reading (α : Type) := Except FilterError α × Cursor

namespace Cursor

/-- The cursor before the first character. -/
def start (text : List Char) : Cursor := ⟨0, text⟩

/-- Moves over white space. -/
def skip (c : Cursor) : Cursor :=
  ⟨c.position + (c.rest.takeWhile isBlank).length, c.rest.dropWhile isBlank⟩

/-- Whether only white space is left. -/
def atEnd (c : Cursor) : Bool × Cursor := (c.skip.rest.isEmpty, c.skip)

/-- Whether a symbol comes next. -/
def peek (symbol : List Char) (c : Cursor) : Bool × Cursor :=
  (symbol.isPrefixOf c.skip.rest, c.skip)

/-- Reads a symbol if it comes next. -/
def accept (symbol : List Char) (c : Cursor) : Bool × Cursor :=
  if symbol.isPrefixOf c.skip.rest then
    (true, ⟨c.skip.position + symbol.length, c.skip.rest.drop symbol.length⟩)
  else (false, c.skip)

/-- The first characters that follow, as an error shows them. -/
def glimpse (c : Cursor) : String := String.ofList (c.rest.take 10)

/-- The error for a cursor in front of something else than `what`. -/
def missing (what : Expected) (c : Cursor) : FilterError :=
  .expected what c.glimpse c.position

/-- Reads a symbol that must come next. -/
def expect (symbol : List Char) (c : Cursor) : Reading Unit :=
  match c.accept symbol with
  | (true, d) => (.ok (), d)
  | (false, d) => (.error (d.missing (.symbol (String.ofList symbol))), d)

/-- Reads a token of a shape. -/
def token (shape : List Char → Option (List Char × List Char)) (what : Expected) (c : Cursor) :
    Reading Token :=
  match shape c.skip.rest with
  | some (text, rest) =>
    (.ok ⟨text, c.skip.position⟩, ⟨c.skip.position + text.length, rest⟩)
  | none => (.error (c.skip.missing what), c.skip)

/-- Reads the name of a field. -/
def identifier (c : Cursor) : Reading Token := c.token name? .fieldName

/-- Reads a literal. -/
def literal (c : Cursor) : Reading Token := c.token literal? .value

/-- Reads an operator. -/
def operator (c : Cursor) : Reading Operator :=
  match operator? c.skip.rest with
  | some (op, rest) => (.ok op, ⟨c.skip.position + op.symbol.length, rest⟩)
  | none =>
    if c.skip.rest.isEmpty then (.error (c.skip.missing .operator), c.skip)
    else (.error (.badOperator (String.ofList (junk c.skip.rest))), c.skip)

/-! ### What is left after a reading -/

theorem length_dropWhile_le (p : Char → Bool) (cs : List Char) :
    (cs.dropWhile p).length ≤ cs.length := (List.dropWhile_sublist p).length_le

theorem skip_length_le (c : Cursor) : c.skip.rest.length ≤ c.rest.length :=
  length_dropWhile_le _ _

/-- Reading a symbol leaves less. -/
theorem accept_length_lt {symbol : List Char} {c d : Cursor} (h : c.accept symbol = (true, d))
    (hs : symbol ≠ []) : d.rest.length < c.rest.length := by
  have hskip := c.skip_length_le
  have hpos := List.length_pos_iff.mpr hs
  unfold accept at h
  split at h
  · rename_i hp
    have hle := (List.isPrefixOf_iff_prefix.mp hp).length_le
    cases h
    simp only [List.length_drop]
    omega
  · cases h

/-- Reading a symbol that must come next leaves less. -/
theorem expect_length_lt {symbol : List Char} {c d : Cursor} (h : c.expect symbol = (.ok (), d))
    (hs : symbol ≠ []) : d.rest.length < c.rest.length := by
  unfold expect at h
  split at h
  · rename_i ha
    cases h
    exact accept_length_lt ha hs
  · cases h

/-- Reading a token leaves less. -/
theorem token_length_lt {shape : List Char → Option (List Char × List Char)} {what : Expected}
    {c d : Cursor} {t : Token} (h : c.token shape what = (.ok t, d))
    (hs : ∀ {cs token rest}, shape cs = some (token, rest) → Splits token rest cs) :
    d.rest.length < c.rest.length := by
  unfold token at h
  split at h
  · rename_i ht
    cases h
    exact Nat.lt_of_lt_of_le (hs ht).length_lt c.skip_length_le
  · cases h

theorem identifier_length_lt {c d : Cursor} {t : Token} (h : c.identifier = (.ok t, d)) :
    d.rest.length < c.rest.length := token_length_lt h splits_of_name?

theorem literal_length_lt {c d : Cursor} {t : Token} (h : c.literal = (.ok t, d)) :
    d.rest.length < c.rest.length := token_length_lt h splits_of_literal?

theorem operator_length_lt {c d : Cursor} {op : Operator} (h : c.operator = (.ok op, d)) :
    d.rest.length < c.rest.length := by
  unfold operator at h
  split at h
  · rename_i ho
    cases h
    exact Nat.lt_of_lt_of_le (splits_of_operator? ho).length_lt c.skip_length_le
  · split at h <;> cases h

end Cursor

end TrafficMonitor.Filter
