import TrafficMonitor.Filter.Operator
import TrafficMonitor.Value

/-! Filters as trees. A formula combines leaves of any kind by `not`, `and` and `or`; the leaves
of a filter are comparisons of a field with a literal. Every operand is written in
parentheses, so the text of a formula shows its tree. -/
namespace TrafficMonitor.Filter

/-- A formula over leaves. -/
inductive Formula (α : Type) where
  | leaf (a : α)
  | not (f : Formula α)
  | and (f g : Formula α)
  | or (f g : Formula α)
deriving Repr, DecidableEq

namespace Formula

/-- The text of a formula, given the text of its leaves. -/
def display (leafText : α → List Char) : Formula α → List Char
  | leaf a => leafText a
  | not f => '!' :: '(' :: f.display leafText ++ [')']
  | and f g => '(' :: f.display leafText ++ ") && (".toList ++ g.display leafText ++ [')']
  | or f g => '(' :: f.display leafText ++ ") || (".toList ++ g.display leafText ++ [')']

/-- The leaves from left to right. -/
def leaves : Formula α → List α
  | leaf a => [a]
  | not f => f.leaves
  | and f g => f.leaves ++ g.leaves
  | or f g => f.leaves ++ g.leaves

/-- The ordinary truth value of a formula, given that of its leaves. -/
def holds (leafHolds : α → Bool) : Formula α → Bool
  | leaf a => leafHolds a
  | not f => !f.holds leafHolds
  | and f g => f.holds leafHolds && g.holds leafHolds
  | or f g => f.holds leafHolds || g.holds leafHolds

end Formula

/-- A comparison of a field with a literal. -/
structure Comparison where
  field : Field
  op : Operator
  literal : Value
deriving DecidableEq

/-- Field, operator and literal with spaces between. -/
def Comparison.display (c : Comparison) : List Char :=
  c.field.name.toList ++ ' ' :: c.op.symbol.toList ++ ' ' :: c.literal.display

end TrafficMonitor.Filter

namespace TrafficMonitor

/-- A filter on packet records. -/
abbrev Filter := Filter.Formula Filter.Comparison

/-- The canonical text of a filter. -/
def Filter.display (f : Filter) : List Char := Filter.Formula.display Filter.Comparison.display f

end TrafficMonitor
