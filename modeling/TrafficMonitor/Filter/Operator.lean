import TrafficMonitor.Field

/-! Comparison operators. Every field can be tested for equality; times, ports and lengths can
be ordered too. -/
namespace TrafficMonitor.Filter

/-- A comparison operator. -/
inductive Operator where
  | ne | lt | le | eq | gt | ge
deriving Repr, DecidableEq

namespace Operator

/-- The operators in the alphabetical order of their symbols. -/
def all : List Operator := [ne, lt, le, eq, gt, ge]

def symbol : Operator → String
  | ne => "!="
  | lt => "<"
  | le => "<="
  | eq => "=="
  | gt => ">"
  | ge => ">="

/-- Whether the operator asks for an order, and not only for equality. -/
def isOrdering : Operator → Bool
  | eq | ne => false
  | _ => true

/-- Whether the operator holds between values that stand in the given order. -/
def admits : Operator → Ordering → Bool
  | ne, o => o != .eq
  | lt, o => o == .lt
  | le, o => o != .gt
  | eq, o => o == .eq
  | gt, o => o == .gt
  | ge, o => o != .lt

/-- The operator that holds exactly when this one does not. -/
def complement : Operator → Operator
  | ne => eq
  | lt => ge
  | le => gt
  | eq => ne
  | gt => le
  | ge => lt

end Operator

end TrafficMonitor.Filter

namespace TrafficMonitor.Field
open TrafficMonitor.Filter

/-- Whether the values of the field have an order that a filter may ask for. -/
def isOrdered : Field → Bool
  | time | sourcePort | destinationPort | length | ipPayload | transportPayload => true
  | source | destination | transport | application => false

/-- Whether a filter may use the operator on the field. -/
def supports (field : Field) (op : Operator) : Bool := field.isOrdered || !op.isOrdering

/-- The operators of the field. -/
def operators (field : Field) : List Operator := Operator.all.filter field.supports

end TrafficMonitor.Field
