import TrafficMonitor.Filter.Formula
import TrafficMonitor.Number.Shortest
import TrafficMonitor.Record
import TrafficMonitor.Text.Quoted

/-! Evaluating filters on records. An evaluation yields a verdict: a truth value or an error,
and the comparisons that were made, in order. The right side of an `and` is skipped when the
left is false; both sides of an `or` are always evaluated. A field that the record lacks
counts as different from every literal and as below all of them. -/
namespace TrafficMonitor.Filter

/-- A tree leaf that is no comparison. -/
inductive Foreign where
  | text (t : String)
  | integer (n : Int)
  | real (x : Float)
deriving Repr, DecidableEq

/-- The text of a leaf in a message. -/
def Foreign.display : Foreign → String
  | text t => Text.quoted t
  | integer n => toString n
  | real x => Number.shortestText x

/-- The text shown for a leaf that is no comparison. -/
def Foreign.message (leaf : Foreign) : String := "not a predicate node: " ++ leaf.display

/-- Why a tree has no truth value on a record. -/
inductive EvaluationError where
  /-- A leaf that was reached is no comparison. -/
  | foreign (leaf : Foreign)
  /-- The operator asks for an order that the two kinds of values do not have. -/
  | unordered (op : Operator) (held literal : Value.Kind)
  /-- An unnamed transport protocol is compared with what is no transport protocol. -/
  | notTransport (literal : Value.Kind)
deriving Repr, DecidableEq

/-- The outcome of an evaluation and the comparisons made for it. -/
structure Verdict where
  outcome : Except EvaluationError Bool
  made : List Comparison

/-! ### One comparison -/

/-- Whether a value that is held equals a literal. All unnamed transport protocols are equal, so
for one of them the literal must be a transport protocol too. -/
def equals (held literal : Value) : Except EvaluationError Bool :=
  match held with
  | .transport p =>
    if p.isUnknown ∧ literal.kind ≠ .transport then .error (.notTransport literal.kind)
    else .ok (held.same literal)
  | _ => .ok (held.same literal)

/-- Whether a comparison holds on a record. -/
def Comparison.holds (c : Comparison) (r : Record) : Except EvaluationError Bool :=
  match c.op, r.value? c.field with
  | .eq, some held => equals held c.literal
  | .ne, some held => (equals held c.literal).map (!·)
  | .eq, none => .ok false
  | .ne, none => .ok true
  | op, none => .ok (op.admits .lt)
  | op, some held =>
    match held.compare? c.literal with
    | some order => .ok (op.admits order)
    | none => .error (.unordered op held.kind c.literal.kind)

def Comparison.judge (r : Record) (c : Comparison) : Verdict := ⟨c.holds r, [c]⟩

/-! ### Trees -/

namespace Verdict

/-- The opposite verdict. -/
def not (v : Verdict) : Verdict := ⟨v.outcome.map (!·), v.made⟩

/-- The second verdict is asked for only if the first is true. -/
def and (v : Verdict) (w : Unit → Verdict) : Verdict :=
  match v.outcome with
  | .ok true => ⟨(w ()).outcome, v.made ++ (w ()).made⟩
  | _ => v

/-- The second verdict is asked for unless the first is an error. -/
def or (v : Verdict) (w : Unit → Verdict) : Verdict :=
  match v.outcome with
  | .ok b => ⟨(w ()).outcome.map (b || ·), v.made ++ (w ()).made⟩
  | .error _ => v

end Verdict

/-- The verdict on a formula, given that on its leaves. -/
def Formula.judge (leafVerdict : α → Verdict) : Formula α → Verdict
  | leaf a => leafVerdict a
  | not f => (f.judge leafVerdict).not
  | and f g => (f.judge leafVerdict).and fun _ => g.judge leafVerdict
  | or f g => (f.judge leafVerdict).or fun _ => g.judge leafVerdict

/-- A leaf of a tree that did not come from the filter language. -/
inductive Node where
  | comparison (c : Comparison)
  | foreign (leaf : Foreign)
deriving DecidableEq

def Node.judge (r : Record) : Node → Verdict
  | comparison c => c.judge r
  | foreign leaf => ⟨.error (.foreign leaf), []⟩

/-- The verdict of a filter on a record. -/
def evaluate (f : Filter) (r : Record) : Verdict := f.judge (Comparison.judge r)

/-- Whether the record passes the filter. -/
def passes (f : Filter) (r : Record) : Bool :=
  match (evaluate f r).outcome with
  | .ok b => b
  | .error _ => false

end TrafficMonitor.Filter
