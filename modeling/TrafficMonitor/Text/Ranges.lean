/-! Character classes as sorted lists of code point ranges. A character belongs to a
class if its code point lies between the ends of one range, both included. -/
namespace TrafficMonitor.Text

/-- Ranges of code points, first and last, in ascending order. -/
abbrev Ranges := List (Nat × Nat)

/-- Membership of a code point. The search ends at the first range that begins above it. -/
def Ranges.containsCode (n : Nat) : Ranges → Bool
  | [] => false
  | (first, last) :: rest => if n < first then false else n ≤ last || containsCode n rest

/-- Membership of a character. -/
def Ranges.contains (ranges : Ranges) (c : Char) : Bool := ranges.containsCode c.toNat

end TrafficMonitor.Text
