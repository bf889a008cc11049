import TrafficMonitor.Text.Digit

/-! Numerals of fixed width and the value of a row of digits. `value` reads digits of any
script from the most significant on; leading zeros do not change it. -/
namespace TrafficMonitor.Text

/-- `n` in decimal, filled with zeros on the left up to `width` characters. -/
def zeroPadded (width n : Nat) : List Char := (Nat.toDigits 10 n).leftpad width '0'

/-- `n` in lower-case hexadecimal, filled with zeros on the left up to `width` characters. -/
def hexadecimal (width n : Nat) : List Char := (Nat.toDigits 16 n).leftpad width '0'

/-- The text moved to the right end of a field of `width` characters. -/
def alignRight (width : Nat) (text : String) : String :=
  String.ofList (text.toList.leftpad width ' ')

/-- The text moved to the left end of a field of `width` characters. -/
def alignLeft (width : Nat) (text : String) : String :=
  String.ofList (text.toList.rightpad width ' ')

/-- The number that a row of digits of any script denotes. Other characters count as zero. -/
def value (digits : List Char) : Nat :=
  digits.foldl (fun n c => 10 * n + (digitValue? c).getD 0) 0

end TrafficMonitor.Text
