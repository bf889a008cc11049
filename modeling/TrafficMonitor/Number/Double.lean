import TrafficMonitor.Number.Rounding

/-! Double-precision numbers taken apart. A finite double is a sign, a whole mantissa and a
power of two, so everything printed from one is decided in exact integer arithmetic. -/
namespace TrafficMonitor.Number

/-- The value of a double: `± mantissa · 2 ^ exponent`, an infinity, or no number. -/
inductive Double where
  | finite (negative : Bool) (mantissa : Nat) (exponent : Int)
  | infinite (negative : Bool)
  | notANumber
deriving Repr, DecidableEq

namespace Double

/-- The least mantissa of a double with all its bits: two to the power of 52. -/
def leastMantissa : Nat := 0x10000000000000

/-- The least exponent of a double. -/
def leastExponent : Int := -1074

/-- Reads the sign, the eleven exponent bits and the fifty-two fraction bits. -/
def ofBits (bits : UInt64) : Double :=
  let negative := bits >>> 63 = 1
  let field := ((bits >>> 52) &&& 0x7ff).toNat
  let fraction := (bits &&& 0xfffffffffffff).toNat
  if field = 0x7ff then if fraction = 0 then .infinite negative else .notANumber
  else if field = 0 then .finite negative fraction leastExponent
  else .finite negative (fraction + leastMantissa) (leastExponent + (field - 1))

def ofFloat (x : Float) : Double := ofBits x.toBits

/-- `mantissa · 2 ^ exponent` as a quotient of whole numbers. -/
def ratio (mantissa : Nat) (exponent : Int) : Nat × Nat :=
  if 0 ≤ exponent then (mantissa * Nat.pow 2 exponent.toNat, 1)
  else (mantissa, Nat.pow 2 (-exponent).toNat)

/-- A magnitude with a sign. -/
def signed (negative : Bool) (n : Nat) : Int := if negative then -n else n

/-- The whole part, toward zero; `none` unless the double is finite. -/
def truncate? : Double → Option Int
  | .finite negative m e => let (num, den) := ratio m e; some (signed negative (num / den))
  | _ => none

/-- The nearest whole number, a half to the even side; `none` unless the double is finite. -/
def round? : Double → Option Int
  | .finite negative m e =>
    let (num, den) := ratio m e
    some (signed negative (roundHalfEven num den))
  | _ => none

/-- The least whole number beyond the doubles. It lies half a gap above the greatest of them, so
that it is no longer rounded to it. -/
def wholeLimit : Nat := 0x3fffffffffffff * Nat.pow 2 970

end Double

/-- The double nearest to a whole number, unless the number is beyond the doubles. -/
def ofInt? (n : Int) : Option Float :=
  if n.natAbs < Double.wholeLimit then some (Float.ofInt n) else none

/-- The double nearest to a number of millionths. -/
def ofMillionths (n : Nat) : Float := Float.ofScientific n true 6

end TrafficMonitor.Number
