import TrafficMonitor.Number.Double
import TrafficMonitor.Text.Numeral

/-! The shortest decimal that reads back as a given double. Every real number within half a gap of
a double is read as that double, the ends of this interval only if the mantissa is even. Of the
decimals in it, `shortest?` takes one with the fewest digits, and of those the nearest.
`shortestText` writes it out: in positional notation from one ten-thousandth up to below ten to
the sixteenth, and with an exponent of at least two digits beyond. -/
namespace TrafficMonitor.Number

/-- The number `digits · 10 ^ exponent`. -/
structure Decimal where
  digits : Nat
  exponent : Int
deriving Repr, DecidableEq

/-- A power with any exponent, as a quotient of whole numbers. -/
def powerRatio (base : Nat) (exponent : Int) : Nat × Nat :=
  (base.pow exponent.toNat, base.pow (-exponent).toNat)

/-- The order of `d` and `n · 2 ^ e`. -/
def Decimal.compareWith (d : Decimal) (n : Nat) (e : Int) : Ordering :=
  let (ten, tenth) := powerRatio 10 d.exponent
  let (two, half) := powerRatio 2 e
  compare (d.digits * ten * half) (n * two * tenth)

/-! ### The interval of a double

In quarters of a unit of the mantissa, the double `m · 2 ^ e` is `4 · m`. The gap below it is half
as wide as the gap above if the mantissa is the least one of its exponent. -/

/-- The lower end of the interval, in quarters. -/
def lowQuarters (m : Nat) (e : Int) : Nat :=
  if m = Double.leastMantissa ∧ Double.leastExponent < e then 4 * m - 1 else 4 * m - 2

/-- The upper end of the interval, in quarters. -/
def highQuarters (m : Nat) : Nat := 4 * m + 2

/-- Whether a decimal reads back as the double `m · 2 ^ e`. -/
def Decimal.readsAs (d : Decimal) (m : Nat) (e : Int) : Bool :=
  let low := d.compareWith (lowQuarters m e) (e - 2)
  let high := d.compareWith (highQuarters m) (e - 2)
  (low == .gt || low == .eq && m % 2 = 0) && (high == .lt || high == .eq && m % 2 = 0)

/-! ### The search -/

/-- The multiples of a power of ten just below and just above `m · 2 ^ e`. -/
def neighbours (m : Nat) (e exponent : Int) : Decimal × Decimal :=
  let (ten, tenth) := powerRatio 10 exponent
  let (two, half) := powerRatio 2 e
  let below := m * two * tenth / (ten * half)
  (⟨below, exponent⟩, ⟨below + 1, exponent⟩)

/-- The one of two neighbours that is nearer to `m · 2 ^ e`, the even one if both are as near. -/
def nearer (below above : Decimal) (m : Nat) (e : Int) : Decimal :=
  match (⟨2 * below.digits + 1, below.exponent⟩ : Decimal).compareWith (2 * m) e with
  | .gt => below
  | .lt => above
  | .eq => if below.digits % 2 = 0 then below else above

/-- The nearest multiple of a power of ten that reads back, if one does. -/
def onGrid? (m : Nat) (e exponent : Int) : Option Decimal :=
  let two := neighbours m e exponent
  match two.1.readsAs m e, two.2.readsAs m e with
  | true, true => some (nearer two.1 two.2 m e)
  | true, false => some two.1
  | false, true => some two.2
  | false, false => none

/-- The greatest power of ten that can be the last place of a shortest decimal. -/
def greatestPlace : Int := 309

/-- The powers of ten from the greatest place to that of the smallest double. -/
def placeCount : Nat := 634

/-- The shortest decimal of `m · 2 ^ e`, found on the coarsest grid that has one. -/
def shortest? (m : Nat) (e : Int) : Option Decimal :=
  (List.range placeCount).findSome? fun i => onGrid? m e (greatestPlace - (i : Nat))

/-! ### The text -/

/-- The digits with the point after the first `n`, and zeros where digits are missing. -/
def positional (digits : List Char) (n : Int) : List Char :=
  if n ≤ 0 then '0' :: '.' :: List.replicate (-n).toNat '0' ++ digits
  else
    let whole := (digits.take n.toNat).rightpad n.toNat '0'
    let rest := digits.drop n.toNat
    whole ++ '.' :: (if rest.isEmpty then ['0'] else rest)

/-- One digit before the point, and the exponent that moves the point to its place. -/
def scientific (digits : List Char) (exponent : Int) : List Char :=
  let mantissa := match digits with
    | first :: second :: rest => first :: '.' :: second :: rest
    | digits => digits
  mantissa ++ 'e' :: (if exponent < 0 then '-' else '+') :: Text.zeroPadded 2 exponent.natAbs

/-- The text of a decimal. -/
def Decimal.text (d : Decimal) : List Char :=
  let digits := Nat.toDigits 10 d.digits
  let point := digits.length + d.exponent
  if -4 < point ∧ point ≤ 16 then positional digits point else scientific digits (point - 1)

/-- The shortest text that reads back as a double. -/
def shortestText (x : Float) : String :=
  match Double.ofFloat x with
  | .finite negative m e =>
    let magnitude := if m = 0 then ['0', '.', '0'] else ((shortest? m e).map Decimal.text).getD []
    (if negative then "-" else "") ++ String.ofList magnitude
  | .infinite negative => if negative then "-inf" else "inf"
  | .notANumber => "nan"

end TrafficMonitor.Number
