import TrafficMonitor.Number.Double

/-! Doubles written with a set number of decimal places. The exact value is rounded once, a
half to the even side, so the text is the decimal nearest to the double. -/
namespace TrafficMonitor.Number

/-- `n / 10 ^ places` in positional notation. -/
def point (places n : Nat) : String :=
  let whole := toString (n / Nat.pow 10 places)
  if places = 0 then whole
  else
    let digits := Nat.toDigits 10 (n % Nat.pow 10 places)
    whole ++ "." ++ String.ofList (digits.leftpad places '0')

/-- The text of a double with `places` digits after the point. -/
def fixed (places : Nat) (x : Float) : String :=
  match Double.ofFloat x with
  | .finite negative m e =>
    let (num, den) := Double.ratio m e
    (if negative then "-" else "") ++ point places (roundHalfEven (num * Nat.pow 10 places) den)
  | .infinite negative => if negative then "-inf" else "inf"
  | .notANumber => "nan"

end TrafficMonitor.Number
