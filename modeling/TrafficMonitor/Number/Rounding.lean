/-! Rounding a quotient to the nearest whole number; a half goes to the even neighbour. -/
namespace TrafficMonitor.Number

/-- The whole number nearest to `num / den`, the even one of two that are equally near. -/
def roundHalfEven (num den : Nat) : Nat :=
  let whole := num / den
  let twice := 2 * (num % den)
  if twice < den then whole
  else if den < twice then whole + 1
  else if whole % 2 = 0 then whole else whole + 1

end TrafficMonitor.Number
