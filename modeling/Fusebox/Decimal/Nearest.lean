/-! Decimals read as floats. The result is always the float nearest to the decimal;
numbers far outside the range of floats are recognised by their size alone. -/
namespace Fusebox.Decimal

/-- The float nearest to `digits * 10 ^ exponent`. -/
def nearest (digits : Nat) (exponent : Int) : Float :=
  -- Above 10^400 there is no finite float, below 10^-400 only zero.
  let size := ((Nat.toDigits 10 digits).length : Int) + exponent
  if digits = 0 || size < -400 then 0
  else if size > 400 then 1 / 0
  else Float.ofScientific digits (exponent < 0) exponent.natAbs

/-- The same with a sign in front; a negative zero keeps its sign. -/
def signedNearest (negative : Bool) (digits : Nat) (exponent : Int) : Float :=
  if negative then -(nearest digits exponent) else nearest digits exponent

end Fusebox.Decimal
