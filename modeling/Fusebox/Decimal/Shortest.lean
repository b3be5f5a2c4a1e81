/-! The fewest decimal digits that identify a binary fraction. Everything is exact
arithmetic on naturals: a positive float is `mantissa * 2 ^ exponent`, the numbers
that round to it form an interval around it, and the shortest decimal inside that
interval is found by trying one digit, two digits, and so on. -/
namespace Fusebox.Decimal

/-- A positive binary fraction `mantissa * 2 ^ exponent`, as a 64-bit float holds it. -/
structure Binary where
  mantissa : Nat
  exponent : Int
  /-- The next smaller float is only half as far away as the next larger one. -/
  narrowBelow : Bool
deriving DecidableEq

/-- A decimal `digits * 10 ^ exponent`. -/
structure Numeral where
  digits : Nat
  exponent : Int
deriving DecidableEq

/-- The leading bit of a mantissa, which floats leave out. -/
def implicitBit : Nat := 0x10000000000000

/-- The magnitude of a finite float, whatever its sign. -/
def Binary.ofFloat (x : Float) : Binary :=
  let bits : Nat := x.toBits.toNat
  let field : Nat := bits / implicitBit % 0x800
  let fraction : Nat := bits % implicitBit
  if field = 0 then ⟨fraction, -1074, false⟩
  else ⟨implicitBit + fraction, (field : Int) - 1075, fraction == 0 && field > 1⟩

/-- A power of `base`, or one if the exponent is negative. -/
def raised (base : Nat) (power : Int) : Nat := Nat.pow base power.toNat

/-- Compares `count * 2 ^ exponent` with `digits * 10 ^ power`, without division. -/
def compareScaled (count : Nat) (exponent : Int) (numeral : Numeral) : Ordering :=
  compare (count * raised 2 exponent * raised 10 (-numeral.exponent))
    (numeral.digits * raised 10 numeral.exponent * raised 2 (-exponent))

/-- Whether a decimal rounds to this float: it lies between the halfway points to
the two neighbours, which themselves belong to the float with the even mantissa. -/
def Binary.Identifies (x : Binary) (numeral : Numeral) : Bool :=
  let quarter := x.exponent - 2
  let low := compareScaled (4 * x.mantissa - if x.narrowBelow then 1 else 2) quarter numeral
  let high := compareScaled (4 * x.mantissa + 2) quarter numeral
  if x.mantissa % 2 = 0 then low != .gt && high != .lt else low == .lt && high == .gt

/-- The largest multiple of `10 ^ power` that is not above the float. -/
def Binary.floorTo (x : Binary) (power : Int) : Nat :=
  x.mantissa * raised 2 x.exponent * raised 10 (-power) /
    (raised 10 power * raised 2 (-x.exponent))

/-- The least power of ten above the float. The binary logarithm fixes it up to
two candidates, which are then compared exactly. -/
def Binary.magnitude (x : Binary) : Int :=
  let estimate := ((Nat.log2 x.mantissa : Int) + x.exponent) * 30103 / 100000
  let above (power : Int) := compareScaled x.mantissa x.exponent ⟨1, power⟩ == .lt
  if above estimate then estimate else if above (estimate + 1) then estimate + 1 else estimate + 2

/-- The better of the two multiples of `10 ^ power` around the float, if one of
them identifies it. Of two equally close ones the larger is taken. -/
def Binary.onGrid? (x : Binary) (power : Int) : Option Numeral :=
  let below : Numeral := ⟨x.floorTo power, power⟩
  let above : Numeral := ⟨x.floorTo power + 1, power⟩
  match x.Identifies below, x.Identifies above with
  | false, false => none
  | true, false => some below
  | false, true => some above
  | true, true =>
    -- Twice the float against the sum of both decides which one is closer.
    if compareScaled (2 * x.mantissa) x.exponent ⟨below.digits + above.digits, power⟩ == .lt
    then some below else some above

/-- Seventeen digits always identify a float, so the search ends by then. -/
def mostDigits : Nat := 17

/-- The shortest decimal that identifies a positive float. -/
def Binary.shortest (x : Binary) : Numeral :=
  let magnitude := x.magnitude
  let grids := (List.range mostDigits).map fun (count : Nat) => magnitude - 1 - (count : Int)
  (grids.findSome? x.onGrid?).getD ⟨x.floorTo (magnitude - mostDigits), magnitude - mostDigits⟩

end Fusebox.Decimal
