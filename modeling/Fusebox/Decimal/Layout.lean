import Fusebox.Decimal.Shortest

/-! How floats are written. The digits are always the fewest that identify the
float; a layout decides whether whole numbers get a fraction and from which size
on an exponent is used. -/
namespace Fusebox.Decimal

/-- The choices that are left once the digits are known. -/
structure Layout where
  /-- Whole numbers are written with a fraction of zero. -/
  pointZero : Bool
  /-- Very small and very large numbers are written with an exponent. -/
  exponents : Bool

/-- Every digit in its place, and no fraction where there is none. -/
def Layout.plain : Layout := ⟨false, false⟩

/-- Always recognisable as a float, and short at any size. -/
def Layout.tagged : Layout := ⟨true, true⟩

/-- Digits and the position of the decimal point, counted from their left end. -/
def Layout.positional (layout : Layout) (digits : List Char) (point : Int) : List Char :=
  if point ≤ 0 then
    '0' :: '.' :: List.replicate (-point).toNat '0' ++ digits
  else if point.toNat < digits.length then
    digits.take point.toNat ++ '.' :: digits.drop point.toNat
  else
    digits ++ List.replicate (point.toNat - digits.length) '0' ++
      if layout.pointZero then ['.', '0'] else []

/-- One digit before the point, and the power of ten that makes up for it. -/
def Layout.scientific (digits : List Char) (point : Int) : List Char :=
  let fraction := digits.drop 1
  digits.take 1 ++ (if fraction.isEmpty then [] else '.' :: fraction) ++
    'e' :: (toString (point - 1)).toList

/-- The text of a positive decimal. An exponent is used from 10^16 upwards and
below 10^-4. -/
def Layout.magnitude (layout : Layout) (numeral : Numeral) : List Char :=
  let all := Nat.toDigits 10 numeral.digits
  let digits := (all.reverse.dropWhile (· == '0')).reverse
  let point : Int := all.length + numeral.exponent
  if layout.exponents && (point ≤ -4 || point > 16) then Layout.scientific digits point
  else layout.positional digits point

/-- The text of a float. -/
def Layout.float (layout : Layout) (x : Float) : String :=
  if x.isNaN then "NaN"
  else
    let sign := if 0x8000000000000000 ≤ x.toBits.toNat then "-" else ""
    let size :=
      if x.isInf then "inf"
      else
        let binary := Binary.ofFloat x
        if binary.mantissa = 0 then (if layout.pointZero then "0.0" else "0")
        else String.ofList (layout.magnitude binary.shortest)
    sign ++ size

end Fusebox.Decimal
