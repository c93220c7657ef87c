import FluxQuery.Decimal.Shortest

/-!
# Laying out a decimal

A shortest decimal is written positionally (`0.00012`) or as a mantissa with one digit before the point (`1.2`),
to which an exponent is put (`1.2e-04`). Which of them is used where, and how infinities are spelled, is for the
text that the number goes into.
-/

namespace FluxQuery.Decimal

/-- The digits of the decimal, without the zeros around them. -/
def Shortest.text (s : Shortest) : List Char := Digits.ofNat s.digits

/-- The power of ten of the first digit. -/
def Shortest.exponent (s : Shortest) : Int := s.text.length - 1 + s.point

/-- The digits before the point, at least one. -/
def Shortest.whole (s : Shortest) : List Char :=
  if 0 ≤ s.point then s.text ++ List.replicate s.point.toNat '0'
  else
    let before := s.text.take (s.text.length - (-s.point).toNat)
    if before.isEmpty then ['0'] else before

/-- The digits behind the point. -/
def Shortest.fraction (s : Shortest) : List Char :=
  let places := (-s.point).toNat
  List.replicate (places - s.text.length) '0' ++ s.text.drop (s.text.length - places)

def pointed (whole fraction : List Char) : List Char :=
  if fraction.isEmpty then whole else whole ++ '.' :: fraction

/-- All places, no exponent. -/
def Shortest.positional (s : Shortest) : List Char := pointed s.whole (if 0 ≤ s.point then [] else s.fraction)

/-- The first digit, and the others behind the point. -/
def Shortest.mantissa (s : Shortest) : List Char := pointed (s.text.take 1) (s.text.drop 1)

end FluxQuery.Decimal

namespace FluxQuery

def signed (negative : Bool) (text : List Char) : String :=
  String.ofList (if negative then '-' :: text else text)

/-- A double with all its places: `1e21` is `1000000000000000000000`, and whole numbers have no point. -/
def Double.positional (d : Double) : String :=
  if d.isNaN then "NaN"
  else if !d.isFinite then signed d.isNegative "inf".toList
  else if d.isZero then signed d.isNegative ['0']
  else signed d.isNegative (Decimal.shortest .up d).positional

/-- A double as Flux spells it: with an exponent of at least two digits below `1e-4` and from `1e6` on. -/
def Double.flux (d : Double) : String :=
  if d.isNaN then "NaN"
  else if !d.isFinite then if d.isNegative then "-Inf" else "+Inf"
  else if d.isZero then d.positional
  else
    let s := Decimal.shortest .up d
    if s.exponent < -4 || 6 ≤ s.exponent then
      let sign := if s.exponent < 0 then '-' else '+'
      signed d.isNegative (s.mantissa ++ 'e' :: sign :: Digits.padded 2 s.exponent.natAbs)
    else d.positional

end FluxQuery
