import FluxQuery.Decimal.Double
import FluxQuery.Text.Digits

/-!
# Reading decimals

A decimal with a fraction or an exponent is read into a double in steps. Its first digits make a 64-bit
significand; digits that no longer fit only count towards the exponent. The significand is rounded to a double and
then multiplied or divided by a power of ten, itself a double, with a rounding each time. For significands below
2 ^ 53 and powers up to 10 ^ 22 both are exact, so the result is the nearest double; further out it may be its
neighbour.
-/

namespace FluxQuery.Decimal

/-- The largest significand. -/
def maxSignificand : Nat := UInt64.size - 1

private def digitOf (c : Char) : Nat := c.toNat - '0'.toNat

/-- The significand after the digits before the point, and how many of them did not fit. -/
def takeWhole (significand : Nat) : List Char → Nat × Nat
  | [] => (significand, 0)
  | d :: rest =>
    if maxSignificand < significand * 10 + digitOf d then (significand, rest.length + 1)
    else takeWhole (significand * 10 + digitOf d) rest

/-- The significand after the digits behind the point, and how many of them it took. -/
def takeFraction (significand : Nat) : List Char → Nat × Nat
  | [] => (significand, 0)
  | d :: rest =>
    if maxSignificand < significand * 10 + digitOf d then (significand, 0)
    else
      let (s, n) := takeFraction (significand * 10 + digitOf d) rest
      (s, n + 1)

/-- The largest power of ten that a double can hold. -/
def maxTenPow : Nat := 308

/-- `d / 10 ^ k`, in divisions by at most `10 ^ 308`. Two such divisions leave nothing of a 64-bit significand, so
`steps` need not be more than three. -/
def divTenPow (steps : Nat) (d : Double) (k : Nat) : Double :=
  match steps with
  | 0 => ⟨0⟩
  | steps + 1 =>
    if k ≤ maxTenPow then d.div (Double.tenPow k)
    else if d.isZero then d
    else divTenPow steps (d.div (Double.tenPow maxTenPow)) (k - maxTenPow)

/-- `significand · 10 ^ exponent`; infinite where no finite double is near. -/
def scale (significand : Nat) (exponent : Int) : Double :=
  let d := Double.ofNat significand
  if exponent < 0 then divTenPow 3 d (-exponent).toNat
  else if exponent.toNat ≤ maxTenPow then d.mul (Double.tenPow exponent.toNat)
  else if d.isZero then d
  else Double.ofMagnitude false Double.infinity

/-- The double that a decimal of the given digits and power of ten is read as. -/
def toDouble (negative : Bool) (whole fraction : List Char) (exponent : Int) : Double :=
  let (s, skipped) := takeWhole 0 whole
  let (s, taken) := takeFraction s fraction
  let d := scale s (exponent + skipped - taken)
  if negative then d.negate else d

end FluxQuery.Decimal
