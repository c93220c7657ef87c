import FluxQuery.Decimal.Layout
import FluxQuery.Decimal.Reading
import FluxQuery.Json.Basic

/-!
# Numbers in JSON text

`Number.ofLiteral` is the value of a literal given by its parts, and `Number.print` writes a number so that its
text has a point or an exponent exactly if it is a double.
-/

namespace FluxQuery.Number

/-- The value of a literal. Without fraction and exponent it is an integer if it lies in `-2 ^ 63 … 2 ^ 64 - 1` and
is not `-0`. -/
def ofLiteral (negative : Bool) (whole fraction : List Char) (exponent : Option Int) : Number :=
  let n := Digits.value whole
  if fraction.isEmpty && exponent.isNone && !negative && n < UInt64.size then .int n
  else if fraction.isEmpty && exponent.isNone && negative && 0 < n && n ≤ Nat.pow 2 63 then .int (-n)
  else .double (Decimal.toDouble negative whole fraction (exponent.getD 0))

/-- An integer with its sign. -/
def printInt (n : Int) : List Char :=
  if n < 0 then '-' :: Digits.ofNat n.natAbs else Digits.ofNat n.natAbs

/-- A finite double other than zero: positional from `1e-5` up to sixteen places before the point, otherwise with
an exponent. A whole number keeps one zero behind the point. -/
def printShortest (s : Decimal.Shortest) : List Char :=
  if -5 ≤ s.exponent ∧ s.exponent < 16 then
    s.whole ++ '.' :: (if 0 ≤ s.point then ['0'] else s.fraction)
  else s.mantissa ++ 'e' :: printInt s.exponent

/-- A finite double. -/
def printDouble (d : Double) : List Char :=
  let text := if d.isZero then ['0', '.', '0'] else printShortest (Decimal.shortest .even d)
  if d.isNegative then '-' :: text else text

def print : Number → List Char
  | .int n => printInt n
  | .double d => printDouble d

end FluxQuery.Number
