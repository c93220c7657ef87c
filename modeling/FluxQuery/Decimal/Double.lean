/-!
# Doubles

Numbers of the IEEE 754 binary64 format, kept as their 64 bits so that every operation on them is exact integer
arithmetic. A finite double is `mantissa · 2 ^ exponent`. `Double.round` gives the double nearest to a quotient of
two naturals, a tie going to the even mantissa; products and quotients of doubles are rounded the same way.
-/

namespace FluxQuery

/-- A binary64 number, told apart by its bits: `0` and `-0` differ, and so do two NaNs. -/
structure Double where
  bits : UInt64
  deriving DecidableEq, Repr

namespace Double

def isNegative (d : Double) : Bool := Nat.pow 2 63 ≤ d.bits.toNat

/-- The bits without the sign. -/
def magnitude (d : Double) : Nat := d.bits.toNat % Nat.pow 2 63

/-- The magnitude of the infinities; every NaN is above it. -/
def infinity : Nat := 2047 * Nat.pow 2 52

def isFinite (d : Double) : Bool := d.magnitude < infinity

def isNaN (d : Double) : Bool := infinity < d.magnitude

def isZero (d : Double) : Bool := d.magnitude == 0

/-- The whole number that is scaled by a power of two. -/
def mantissa (d : Double) : Nat :=
  if d.magnitude < Nat.pow 2 52 then d.magnitude else d.magnitude % Nat.pow 2 52 + Nat.pow 2 52

/-- The power of two that scales the mantissa. -/
def exponent (d : Double) : Int :=
  if d.magnitude < Nat.pow 2 52 then -1074 else (d.magnitude / Nat.pow 2 52 : Nat) - 1075

/-- Numerator and denominator of the magnitude of a finite double. -/
def ratio (d : Double) : Nat × Nat := (d.mantissa * Nat.pow 2 d.exponent.toNat, Nat.pow 2 (-d.exponent).toNat)

def ofMagnitude (negative : Bool) (magnitude : Nat) : Double :=
  ⟨UInt64.ofNat (if negative then magnitude + Nat.pow 2 63 else magnitude)⟩

def negate (d : Double) : Double := ofMagnitude (!d.isNegative) d.magnitude

/-- The whole number nearest to `num / den`, a tie going to the even one. -/
def roundHalfEven (num den : Nat) : Nat :=
  let whole := num / den
  let twice := 2 * (num % den)
  if twice < den then whole
  else if den < twice then whole + 1
  else whole + whole % 2

/-- The largest `e` with `2 ^ e ≤ num / den`, for positive `num` and `den`. -/
def floorLog2 (num den : Nat) : Int :=
  let e : Int := (Nat.log2 num : Int) - Nat.log2 den
  if den * Nat.pow 2 e.toNat ≤ num * Nat.pow 2 (-e).toNat then e else e - 1

/-- The double nearest to `num / den`; past the largest finite double it is infinite. -/
def round (num den : Nat) : Double :=
  if num == 0 || den == 0 then ⟨0⟩
  else
    let e := max (floorLog2 num den - 52) (-1074)
    let m := roundHalfEven (num * Nat.pow 2 (-e).toNat) (den * Nat.pow 2 e.toNat)
    -- a mantissa that rounds up to 2 ^ 53 carries into the exponent
    let magnitude := if m < Nat.pow 2 52 then m else (e + 1074).toNat * Nat.pow 2 52 + m
    ofMagnitude false (min magnitude infinity)

/-- The double nearest to a whole number. -/
def ofNat (n : Nat) : Double := round n 1

/-- The product of two finite doubles that are not negative. -/
def mul (a b : Double) : Double := round (a.ratio.1 * b.ratio.1) (a.ratio.2 * b.ratio.2)

/-- The quotient of two finite doubles that are not negative; the second is not zero. -/
def div (a b : Double) : Double := round (a.ratio.1 * b.ratio.2) (a.ratio.2 * b.ratio.1)

/-- The double nearest to `10 ^ k`. -/
def tenPow (k : Nat) : Double := ofNat (Nat.pow 10 k)

end Double

end FluxQuery
