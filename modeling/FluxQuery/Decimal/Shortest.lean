import FluxQuery.Decimal.Double
import FluxQuery.Text.Digits

/-!
# Shortest decimals

The fewest digits that still single out a double: of all decimals that round to it, one with the fewest digits,
and of those the nearest. If two are equally near, a `Tie` says which is taken. The search tries one digit, then
two, and so on up to seventeen, which are always enough; on each grid only the two neighbours of the value can be
the answer.
-/

namespace FluxQuery.Decimal

/-- Which of two decimals that are equally near is taken. -/
inductive Tie where
  /-- The one farther from zero. -/
  | up
  /-- The one whose last digit is even. -/
  | even
  deriving DecidableEq, Repr

/-- Whether a value between `below` and the next whole number, `rest / den` above `below`, is rounded up. -/
def Tie.roundsUp (tie : Tie) (below rest den : Nat) : Bool :=
  match tie with
  | .up => den ≤ 2 * rest
  | .even => den < 2 * rest || (den == 2 * rest && below % 2 == 1)

/-- `digits · 10 ^ point`, where `digits` is a whole number. -/
structure Shortest where
  digits : Nat
  point : Int
  deriving DecidableEq, Repr

/-- A finite positive double with its rounding interval, all over the denominator `den`: the value is `value / den`
and the reals between `low / den` and `high / den` round to it, the two ends included if `closed`. -/
structure Interval where
  value : Nat
  low : Nat
  high : Nat
  den : Nat
  closed : Bool

/-- Below a power of two the doubles lie twice as close, so the lower half of the interval is half as long there. -/
def Interval.of (d : Double) : Interval :=
  let unit := Nat.pow 2 d.exponent.toNat
  let lower := if d.mantissa == Nat.pow 2 52 && Nat.pow 2 53 ≤ d.magnitude then 1 else 2
  { value := 4 * d.mantissa * unit
    low := (4 * d.mantissa - lower) * unit
    high := (4 * d.mantissa + 2) * unit
    den := 4 * Nat.pow 2 (-d.exponent).toNat
    closed := d.mantissa % 2 == 0 }

/-- Whether `n · 10 ^ point` lies in the interval. -/
def Interval.holds (i : Interval) (n : Nat) (point : Int) : Bool :=
  let x := n * Nat.pow 10 point.toNat * i.den
  let scale := Nat.pow 10 (-point).toNat
  if i.closed then i.low * scale ≤ x && x ≤ i.high * scale else i.low * scale < x && x < i.high * scale

/-- The largest `k` with `10 ^ k ≤ value / den`, searched downwards from an upper bound. -/
def floorLog10 (value den : Nat) : Nat → Int → Int
  | 0, k => k
  | steps + 1, k =>
    if den * Nat.pow 10 k.toNat ≤ value * Nat.pow 10 (-k).toNat then k else floorLog10 value den steps (k - 1)

/-- The neighbour of the value on the grid of multiples of `10 ^ point` that lies in the interval; of two the
nearer. -/
def Interval.onGrid (i : Interval) (tie : Tie) (point : Int) : Option Nat :=
  let num := i.value * Nat.pow 10 (-point).toNat
  let den := i.den * Nat.pow 10 point.toNat
  let below := num / den
  match i.holds below point, i.holds (below + 1) point with
  | true, true => some (if tie.roundsUp below (num % den) den then below + 1 else below)
  | true, false => some below
  | false, true => some (below + 1)
  | false, false => none

/-- Tries grids of more and more digits; `point` is the grid to start with. -/
def Interval.search (i : Interval) (tie : Tie) : Nat → Int → Shortest
  | 0, point => ⟨i.value * Nat.pow 10 (-point).toNat / (i.den * Nat.pow 10 point.toNat), point⟩
  | steps + 1, point =>
    match i.onGrid tie point with
    | some n => ⟨n, point⟩
    | none => i.search tie steps (point - 1)

/-- The place of the first digit of the value: its power of two times the logarithm of two, and at most one more. -/
def Interval.firstPlace (i : Interval) : Int :=
  floorLog10 i.value i.den 4 ((Double.floorLog2 i.value i.den * 30103).fdiv 100000 + 1)

/-- The shortest decimal of a finite double other than zero, without its sign. Its last digit is not zero. -/
def shortest (tie : Tie) (d : Double) : Shortest :=
  let s := (Interval.of d).search tie 17 (Interval.of d).firstPlace
  if s.digits % 10 == 0 then ⟨s.digits / 10, s.point + 1⟩ else s

end FluxQuery.Decimal
