import FluxQuery.Text.Digits
import FluxQuery.Time.Instant

/-!
# Spans

Lengths of time in nanoseconds, up to `2 ^ 63 - 1` milliseconds either way, and their Flux literals. A literal such
as `1h30m` gives each unit at most once, from hours down to nanoseconds, and leaves out those that are zero.
-/

namespace FluxQuery

/-- A length of time in nanoseconds. -/
structure Span where
  nanos : Int
  deriving DecidableEq, Repr

namespace Span

/-- The longest span. -/
def maxNanos : Int := Int64.maxValue.toInt * 1000000

/-- The span of that many nanoseconds, if it is not too long. -/
def ofNanos? (nanos : Int) : Option Span := if nanos.natAbs ≤ maxNanos then some ⟨nanos⟩ else none

/-- Whole seconds and a fraction of a second, in nanoseconds. -/
def ofParts? (seconds : Int) (nanos : Nat) : Option Span :=
  if nanos < Instant.second then ofNanos? (seconds * Instant.second + nanos) else none

/-- Nanoseconds in a minute. -/
def minute : Nat := 60 * Instant.second

def ofMinutes? (minutes : Int) : Option Span := ofNanos? (minutes * minute)

/-- The units of a literal, the longest first, with their nanoseconds. -/
def units : List (String × Nat) :=
  [("h", 3600000000000), ("m", 60000000000), ("s", 1000000000), ("ms", 1000000), ("us", 1000), ("ns", 1)]

/-- Takes as much of each unit as there is. -/
def fluxUnits : List (String × Nat) → Nat → String
  | [], _ => ""
  | (unit, size) :: units, nanos =>
    (if nanos / size == 0 then "" else toString (nanos / size) ++ unit) ++ fluxUnits units (nanos % size)

/-- The literal of a span; `0s` for one that is not positive. -/
def flux (s : Span) : String := if s.nanos ≤ 0 then "0s" else fluxUnits units s.nanos.toNat

end Span

/-- The time since midnight as a span. -/
def Instant.offset (t : Instant) : Span := ⟨t.sinceMidnight⟩

end FluxQuery
