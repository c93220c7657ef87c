import FluxQuery.Time.Date

/-!
# Instants

Points in time, in UTC, to the nanosecond. A leap second is the second 59 of a minute with a fraction of one second
or more.
-/

namespace FluxQuery

/-- `seconds` since 1970-01-01T00:00:00Z, and `nanos` more. -/
structure Instant where
  seconds : Int
  nanos : Nat
  deriving DecidableEq, Repr

namespace Instant

/-- Nanoseconds in a second. -/
def second : Nat := 1000000000

/-- Instants from the start of the year -262143 to the end of the year 262142; a fraction of a second or more only
where a leap second can be. -/
def IsValid (t : Instant) : Prop :=
  -8334601228800 ≤ t.seconds ∧ t.seconds ≤ 8210266876799 ∧ t.nanos < 2 * second ∧
    (second ≤ t.nanos → t.seconds % 60 = 59)

instance (t : Instant) : Decidable t.IsValid := inferInstanceAs (Decidable (_ ∧ _ ∧ _ ∧ (_ → _)))

/-- The date on which the instant lies. -/
def date (t : Instant) : Date := Date.ofDay (t.seconds / 86400)

/-- Whole seconds since midnight. -/
def secondOfDay (t : Instant) : Nat := (t.seconds % 86400).toNat

/-- Nanoseconds since midnight, those of a leap second included. -/
def sinceMidnight (t : Instant) : Nat := t.secondOfDay * second + t.nanos

/-- One nanosecond later. A leap second goes on until its fraction is used up. -/
def next (t : Instant) : Instant :=
  if t.nanos + 1 = second ∨ t.nanos + 1 = 2 * second then ⟨t.seconds + 1, 0⟩ else { t with nanos := t.nanos + 1 }

end Instant

end FluxQuery
