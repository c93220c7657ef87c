/-!
# Dates

The proleptic Gregorian calendar. Days are numbered from 1970-01-01, and `Date.ofDay` and `Date.day` go back and
forth. Years are counted from March inside, so that the leap day is the last one of its year: four hundred such
years have 146097 days, a hundred 36524 and four 1461, the last of each being a day longer where a leap day falls.
-/

namespace FluxQuery

structure Date where
  year : Int
  month : Nat
  day : Nat
  deriving DecidableEq, Repr

namespace Date

def isLeapYear (year : Int) : Bool := year % 4 == 0 && (year % 100 != 0 || year % 400 == 0)

def daysInMonth (year : Int) (month : Nat) : Nat :=
  if month == 2 then if isLeapYear year then 29 else 28
  else if month == 4 || month == 6 || month == 9 || month == 11 then 30
  else 31

/-- A date that the calendar has. -/
def IsValid (d : Date) : Prop := 1 ≤ d.month ∧ d.month ≤ 12 ∧ 1 ≤ d.day ∧ d.day ≤ daysInMonth d.year d.month

instance (d : Date) : Decidable d.IsValid := inferInstanceAs (Decidable (_ ∧ _ ∧ _ ∧ _))

/-- The day of 0000-03-01, seen from 1970-01-01. -/
def epoch : Int := -719468

/-- Days from the start of a year in March to the start of its month `m`, March being month `0`. -/
def daysBefore (m : Nat) : Nat := (153 * m + 2) / 5

/-- The number of a day. -/
def toDay (d : Date) : Int :=
  let year := if d.month ≤ 2 then d.year - 1 else d.year
  let m := if d.month ≤ 2 then d.month + 9 else d.month - 3
  365 * year + year / 4 - year / 100 + year / 400 + daysBefore m + (d.day - 1 : Nat) + epoch

/-- The date of a day. -/
def ofDay (n : Int) : Date :=
  let since := n - epoch
  let era := since / 146097
  let left := (since % 146097).toNat
  let century := min (left / 36524) 3
  let left := left - century * 36524
  let olympiad := left / 1461
  let left := left - olympiad * 1461
  let single := min (left / 365) 3
  let left := left - single * 365
  let m := (5 * left + 2) / 153
  let year : Int := era * 400 + century * 100 + olympiad * 4 + single
  let day := left - daysBefore m + 1
  if m < 10 then ⟨year, m + 3, day⟩ else ⟨year + 1, m - 9, day⟩

end Date

end FluxQuery
