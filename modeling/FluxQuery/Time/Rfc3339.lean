import FluxQuery.Text.Digits
import FluxQuery.Text.Utf8
import FluxQuery.Time.Instant

/-!
# RFC 3339

Instants as text. `Rfc3339.print` writes them in UTC with a fraction of a chosen width; years that do not have four
digits get a sign. `Rfc3339.read` takes years of four digits only, any offset below a day, and the letters in
either case. It looks at the date, the time, the fraction and the offset in this order and names the first fault;
that the fields of the date and the time are in their ranges is part of the order.
-/

namespace FluxQuery.Rfc3339

/-- How many digits the fraction gets. -/
inductive Precision where
  /-- Always nine. -/
  | nanos
  /-- None, three, six or nine, the fewest that are exact. -/
  | fewest
  deriving DecidableEq, Repr

def printYear (year : Int) : List Char :=
  if 0 ≤ year ∧ year ≤ 9999 then Digits.padded 4 year.toNat
  else (if year < 0 then '-' else '+') :: Digits.padded 4 year.natAbs

def printFraction (precision : Precision) (nanos : Nat) : List Char :=
  match precision with
  | .nanos => '.' :: Digits.padded 9 nanos
  | .fewest =>
    if nanos == 0 then []
    else if nanos % 1000000 == 0 then '.' :: Digits.padded 3 (nanos / 1000000)
    else if nanos % 1000 == 0 then '.' :: Digits.padded 6 (nanos / 1000)
    else '.' :: Digits.padded 9 nanos

def printDate (d : Date) : List Char :=
  printYear d.year ++ '-' :: Digits.padded 2 d.month ++ '-' :: Digits.padded 2 d.day

/-- The time of day; a leap second is second `60`. -/
def printTime (precision : Precision) (t : Instant) : List Char :=
  let s := t.secondOfDay
  Digits.padded 2 (s / 3600) ++ ':' :: Digits.padded 2 (s / 60 % 60) ++
    ':' :: Digits.padded 2 (s % 60 + t.nanos / Instant.second) ++
    printFraction precision (t.nanos % Instant.second)

def print (precision : Precision) (t : Instant) : List Char :=
  printDate t.date ++ 'T' :: printTime precision t ++ ['Z']

inductive Fault where
  | tooShort
  | invalid
  | outOfRange
  | tooLong
  deriving DecidableEq, Repr

def Fault.message : Fault → String
  | .tooShort => "premature end of input"
  | .invalid => "input contains invalid characters"
  | .outOfRange => "input is out of range"
  | .tooLong => "trailing input"

/-- The value of a run of digits only. -/
def number (cs : List Char) : Except Fault Nat :=
  if cs.all Char.isDigit then .ok (Digits.value cs) else .error .invalid

/-- `dddd-dd-dd`, and what follows it. -/
def readDate : List Char → Except Fault (Date × List Char)
  | y₁ :: y₂ :: y₃ :: y₄ :: '-' :: m₁ :: m₂ :: '-' :: d₁ :: d₂ :: rest => do
    let date : Date := ⟨← number [y₁, y₂, y₃, y₄], ← number [m₁, m₂], ← number [d₁, d₂]⟩
    if date.IsValid then return (date, rest) else throw .outOfRange
  | _ => .error .invalid

/-- The letter between date and time, and `dd:dd:dd`: hour, minute and second, and what follows. -/
def readClock : List Char → Except Fault ((Nat × Nat × Nat) × List Char)
  | t :: h₁ :: h₂ :: ':' :: m₁ :: m₂ :: ':' :: s₁ :: s₂ :: rest => do
    if t != 'T' && t != 't' && t != ' ' then throw .invalid
    return ((← number [h₁, h₂], ← number [m₁, m₂], ← number [s₁, s₂]), rest)
  | _ => .error .invalid

/-- A point and digits, of which the first nine count: the nanoseconds, and what follows. -/
def readFraction : List Char → Except Fault (Nat × List Char)
  | '.' :: rest =>
    match rest.takeWhile Char.isDigit with
    | [] => .error (if rest.isEmpty then .tooShort else .invalid)
    | digits =>
      let nine := digits.take 9
      .ok (Digits.value nine * Nat.pow 10 (9 - nine.length), rest.dropWhile Char.isDigit)
  | rest => .ok (0, rest)

/-- Two digits for the minutes of an offset, at most `59`. -/
def readOffsetMinutes : List Char → Except Fault (Nat × List Char)
  | a :: b :: rest =>
    if '0' ≤ a && a ≤ '5' && b.isDigit then .ok (Digits.value [a, b], rest)
    else if '6' ≤ a && a ≤ '9' && b.isDigit then .error .outOfRange
    else .error .invalid
  | rest => .error (if Utf8.byteLength rest < 2 then .tooShort else .invalid)

/-- `dd:dd` after the sign of an offset, in minutes. -/
def readOffsetBody : List Char → Except Fault (Nat × List Char)
  | a :: b :: rest =>
    if a.isDigit && b.isDigit then
      match rest with
      | [] => .error .tooShort
      | ':' :: rest => (readOffsetMinutes rest).map fun (m, rest) => (Digits.value [a, b] * 60 + m, rest)
      | _ => .error .invalid
    else .error .invalid
  | rest => .error (if Utf8.byteLength rest < 2 then .tooShort else .invalid)

/-- `Z`, or a sign and `dd:dd`: minutes east of UTC, and what follows. -/
def readOffset : List Char → Except Fault (Int × List Char)
  | [] => .error .tooShort
  | c :: rest =>
    if c == 'Z' || c == 'z' then .ok (0, rest)
    else if c == '+' then (readOffsetBody rest).map fun (m, rest) => ((m : Int), rest)
    else if c == '-' || c == '−' then (readOffsetBody rest).map fun (m, rest) => (-(m : Int), rest)
    else .error .invalid

/-- The instant that a text means. Second `60` is a leap second, whatever the minute. -/
def read (cs : List Char) : Except Fault Instant := do
  if Utf8.byteLength cs < 19 then throw .tooShort
  let (date, rest) ← readDate cs
  let ((hour, minute, second), rest) ← readClock rest
  let (nanos, rest) ← readFraction rest
  if 23 < hour ∨ 59 < minute ∨ 60 < second then throw .outOfRange
  let (offset, rest) ← readOffset rest
  unless rest.isEmpty do throw .tooLong
  unless offset.natAbs < 24 * 60 do throw .outOfRange
  let seconds := date.toDay * 86400 + hour * 3600 + minute * 60 + min second 59 - offset * 60
  return ⟨seconds, if second = 60 then Instant.second + nanos else nanos⟩

end FluxQuery.Rfc3339
