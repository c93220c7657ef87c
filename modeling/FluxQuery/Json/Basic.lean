import FluxQuery.Decimal.Double
import FluxQuery.Text.Digits

/-!
# JSON

A JSON value as a tree. Objects keep their members in order and keep repeated keys; what a repetition means is
for the decoder. A string is kept as it is written between its quotes: `Quoted.text?` reads it, `Quoted.ofString`
writes it, and a key can be looked at before any escape is resolved. A number is an integer if it is written as one
and fits 64 bits, otherwise a double.
-/

namespace FluxQuery

/-- A number literal. `-0` and integers past 64 bits are doubles; a double out of range is infinite. -/
inductive Number where
  | int (n : Int)
  | double (d : Double)
  deriving DecidableEq, Repr

/-- What stands between the quotes of a string literal. -/
structure Quoted where
  raw : List Char
  deriving DecidableEq, Repr

inductive Json where
  | null
  | bool (b : Bool)
  | num (n : Number)
  | str (s : Quoted)
  | arr (items : List Json)
  | obj (members : List (Quoted × Json))
  deriving Repr

namespace Quoted

/-- The value of a hexadecimal digit. -/
def hexValue? (c : Char) : Option Nat :=
  if '0' ≤ c && c ≤ '9' then some (c.toNat - '0'.toNat)
  else if 'a' ≤ c && c ≤ 'f' then some (c.toNat - 'a'.toNat + 10)
  else if 'A' ≤ c && c ≤ 'F' then some (c.toNat - 'A'.toNat + 10)
  else none

/-- The value of four hexadecimal digits. -/
def hex4? (a b c d : Char) : Option Nat := do
  return (((← hexValue? a) * 16 + (← hexValue? b)) * 16 + (← hexValue? c)) * 16 + (← hexValue? d)

/-- The character that stands for itself or for a control character behind a backslash. -/
def unescape? : Char → Option Char
  | '"' => some '"'
  | '\\' => some '\\'
  | '/' => some '/'
  | 'b' => some '\x08'
  | 'f' => some '\x0c'
  | 'n' => some '\n'
  | 'r' => some '\r'
  | 't' => some '\t'
  | _ => none

/-- Resolves the escapes. There is no text if half of a surrogate pair stands alone. -/
def resolve : List Char → Option (List Char)
  | [] => some []
  | '\\' :: 'u' :: a :: b :: c :: d :: rest => do
    let unit ← hex4? a b c d
    if 0xD800 ≤ unit ∧ unit < 0xDC00 then
      match rest with
      | '\\' :: 'u' :: e :: f :: g :: h :: rest' =>
        let low ← hex4? e f g h
        if 0xDC00 ≤ low ∧ low < 0xE000 then
          (Char.ofNat ((unit - 0xD800) * 0x400 + (low - 0xDC00) + 0x10000) :: ·) <$> resolve rest'
        else none
      | _ => none
    else if 0xDC00 ≤ unit ∧ unit < 0xE000 then none
    else (Char.ofNat unit :: ·) <$> resolve rest
  | '\\' :: c :: rest => do
    let c ← unescape? c
    (c :: ·) <$> resolve rest
  | c :: rest => (c :: ·) <$> resolve rest

/-- The text of the string. -/
def text? (q : Quoted) : Option String := (resolve q.raw).map String.ofList

/-- A character as it is written in a string: only quote, backslash and the control characters are escaped. -/
def escape (c : Char) : List Char :=
  if c = '"' then ['\\', '"']
  else if c = '\\' then ['\\', '\\']
  else if c = '\x08' then ['\\', 'b']
  else if c = '\x0c' then ['\\', 'f']
  else if c = '\n' then ['\\', 'n']
  else if c = '\r' then ['\\', 'r']
  else if c = '\t' then ['\\', 't']
  else if c.toNat < 0x20 then
    ['\\', 'u', '0', '0', (c.toNat / 16).digitChar, (c.toNat % 16).digitChar]
  else [c]

/-- A text as it is written. -/
def ofString (s : String) : Quoted := ⟨s.toList.flatMap escape⟩

end Quoted

namespace Json

/-- A string value. -/
def string (s : String) : Json := .str (.ofString s)

/-- An integer value. -/
def int (n : Int) : Json := .num (.int n)

/-- A natural number as a value. -/
def nat (n : Nat) : Json := .num (.int n)

/-- A double, or `null` for the ones that JSON cannot write. -/
def double (d : Double) : Json := if d.isFinite then .num (.double d) else .null

/-- An object with the given members, in order. -/
def object (members : List (String × Json)) : Json := .obj (members.map fun (k, v) => (.ofString k, v))

end Json

end FluxQuery
