/-!
# Base64

The standard alphabet with padding. `Base64.encode` writes bytes; `Base64.decode` reads only what `encode` writes:
the padding must be there, and the bits it leaves unused must be zero. The last group, where padding may stand, is
looked at after everything before it.
-/

namespace FluxQuery.Base64

/-- The symbol of a value below 64. -/
def symbol (value : Nat) : Char :=
  if value < 26 then Char.ofNat (value + 65)
  else if value < 52 then Char.ofNat (value - 26 + 97)
  else if value < 62 then Char.ofNat (value - 52 + 48)
  else if value == 62 then '+'
  else '/'

/-- The value of a symbol's byte. -/
def value? (b : UInt8) : Option Nat :=
  if 65 ≤ b && b ≤ 90 then some (b.toNat - 65)
  else if 97 ≤ b && b ≤ 122 then some (b.toNat - 97 + 26)
  else if 48 ≤ b && b ≤ 57 then some (b.toNat - 48 + 52)
  else if b == 43 then some 62
  else if b == 47 then some 63
  else none

/-- The byte of the padding character `=`. -/
def pad : UInt8 := 61

/-- Three bytes become four symbols; a last group of one or two is padded. -/
def encode : List UInt8 → List Char
  | [] => []
  | [a] => [symbol (a.toNat / 4), symbol (a.toNat % 4 * 16), '=', '=']
  | [a, b] =>
    [symbol (a.toNat / 4), symbol (a.toNat % 4 * 16 + b.toNat / 16), symbol (b.toNat % 16 * 4), '=']
  | a :: b :: c :: rest =>
    symbol (a.toNat / 4) :: symbol (a.toNat % 4 * 16 + b.toNat / 16) ::
      symbol (b.toNat % 16 * 4 + c.toNat / 64) :: symbol (c.toNat % 64) :: encode rest

/-- Why a text is not base64. -/
inductive Fault where
  /-- The byte at `offset` cannot stand there. -/
  | symbol (byte : UInt8) (offset : Nat)
  /-- The last group has fewer than two symbols. -/
  | length (count : Nat)
  /-- The last symbol has bits that belong to no byte. -/
  | lastSymbol (byte : UInt8) (offset : Nat)
  | padding
  deriving DecidableEq, Repr

def Fault.message : Fault → String
  | .symbol byte offset => s!"Invalid symbol {byte.toNat}, offset {offset}."
  | .length count => s!"Invalid input length: {count}"
  | .lastSymbol byte offset => s!"Invalid last symbol {byte.toNat}, offset {offset}."
  | .padding => "Invalid padding"

/-- The values of symbols that begin at `offset`, none of them padding. -/
def values (offset : Nat) : List UInt8 → Except Fault (List Nat)
  | [] => .ok []
  | b :: rest =>
    match value? b with
    | none => .error (.symbol b offset)
    | some v => (values (offset + 1) rest).map (v :: ·)

/-- The last group from position `i` of it on: its values and the number of padding characters. `firstPad` is where
padding began. -/
def lastValues (groupStart i : Nat) (firstPad : Option Nat) : List UInt8 → Except Fault (List Nat × Nat)
  | [] => .ok ([], 0)
  | b :: rest =>
    if b == pad then
      if i < 2 then .error (.symbol pad (groupStart + i))
      else (lastValues groupStart (i + 1) (some (firstPad.getD i)) rest).map fun (vs, n) => (vs, n + 1)
    else
      match firstPad with
      | some p => .error (.symbol pad (groupStart + p))
      | none =>
        match value? b with
        | none => .error (.symbol b (groupStart + i))
        | some v => (lastValues groupStart (i + 1) none rest).map fun (vs, n) => (v :: vs, n)

/-- Four values become three bytes; two or three left over become one or two. -/
def join : List Nat → List UInt8
  | a :: b :: c :: d :: rest =>
    UInt8.ofNat (a * 4 + b / 16) :: UInt8.ofNat (b % 16 * 16 + c / 4) :: UInt8.ofNat (c % 4 * 64 + d) :: join rest
  | [a, b, c] => [UInt8.ofNat (a * 4 + b / 16), UInt8.ofNat (b % 16 * 16 + c / 4)]
  | [a, b] => [UInt8.ofNat (a * 4 + b / 16)]
  | _ => []

/-- The low bits of the last value that belong to no byte. -/
def spareBits (last : List Nat) : Nat :=
  match last with
  | [_, b] => b % 16
  | [_, _, c] => c % 4
  | _ => 0

/-- The values of the group that begins at `groupStart` and ends the text. -/
def decodeLast (groupStart : Nat) (group : List UInt8) : Except Fault (List Nat) := do
  let (vs, pads) ← lastValues groupStart 0 none group
  if vs.length < 2 then throw (.length (groupStart + vs.length))
  if (vs.length + pads) % 4 != 0 then throw .padding
  if spareBits vs != 0 then throw (.lastSymbol (group.getD (vs.length - 1) 0) (groupStart + vs.length - 1))
  return vs

/-- The bytes that a text, given as bytes itself, stands for. -/
def decode (text : List UInt8) : Except Fault (List UInt8) :=
  match text.getLast? with
  | none => .ok []
  | some b => do
    if text.length % 4 == 1 && b != pad && (value? b).isNone then
      throw (.symbol b (text.length - 1))
    let groupStart := (text.length - 1) / 4 * 4
    let vs ← values 0 (text.take groupStart)
    let last ← decodeLast groupStart (text.drop groupStart)
    return join (vs ++ last)

end FluxQuery.Base64
