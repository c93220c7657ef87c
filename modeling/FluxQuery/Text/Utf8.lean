/-!
# UTF-8

`Utf8.encode` writes a text as bytes and `Utf8.decode` reads bytes back, refusing them at the first sequence that
is not well formed. A `Pending` value says what a sequence that has begun still owes, so a refusal knows how long
the ill-formed part is. `Utf8.decodeLossy` never refuses: it puts U+FFFD for every maximal ill-formed part.
-/

namespace FluxQuery.Utf8

/-- The bytes of a text. -/
def encode (text : List Char) : List UInt8 := text.flatMap String.utf8EncodeChar

/-- The number of bytes of a text. -/
def byteLength (text : List Char) : Nat := text.foldr (fun c n => c.utf8Size + n) 0

/-- A sequence that has begun: `owed` bytes are missing, the next of them must lie between `low` and `high`, and
the `seen` bytes read so far carry the bits `code`. -/
structure Pending where
  owed : Nat
  low : UInt8
  high : UInt8
  code : Nat
  seen : Nat

/-- What a byte does: it completes a character, leaves a sequence pending, or cannot stand here. -/
inductive Step where
  | char (c : Char)
  | pending (p : Pending)
  | refused

/-- A byte at the start of a character. -/
def start (b : UInt8) : Step :=
  let continued (owed : Nat) (low high : UInt8) (code : UInt8) : Step := .pending ⟨owed, low, high, code.toNat, 1⟩
  if b < 0x80 then .char (Char.ofNat b.toNat)
  else if b < 0xC2 then .refused
  else if b < 0xE0 then continued 1 0x80 0xBF (b - 0xC0)
  else if b == 0xE0 then continued 2 0xA0 0xBF 0
  else if b == 0xED then continued 2 0x80 0x9F 0xD
  else if b < 0xF0 then continued 2 0x80 0xBF (b - 0xE0)
  else if b == 0xF0 then continued 3 0x90 0xBF 0
  else if b < 0xF4 then continued 3 0x80 0xBF (b - 0xF0)
  else if b == 0xF4 then continued 3 0x80 0x8F 4
  else .refused

/-- A byte inside a sequence. -/
def Pending.next (p : Pending) (b : UInt8) : Step :=
  if p.low ≤ b && b ≤ p.high then
    let code := p.code * 64 + (b - 0x80).toNat
    if p.owed ≤ 1 then .char (Char.ofNat code) else .pending ⟨p.owed - 1, 0x80, 0xBF, code, p.seen + 1⟩
  else .refused

/-- Why bytes are not UTF-8. -/
inductive Fault where
  /-- The `length` bytes from `index` on begin no character. -/
  | invalid (length index : Nat)
  /-- The bytes end inside the character that begins at `index`. -/
  | incomplete (index : Nat)
  deriving DecidableEq, Repr

def Fault.message : Fault → String
  | .invalid length index => s!"invalid utf-8 sequence of {length} bytes from index {index}"
  | .incomplete index => s!"incomplete utf-8 byte sequence from index {index}"

/-- Reads the bytes from `index` on, with `state` the sequence that has begun, if any. -/
def decodeFrom (index : Nat) : Option Pending → List UInt8 → Except Fault (List Char)
  | none, [] => .ok []
  | some p, [] => .error (.incomplete (index - p.seen))
  | state, b :: rest =>
    match (state.elim (start b) (·.next b)) with
    | .char c => (decodeFrom (index + 1) none rest).map (c :: ·)
    | .pending p => decodeFrom (index + 1) (some p) rest
    | .refused =>
      match state with
      | none => .error (.invalid 1 index)
      | some p => .error (.invalid p.seen (index - p.seen))

/-- The text that the bytes spell. -/
def decode (bytes : List UInt8) : Except Fault (List Char) := decodeFrom 0 none bytes

/-- The character that stands for an ill-formed part. -/
def replacement : Char := '�'

private def restart (emit : Option Pending → List Char) (b : UInt8) : List Char :=
  match start b with
  | .char c => c :: emit none
  | .pending p => emit (some p)
  | .refused => replacement :: emit none

/-- Reads on after `state`; a byte that a sequence cannot take ends it and starts anew. -/
def decodeLossyFrom : Option Pending → List UInt8 → List Char
  | none, [] => []
  | some _, [] => [replacement]
  | none, b :: rest => restart (decodeLossyFrom · rest) b
  | some p, b :: rest =>
    match p.next b with
    | .char c => c :: decodeLossyFrom none rest
    | .pending q => decodeLossyFrom (some q) rest
    | .refused => replacement :: restart (decodeLossyFrom · rest) b

/-- The text of any bytes. -/
def decodeLossy (bytes : List UInt8) : List Char := decodeLossyFrom none bytes

end FluxQuery.Utf8
