import FluxQuery.Json.Number
import FluxQuery.Text.Utf8

/-!
# Reading JSON

`Json.read` reads one value with nothing but blanks around it. It is strict: no comments, no comma before a closing
bracket, no control characters in strings. Escapes are checked for their form only, so a string may turn out to
have no text, and a number may be out of range; both matter to whoever asks for their value. A refusal names its
cause and what is left of the text there, from which its line and column follow.
-/

namespace FluxQuery.Json

inductive Cause where
  | endInValue
  | endInString
  | endInArray
  | endInObject
  | expectedValue
  | expectedWord
  | expectedColon
  | expectedArrayEnd
  | expectedObjectEnd
  | expectedKey
  | trailingComma
  | trailingText
  | invalidNumber
  | invalidEscape
  | controlCharacter
  deriving DecidableEq, Repr

def Cause.message : Cause → String
  | .endInValue => "EOF while parsing a value"
  | .endInString => "EOF while parsing a string"
  | .endInArray => "EOF while parsing a list"
  | .endInObject => "EOF while parsing an object"
  | .expectedValue => "expected value"
  | .expectedWord => "expected ident"
  | .expectedColon => "expected `:`"
  | .expectedArrayEnd => "expected `,` or `]`"
  | .expectedObjectEnd => "expected `,` or `\x7d`"
  | .expectedKey => "key must be a string"
  | .trailingComma => "trailing comma"
  | .trailingText => "trailing characters"
  | .invalidNumber => "invalid number"
  | .invalidEscape => "invalid escape"
  | .controlCharacter => "control character (\\u0000-\\u001F) found while parsing a string"

/-- Why a text is refused, with the text from the offending character on. -/
structure Fault where
  cause : Cause
  rest : List Char
  deriving DecidableEq, Repr

/-- Line and column of the offending character, both counted from one, the column in bytes. -/
def Fault.position (text : List Char) (fault : Fault) : Nat × Nat :=
  let before := text.take (text.length - fault.rest.length)
  let line := before.reverse.takeWhile (· != '\n')
  (before.count '\n' + 1, Utf8.byteLength line + (if fault.rest.isEmpty then 0 else 1))

def Fault.message (text : List Char) (fault : Fault) : String :=
  let (line, column) := fault.position text
  s!"{fault.cause.message} at line {line} column {column}"

private def refuse {α : Type} (cause : Cause) (rest : List Char) : Except Fault α := .error ⟨cause, rest⟩

/-- Blanks of JSON. -/
def isSpace (c : Char) : Bool := c == ' ' || c == '\n' || c == '\t' || c == '\r'

def skipSpace (cs : List Char) : List Char := cs.dropWhile isSpace

/-- The rest of a word whose first letter has been seen. -/
def scanWord (word : List Char) (cs : List Char) : Except Fault (List Char) :=
  match word, cs with
  | [], cs => .ok cs
  | _ :: _, [] => refuse .endInValue []
  | w :: word, c :: cs => if w == c then scanWord word cs else refuse .expectedWord (c :: cs)

/-- What stands before the closing quote, and the text after it. -/
def scanQuoted : List Char → Except Fault (List Char × List Char)
  | [] => refuse .endInString []
  | '"' :: rest => .ok ([], rest)
  | '\\' :: 'u' :: a :: b :: c :: d :: rest =>
    if (Quoted.hex4? a b c d).isSome then do
      let (raw, rest') ← scanQuoted rest
      return ('\\' :: 'u' :: a :: b :: c :: d :: raw, rest')
    else refuse .invalidEscape rest
  | '\\' :: c :: rest =>
    if c == 'u' then refuse .endInString []
    else if (Quoted.unescape? c).isSome then do
      let (raw, rest') ← scanQuoted rest
      return ('\\' :: c :: raw, rest')
    else refuse .invalidEscape (c :: rest)
  | ['\\'] => refuse .endInString []
  | c :: rest =>
    if c.toNat < 0x20 then refuse .controlCharacter (c :: rest)
    else do
      let (raw, rest') ← scanQuoted rest
      return (c :: raw, rest')

/-- At least one digit. -/
def scanDigits (cs : List Char) : Except Fault (List Char × List Char) :=
  match cs.takeWhile Char.isDigit with
  | [] => refuse (if cs.isEmpty then .endInValue else .invalidNumber) cs
  | digits => .ok (digits, cs.dropWhile Char.isDigit)

/-- The digits before the point: a zero stands alone. -/
def scanWhole (cs : List Char) : Except Fault (List Char × List Char) := do
  let (digits, rest) ← scanDigits cs
  match digits with
  | '0' :: more@(_ :: _) => refuse .invalidNumber (more ++ rest)
  | _ => return (digits, rest)

/-- The digits behind a point, none if there is no point. -/
def scanFraction : List Char → Except Fault (List Char × List Char)
  | '.' :: rest => scanDigits rest
  | rest => .ok ([], rest)

/-- The sign of an exponent. -/
def scanSign : List Char → Bool × List Char
  | '-' :: rest => (true, rest)
  | '+' :: rest => (false, rest)
  | rest => (false, rest)

def scanExponent : List Char → Except Fault (Option Int × List Char)
  | [] => .ok (none, [])
  | c :: rest =>
    if c == 'e' || c == 'E' then do
      let (negative, rest) := scanSign rest
      let (digits, rest) ← scanDigits rest
      return (some (if negative then -(Digits.value digits : Int) else Digits.value digits), rest)
    else .ok (none, c :: rest)

/-- A number after its sign. -/
def scanNumber (negative : Bool) (cs : List Char) : Except Fault (Number × List Char) := do
  let (whole, rest) ← scanWhole cs
  let (fraction, rest) ← scanFraction rest
  let (exponent, rest) ← scanExponent rest
  return (Number.ofLiteral negative whole fraction exponent, rest)

mutual

/-- One value, blanks before it allowed. Every call takes one unit of `fuel`. -/
def scanValue (fuel : Nat) (cs : List Char) : Except Fault (Json × List Char) :=
  match fuel with
  | 0 => refuse .endInValue cs
  | fuel + 1 =>
    match skipSpace cs with
    | [] => refuse .endInValue []
    | 'n' :: rest => (scanWord ['u', 'l', 'l'] rest).map (.null, ·)
    | 't' :: rest => (scanWord ['r', 'u', 'e'] rest).map (.bool true, ·)
    | 'f' :: rest => (scanWord ['a', 'l', 's', 'e'] rest).map (.bool false, ·)
    | '"' :: rest => do
      let (raw, rest) ← scanQuoted rest
      return (.str ⟨raw⟩, rest)
    | '-' :: rest => do
      let (n, rest) ← scanNumber true rest
      return (.num n, rest)
    | '[' :: rest =>
      match skipSpace rest with
      | [] => refuse .endInArray []
      | ']' :: rest => .ok (.arr [], rest)
      | rest => do
        let (items, rest) ← scanItems fuel rest
        return (.arr items, rest)
    | '{' :: rest =>
      match skipSpace rest with
      | [] => refuse .endInObject []
      | '}' :: rest => .ok (.obj [], rest)
      | rest => do
        let (members, rest) ← scanMembers fuel rest
        return (.obj members, rest)
    | c :: rest =>
      if c.isDigit then do
        let (n, rest) ← scanNumber false (c :: rest)
        return (.num n, rest)
      else refuse .expectedValue (c :: rest)

/-- The items of an array up to its closing bracket, at least one. -/
def scanItems (fuel : Nat) (cs : List Char) : Except Fault (List Json × List Char) :=
  match fuel with
  | 0 => refuse .endInValue cs
  | fuel + 1 => do
    let (item, rest) ← scanValue fuel cs
    match skipSpace rest with
    | [] => refuse .endInArray []
    | ']' :: rest => return ([item], rest)
    | ',' :: rest =>
      match skipSpace rest with
      | ']' :: rest => refuse .trailingComma (']' :: rest)
      | rest => do
        let (items, rest) ← scanItems fuel rest
        return (item :: items, rest)
    | c :: rest => refuse .expectedArrayEnd (c :: rest)

/-- The members of an object up to its closing brace, at least one. -/
def scanMembers (fuel : Nat) (cs : List Char) : Except Fault (List (Quoted × Json) × List Char) :=
  match fuel with
  | 0 => refuse .endInValue cs
  | fuel + 1 =>
    match skipSpace cs with
    | [] => refuse .endInValue []
    | '"' :: rest => do
      let (key, rest) ← scanQuoted rest
      match skipSpace rest with
      | [] => refuse .endInObject []
      | ':' :: rest => do
        let (value, rest) ← scanValue fuel rest
        match skipSpace rest with
        | [] => refuse .endInObject []
        | '}' :: rest => return ([(⟨key⟩, value)], rest)
        | ',' :: rest =>
          match skipSpace rest with
          | '}' :: rest => refuse .trailingComma ('}' :: rest)
          | rest => do
            let (members, rest) ← scanMembers fuel rest
            return ((⟨key⟩, value) :: members, rest)
        | c :: rest => refuse .expectedObjectEnd (c :: rest)
      | c :: rest => refuse .expectedColon (c :: rest)
    | c :: rest => refuse .expectedKey (c :: rest)

end

/-- The value of a text. Every two calls read a character, so twice its length is fuel enough. -/
def read (text : List Char) : Except Fault Json := do
  let (value, rest) ← scanValue (2 * text.length + 2) text
  match skipSpace rest with
  | [] => return value
  | rest => refuse .trailingText rest

/-- The value of a text, if it is JSON. -/
def read? (text : String) : Option Json := (read text.toList).toOption

end FluxQuery.Json
