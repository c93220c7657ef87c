import FluxQuery.Text.Base64
import FluxQuery.Text.Utf8
import FluxQuery.Time.Rfc3339

/-!
# Cursors

Where a page of records ended: the time of its last record and the owner it was served to. A cursor travels as a
token: the time with all nine digits of its fraction, a comma and the owner, in base64.
-/

namespace FluxQuery

structure Cursor where
  time : Instant
  uid : String
  deriving DecidableEq, Repr

namespace Cursor

/-- The text inside a token. -/
def plain (c : Cursor) : List Char := Rfc3339.print .nanos c.time ++ ',' :: c.uid.toList

def encode (c : Cursor) : String := String.ofList (Base64.encode (Utf8.encode c.plain))

/-- Why a token is refused. -/
inductive Fault where
  | base64 (fault : Base64.Fault)
  | utf8 (fault : Utf8.Fault)
  | separator
  | time (fault : Rfc3339.Fault)
  deriving DecidableEq, Repr

def Fault.message : Fault → String
  | .base64 fault => fault.message
  | .utf8 fault => fault.message
  | .separator => "missing separator"
  | .time fault => fault.message

/-- The cursor of a token's text: the time is what stands before the first comma. -/
def ofPlain (text : List Char) : Except Fault Cursor :=
  match text.dropWhile (· != ',') with
  | [] => .error .separator
  | _ :: uid => do
    let time ← (Rfc3339.read (text.takeWhile (· != ','))).mapError .time
    return ⟨time, String.ofList uid⟩

def decode (token : String) : Except Fault Cursor := do
  let bytes ← (Base64.decode (Utf8.encode token.toList)).mapError .base64
  let text ← (Utf8.decode bytes).mapError .utf8
  ofPlain text

end Cursor

end FluxQuery
