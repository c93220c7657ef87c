import FluxQuery.Text.Unseen

/-!
# Inspecting text

A text in quotes in which nothing stays hidden: quotes, backslashes and characters that are not seen are escaped.
-/

namespace FluxQuery

/-- A character inside the quotes. What has no short escape is given by its number in hexadecimal. -/
def inspectChar (c : Char) : List Char :=
  if c = '\x00' then ['\\', '0']
  else if c = '\t' then ['\\', 't']
  else if c = '\r' then ['\\', 'r']
  else if c = '\n' then ['\\', 'n']
  else if c = '"' then ['\\', '"']
  else if c = '\\' then ['\\', '\\']
  else if isUnseen c then ['\\', 'u', '{'] ++ Nat.toDigits 16 c.toNat ++ ['}']
  else [c]

def inspect (s : String) : String := String.ofList ('"' :: s.toList.flatMap inspectChar ++ ['"'])

end FluxQuery
