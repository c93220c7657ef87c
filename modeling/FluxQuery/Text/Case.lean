import FluxQuery.Text.Blank

/-!
# Identifier case

`snakeCase` and `screamingCase` write an identifier in words joined by underscores. A word ends where the case
changes or where letters meet digits; an acronym stays whole and its last capital opens the word that follows it
(`JSONData` is `json_data`). Blanks around the name are dropped, and space, hyphen and dot become underscores.
Only ASCII letters and digits count: every other character is kept as it stands.
-/

namespace FluxQuery.Case

/-- Characters written as the underscore between two words. -/
def isSeparator (c : Char) : Bool := c == ' ' || c == '_' || c == '-' || c == '.'

/-- A word ends between `c` and `next`. -/
def endsWord (c next : Char) : Bool :=
  (c.isUpper && next.isDigit) || (c.isLower && (next.isUpper || next.isDigit)) ||
    (c.isDigit && (next.isUpper || next.isLower))

/-- The capital `c` closes an acronym that began before it and opens the word that goes on with `next`. -/
def opensWord (prev c next : Char) : Bool := prev.isUpper && c.isUpper && next.isLower

/-- What one character becomes, seen between its neighbours: itself under `letter`, with an underscore before it if
it opens a word and after it if it ends one. -/
def spell (letter : Char → Char) (prev : Option Char) (c : Char) (next : Option Char) : List Char :=
  let before := if (prev.any fun p => next.any (opensWord p c)) then ['_'] else []
  let after := if next.any (endsWord c) then ['_'] else []
  before ++ (if isSeparator c then '_' else letter c) :: after

/-- The characters of a trimmed name, each spelled between its neighbours. -/
def spellAll (letter : Char → Char) (prev : Option Char) : List Char → List Char
  | [] => []
  | c :: rest => spell letter prev c rest.head? ++ spellAll letter (some c) rest

/-- A name as words joined by underscores, with `letter` applied to its characters. -/
def delimited (letter : Char → Char) (name : String) : String :=
  String.ofList (spellAll letter none (trim name.toList))

end FluxQuery.Case

namespace FluxQuery

/-- `pipelineUID` is `pipeline_uid`. -/
def snakeCase (name : String) : String := Case.delimited Char.toLower name

/-- `pipelineUID` is `PIPELINE_UID`. -/
def screamingCase (name : String) : String := Case.delimited Char.toUpper name

end FluxQuery
