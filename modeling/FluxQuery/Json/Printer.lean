import FluxQuery.Json.Number

/-!
# Writing JSON

One printer with two layouts: `Layout.compact` puts no blanks, `Layout.indented` puts every item of an array and
every member of an object on a line of its own, two blanks further in for every level.
-/

namespace FluxQuery.Json

/-- Where blanks go: at a line break on a level of nesting, and behind the colon of a member. -/
structure Layout where
  newline : Nat → List Char
  colon : List Char

def Layout.compact : Layout := ⟨fun _ => [], [':']⟩

def Layout.indented : Layout := ⟨fun level => '\n' :: List.replicate (2 * level) ' ', [':', ' ']⟩

/-- A string with its quotes. -/
def printQuoted (q : Quoted) : List Char := '"' :: (q.raw ++ ['"'])

/-- The comma before what follows, if anything does. -/
def comma {α : Type} (following : List α) : List Char := if following.isEmpty then [] else [',']

mutual

/-- A value whose brackets open on `level`. -/
def printAt (layout : Layout) (level : Nat) : Json → List Char
  | .null => ['n', 'u', 'l', 'l']
  | .bool true => ['t', 'r', 'u', 'e']
  | .bool false => ['f', 'a', 'l', 's', 'e']
  | .num n => n.print
  | .str s => printQuoted s
  | .arr [] => ['[', ']']
  | .arr items => '[' :: (printItems layout (level + 1) items ++ layout.newline level ++ [']'])
  | .obj [] => ['{', '}']
  | .obj members => '{' :: (printMembers layout (level + 1) members ++ layout.newline level ++ ['}'])

/-- The items of an array, each on a new line. -/
def printItems (layout : Layout) (level : Nat) : List Json → List Char
  | [] => []
  | item :: items =>
    layout.newline level ++ printAt layout level item ++ comma items ++ printItems layout level items

/-- The members of an object, each on a new line. -/
def printMembers (layout : Layout) (level : Nat) : List (Quoted × Json) → List Char
  | [] => []
  | (key, value) :: members =>
    layout.newline level ++ printQuoted key ++ layout.colon ++ printAt layout level value ++ comma members ++
      printMembers layout level members

end

/-- A value without blanks. -/
def compress (j : Json) : String := String.ofList (printAt .compact 0 j)

/-- A value spread over lines. -/
def pretty (j : Json) : String := String.ofList (printAt .indented 0 j)

end FluxQuery.Json
