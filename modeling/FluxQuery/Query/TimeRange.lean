/-!
# Time ranges

A fragment holds its time range as anchors among its stages. `TimeRange.split` cuts the fragment at every `&&`,
takes the bounds from the anchors `start@…` and `stop@…`, the last one of each winning, and puts all other pieces
together again in order. The cut is textual: a value that contains `&&` is cut as well.
-/

namespace FluxQuery

structure TimeRange where
  start : String
  stop : String
  /-- The stages that are left, one after the other. -/
  filters : String
  deriving DecidableEq, Repr

namespace TimeRange

/-- The pieces between the occurrences of `&&`, found from left to right. -/
def pieces : List Char → List (List Char)
  | [] => [[]]
  | '&' :: '&' :: rest => [] :: pieces rest
  | c :: rest =>
    match pieces rest with
    | piece :: more => (c :: piece) :: more
    | [] => [[c]]

/-- What follows `anchor` in a piece that begins with it. -/
def after? (anchor piece : List Char) : Option String :=
  if anchor.isPrefixOf piece then some (String.ofList (piece.drop anchor.length)) else none

/-- Takes one more piece into the range. -/
def add (range : TimeRange) (piece : List Char) : TimeRange :=
  match after? "start@".toList piece, after? "stop@".toList piece with
  | some start, _ => { range with start }
  | none, some stop => { range with stop }
  | none, none => { range with filters := range.filters ++ String.ofList piece }

/-- The range of a fragment, with the bounds to use where it has no anchor. -/
def split (fragment start stop : String) : TimeRange := (pieces fragment.toList).foldl add ⟨start, stop, ""⟩

end TimeRange

end FluxQuery
