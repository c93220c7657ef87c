import FluxQuery.Query.Source

/-!
# Pages of records

One page of the records of a source in the order of a column, and a query that counts all of them. A token from the
page before moves the start of the range just behind that page's last record.
-/

namespace FluxQuery

structure PageQuery where
  source : Source
  sortKey : String
  /-- The number of records asked for; `0` asks for the default. -/
  size : UInt64 := 0
  /-- The token of the page before. The empty token is none. -/
  token : String := ""
  deriving DecidableEq, Repr

/-- The texts of both queries, and how many records the page has at most. -/
structure RenderedPage where
  query : String
  total : String
  size : UInt64
  deriving DecidableEq, Repr

namespace PageQuery

/-- The range of the page. The token wins over any start in the filter. -/
def range (q : PageQuery) (filter : Filter) (enum? : String → Option Enumeration) (now : Instant) :
    Except PlanError TimeRange := do
  let range ← Source.range filter enum? now
  if q.token = "" then return range
  let cursor ← (Cursor.decode q.token).mapError .cursor
  return { range with start := cursor.time.next.bound }

/-- Both queries over a range. -/
def rendered (q : PageQuery) (range : TimeRange) : RenderedPage :=
  let base := q.source.render range
  let size := q.source.settings.pageSize q.size
  { query := base ++ "\n  |> group()\n  |> sort(columns: [\"" ++ q.sortKey ++ "\"])\n  |> limit(n: " ++
      toString size.toNat ++ ")"
    total := base ++ "\n  |> group()\n  |> count(column: \"" ++ q.sortKey ++ "\")"
    size }

/-- Both queries, for a range that ends at `now` if the filter does not say otherwise. -/
def render (q : PageQuery) (filter : Filter) (enum? : String → Option Enumeration) (now : Instant) :
    Except PlanError RenderedPage :=
  (q.range filter enum? now).map q.rendered

end PageQuery

end FluxQuery
