import FluxQuery.Query.Source
import FluxQuery.Time.Span

/-!
# Charts

Counts of the records of a source in windows of time. Flux lays windows out from the Unix epoch and not from the
start of the range, so they are shifted by the time of day at which the range starts.
-/

namespace FluxQuery

structure ChartQuery where
  source : Source
  /-- The column counted in each window. -/
  countColumn : String
  /-- The column with one series for each of its values. -/
  groupKey? : Option String := none
  window : Span := ⟨60 * Span.minute⟩
  deriving DecidableEq, Repr

namespace ChartQuery

/-- Sets the window; one that is shorter than a minute becomes an hour. -/
def withWindow (q : ChartQuery) (window : Span) : ChartQuery :=
  { q with window := if window.nanos < Span.minute then ⟨60 * Span.minute⟩ else window }

/-- One of the things that can be asked of a chart. -/
inductive Choice where
  | window (span : Span)
  | groupBy (key : String)
  | owner (owner : String)
  deriving DecidableEq, Repr

def choose (q : ChartQuery) : Choice → ChartQuery
  | .window span => q.withWindow span
  | .groupBy key => { q with groupKey? := some key }
  | .owner owner => { q with source.owner? := some owner }

/-- A chart of hours, with all that is asked of it, one thing after the other. -/
def ofChoices (settings : Settings) (measurement countColumn : String) (choices : List Choice) : ChartQuery :=
  choices.foldl choose { source := { settings, measurement }, countColumn }

/-- The range of the chart and the instant at which it starts. -/
def range (filter : Filter) (enum? : String → Option Enumeration) (now : Instant) :
    Except PlanError (TimeRange × Instant) := do
  let range ← Source.range filter enum? now
  let start ← (Rfc3339.read range.start.toList).mapError (.rangeStart range.start)
  return (range, start)

/-- The stages behind the source, the windows shifted by `offset`. -/
def stages (q : ChartQuery) (offset : Span) : List String :=
  [match q.groupKey? with
    | some key => "  |> group(columns: [\"" ++ key ++ "\"])"
    | none => "  |> group()",
    "  |> sort(columns: [\"" ++ q.countColumn ++ "\"])",
    "  |> aggregateWindow(every: " ++ q.window.flux ++ ", column: \"" ++ q.countColumn ++
      "\", fn: count, createEmpty: false, offset: " ++ offset.flux ++ ")"]

/-- The query, for a range that ends at `now` if the filter does not say otherwise. -/
def render (q : ChartQuery) (filter : Filter) (enum? : String → Option Enumeration) (now : Instant) :
    Except PlanError String := do
  let (range, start) ← ChartQuery.range filter enum? now
  return "\n".intercalate (q.source.lines range ++ q.stages start.offset)

end ChartQuery

end FluxQuery
