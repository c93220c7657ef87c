import FluxQuery.Fragment
import FluxQuery.Query.Cursor
import FluxQuery.Query.Settings
import FluxQuery.Query.TimeRange

/-!
# The records behind a query

The part that all queries have in common: which records they read. `Source.render` gives its lines, from the bucket
to the stages of the filter; a query adds its own stages to them.
-/

namespace FluxQuery

/-- Why a query cannot be planned. -/
inductive PlanError where
  | render (error : RenderError)
  | cursor (fault : Cursor.Fault)
  /-- The range begins at a text that is no time. -/
  | rangeStart (value : String) (fault : Rfc3339.Fault)
  | settings (error : Settings.FileError)
  deriving DecidableEq, Repr

def PlanError.message : PlanError → String
  | .render error => s!"Failed to transpile filter: {error.message}"
  | .cursor fault => s!"Invalid page token: {fault.message}"
  | .rangeStart value fault => s!"Invalid range start `{value}`: {fault.message}"
  | .settings error => error.message

/-- The records of one measurement, of one owner if there is one. -/
structure Source where
  settings : Settings
  measurement : String
  owner? : Option String := none
  deriving DecidableEq, Repr

/-- An instant as the bound of a range. -/
def Instant.bound (t : Instant) : String := String.ofList (Rfc3339.print .fewest t)

namespace Source

/-- Where a range starts that nothing narrows. -/
def beginning : String := "0001-01-01T00:00:00Z"

/-- The range of a filter, which ends at `now` if the filter does not say otherwise. -/
def range (filter : Filter) (enum? : String → Option Enumeration) (now : Instant) : Except PlanError TimeRange :=
  (filter.render enum?).mapError .render |>.map (TimeRange.split · beginning now.bound)

/-- The lines that read the records of a range. -/
def lines (s : Source) (range : TimeRange) : List String :=
  ["from(bucket: \"" ++ s.settings.bucket ++ "\")",
    "  |> range(start: " ++ range.start ++ ", stop: " ++ range.stop ++ ")",
    "  " ++ filterStage ("r[\"_measurement\"] == \"" ++ s.measurement ++ "\""),
    "  |> pivot(rowKey: [\"" ++ s.settings.timeColumn ++ "\"], columnKey: [\"_field\"], valueColumn: \"_value\")"] ++
  (s.owner?.map fun owner => "  " ++ filterStage ("r[\"owner_uid\"] == \"" ++ owner ++ "\"")).toList ++
  (if range.filters = "" then [] else ["  " ++ range.filters])

def render (s : Source) (range : TimeRange) : String := "\n".intercalate (s.lines range)

end Source

end FluxQuery
