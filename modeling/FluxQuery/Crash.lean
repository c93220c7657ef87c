import FluxQuery.Query.Chart
import FluxQuery.Query.Page

/-!
# Crashes

A run breaks off where a calculation has no result: where a call is asked for an argument that it does not have, or
where a time or a span leaves its range. The functions of the library are total and pass over such points, so each of
them has a companion here that gives the point, if a run of it comes to one.
-/

namespace FluxQuery

/-- What a run breaks off at. -/
inductive Crash where
  /-- The first argument of a call that has none. -/
  | argument
  /-- The instant after a cursor, outside of all years. -/
  | cursor
  /-- The start of a chart, outside of all years or at a time of day that is longer than any span. -/
  | start
  /-- The window of a chart, longer than any span. -/
  | window
  deriving DecidableEq, Repr

def Crash.message : Crash → String
  | .argument => "argument out of bounds"
  | .cursor => "time out of range"
  | .start => "offset out of range"
  | .window => "window out of range"

/-- A node has a type, is a call of `timestamp` and passes the check of how many arguments it has, after which the first
one is taken, but there is none. -/
def Context.lacksArgument (ctx : Context) : Expr → Bool
  | .call id function args =>
    ctx.types.contains id && Operator.ofName? function == some .timestamp &&
      args.length == Operator.timestamp.arity && args[0]?.isNone
  | _ => false

/-- Where `Filter.render` breaks off. -/
def Filter.crash? (f : Filter) (enum? : String → Option Enumeration) : Option Crash :=
  f.checked?.bind fun checked =>
    let ctx : Context := ⟨checked.types, enum?⟩
    if (ctx.reached checked.expr).any ctx.lacksArgument then some .argument else none

/-- Where `PageQuery.render` breaks off. -/
def PageQuery.crash? (q : PageQuery) (filter : Filter) (enum? : String → Option Enumeration) : Option Crash :=
  (filter.crash? enum?).or <|
    match filter.render enum?, Cursor.decode q.token with
    | .ok _, .ok cursor => if q.token = "" ∨ cursor.time.next.IsValid then none else some .cursor
    | _, _ => none

/-- Where `ChartQuery.render` breaks off. -/
def ChartQuery.crash? (filter : Filter) (enum? : String → Option Enumeration) (now : Instant) : Option Crash :=
  (filter.crash? enum?).or <|
    match ChartQuery.range filter enum? now with
    | .ok (_, start) =>
      if start.IsValid ∧ (Span.ofNanos? start.sinceMidnight).isSome then none else some .start
    | .error _ => none

end FluxQuery
