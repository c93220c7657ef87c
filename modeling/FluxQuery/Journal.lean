import FluxQuery.Filter.Comparand
import FluxQuery.Filter.Scope
import FluxQuery.Query.Chart
import FluxQuery.Query.Page
import FluxQuery.Text.Inspect

/-!
# The journal

What the library does, told step by step for whoever wants to follow it. The functions of the library are pure and
keep no record, so each of them has a companion here that gives the events of one run in order. A run that fails
has the events up to its failure.
-/

namespace FluxQuery

inductive Event where
  | rendering (e : Expr)
  | visiting (id : NodeId)
  | rendered (fragment : String)
  | found (target : String) (id : NodeId)
  | renaming (old new : String) (id : NodeId)
  | declared (name : String) (ty : Ty)
  | pageRange (start stop measurement : String)
  | chartWindow (window offset : Span) (measurement : String)

inductive Level where
  | trace
  | debug
  deriving DecidableEq, Repr

/-- A type as the journal spells it. -/
def Ty.inspect : Ty → String
  | .scalar kind =>
    let name := match kind with
      | .bool => "Bool"
      | .int64 => "Int64"
      | .uint64 => "Uint64"
      | .double => "Double"
      | .string => "String"
      | .bytes => "Bytes"
    "Primitive(" ++ name ++ ")"
  | .message name => "Message(" ++ FluxQuery.inspect name ++ ")"
  | .wellKnown kind =>
    let name := match kind with
      | .any => "Any"
      | .timestamp => "Timestamp"
      | .duration => "Duration"
    "WellKnown(" ++ name ++ ")"
  | .list item => "ListOf(" ++ item.inspect ++ ")"

namespace Event

def level : Event → Level
  | .visiting _ => .trace
  | _ => .debug

def message : Event → String
  | .rendering e => s!"Transpiling filter expression {e.text}"
  | .visiting id => s!"Dispatching expr {id.toNat}"
  | .rendered fragment => s!"Transpiled filter to '{fragment}'"
  | .found target id => s!"Found identifier '{target}' at expr {id.toNat}"
  | .renaming old new id => s!"Renaming identifier '{old}' to '{new}' at expr {id.toNat}"
  | .declared name ty => s!"Declared identifier '{name}' as {ty.inspect}"
  | .pageRange start stop measurement => s!"Query range is {start} to {stop} for measurement '{measurement}'"
  | .chartWindow window offset measurement =>
    s!"Chart window {window.flux} with offset {offset.flux} for measurement '{measurement}'"

end Event

/-- Events of `Filter.render`. -/
def Filter.renderEvents (f : Filter) (enum? : String → Option Enumeration) : List Event :=
  match f.checked? with
  | none => []
  | some checked =>
    .rendering checked.expr :: (Context.reached ⟨checked.types, enum?⟩ checked.expr).map (.visiting ·.id) ++
      match f.render enum? with
      | .ok fragment => [.rendered fragment]
      | .error _ => []

namespace Expr

mutual

/-- The targets that `seek` meets. -/
def targets (target : String) (met : Bool) (e : Expr) : List Expr :=
  if e.isTarget target then [e]
  else if met then []
  else
    match e with
    | call _ _ args => targetsArgs target false args
    | _ => []

def targetsArgs (target : String) (met : Bool) : List Expr → List Expr
  | [] => []
  | arg :: args =>
    let (value, after) := arg.seek target met
    arg.targets target met ++ (if value ≠ "" ∧ after then [] else targetsArgs target after args)

end

/-- Events of `comparand?`. -/
def comparandEvents (e : Expr) (target : String) : List Event :=
  (e.targets target false).map fun t => .found target t.id

mutual

/-- The targets that `redirectFrom` meets, as they are before. -/
def renamed (r : Redirection) (met : Bool) (e : Expr) : List Expr :=
  if e.isTarget r.target then [e]
  else if met then []
  else
    match e with
    | call _ _ args => renamedArgs r false args
    | _ => []

def renamedArgs (r : Redirection) (met : Bool) : List Expr → List Expr
  | [] => []
  | arg :: args =>
    let here := arg.redirectFrom r met
    arg.renamed r met ++ (if here.value ≠ "" ∧ here.met then [] else renamedArgs r here.met args)

end

/-- Events of `redirect`. -/
def redirectEvents (e : Expr) (r : Redirection) : List Event :=
  (e.renamed r false).map fun t => .renaming t.name r.name t.id

end Expr

/-- Events of a declaration. -/
def Declaration.events (s : Scope) (d : Declaration) : List Event :=
  match (d.declare s).refusal, d with
  | some _, _ => []
  | none, .ident name ty => [.declared name ty]
  | none, .enumIdent name e => [.declared name (.message e.fullName)]

/-- Events of `PageQuery.render`. -/
def PageQuery.events (q : PageQuery) (filter : Filter) (enum? : String → Option Enumeration) (now : Instant) :
    List Event :=
  filter.renderEvents enum? ++
    match q.range filter enum? now with
    | .ok range => [.pageRange range.start range.stop q.source.measurement]
    | .error _ => []

/-- Events of `ChartQuery.render`. -/
def ChartQuery.events (q : ChartQuery) (filter : Filter) (enum? : String → Option Enumeration) (now : Instant) :
    List Event :=
  filter.renderEvents enum? ++
    match ChartQuery.range filter enum? now with
    | .ok (_, start) => [.chartWindow q.window start.offset q.source.measurement]
    | .error _ => []

end FluxQuery
