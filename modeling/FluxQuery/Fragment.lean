import FluxQuery.Filter.Basic
import FluxQuery.Filter.Enumeration
import FluxQuery.Filter.Operator
import FluxQuery.Text.Case

/-!
# Fragments

The Flux text of a filter. A comparison becomes a stage `|> filter(fn: (r) => …)`, a comparison with a timestamp
identifier on its left becomes an anchor `field@value`, and a conjunction joins its two sides with `&&`.

Everything else is refused with a `RenderError`: disjunctions, negations, selections and lists, constants that Flux
has no text for, calls of unknown functions or with too many or too few arguments, and every identifier or call
that the type table does not know. A call is looked at before its arguments, and its arguments from left to right.
-/

namespace FluxQuery

/-- Why a filter has no fragment. -/
inductive RenderError where
  | untypedIdent (id : NodeId)
  | untypedCall (id : NodeId)
  | arity (function : String) (count : Nat)
  /-- A list, given by its text. -/
  | list (text : String)
  | unknownFunction (name : String)
  /-- A constant, given by its text. -/
  | constant (text : String)
  | select
  | negation
  | disjunction
  /-- A membership test of a kind that is not covered. -/
  | membership (kind : String)
  /-- A call of `function` on something else than a string. -/
  | timestamp (function : String)
  deriving DecidableEq, Repr

def RenderError.message : RenderError → String
  | .untypedIdent id => s!"unknown type of ident expr {id.toNat}"
  | .untypedCall id => s!"unknown type of call expr {id.toNat}"
  | .arity function count => s!"unexpected number of arguments to `{function}`: {count}"
  | .list text => s!"unsupported expr: {text}"
  | .unknownFunction name => s!"unsupported function call: {name}"
  | .constant text => s!"unsupported const expr: {text}"
  | .select => "does not support SELECT expression for now"
  | .negation => "does not support NOT expression for now"
  | .disjunction => "does not support OR logical op at the moment"
  | .membership kind => s!"TODO: add support for {kind}"
  | .timestamp function => s!"expected constant string arg to {function}"

/-- What is wrong with a filter that is refused. -/
inductive RenderError.Category where
  | unknownType
  | arity
  | malformedConstant
  | unsupported
  deriving DecidableEq, Repr

def RenderError.category : RenderError → Category
  | .untypedIdent _ | .untypedCall _ => .unknownType
  | .arity .. => .arity
  | .timestamp _ => .malformedConstant
  | .list _ | .unknownFunction _ | .constant _ | .select | .negation | .disjunction | .membership _ => .unsupported

/-- What the names and nodes of an expression stand for. -/
structure Context where
  types : TypeTable
  enum? : String → Option Enumeration

/-- The text of an operand, and whether it is an identifier that holds a point in time. -/
structure Operand where
  text : String
  isTime : Bool := false
  deriving DecidableEq, Repr

/-- A stage that keeps the records for which `condition` holds. -/
def filterStage (condition : String) : String := "|> filter(fn: (r) => " ++ condition ++ ")"

/-- The text of a comparison. -/
def Comparison.render (c : Comparison) (lhs rhs : Operand) : String :=
  if lhs.isTime then snakeCase lhs.text ++ "@" ++ rhs.text
  else filterStage ("r[\"" ++ snakeCase lhs.text ++ "\"] " ++ c.flux ++ " \"" ++ rhs.text ++ "\"")

/-- The text of a membership test. -/
def renderMembership (field value : String) : String :=
  filterStage ("contains(value: \"" ++ field ++ "\", set: \"" ++ value ++ "\")")

def Literal.render : Literal → Except RenderError String
  | .bool b => .ok (if b then "true" else "false")
  | .int n => .ok (toString n.toInt)
  | .uint n => .ok (toString n.toNat)
  | .double d => .ok d.flux
  | .string s => .ok s
  | .null => .error (.constant Literal.null.text)
  | .bytes bs => .error (.constant (Literal.bytes bs).text)

namespace Context

/-- The value of an enumeration that a bare name of that type means. -/
def enumMember? (ctx : Context) (ty : Ty) (name : String) : Option EnumMember :=
  match ty with
  | .message fullName => (ctx.enum? fullName).bind (·.member? (screamingCase (snakeCase name)))
  | _ => none

/-- An identifier of a known type: the name of an enumeration's value is written as the enumeration has it, the name
of a point in time as it stands, and any other name in snake case. -/
def renderTyped (ctx : Context) (ty : Ty) (name : String) : Operand :=
  match ctx.enumMember? ty name with
  | some member => { text := member.name }
  | none => if ty.isTimestamp then { text := name, isTime := true } else { text := snakeCase name }

def renderIdent (ctx : Context) (id : NodeId) (name : String) : Except RenderError Operand :=
  match ctx.types[id]? with
  | none => .error (.untypedIdent id)
  | some ty => .ok (ctx.renderTyped ty name)

/-- A membership test: a constant in a repeated field of scalars. -/
def renderHas (ctx : Context) (lhs rhs : Expr) : Except RenderError String :=
  match rhs with
  | .const _ value =>
    match lhs with
    | .ident id name =>
      match ctx.types[id]? with
      | none => .error (.untypedIdent id)
      | some ty =>
        if ty.isScalarList then
          value.render.map (renderMembership (ctx.renderTyped ty name).text ·)
        else .error (.membership "transpiling `:` on other types than repeated primitives")
    | .select _ (.ident ..) _ | .select _ (.select ..) _ => .error (.membership "more transpiling")
    | .select .. => .error (.membership "more complicated transpiling")
    | _ => .error (.membership "transpiling `:` where LHS is other than Ident and Select")
  | _ => .error (.membership "transpiling `:` where RHS is other than Const")

/-- The text of an expression as an operand of the call around it. -/
def render (ctx : Context) : Expr → Except RenderError Operand
  | .const _ value => value.render.map ({ text := · })
  | .ident id name => ctx.renderIdent id name
  | .select .. => .error .select
  | .list id items => .error (.list (Expr.list id items).text)
  | .call id function args =>
    match ctx.types[id]? with
    | none => .error (.untypedCall id)
    | some _ =>
      match Operator.ofName? function, args with
      | none, _ => .error (.unknownFunction function)
      | some (.compare c), [lhs, rhs] => do
        let l ← ctx.render lhs
        let r ← ctx.render rhs
        return { text := c.render l r }
      | some .and, [lhs, rhs] => do
        let l ← ctx.render lhs
        let r ← ctx.render rhs
        return { text := l.text ++ "&&" ++ r.text }
      | some .or, [lhs, rhs] => do
        let _ ← ctx.render lhs
        let _ ← ctx.render rhs
        throw .disjunction
      | some .has, [lhs, rhs] => (ctx.renderHas lhs rhs).map ({ text := · })
      | some .not, [_] => .error .negation
      | some .timestamp, [.const _ (.string s)] => .ok { text := s }
      | some .timestamp, [_] => .error (.timestamp function)
      | some _, args => .error (.arity function args.length)

/-- The nodes that `render` comes to, in order. -/
def reached (ctx : Context) : Expr → List Expr
  | .call id function args =>
    .call id function args ::
      match ctx.types[id]?, Operator.ofName? function, args with
      | some _, some (.compare _), [lhs, rhs] | some _, some .and, [lhs, rhs] | some _, some .or, [lhs, rhs] =>
        ctx.reached lhs ++ (if (ctx.render lhs).isOk then ctx.reached rhs else [])
      | _, _, _ => []
  | e => [e]

end Context

/-- The fragment of a filter; the empty filter has the empty fragment. -/
def Filter.render (f : Filter) (enum? : String → Option Enumeration) : Except RenderError String :=
  match f.checked? with
  | none => .ok ""
  | some checked => (Context.render ⟨checked.types, enum?⟩ checked.expr).map (·.text)

end FluxQuery
