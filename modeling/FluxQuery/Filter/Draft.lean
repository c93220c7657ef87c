import FluxQuery.Filter.Basic
import FluxQuery.Filter.Operator
import FluxQuery.Filter.Scope

/-!
# Drafting filters

Makes checked expressions by hand, as a checker would: every node gets the next id, identifiers get their type from
the scope, and calls are of type bool. Constants, selections and lists stay untyped.

A `Bench` is a draft with a stack of the expressions made so far; a list of `Step`s on it is a program that makes a
filter, its operands being nodes that it has made before.
-/

namespace FluxQuery

/-- What has been made so far: the next free id and the types given. -/
structure Draft where
  scope : Scope
  next : NodeId := 1
  types : TypeTable := ∅

namespace Draft

/-- Takes the next id, typed if there is a type for it. -/
def fresh (d : Draft) (ty : Option Ty) : NodeId × Draft :=
  (d.next, { d with next := d.next + 1, types := ty.elim d.types (d.types.insert d.next) })

/-- An identifier typed by the scope; a name that the scope does not know stays untyped. -/
def ident (d : Draft) (name : String) : Expr × Draft :=
  let (id, d) := d.fresh (d.scope.typeOf? name)
  (.ident id name, d)

/-- An identifier of a given type. -/
def typedIdent (d : Draft) (name : String) (ty : Ty) : Expr × Draft :=
  let (id, d) := d.fresh (some ty)
  (.ident id name, d)

def const (d : Draft) (value : Literal) : Expr × Draft :=
  let (id, d) := d.fresh none
  (.const id value, d)

def select (d : Draft) (operand : Expr) (field : String) : Expr × Draft :=
  let (id, d) := d.fresh none
  (.select id operand field, d)

def list (d : Draft) (items : List Expr) : Expr × Draft :=
  let (id, d) := d.fresh none
  (.list id items, d)

/-- A call of type bool. -/
def call (d : Draft) (function : String) (args : List Expr) : Expr × Draft :=
  let (id, d) := d.fresh (some .bool)
  (.call id function args, d)

/-- A call that stays untyped. -/
def untypedCall (d : Draft) (function : String) (args : List Expr) : Expr × Draft :=
  let (id, d) := d.fresh none
  (.call id function args, d)

/-- A call of an operator. -/
def operator (d : Draft) (o : Operator) (args : List Expr) : Expr × Draft := d.call o.name args

/-- A point in time: a string, then the call around it, which is of type bool until it is given its own. -/
def timestamp (d : Draft) (value : String) : Expr × Draft :=
  let (arg, d) := d.const (.string value)
  let (e, d) := d.operator .timestamp [arg]
  (e, { d with types := d.types.insert e.id .timestamp })

/-- The filter with the given root. -/
def filter (d : Draft) (root : Option Expr) : Filter := ⟨root.map (⟨·, d.types⟩)⟩

end Draft

inductive Step where
  | ident (name : String)
  | typedIdent (name : String) (ty : Ty)
  | const (value : Literal)
  | timestamp (value : String)
  /-- Selects a field of the topmost expression. -/
  | select (field : String)
  /-- Takes the `count` topmost expressions, the deepest being the first. -/
  | list (count : Nat)
  | call (function : String) (count : Nat)
  | untypedCall (function : String) (count : Nat)
  /-- Puts the topmost expression once more, with the same ids. -/
  | duplicate
  /-- Swaps the two topmost expressions. -/
  | swap
  deriving Repr

/-- Calls an operator on as many expressions as it takes. -/
def Step.operator (o : Operator) : Step := .call o.name o.arity

structure Bench where
  draft : Draft
  /-- Expressions, the latest first. -/
  stack : List Expr := []

namespace Bench

/-- Puts a new expression on the stack. -/
def push (made : Expr × Draft) (stack : List Expr) : Bench := ⟨made.2, made.1 :: stack⟩

/-- The `count` topmost expressions in the order they were made, and the stack below them. -/
def take? (count : Nat) (stack : List Expr) : Option (List Expr × List Expr) :=
  if count ≤ stack.length then some ((stack.take count).reverse, stack.drop count) else none

/-- Does one step; there is none if the stack is too short. -/
def step? (b : Bench) : Step → Option Bench
  | .ident name => some (push (b.draft.ident name) b.stack)
  | .typedIdent name ty => some (push (b.draft.typedIdent name ty) b.stack)
  | .const value => some (push (b.draft.const value) b.stack)
  | .timestamp value => some (push (b.draft.timestamp value) b.stack)
  | .select field =>
    match b.stack with
    | operand :: stack => some (push (b.draft.select operand field) stack)
    | [] => none
  | .list count => (take? count b.stack).map fun (items, stack) => push (b.draft.list items) stack
  | .call function count =>
    (take? count b.stack).map fun (args, stack) => push (b.draft.call function args) stack
  | .untypedCall function count =>
    (take? count b.stack).map fun (args, stack) => push (b.draft.untypedCall function args) stack
  | .duplicate =>
    match b.stack with
    | top :: stack => some { b with stack := top :: top :: stack }
    | [] => none
  | .swap =>
    match b.stack with
    | top :: below :: stack => some { b with stack := below :: top :: stack }
    | _ => none

/-- Does all steps in order. -/
def run? (b : Bench) (steps : List Step) : Option Bench := steps.foldlM step? b

/-- The filter whose root is the topmost expression. -/
def filter (b : Bench) : Filter := b.draft.filter b.stack.head?

end Bench

end FluxQuery
