import FluxQuery.Filter.Expr
import FluxQuery.Text.Case

/-!
# The value an identifier is compared with

Two walks over the arguments of calls, depth first and from left to right, that look for an identifier by its name
in snake case. Once it has been met, the arguments that follow it in the same call carry its value: `comparand?`
reads the first string that is not empty, and `redirect` renames the identifier and overwrites the argument with a
string of its own. An empty value ends no search: the walk goes on, and whether the identifier was met is forgotten
at the end of the call.
-/

namespace FluxQuery.Expr

/-- An identifier whose name in snake case is `target`. -/
def isTarget (target : String) : Expr → Bool
  | ident _ name => snakeCase name == target
  | _ => false

mutual

/-- The value read at a node, and whether the target counts as met after it. `met` says whether it was met before in
the call around the node. -/
def seek (target : String) (met : Bool) (e : Expr) : String × Bool :=
  if e.isTarget target then ("", true)
  else if met then (e.string, true)
  else
    match e with
    | call _ _ args => seekArgs target false args
    | _ => ("", false)

def seekArgs (target : String) (met : Bool) : List Expr → String × Bool
  | [] => ("", false)
  | arg :: args =>
    let (value, met) := arg.seek target met
    if value ≠ "" ∧ met then (value, true) else seekArgs target met args

end

/-- The string that the target is compared with; empty if the whole expression is the target. -/
def comparand? (e : Expr) (target : String) : Option String :=
  let (value, met) := e.seek target false
  if met then some value else none

/-- What to look for, and the name and the value to put in its place. -/
structure Redirection where
  target : String
  name : String
  value : String

/-- The outcome of a walk that may change nodes: the node afterwards, the value put there, and whether the target
counts as met. -/
structure Redirected (α : Type) where
  node : α
  value : String
  met : Bool

mutual

/-- Renames the target, or overwrites a node after it, keeping ids. -/
def redirectFrom (r : Redirection) (met : Bool) (e : Expr) : Redirected Expr :=
  if e.isTarget r.target then ⟨ident e.id r.name, "", true⟩
  else if met then ⟨const e.id (.string r.value), r.value, true⟩
  else
    match e with
    | call id function args =>
      let after := redirectArgs r false args
      ⟨call id function after.node, after.value, after.met⟩
    | e => ⟨e, "", false⟩

def redirectArgs (r : Redirection) (met : Bool) : List Expr → Redirected (List Expr)
  | [] => ⟨[], "", false⟩
  | arg :: args =>
    let here := arg.redirectFrom r met
    if here.value ≠ "" ∧ here.met then ⟨here.node :: args, here.value, true⟩
    else
      let after := redirectArgs r here.met args
      ⟨here.node :: after.node, after.value, after.met⟩

end

/-- The expression after the redirection, and the value put there if the target was found. Nodes may have changed
even if it was not. -/
def redirect (e : Expr) (r : Redirection) : Expr × Option String :=
  let after := e.redirectFrom r false
  (after.node, if after.met then some after.value else none)

end FluxQuery.Expr
