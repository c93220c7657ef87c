/-!
# Operators

The functions that a filter may call, with the names that calls carry.
-/

namespace FluxQuery

inductive Comparison where
  | eq
  | ne
  | lt
  | le
  | gt
  | ge
  deriving DecidableEq, Repr

inductive Operator where
  /-- Membership in a repeated field, written `:`. -/
  | has
  | compare (how : Comparison)
  | and
  | or
  | not
  /-- Marks a string as a point in time. -/
  | timestamp
  deriving DecidableEq, Repr

namespace Comparison

/-- The name in a call. -/
def name : Comparison → String
  | .eq => "="
  | .ne => "!="
  | .lt => "<"
  | .le => "<="
  | .gt => ">"
  | .ge => ">="

/-- The operator in Flux. -/
def flux : Comparison → String
  | .eq => "=="
  | .ne => "!="
  | .lt => "<"
  | .le => "<="
  | .gt => ">"
  | .ge => ">="

end Comparison

namespace Operator

def all : List Operator :=
  [.has, .compare .eq, .compare .ne, .compare .lt, .compare .le, .compare .gt, .compare .ge, .and, .or, .not,
    .timestamp]

/-- The name in a call. -/
def name : Operator → String
  | .has => ":"
  | .compare c => c.name
  | .and => "AND"
  | .or => "OR"
  | .not => "NOT"
  | .timestamp => "timestamp"

/-- The operator that a call of that name means. -/
def ofName? (name : String) : Option Operator := all.find? (·.name == name)

/-- How many arguments a call must have. -/
def arity : Operator → Nat
  | .not | .timestamp => 1
  | _ => 2

end Operator

end FluxQuery
