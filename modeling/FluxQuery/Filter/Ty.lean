import Std.Data.ExtTreeMap

/-!
# Types

The types that a checker gives to the nodes of an expression, and the table that holds them by node id.
-/

namespace FluxQuery

inductive Scalar where
  | bool
  | int64
  | uint64
  | double
  | string
  | bytes
  deriving DecidableEq, Repr

inductive WellKnown where
  | any
  | timestamp
  | duration
  deriving DecidableEq, Repr

inductive Ty where
  | scalar (kind : Scalar)
  /-- A message or an enumeration, by its full name. -/
  | message (name : String)
  | wellKnown (kind : WellKnown)
  | list (item : Ty)
  deriving DecidableEq, Repr

namespace Ty

def bool : Ty := .scalar .bool

def string : Ty := .scalar .string

def timestamp : Ty := .wellKnown .timestamp

/-- The full name of a message type; empty for every other type. -/
def messageName : Ty → String
  | .message name => name
  | _ => ""

def isTimestamp (ty : Ty) : Bool := ty == .timestamp

/-- A list of scalars. -/
def isScalarList : Ty → Bool
  | .list (.scalar _) => true
  | _ => false

end Ty

/-- The number of a node, given by the checker. -/
abbrev NodeId := UInt64

/-- The types of nodes. Nodes without an entry are untyped. -/
abbrev TypeTable := Std.ExtTreeMap NodeId Ty

end FluxQuery
