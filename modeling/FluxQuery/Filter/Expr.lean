import FluxQuery.Decimal.Layout
import FluxQuery.Filter.Ty
import FluxQuery.Text.Utf8

/-!
# Expressions

The tree of a checked filter. Every node has an id, under which its type may be found; `Expr.text` writes a tree
for people to read.
-/

namespace FluxQuery

inductive Literal where
  | null
  | bool (b : Bool)
  | int (n : Int64)
  | uint (n : UInt64)
  | double (d : Double)
  | string (s : String)
  | bytes (bs : List UInt8)
  deriving DecidableEq, Repr

/-- A literal for people to read: unsigned integers end in `u`, strings and bytes stand in quotes. -/
def Literal.text : Literal → String
  | .null => "null"
  | .bool b => if b then "true" else "false"
  | .int n => toString n.toInt
  | .uint n => toString n.toNat ++ "u"
  | .double d => d.positional
  | .string s => "\"" ++ s ++ "\""
  | .bytes bs => "b\"" ++ String.ofList (Utf8.decodeLossy bs) ++ "\""

inductive Expr where
  | const (id : NodeId) (value : Literal)
  | ident (id : NodeId) (name : String)
  | select (id : NodeId) (operand : Expr) (field : String)
  | call (id : NodeId) (function : String) (args : List Expr)
  | list (id : NodeId) (items : List Expr)
  deriving Repr

namespace Expr

def id : Expr → NodeId
  | const id _ | ident id _ | select id _ _ | call id _ _ | list id _ => id

/-- The name of an identifier; empty for every other node. -/
def name : Expr → String
  | ident _ name => name
  | _ => ""

/-- The arguments of a call; none for every other node. -/
def args : Expr → List Expr
  | call _ _ args => args
  | _ => []

/-- The value of a constant. -/
def literal? : Expr → Option Literal
  | const _ value => some value
  | _ => none

/-- The text of a string constant; empty for every other node. -/
def string : Expr → String
  | const _ (.string s) => s
  | _ => ""

mutual

/-- Calls are written as `function(arguments)`, whatever the function is. -/
def text : Expr → String
  | const _ value => value.text
  | ident _ name => name
  | select _ operand field => operand.text ++ "." ++ field
  | call _ function args => function ++ "(" ++ ", ".intercalate (texts args) ++ ")"
  | list _ items => "[" ++ ", ".intercalate (texts items) ++ "]"

def texts : List Expr → List String
  | [] => []
  | e :: es => e.text :: texts es

end

mutual

private def decEq : (a b : Expr) → Decidable (a = b)
  | const i x, const j y => decidable_of_iff (i = j ∧ x = y) (by simp)
  | ident i x, ident j y => decidable_of_iff (i = j ∧ x = y) (by simp)
  | select i x f, select j y g =>
    have := decEq x y
    decidable_of_iff (i = j ∧ x = y ∧ f = g) (by simp)
  | call i f xs, call j g ys =>
    have := decEqs xs ys
    decidable_of_iff (i = j ∧ f = g ∧ xs = ys) (by simp)
  | list i xs, list j ys =>
    have := decEqs xs ys
    decidable_of_iff (i = j ∧ xs = ys) (by simp)
  | const .., ident .. | const .., select .. | const .., call .. | const .., list .. => isFalse nofun
  | ident .., const .. | ident .., select .. | ident .., call .. | ident .., list .. => isFalse nofun
  | select .., const .. | select .., ident .. | select .., call .. | select .., list .. => isFalse nofun
  | call .., const .. | call .., ident .. | call .., select .. | call .., list .. => isFalse nofun
  | list .., const .. | list .., ident .. | list .., select .. | list .., call .. => isFalse nofun

private def decEqs : (a b : List Expr) → Decidable (a = b)
  | [], [] => isTrue rfl
  | [], _ :: _ | _ :: _, [] => isFalse nofun
  | x :: xs, y :: ys =>
    have := decEq x y
    have := decEqs xs ys
    decidable_of_iff (x = y ∧ xs = ys) (by simp)

end

instance : DecidableEq Expr := decEq

end Expr

end FluxQuery
