import FluxQuery.Filter.Expr

/-!
# Filters

A filter is an expression together with the types its checker gave, or nothing at all.
-/

namespace FluxQuery

structure Checked where
  expr : Expr
  types : TypeTable := ∅
  deriving DecidableEq

/-- A filter; the empty one lets everything pass. -/
structure Filter where
  checked? : Option Checked := none
  deriving DecidableEq

namespace Filter

def isEmpty (f : Filter) : Bool := f.checked?.isNone

/-- The expression at the root. -/
def expr? (f : Filter) : Option Expr := f.checked?.map (·.expr)

end Filter

end FluxQuery
