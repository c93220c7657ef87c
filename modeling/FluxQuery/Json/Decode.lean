import FluxQuery.Json.Printer
import FluxQuery.Json.Reader
import Std.Data.ExtTreeMap

/-!
# Decoding JSON values

How the library's values are told from JSON. A record is an object of its fields or an array of them in order; an
alternative is an object with its name as the only key, or just its name if it carries nothing; a table is an
object. Members that a record does not know are skipped without a look at their values, so only what is decoded
counts towards the nesting limit: every array and object takes one from the `depth` that a decoder is given, and
`maxDepth` is what a whole text has.
-/

namespace FluxQuery.Json

/-- The deepest nesting of arrays and objects that is read. -/
def maxDepth : Nat := 127

/-- The text of a string. -/
def asString? : Json → Option String
  | .str s => s.text?
  | _ => none

/-- An integer in a range. -/
def asInt? (low high : Int) : Json → Option Int
  | .num (.int n) => if low ≤ n ∧ n ≤ high then some n else none
  | _ => none

def asUInt64? (j : Json) : Option UInt64 := (asInt? 0 (UInt64.size - 1 : Nat) j).map (UInt64.ofNat ·.toNat)

def asInt64? (j : Json) : Option Int64 := (asInt? Int64.minValue.toInt Int64.maxValue.toInt j).map Int64.ofInt

def asInt32? (j : Json) : Option Int32 := (asInt? Int32.minValue.toInt Int32.maxValue.toInt j).map Int32.ofInt

def asByte? (j : Json) : Option UInt8 := (asInt? 0 255 j).map (UInt8.ofNat ·.toNat)

/-- A finite double, which may be written as an integer. -/
def asDouble? : Json → Option Double
  | .num (.int n) => some (if n < 0 then (Double.ofNat n.natAbs).negate else Double.ofNat n.natAbs)
  | .num (.double d) => if d.isFinite then some d else none
  | _ => none

def asBool? : Json → Option Bool
  | .bool b => some b
  | _ => none

/-- The items of an array, each decoded one level further in. -/
def asList? {α : Type} (item : Nat → Json → Option α) : Nat → Json → Option (List α)
  | depth + 1, .arr items => items.mapM (item depth)
  | _, _ => none

/-- Members with their keys read; there are none if a key has no text. -/
def keyed? (members : List (Quoted × Json)) : Option (List (String × Json)) :=
  members.mapM fun (key, value) => key.text?.map (·, value)

/-- The only member of that name: `some none` if there is none of it, `none` if it is repeated. -/
def sole? (name : String) (members : List (String × Json)) : Option (Option Json) :=
  match members.filter (·.1 == name) with
  | [] => some none
  | [(_, value)] => some (some value)
  | _ => none

/-- The fields of a record by the order of `names`, `none` for those left out. -/
def asFields? (names : List String) : Json → Option (List (Option Json))
  | .obj members => do
    let members ← keyed? members
    names.mapM (sole? · members)
  | .arr items =>
    if items.length ≤ names.length then
      some (items.map some ++ List.replicate (names.length - items.length) none)
    else none
  | _ => none

/-- The name of an alternative and what it carries. -/
def asVariant? : Json → Option (String × Option Json)
  | .str s => s.text?.map (·, none)
  | .obj [(key, value)] => key.text?.map (·, some value)
  | _ => none

/-- An alternative that carries nothing, given as its name or with `null`. -/
def asName? (depth : Nat) (j : Json) : Option String :=
  match j, asVariant? j with
  | .str _, some (name, none) => some name
  | _, some (name, some .null) => if 0 < depth then some name else none
  | _, _ => none

/-- A field that takes its default when left out. -/
def orDefault {α : Type} (default : α) (decode : Json → Option α) : Option Json → Option α
  | none => some default
  | some j => decode j

/-- The entries of a table under decoded keys; a repeated key keeps its last value. -/
def asTable? {κ α : Type} [Ord κ] [Std.TransOrd κ] (key : Quoted → Option κ) (value : Nat → Json → Option α) :
    Nat → Json → Option (Std.ExtTreeMap κ α)
  | depth + 1, .obj members => do
    let entries ← members.mapM fun (k, v) => do return (← key k, ← value depth v)
    return entries.foldl (fun table (k, v) => table.insert k v) ∅
  | _, _ => none

/-- A table as an object, keys in order. -/
def ofTable {κ α : Type} [Ord κ] [Std.TransOrd κ] (key : κ → String) (value : α → Json)
    (table : Std.ExtTreeMap κ α) : Json :=
  object (table.toList.map fun (k, v) => (key k, value v))

/-- What a whole text decodes to. -/
def decode? {α : Type} (decoder : Nat → Json → Option α) (text : String) : Option α :=
  (read? text).bind (decoder maxDepth)

end FluxQuery.Json
