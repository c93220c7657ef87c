import FluxQuery.Filter.Basic
import FluxQuery.Filter.Operator
import FluxQuery.Filter.Scope
import FluxQuery.Json.Decode

/-!
# Filters as JSON

Writing and reading of every value that a filter file may hold. Writing always gives objects with all their fields;
reading takes any spelling that `Json.asFields?` and `Json.asVariant?` take. Every function named `ofJson?` has the
nesting that is left as its first argument.
-/

namespace FluxQuery

open Json

namespace Scalar

def all : List Scalar := [.bool, .int64, .uint64, .double, .string, .bytes]

def name : Scalar → String
  | .bool => "bool"
  | .int64 => "int64"
  | .uint64 => "uint64"
  | .double => "double"
  | .string => "string"
  | .bytes => "bytes"

def ofJson? (depth : Nat) (j : Json) : Option Scalar :=
  (asName? depth j).bind fun name => all.find? (·.name == name)

end Scalar

namespace WellKnown

def all : List WellKnown := [.any, .timestamp, .duration]

def name : WellKnown → String
  | .any => "any"
  | .timestamp => "timestamp"
  | .duration => "duration"

def ofJson? (depth : Nat) (j : Json) : Option WellKnown :=
  (asName? depth j).bind fun name => all.find? (·.name == name)

end WellKnown

namespace Operator

/-- The name of the operator as a value of its own, which is not the name that calls carry. -/
def label : Operator → String
  | .has => "Has"
  | .compare .eq => "Equals"
  | .compare .ne => "NotEquals"
  | .compare .lt => "LessThan"
  | .compare .le => "LessEquals"
  | .compare .gt => "GreaterThan"
  | .compare .ge => "GreaterEquals"
  | .and => "And"
  | .or => "Or"
  | .not => "Not"
  | .timestamp => "Timestamp"

def ofLabel? (label : String) : Option Operator := all.find? (·.label == label)

def toJson (o : Operator) : Json := .string o.label

def ofJson? (depth : Nat) (j : Json) : Option Operator := (asName? depth j).bind ofLabel?

end Operator

namespace Ty

def toJson : Ty → Json
  | .scalar kind => .object [("primitive", .string kind.name)]
  | .message name => .object [("message", .string name)]
  | .wellKnown kind => .object [("well_known", .string kind.name)]
  | .list item => .object [("list_of", item.toJson)]

def ofJson? : Nat → Json → Option Ty
  | depth + 1, j =>
    match asVariant? j with
    | some ("primitive", some payload) => (Scalar.ofJson? depth payload).map .scalar
    | some ("message", some payload) => (asString? payload).map .message
    | some ("well_known", some payload) => (WellKnown.ofJson? depth payload).map .wellKnown
    | some ("list_of", some payload) => (ofJson? depth payload).map .list
    | _ => none
  | 0, _ => none

end Ty

namespace TypeTable

/-- A node id as a key: digits only, no zero in front, no escapes. -/
def keyOf? (key : Quoted) : Option NodeId :=
  let n := Digits.value key.raw
  if key.raw.all Char.isDigit && key.raw == Digits.ofNat n && n < UInt64.size then some (UInt64.ofNat n) else none

def toJson (table : TypeTable) : Json := ofTable (fun id => toString id.toNat) Ty.toJson table

def ofJson? : Nat → Json → Option TypeTable := asTable? keyOf? Ty.ofJson?

end TypeTable

namespace Literal

def toJson : Literal → Json
  | .null => .string "null"
  | .bool b => .object [("bool", .bool b)]
  | .int n => .object [("int64", .int n.toInt)]
  | .uint n => .object [("uint64", .nat n.toNat)]
  | .double d => .object [("double", .double d)]
  | .string s => .object [("string", .string s)]
  | .bytes bs => .object [("bytes", .arr (bs.map fun b => .nat b.toNat))]

def ofJson? (depth : Nat) (j : Json) : Option Literal :=
  if asName? depth j = some "null" then some .null
  else
    match depth, asVariant? j with
    | _ + 1, some ("bool", some payload) => (asBool? payload).map .bool
    | _ + 1, some ("int64", some payload) => (asInt64? payload).map .int
    | _ + 1, some ("uint64", some payload) => (asUInt64? payload).map .uint
    | _ + 1, some ("double", some payload) => (asDouble? payload).map .double
    | _ + 1, some ("string", some payload) => (asString? payload).map .string
    | depth + 1, some ("bytes", some payload) => (asList? (fun _ => asByte?) depth payload).map .bytes
    | _, _ => none

end Literal

namespace Expr

mutual

def toJson : Expr → Json
  | const id value => node id "const" value.toJson
  | ident id name => node id "ident" (.object [("name", .string name)])
  | select id operand field => node id "select" (.object [("operand", operand.toJson), ("field", .string field)])
  | call id function args =>
    node id "call" (.object [("function", .string function), ("args", .arr (toJsons args))])
  | list id items => node id "list" (.arr (toJsons items))
where
  node (id : NodeId) (kind : String) (payload : Json) : Json :=
    .object [("id", .nat id.toNat), ("kind", .object [(kind, payload)])]

def toJsons : List Expr → List Json
  | [] => []
  | e :: es => e.toJson :: toJsons es

end

/-- The name in an identifier's record. -/
def nameOf? : Nat → Json → Option String
  | _ + 1, j =>
    match asFields? ["name"] j with
    | some [some name] => asString? name
    | _ => none
  | 0, _ => none

mutual

def ofJson? : Nat → Json → Option Expr
  | depth + 1, j =>
    match asFields? ["id", "kind"] j with
    | some [some id, some kind] => do ofKind? (← asUInt64? id) depth kind
    | _ => none
  | 0, _ => none

/-- A node by its kind. -/
def ofKind? (id : NodeId) : Nat → Json → Option Expr
  | depth + 1, j =>
    match asVariant? j with
    | some ("const", some payload) => (Literal.ofJson? depth payload).map (const id)
    | some ("ident", some payload) => (nameOf? depth payload).map (ident id)
    | some ("select", some payload) => ofSelect? id depth payload
    | some ("call", some payload) => ofCall? id depth payload
    | some ("list", some payload) => (ofItems? depth payload).map (list id)
    | _ => none
  | 0, _ => none

def ofSelect? (id : NodeId) : Nat → Json → Option Expr
  | depth + 1, j =>
    match asFields? ["operand", "field"] j with
    | some [some operand, some field] => do return select id (← ofJson? depth operand) (← asString? field)
    | _ => none
  | 0, _ => none

/-- A call; its arguments may be left out. -/
def ofCall? (id : NodeId) : Nat → Json → Option Expr
  | depth + 1, j =>
    match asFields? ["function", "args"] j with
    | some [some function, none] => do return call id (← asString? function) []
    | some [some function, some args] => do return call id (← asString? function) (← ofItems? depth args)
    | _ => none
  | 0, _ => none

def ofItems? : Nat → Json → Option (List Expr)
  | depth + 1, .arr items => items.mapM (ofJson? depth)
  | _, _ => none

end

end Expr

namespace Checked

def toJson (c : Checked) : Json := .object [("expr", c.expr.toJson), ("type_map", TypeTable.toJson c.types)]

def ofJson? : Nat → Json → Option Checked
  | depth + 1, j =>
    match asFields? ["expr", "type_map"] j with
    | some [some expr, types] => do
      return ⟨← Expr.ofJson? depth expr, ← orDefault ∅ (TypeTable.ofJson? depth) types⟩
    | _ => none
  | 0, _ => none

end Checked

namespace Filter

def toJson (f : Filter) : Json := .object [("checked_expr", f.checked?.elim .null Checked.toJson)]

def ofJson? : Nat → Json → Option Filter
  | depth + 1, j =>
    match asFields? ["checked_expr"] j with
    | some [none] | some [some .null] => some {}
    | some [some checked] => (Checked.ofJson? depth checked).map (⟨some ·⟩)
    | _ => none
  | 0, _ => none

/-- A filter as text. -/
def print (f : Filter) : String := f.toJson.compress

/-- The filter that a text holds. -/
def read? (text : String) : Option Filter := decode? ofJson? text

end Filter

namespace EnumMember

def toJson (m : EnumMember) : Json := .object [("name", .string m.name), ("number", .int m.number.toInt)]

def ofJson? : Nat → Json → Option EnumMember
  | _ + 1, j =>
    match asFields? ["name", "number"] j with
    | some [some name, some number] => do return ⟨← asString? name, ← asInt32? number⟩
    | _ => none
  | 0, _ => none

end EnumMember

namespace Enumeration

def toJson (e : Enumeration) : Json :=
  .object [("full_name", .string e.fullName), ("values", .arr (e.members.map EnumMember.toJson))]

def ofJson? : Nat → Json → Option Enumeration
  | depth + 1, j =>
    match asFields? ["full_name", "values"] j with
    | some [some fullName, some members] => do
      return ⟨← asString? fullName, ← asList? EnumMember.ofJson? depth members⟩
    | _ => none
  | 0, _ => none

end Enumeration

namespace Catalog

def toJson (c : Catalog) : Json := ofTable (fun name => name) Enumeration.toJson c

/-- Each enumeration is found under its key, whatever full name it has itself. -/
def ofJson? : Nat → Json → Option Catalog := asTable? Quoted.text? Enumeration.ofJson?

end Catalog

namespace Scope

def toJson (s : Scope) : Json :=
  .object [("idents", ofTable (fun name => name) Ty.toJson s.idents), ("enums", Catalog.toJson s.enums)]

def ofJson? : Nat → Json → Option Scope
  | depth + 1, j =>
    match asFields? ["idents", "enums"] j with
    | some [idents, enums] => do
      return ⟨← orDefault ∅ (asTable? Quoted.text? Ty.ofJson? depth) idents,
        ← orDefault ∅ (Catalog.ofJson? depth) enums⟩
    | _ => none
  | 0, _ => none

end Scope

end FluxQuery
