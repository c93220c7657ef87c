import FluxQuery.Filter.Codec
import FluxQuery.Filter.Draft

/-!
# Filter files

A filter together with the enumerations that its identifiers refer to.
-/

namespace FluxQuery

structure Document where
  filter : Filter := {}
  enums : Catalog := ∅
  deriving DecidableEq

namespace Document

open Json

def toJson (d : Document) : Json := .object [("filter", d.filter.toJson), ("enums", Catalog.toJson d.enums)]

def ofJson? : Nat → Json → Option Document
  | depth + 1, j =>
    match asFields? ["filter", "enums"] j with
    | some [filter, enums] => do
      return ⟨← orDefault {} (Filter.ofJson? depth) filter, ← orDefault ∅ (Catalog.ofJson? depth) enums⟩
    | _ => none
  | 0, _ => none

/-- The document that a text holds. -/
def read? (text : String) : Option Document := decode? ofJson? text

/-- The text of a file that holds the document. -/
def print (d : Document) : String := d.toJson.pretty

/-- What the names of the sample stand for. -/
def sampleDeclarations : List Declaration :=
  [.ident "start" .timestamp, .ident "stop" .timestamp, .ident "pipeline_id" .string,
    .enumIdent "owner_type"
      (.ofNames "OwnerType" ["OWNER_TYPE_UNSPECIFIED", "OWNER_TYPE_USER", "OWNER_TYPE_ORGANIZATION"])]

/-- `pipeline_id = "p1" AND start >= timestamp("…") AND owner_type = OWNER_TYPE_USER`. -/
def sampleSteps : List Step :=
  [.ident "pipeline_id", .const (.string "p1"), .operator (.compare .eq),
    .ident "start", .timestamp "2024-01-01T00:00:00Z", .operator (.compare .ge), .operator .and,
    .ident "owner_type", .ident "OWNER_TYPE_USER", .operator (.compare .eq), .operator .and]

/-- A document to start from. -/
def sample : Except ScopeError Document := do
  let scope ← Scope.ofDeclarations sampleDeclarations
  return { filter := (Bench.run? ⟨{ scope }, []⟩ sampleSteps).elim {} Bench.filter, enums := scope.enums }

end Document

end FluxQuery
