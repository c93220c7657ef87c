import FluxQuery.Json.Decode
import FluxQuery.Text.Utf8

/-!
# Settings

What all queries of an installation share. Settings are read from JSON, and every field may be left out.
-/

namespace FluxQuery

structure Settings where
  bucket : String := "instance"
  defaultPageSize : UInt64 := 10
  maxPageSize : UInt64 := 100
  timeColumn : String := "_time"
  deriving DecidableEq, Repr

namespace Settings

open Json

def toJson (s : Settings) : Json :=
  .object [("bucket", .string s.bucket), ("default_page_size", .nat s.defaultPageSize.toNat),
    ("max_page_size", .nat s.maxPageSize.toNat), ("time_column", .string s.timeColumn)]

def ofJson? : Nat → Json → Option Settings
  | _ + 1, j =>
    match asFields? ["bucket", "default_page_size", "max_page_size", "time_column"] j with
    | some [bucket, defaultPageSize, maxPageSize, timeColumn] => do
      let s : Settings := {}
      return ⟨← orDefault s.bucket asString? bucket, ← orDefault s.defaultPageSize asUInt64? defaultPageSize,
        ← orDefault s.maxPageSize asUInt64? maxPageSize, ← orDefault s.timeColumn asString? timeColumn⟩
    | _ => none
  | 0, _ => none

/-- The settings that a text holds. -/
def read? (text : String) : Option Settings := decode? ofJson? text

/-- How many records a page has. A request of `0` gets the default as it is; any other is cut to the maximum. -/
def pageSize (s : Settings) (requested : UInt64) : UInt64 :=
  if requested = 0 then s.defaultPageSize
  else if s.maxPageSize < requested then s.maxPageSize
  else requested

/-- Why there are no settings in a file. -/
inductive FileError where
  | unreadable
  | malformed
  deriving DecidableEq, Repr

def FileError.message : FileError → String
  | .unreadable => "Failed to read query config"
  | .malformed => "Failed to parse query config"

/-- The settings in a file with these bytes, or in no file. -/
def ofFile (bytes? : Option (List UInt8)) : Except FileError Settings :=
  match bytes?.bind fun bytes => (Utf8.decode bytes).toOption with
  | none => .error .unreadable
  | some text =>
    match read? (String.ofList text) with
    | none => .error .malformed
    | some settings => .ok settings

end Settings

end FluxQuery
