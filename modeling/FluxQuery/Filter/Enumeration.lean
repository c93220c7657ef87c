import Std.Data.ExtTreeMap

/-!
# Enumerations

An enumeration has a full name and an ordered list of named values. A `Catalog` holds enumerations by name: adding
the same one twice changes nothing, and adding another under a name that is taken is refused.
-/

namespace FluxQuery

structure EnumMember where
  name : String
  number : Int32
  deriving DecidableEq, Repr

structure Enumeration where
  fullName : String
  members : List EnumMember
  deriving DecidableEq, Repr

namespace Enumeration

/-- Members numbered from zero in the order of their names. -/
def ofNames (fullName : String) (names : List String) : Enumeration :=
  ⟨fullName, names.mapIdx fun i name => ⟨name, Int32.ofNat i⟩⟩

/-- The first member of that name. -/
def member? (e : Enumeration) (name : String) : Option EnumMember := e.members.find? (·.name == name)

/-- Whether a member has that name. -/
def names (e : Enumeration) (name : String) : Bool := (e.member? name).isSome

end Enumeration

/-- Enumerations by the name they are looked up under. -/
abbrev Catalog := Std.ExtTreeMap String Enumeration

namespace Catalog

/-- The enumeration under a name. -/
def find? (catalog : Catalog) (name : String) : Option Enumeration := catalog[name]?

/-- Adds an enumeration under its own name, unless a different one has it. -/
def add? (catalog : Catalog) (e : Enumeration) : Option Catalog :=
  match catalog.find? e.fullName with
  | none => some (catalog.insert e.fullName e)
  | some known => if known = e then some catalog else none

end Catalog

end FluxQuery
