import FluxQuery.Filter.Enumeration
import FluxQuery.Filter.Ty

/-!
# Scopes

The identifiers that a filter may name, with their types, and the enumerations among these. A bare name that is not
an identifier may be a value of an enumeration in use, that is, of one that is the type of an identifier. To keep
such values unambiguous, an enumeration that shares a value name with another one in use is refused.
-/

namespace FluxQuery

structure Scope where
  idents : Std.ExtTreeMap String Ty := ∅
  enums : Catalog := ∅
  deriving DecidableEq

/-- Why a declaration is refused. -/
inductive ScopeError where
  | duplicateIdent (name : String)
  | conflictingEnum (fullName : String)
  | ambiguousValue (value first second : String)
  deriving DecidableEq, Repr

def ScopeError.message : ScopeError → String
  | .duplicateIdent name => s!"identifier '{name}' is already declared"
  | .conflictingEnum fullName => s!"enum type '{fullName}' is already registered with different values"
  | .ambiguousValue value first second => s!"enum value '{value}' is declared by both '{first}' and '{second}'"

/-- What a declaration leaves: the scope afterwards, and the reason if it was refused. -/
structure Declared where
  scope : Scope
  refusal : Option ScopeError := none

/-- The new scope, if nothing was refused. -/
def Declared.toExcept (d : Declared) : Except ScopeError Scope :=
  match d.refusal with
  | none => .ok d.scope
  | some e => .error e

namespace Scope

/-- The enumerations in use, by name. -/
def enumsInUse (s : Scope) : List (String × Enumeration) :=
  s.enums.toList.filter fun (name, _) => s.idents.values.any (·.messageName == name)

/-- The first value of `e` that another enumeration in use has too, and the full name of that enumeration. -/
def sharedValue? (s : Scope) (e : Enumeration) : Option (String × String) :=
  let others := s.enumsInUse.filter fun (name, _) => name != e.fullName
  e.members.findSome? fun m => (others.find? (·.2.names m.name)).map fun (_, other) => (m.name, other.fullName)

/-- Declares an identifier of the given type. -/
def declare (s : Scope) (name : String) (ty : Ty) : Declared :=
  if s.idents.contains name then ⟨s, some (.duplicateIdent name)⟩
  else { scope := { s with idents := s.idents.insert name ty } }

/-- Declares an identifier that holds values of an enumeration. The enumeration is added first, so it stays even if
the identifier is taken. -/
def declareEnum (s : Scope) (name : String) (e : Enumeration) : Declared :=
  match s.sharedValue? e with
  | some (value, other) => ⟨s, some (.ambiguousValue value other e.fullName)⟩
  | none =>
    match s.enums.add? e with
    | none => ⟨s, some (.conflictingEnum e.fullName)⟩
    | some enums => { s with enums }.declare name (.message e.fullName)

/-- The type of a name: of an identifier, or else of the first enumeration in use that has it as a value. -/
def typeOf? (s : Scope) (name : String) : Option Ty :=
  s.idents[name]? <|> (s.enumsInUse.find? (·.2.names name)).map fun (fullName, _) => .message fullName

end Scope

/-- One declaration. -/
inductive Declaration where
  | ident (name : String) (ty : Ty)
  | enumIdent (name : String) (e : Enumeration)
  deriving DecidableEq, Repr

namespace Declaration

def declare (s : Scope) : Declaration → Declared
  | .ident name ty => s.declare name ty
  | .enumIdent name e => s.declareEnum name e

end Declaration

namespace Scope

/-- All declarations in order, each refusal left aside. -/
def declareAll (s : Scope) (ds : List Declaration) : Scope := ds.foldl (fun s d => (d.declare s).scope) s

/-- All declarations in order, unless one of them is refused. -/
def ofDeclarations (ds : List Declaration) : Except ScopeError Scope :=
  ds.foldlM (fun s d => (d.declare s).toExcept) {}

end Scope

end FluxQuery
