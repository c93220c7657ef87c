import FluxQuery.Crash
import FluxQuery.Filter.Scope

/-!
# Sessions

A session is a run of the program under way. It prints one line after the other until it comes to its end or breaks off
at a `Halt`, and what it has printed by then stays printed.
-/

namespace FluxQuery

/-- Why a command fails. -/
inductive Failure where
  | unreadableFilter
  | malformedFilter
  | render (error : RenderError)
  | plan (error : PlanError)
  | declaration (error : ScopeError)
  | identNotFound (ident : String)
  deriving DecidableEq, Repr

def Failure.message : Failure → String
  | .unreadableFilter => "Failed to read the filter file"
  | .malformedFilter => "Failed to deserialize the filter file as JSON"
  | .render error => s!"Failed to transpile the filter: {error.message}"
  | .plan error => s!"Failed to plan the record query: {error.message}"
  | .declaration error => s!"Failed to build the demo filter: {error.message}"
  | .identNotFound ident => s!"Identifier `{ident}` does not occur in the filter"

/-- Why a run breaks off. -/
inductive Halt where
  /-- The arguments are not a command line. -/
  | misuse
  | failure (reason : Failure)
  | crash (cause : Crash)
  deriving DecidableEq, Repr

namespace Halt

def exitCode : Halt → Nat
  | .failure _ => 1
  | .misuse => 2
  | .crash _ => 101

/-- What goes to the standard error output. -/
def message : Halt → String
  | .misuse => "error: not a valid command line\n"
  | .failure reason => s!"Error: {reason.message}\n"
  | .crash cause => s!"error: {cause.message}\n"

end Halt

/-- A step of a run, as a function of what has been printed before it. -/
abbrev Session (α : Type) := EStateM Halt String α

namespace Session

/-- Prints a text and a line break. -/
def printLine (text : String) : Session Unit := modify (· ++ text ++ "\n")

/-- Goes on with a result, or breaks off at the failure that there is in its place. -/
def attempt {α : Type} : Except Failure α → Session α
  | .ok a => pure a
  | .error reason => throw (.failure reason)

/-- Goes on unless there is a crash. -/
def watch : Option Crash → Session Unit
  | none => pure ()
  | some cause => throw (.crash cause)

/-- Goes on with the result of a calculation, or breaks off if there is none. -/
def orCrash {α : Type} (cause : Crash) : Option α → Session α
  | some a => pure a
  | none => throw (.crash cause)

end Session

/-- How a run ends: all that it has printed, and why it broke off if it did. -/
structure Outcome where
  stdout : String
  halt? : Option Halt
  deriving DecidableEq, Repr

namespace Outcome

/-- A run that comes to its end. -/
def output (text : String) : Outcome := ⟨text, none⟩

/-- A run that fails before it prints anything. -/
def failure (reason : Failure) : Outcome := ⟨"", some (.failure reason)⟩

def exitCode (o : Outcome) : Nat := o.halt?.elim 0 Halt.exitCode

def stderr (o : Outcome) : String := o.halt?.elim "" Halt.message

end Outcome

/-- The end of a run that begins with nothing printed. -/
def Session.outcome (s : Session Unit) : Outcome :=
  match s.run "" with
  | .ok _ printed => ⟨printed, none⟩
  | .error halt printed => ⟨printed, some halt⟩

end FluxQuery
