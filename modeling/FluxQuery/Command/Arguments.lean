import FluxQuery.Text.Digits

/-!
# Arguments

The command line: a command, then its options in any order, each at most once. An option with a value is written
`--name value` or `--name=value`; a value of its own may not look like an option. There is nothing else: a line
that does not have this form, or lacks an option that its command needs, is misused. The line is read from left to
right, and the first fault or request for help decides.
-/

namespace FluxQuery

/-- A query for a page of records. Files are given by their paths. -/
structure PageArguments where
  filter : String
  measurement : String
  sortKey : String
  settings? : Option String
  bucket? : Option String
  size : UInt64
  token? : Option String
  owner? : Option String
  deriving DecidableEq, Repr

/-- A query for a chart. -/
structure ChartArguments where
  filter : String
  measurement : String
  countColumn : String
  settings? : Option String
  groupKey? : Option String
  windowMinutes : Int
  owner? : Option String
  deriving DecidableEq, Repr

inductive Command where
  /-- Prints the fragment of a filter. -/
  | render (filter : String)
  /-- Prints the value that an identifier is compared with. -/
  | find (filter ident : String)
  /-- Renames an identifier and gives it another value; prints the new filter, or its fragment. -/
  | redirect (filter ident name value : String) (fragment : Bool)
  | page (arguments : PageArguments)
  | chart (arguments : ChartArguments)
  /-- Prints a filter to start from. -/
  | sample
  | version
  | help
  deriving DecidableEq, Repr

namespace Arguments

/-- Why a line gives no command: it is misused, or it asks for help. -/
inductive Stop where
  | misuse
  | help
  deriving DecidableEq, Repr

/-- The options of a command, without their dashes. -/
structure Options where
  valued : List String
  flags : List String := []

/-- Whether an argument is read as an option where a value could stand. A dash alone is a value. -/
def looksLikeOption (argument : String) : Bool :=
  match argument.toList with
  | '-' :: _ :: _ => true
  | _ => false

/-- An argument that begins with the one-letter option `-letter`. -/
def isShort (letter : Char) (argument : String) : Bool :=
  match argument.toList with
  | '-' :: c :: _ => c == letter
  | _ => false

/-- The name and the value, if any, of an argument `--name` or `--name=value`. -/
def long? (argument : String) : Option (String × Option String) :=
  match argument.toList with
  | '-' :: '-' :: body =>
    let name := String.ofList (body.takeWhile (· != '='))
    match body.dropWhile (· != '=') with
    | [] => some (name, none)
    | _ :: value => some (name, some (String.ofList value))
  | _ => none

/-- Digits and nothing else, at least one. -/
def natural? (cs : List Char) : Option Nat :=
  if !cs.isEmpty && cs.all Char.isDigit then some (Digits.value cs) else none

/-- Digits, with a plus sign before them or not. -/
def unsigned? : List Char → Option Nat
  | '+' :: digits => natural? digits
  | digits => natural? digits

/-- An unsigned integer of 64 bits. -/
def size? (text : String) : Option UInt64 :=
  (unsigned? text.toList).bind fun n => if n < UInt64.size then some (UInt64.ofNat n) else none

/-- A signed integer of 64 bits. -/
def minutes? (text : String) : Option Int :=
  match text.toList with
  | '-' :: digits => (natural? digits).bind fun n => if n ≤ Nat.pow 2 63 then some (-(n : Int)) else none
  | cs => (unsigned? cs).bind fun n => if n < Nat.pow 2 63 then some (n : Int) else none

/-- Whether an option may have a value: a number where it needs one, and else any text. -/
def accepts (name value : String) : Bool :=
  match name with
  | "page-size" => (size? value).isSome
  | "window-minutes" => (minutes? value).isSome
  | _ => true

/-- The options of a line by name, in order; the value of a flag is empty. `seen` are the options before it. Two
dashes may close the line. An option that stands twice or has a bad value ends the reading where it stands, so help
is given only if nothing before the request is wrong. -/
def collect (o : Options) (seen : List String) : List String → Except Stop (List (String × String))
  | [] => .ok []
  | ["--"] => .ok []
  | argument :: rest =>
    match long? argument with
    | none => .error (if isShort 'h' argument then .help else .misuse)
    | some (name, value?) =>
      if name ∈ seen then .error .misuse
      else if name ∈ o.flags ∧ value? = none then (collect o (name :: seen) rest).map ((name, "") :: ·)
      else if name ∈ o.valued then
        match value? with
        | some value =>
          if accepts name value then (collect o (name :: seen) rest).map ((name, value) :: ·) else .error .misuse
        | none =>
          match rest with
          | value :: rest =>
            if !looksLikeOption value && accepts name value then
              (collect o (name :: seen) rest).map ((name, value) :: ·)
            else .error .misuse
          | [] => .error .misuse
      else .error (if name = "help" ∧ value? = none then .help else .misuse)

/-- The value of an option. -/
def value? (options : List (String × String)) (name : String) : Option String :=
  (options.find? (·.1 == name)).map (·.2)

/-- The value of an option that may not be left out. -/
def required (options : List (String × String)) (name : String) : Except Stop String :=
  (value? options name).elim (.error .misuse) .ok

/-- The value of an option after `read`, or `default` if it is left out. -/
def orElse {α : Type} (options : List (String × String)) (name : String) (read : String → Option α) (default : α) :
    Except Stop α :=
  match value? options name with
  | none => .ok default
  | some text => (read text).elim (.error .misuse) .ok

def parseRedirect (arguments : List String) : Except Stop Command := do
  let options ← collect ⟨["filter", "ident", "replace-ident", "value"], ["transpile"]⟩ [] arguments
  return .redirect (← required options "filter") (← required options "ident") (← required options "replace-ident")
    (← required options "value") (value? options "transpile").isSome

def parsePage (arguments : List String) : Except Stop Command := do
  let options ← collect
    ⟨["filter", "measurement", "sort-key", "config", "bucket", "page-size", "page-token", "owner"], []⟩ [] arguments
  return .page
    { filter := ← required options "filter"
      measurement := ← required options "measurement"
      sortKey := ← required options "sort-key"
      settings? := value? options "config"
      bucket? := value? options "bucket"
      size := ← orElse options "page-size" size? 0
      token? := value? options "page-token"
      owner? := value? options "owner" }

def parseChart (arguments : List String) : Except Stop Command := do
  let options ← collect
    ⟨["filter", "measurement", "count-column", "config", "group-by", "window-minutes", "owner"], []⟩ [] arguments
  return .chart
    { filter := ← required options "filter"
      measurement := ← required options "measurement"
      countColumn := ← required options "count-column"
      settings? := value? options "config"
      groupKey? := value? options "group-by"
      windowMinutes := ← orElse options "window-minutes" minutes? 60
      owner? := value? options "owner" }

/-- The commands, among them the one that gives help on another. -/
def names : List String := ["transpile", "extract", "hijack", "query", "chart", "demo", "help"]

/-- What help can be asked for: one command, or the program as a whole. -/
def isTopic : List String → Bool
  | [] => true
  | [command] => names.contains command
  | _ => false

/-- The command of a line that is not empty. -/
def parseCommand (command : String) (arguments : List String) : Except Stop Command :=
  match command with
  | "transpile" => do
    let options ← collect ⟨["filter"], []⟩ [] arguments
    return .render (← required options "filter")
  | "extract" => do
    let options ← collect ⟨["filter", "ident"], []⟩ [] arguments
    return .find (← required options "filter") (← required options "ident")
  | "hijack" => parseRedirect arguments
  | "query" => parsePage arguments
  | "chart" => parseChart arguments
  | "demo" => do
    let _ ← collect ⟨[], []⟩ [] arguments
    return .sample
  | "help" => .error (if isTopic arguments then .help else .misuse)
  | "--help" => .error .help
  | "--version" => .ok .version
  | other =>
    if isShort 'V' other then .ok .version
    else if isShort 'h' other then .error .help
    else .error .misuse

/-- The command of a line; none if the line is misused. -/
def parse? : List String → Option Command
  | [] => none
  | command :: arguments =>
    match parseCommand command arguments with
    | .ok c => some c
    | .error .help => some .help
    | .error .misuse => none

end Arguments

end FluxQuery
