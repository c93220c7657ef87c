import FluxQuery.Command.Arguments
import FluxQuery.Command.Document
import FluxQuery.Command.Session
import FluxQuery.Filter.Comparand

/-!
# Running a command

`Command.session` is all that the program does, step by step and with each line where it is printed, as a function of
its arguments, the files it can read and the clock. `runProgram` gives what a whole run leaves.
-/

namespace FluxQuery

/-- The bytes of the files that can be read, by path. -/
abbrev Files := String → Option (List UInt8)

namespace Document

/-- The document in a file. -/
def load (files : Files) (path : String) : Except Failure Document :=
  match (files path).bind fun bytes => (Utf8.decode bytes).toOption with
  | none => .error .unreadableFilter
  | some text => (read? (String.ofList text)).elim (.error .malformedFilter) .ok

end Document

/-- The query that is asked for; the bucket may be another one than in the settings. -/
def PageArguments.query (a : PageArguments) (settings : Settings) : PageQuery where
  source :=
    { settings := { settings with bucket := a.bucket?.getD settings.bucket }
      measurement := a.measurement
      owner? := a.owner? }
  sortKey := a.sortKey
  size := a.size
  token := a.token?.getD ""

/-- The query that is asked for, once its window is known. -/
def ChartArguments.query (a : ChartArguments) (settings : Settings) (window : Span) : ChartQuery :=
  .ofChoices settings a.measurement a.countColumn
    (.window window :: a.groupKey?.toList.map .groupBy ++ a.owner?.toList.map .owner)

namespace Command

open Session

def versionText : String := "fluxfilter 0.1.0"

def helpText : String :=
  "Transpile checked filter expressions to Flux\n\nUsage: fluxfilter <COMMAND>\n\nCommands: " ++
    "transpile, extract, hijack, query, chart, demo"

/-- The settings in a file, or the default ones. -/
def loadSettings (files : Files) (path? : Option String) : Except Failure Settings :=
  match path? with
  | none => .ok {}
  | some path => (Settings.ofFile (files path)).mapError (.plan ∘ .settings)

/-- The value that an identifier is compared with. -/
def findComparand (d : Document) (ident : String) : Except Failure String :=
  (d.filter.expr?.bind (·.comparand? ident)).elim (.error (.identNotFound ident)) .ok

/-- The document after a redirection, if the identifier was found in it. -/
def redirectDocument (d : Document) (r : Expr.Redirection) : Except Failure Document :=
  match d.filter.checked? with
  | none => .error (.identNotFound r.target)
  | some checked =>
    match checked.expr.redirect r with
    | (_, none) => .error (.identNotFound r.target)
    | (expr, some _) => .ok { d with filter := ⟨some { checked with expr }⟩ }

/-- The settings and the document of a chart, which are read before its window is looked at. -/
def loadChart (files : Files) (a : ChartArguments) : Except Failure (Settings × Document) := do
  let settings ← loadSettings files a.settings?
  let d ← Document.load files a.filter
  return (settings, d)

def printFragment (d : Document) : Session Unit := do
  watch (d.filter.crash? d.enums.find?)
  let fragment ← attempt ((d.filter.render d.enums.find?).mapError .render)
  printLine fragment

def printPage (page : RenderedPage) : Session Unit := do
  printLine ("// records (page size " ++ toString page.size.toNat ++ ")")
  printLine page.query
  printLine ""
  printLine "// total"
  printLine page.total

def runPage (files : Files) (now : Instant) (a : PageArguments) : Session Unit := do
  let settings ← attempt (loadSettings files a.settings?)
  let d ← attempt (Document.load files a.filter)
  watch ((a.query settings).crash? d.filter d.enums.find?)
  let page ← attempt (((a.query settings).render d.filter d.enums.find? now).mapError .plan)
  printPage page

def runChart (files : Files) (now : Instant) (a : ChartArguments) : Session Unit := do
  let (settings, d) ← attempt (loadChart files a)
  let window ← orCrash .window (Span.ofMinutes? a.windowMinutes)
  watch (ChartQuery.crash? d.filter d.enums.find? now)
  let text ← attempt (((a.query settings window).render d.filter d.enums.find? now).mapError .plan)
  printLine text

def session (files : Files) (now : Instant) : Command → Session Unit
  | .render filter => do
    let d ← attempt (Document.load files filter)
    printFragment d
  | .find filter ident => do
    let d ← attempt (Document.load files filter)
    let value ← attempt (findComparand d ident)
    printLine value
  | .redirect filter ident name value fragment => do
    let d ← attempt (Document.load files filter)
    let d ← attempt (redirectDocument d ⟨ident, name, value⟩)
    if fragment then printFragment d else printLine d.print
  | .page arguments => runPage files now arguments
  | .chart arguments => runChart files now arguments
  | .sample => do
    let d ← attempt (Document.sample.mapError .declaration)
    printLine d.print
  | .version => printLine versionText
  | .help => printLine helpText

/-- A run of a command from its start. -/
def run (files : Files) (now : Instant) (c : Command) : Outcome := (c.session files now).outcome

/-- The paths of the files that a command reads. -/
def paths : Command → List String
  | .render filter | .find filter _ | .redirect filter _ _ _ _ => [filter]
  | .page a => a.settings?.toList ++ [a.filter]
  | .chart a => a.settings?.toList ++ [a.filter]
  | .sample | .version | .help => []

end Command

/-- The session of a command line. -/
def session (files : Files) (now : Instant) (arguments : List String) : Session Unit :=
  match Arguments.parse? arguments with
  | none => throw .misuse
  | some command => command.session files now

/-- A whole run of the program. -/
def runProgram (files : Files) (now : Instant) (arguments : List String) : Outcome :=
  (session files now arguments).outcome

end FluxQuery
