import FluxQuery.Proofs.Documents
import FluxQuery.Proofs.Paging

/-!
# How a run ends

A run that breaks off has printed nothing, since every command prints behind its last step that can fail
(`Command.haltsUnprinted_session`). Only one calculation in a run can be without a result: a chart may ask for a window
that is longer than any span. The argument of a timestamp is there, since their number is checked before it is taken. The
instant after a cursor and the time of day at which a chart starts exist, since both come from a text whose year has
four digits.
-/

namespace FluxQuery

/-! ### Spans -/

namespace Span

private theorem maxNanos_eq : maxNanos = 9223372036854775807000000 := by decide

theorem ofMinutes?_eq_none_iff {minutes : Int} : ofMinutes? minutes = none ↔ 153722867280912 < minutes.natAbs := by
  have hminute : (minute : Int) = 60000000000 := rfl
  unfold ofMinutes? ofNanos?
  rw [maxNanos_eq, hminute]
  split
  · simp only [reduceCtorEq, false_iff]
    omega
  · simp only [true_iff]
    omega

/-- A day is far shorter than the longest span. -/
theorem ofNanos?_sinceMidnight {t : Instant} (h : t.IsValid) : ofNanos? t.sinceMidnight = some t.offset := by
  obtain ⟨-, -, hnanos, -⟩ := h
  have hsecond : Instant.second = 1000000000 := rfl
  have hday : t.secondOfDay < 86400 := by
    unfold Instant.secondOfDay
    omega
  rw [ofNanos?, if_pos, Instant.offset]
  rw [Instant.sinceMidnight, maxNanos_eq]
  rw [hsecond] at hnanos ⊢
  omega

end Span

/-! ### Files that are accepted -/

theorem Document.load_eq_ok_iff {files : Files} {path : String} {d : Document} :
    load files path = .ok d ↔ ∃ text, files.Holds path text ∧ read? text = some d := by
  constructor
  · intro h
    unfold load at h
    split at h
    · cases h
    · rename_i cs hcs
      refine ⟨String.ofList cs, Files.holds_iff.2 (String.toList_ofList ▸ hcs), ?_⟩
      cases hread : read? (String.ofList cs) with
      | none =>
        rw [hread] at h
        cases h
      | some d' =>
        rw [hread] at h
        rw [Except.ok.inj h]
  · rintro ⟨text, hfile, hread⟩
    rw [load_of_holds hfile, hread]
    rfl

theorem Settings.ofFile_eq_ok_iff {files : Files} {path : String} {s : Settings} :
    ofFile (files path) = .ok s ↔ ∃ text, files.Holds path text ∧ read? text = some s := by
  constructor
  · intro h
    unfold ofFile at h
    split at h
    · cases h
    · rename_i cs hcs
      refine ⟨String.ofList cs, Files.holds_iff.2 (String.toList_ofList ▸ hcs), ?_⟩
      split at h
      · cases h
      · rename_i hread
        rw [hread, Except.ok.inj h]
  · rintro ⟨text, hfile, hread⟩
    rw [ofFile, Files.holds_iff.1 hfile]
    simp only [String.ofList_toList, hread]

namespace Command

variable {files : Files} {now : Instant}

theorem exists_loadSettings_iff {path? : Option String} :
    (∃ s, loadSettings files path? = .ok s) ↔
      ∀ path ∈ path?, ∃ text s, files.Holds path text ∧ Settings.read? text = some s := by
  cases path? with
  | none => exact ⟨fun _ => nofun, fun _ => ⟨{}, rfl⟩⟩
  | some path =>
    simp only [loadSettings, Except.mapError_eq_ok_iff, Settings.ofFile_eq_ok_iff, Option.mem_some_iff]
    constructor
    · rintro ⟨s, text, h⟩ _ rfl
      exact ⟨text, s, h⟩
    · intro h
      obtain ⟨text, s, h⟩ := h path rfl
      exact ⟨s, text, h⟩

/-- What a chart needs before its window is looked at. -/
theorem exists_loadChart_iff {a : ChartArguments} :
    (∃ loaded, loadChart files a = .ok loaded) ↔
      (∀ path ∈ a.settings?, ∃ text s, files.Holds path text ∧ Settings.read? text = some s) ∧
        ∃ text d, files.Holds a.filter text ∧ Document.read? text = some d := by
  rw [← exists_loadSettings_iff]
  constructor
  · rintro ⟨loaded, h⟩
    obtain ⟨s, hs, h⟩ := Except.bind_eq_ok_iff.1 h
    obtain ⟨d, hd, -⟩ := Except.bind_eq_ok_iff.1 h
    obtain ⟨text, hd⟩ := Document.load_eq_ok_iff.1 hd
    exact ⟨⟨s, hs⟩, text, d, hd⟩
  · rintro ⟨⟨s, hs⟩, text, d, hd⟩
    refine ⟨(s, d), Except.bind_eq_ok_iff.2 ⟨s, hs, Except.bind_eq_ok_iff.2 ⟨d, ?_, rfl⟩⟩⟩
    exact Document.load_eq_ok_iff.2 ⟨text, hd⟩

/-! ### Calculations without a result -/

/-- The documents whose fragments a command asks for. -/
inductive Renders (files : Files) : Command → Document → Prop
  | render {path : String} {d : Document} (hload : Document.load files path = .ok d) : Renders files (.render path) d
  | redirect {path ident name value : String} {d d' : Document} (hload : Document.load files path = .ok d)
      (hfound : redirectDocument d ⟨ident, name, value⟩ = .ok d') :
    Renders files (.redirect path ident name value true) d'
  | page {a : PageArguments} {d : Document} (hload : Document.load files a.filter = .ok d) : Renders files (.page a) d
  | chart {a : ChartArguments} {loaded : Settings × Document} (hload : loadChart files a = .ok loaded) :
    Renders files (.chart a) loaded.2

/-- A calculation of the command has no result. -/
inductive Overflows (files : Files) (now : Instant) : Command → Prop
  /-- A call of `timestamp` has the right number of arguments, but not the first one. -/
  | argument {c : Command} {d : Document} {checked : Checked} {id : NodeId} {function : String} {args : List Expr}
      (hrenders : c.Renders files d) (hchecked : d.filter.checked? = some checked)
      (hnode : .call id function args ∈ checked.expr.nodes) (hname : Operator.ofName? function = some .timestamp)
      (hcount : args.length = Operator.timestamp.arity) (h : args[0]? = none) : Overflows files now c
  /-- The window of a chart is longer than any span. -/
  | window {a : ChartArguments} {loaded : Settings × Document} (hload : loadChart files a = .ok loaded)
      (h : Span.ofMinutes? a.windowMinutes = none) : Overflows files now (.chart a)
  /-- The start of a chart lies outside of all years, or its time of day is longer than any span. -/
  | start {a : ChartArguments} {loaded : Settings × Document} {range : TimeRange} {start : Instant}
      (hload : loadChart files a = .ok loaded)
      (hrange : ChartQuery.range loaded.2.filter loaded.2.enums.find? now = .ok (range, start))
      (h : ¬ start.IsValid ∨ Span.ofNanos? start.sinceMidnight = none) : Overflows files now (.chart a)
  /-- The instant after a cursor lies outside of all years. -/
  | cursor {a : PageArguments} {token : String} {cursor : Cursor} (htoken : a.token? = some token)
      (hcursor : Cursor.decode token = .ok cursor) (h : ¬ cursor.time.next.IsValid) : Overflows files now (.page a)

end Command

section

variable {filter : Filter} {enum? : String → Option Enumeration} {now : Instant}

/-- The check of their number leaves one argument to take. -/
theorem Operator.getElem?_zero_ne_none_of_arity {args : List Expr} (h : args.length = timestamp.arity) : args[0]? ≠ none := by
  rw [ne_eq, List.getElem?_eq_none_iff, h]
  decide

theorem Context.lacksArgument_eq_false (ctx : Context) (e : Expr) : ctx.lacksArgument e = false := by
  cases e with
  | call id function args =>
    rw [lacksArgument, Bool.and_eq_false_imp]
    intro h
    simp only [Bool.and_eq_true, beq_iff_eq] at h
    rw [Option.isNone_eq_false_iff, Option.isSome_iff_ne_none]
    exact Operator.getElem?_zero_ne_none_of_arity h.2
  | const | ident | select | list => rfl

theorem Filter.crash?_eq_none : filter.crash? enum? = none := by
  unfold crash?
  rw [Option.bind_eq_none_iff]
  intro checked _
  apply if_neg
  rw [List.any_eq_true]
  rintro ⟨e, -, h⟩
  rw [Context.lacksArgument_eq_false] at h
  cases h

theorem PageQuery.crash?_eq_none {q : PageQuery} : q.crash? filter enum? = none := by
  rw [crash?, Filter.crash?_eq_none, Option.none_or]
  split
  · rename_i cursor _ hcursor
    exact if_pos (.inr (Cursor.isValid_next hcursor))
  · rfl

theorem ChartQuery.isValid_of_range {range : TimeRange} {start : Instant}
    (h : ChartQuery.range filter enum? now = .ok (range, start)) : start.IsValid := by
  obtain ⟨range', -, h⟩ := Except.bind_eq_ok_iff.1 h
  obtain ⟨start', hread, h⟩ := Except.bind_eq_ok_iff.1 h
  obtain ⟨rfl, rfl⟩ := Prod.mk.inj (Except.ok.inj h)
  exact Rfc3339.isValid_of_read (Except.mapError_eq_ok_iff.1 hread)

theorem ChartQuery.crash?_eq_none : ChartQuery.crash? filter enum? now = none := by
  rw [crash?, Filter.crash?_eq_none, Option.none_or]
  split
  · rename_i start hrange
    have hvalid := isValid_of_range hrange
    exact if_pos ⟨hvalid, by rw [Span.ofNanos?_sinceMidnight hvalid]; rfl⟩
  · rfl

end

namespace Command

variable {files : Files} {now : Instant}

/-- Only a window can be too long. -/
theorem overflows_iff {c : Command} :
    c.Overflows files now ↔
      ∃ a loaded, c = .chart a ∧ loadChart files a = .ok loaded ∧ Span.ofMinutes? a.windowMinutes = none := by
  constructor
  · rintro (⟨-, -, -, -, hcount, h⟩ | ⟨hload, h⟩ | ⟨hload, hrange, h⟩ | ⟨-, hcursor, h⟩)
    · exact absurd h (Operator.getElem?_zero_ne_none_of_arity hcount)
    · exact ⟨_, _, rfl, hload, h⟩
    · have hvalid := ChartQuery.isValid_of_range hrange
      rcases h with h | h
      · exact absurd hvalid h
      · rw [Span.ofNanos?_sinceMidnight hvalid] at h
        cases h
    · exact absurd (Cursor.isValid_next hcursor) h
  · rintro ⟨a, loaded, rfl, hload, h⟩
    exact .window hload h

/-! ### Commands that break off -/

/-- Why a command may break off. -/
inductive Breaks (files : Files) : Command → Halt → Prop
  | failure {c : Command} (reason : Failure) : Breaks files c (.failure reason)
  | window {a : ChartArguments} {loaded : Settings × Document} (hload : loadChart files a = .ok loaded)
      (h : Span.ofMinutes? a.windowMinutes = none) : Breaks files (.chart a) (.crash .window)

section

open Session

private theorem ends_printPage (page : RenderedPage) : (printPage page).Ends :=
  (ends_printLine _).bind fun _ => (ends_printLine _).bind fun _ => (ends_printLine _).bind fun _ =>
    (ends_printLine _).bind fun _ => ends_printLine _

private theorem haltsUnprinted_printFragment (c : Command) (d : Document) :
    (printFragment d).HaltsUnprinted (Breaks files c) := by
  unfold printFragment
  rw [Filter.crash?_eq_none, watch_none_bind]
  exact haltsUnprinted_attempt_bind .failure fun fragment _ => haltsUnprinted_printLine fragment

private theorem haltsUnprinted_runPage (a : PageArguments) :
    (runPage files now a).HaltsUnprinted (Breaks files (.page a)) := by
  unfold runPage
  refine haltsUnprinted_attempt_bind .failure fun settings _ => haltsUnprinted_attempt_bind .failure fun d _ => ?_
  rw [PageQuery.crash?_eq_none, watch_none_bind]
  exact haltsUnprinted_attempt_bind .failure fun page _ => (ends_printPage page).haltsUnprinted

private theorem haltsUnprinted_runChart (a : ChartArguments) :
    (runChart files now a).HaltsUnprinted (Breaks files (.chart a)) := by
  unfold runChart
  refine haltsUnprinted_attempt_bind .failure fun loaded hload => ?_
  refine haltsUnprinted_orCrash_bind (fun hwindow => .window hload hwindow) fun window _ => ?_
  rw [ChartQuery.crash?_eq_none, watch_none_bind]
  exact haltsUnprinted_attempt_bind .failure fun text _ => haltsUnprinted_printLine text

/-- A command that breaks off has printed nothing. -/
theorem haltsUnprinted_session (c : Command) : (c.session files now).HaltsUnprinted (Breaks files c) := by
  cases c with
  | render path => exact haltsUnprinted_attempt_bind .failure fun d _ => haltsUnprinted_printFragment _ d
  | find path ident =>
    refine haltsUnprinted_attempt_bind .failure fun d _ => ?_
    exact haltsUnprinted_attempt_bind .failure fun value _ => haltsUnprinted_printLine value
  | redirect path ident name value fragment =>
    refine haltsUnprinted_attempt_bind .failure fun d _ => haltsUnprinted_attempt_bind .failure fun d _ => ?_
    cases fragment with
    | true => exact haltsUnprinted_printFragment _ d
    | false => exact haltsUnprinted_printLine d.print
  | page a => exact haltsUnprinted_runPage a
  | chart a => exact haltsUnprinted_runChart a
  | sample => exact haltsUnprinted_attempt_bind .failure fun d _ => haltsUnprinted_printLine d.print
  | version | help => exact haltsUnprinted_printLine _

theorem run_chart_of_window {a : ChartArguments} {loaded : Settings × Document} (hload : loadChart files a = .ok loaded)
    (h : Span.ofMinutes? a.windowMinutes = none) :
    (chart a).run files now = ⟨"", some (.crash .window)⟩ := by
  simp [run, session, runChart, hload, h]

end

theorem exitCode_run_iff {c : Command} : (c.run files now).exitCode = 101 ↔ c.Overflows files now := by
  rw [overflows_iff]
  constructor
  · intro h
    rcases (haltsUnprinted_session c).outcome_eq with houtcome | ⟨halt, hbreaks, houtcome⟩
    · rw [run, Outcome.exitCode, houtcome] at h
      cases h
    · rw [run, houtcome] at h
      cases hbreaks with
      | failure reason => cases h
      | window hload hwindow => exact ⟨_, _, rfl, hload, hwindow⟩
  · rintro ⟨a, loaded, rfl, hload, hwindow⟩
    rw [run_chart_of_window hload hwindow]
    rfl

end Command

/-! ### Runs of the program -/

variable {files : Files} {now : Instant} {arguments : List String}

/-- Why a run may break off. -/
private def MayBreak (files : Files) (arguments : List String) (halt : Halt) : Prop :=
  (Arguments.parse? arguments = none ∧ halt = .misuse) ∨
    ∃ c, Arguments.parse? arguments = some c ∧ c.Breaks files halt

private theorem haltsUnprinted_session (files : Files) (now : Instant) (arguments : List String) :
    (session files now arguments).HaltsUnprinted (MayBreak files arguments) := by
  unfold session
  cases hparse : Arguments.parse? arguments with
  | none => exact Session.haltsUnprinted_throw (.inl ⟨hparse, rfl⟩)
  | some c =>
    intro before halt after hrun
    obtain ⟨hprinted, hbreaks⟩ := c.haltsUnprinted_session before halt after hrun
    exact ⟨hprinted, .inr ⟨c, hparse, hbreaks⟩⟩

private theorem runProgram_eq (files : Files) (now : Instant) (arguments : List String) :
    (runProgram files now arguments).exitCode = 0 ∨
      ∃ halt, MayBreak files arguments halt ∧ runProgram files now arguments = ⟨"", some halt⟩ := by
  rcases (haltsUnprinted_session files now arguments).outcome_eq with h | h
  · exact .inl (congrArg (·.elim 0 Halt.exitCode) h)
  · exact .inr h

private theorem runProgram_of_parse {c : Command} (h : Arguments.parse? arguments = some c) :
    runProgram files now arguments = c.run files now := by
  rw [runProgram, session, h]
  rfl

private theorem runProgram_of_misuse (h : Arguments.parse? arguments = none) :
    runProgram files now arguments = ⟨"", some .misuse⟩ := by
  rw [runProgram, session, h]
  rfl

theorem exitCode_runProgram_iff :
    (runProgram files now arguments).exitCode = 101 ↔
      ∃ c, Arguments.parse? arguments = some c ∧ c.Overflows files now := by
  cases hparse : Arguments.parse? arguments with
  | none =>
    rw [runProgram_of_misuse hparse]
    exact ⟨nofun, nofun⟩
  | some c =>
    rw [runProgram_of_parse hparse, Command.exitCode_run_iff]
    exact ⟨fun h => ⟨c, rfl, h⟩, fun ⟨_, hc, h⟩ => Option.some.inj hc ▸ h⟩

/-- Every run ends with one of four exit codes, and one that does not end with zero has printed nothing until then. The
code 2 is for arguments that are no command line. The code 101 is for calculations without a result, and the only one is
the window of a chart whose files are accepted. -/
theorem runProgram_ends (files : Files) (now : Instant) (arguments : List String) :
    let outcome := runProgram files now arguments
    outcome.exitCode ∈ [0, 1, 2, 101] ∧
    (outcome.exitCode ≠ 0 → outcome.stdout = "") ∧
    (outcome.exitCode = 2 ↔ Arguments.parse? arguments = none) ∧
    (outcome.exitCode = 101 ↔ ∃ c, Arguments.parse? arguments = some c ∧ c.Overflows files now) ∧
    (outcome.exitCode = 101 ↔ ∃ a, Arguments.parse? arguments = some (.chart a) ∧
      (∀ path ∈ a.settings?, ∃ text s, files.Holds path text ∧ Settings.read? text = some s) ∧
      (∃ text d, files.Holds a.filter text ∧ Document.read? text = some d) ∧
      153722867280912 < a.windowMinutes.natAbs) := by
  refine ⟨?_, ?_, ⟨?_, ?_⟩, exitCode_runProgram_iff, exitCode_runProgram_iff.trans ⟨?_, ?_⟩⟩
  · rcases runProgram_eq files now arguments with h | ⟨halt, -, h⟩
    · simp [h]
    · rw [h]
      cases halt <;> simp [Outcome.exitCode, Halt.exitCode]
  · intro hcode
    rcases runProgram_eq files now arguments with h | ⟨halt, -, h⟩
    · exact absurd h hcode
    · rw [h]
  · intro hcode
    rcases runProgram_eq files now arguments with h | ⟨halt, hbreak, h⟩
    · rw [h] at hcode
      cases hcode
    · rw [h] at hcode
      rcases hbreak with ⟨hparse, -⟩ | ⟨c, -, hbreak⟩
      · exact hparse
      · cases hbreak <;> cases hcode
  · intro hparse
    rw [runProgram_of_misuse hparse]
    rfl
  · rintro ⟨c, hparse, h⟩
    obtain ⟨a, loaded, rfl, hload, hwindow⟩ := Command.overflows_iff.1 h
    obtain ⟨hsettings, hfilter⟩ := Command.exists_loadChart_iff.1 ⟨loaded, hload⟩
    exact ⟨a, hparse, hsettings, hfilter, Span.ofMinutes?_eq_none_iff.1 hwindow⟩
  · rintro ⟨a, hparse, hsettings, hfilter, hwindow⟩
    obtain ⟨loaded, hload⟩ := Command.exists_loadChart_iff.2 ⟨hsettings, hfilter⟩
    exact ⟨_, hparse, .window hload (Span.ofMinutes?_eq_none_iff.2 hwindow)⟩

private def chartArguments (minutes : String) : List String :=
  ["chart", "--filter", "all.json", "--measurement", "doors", "--count-column", "door", "--window-minutes=" ++ minutes]

private def pageArguments (token : String) : List String :=
  ["query", "--filter=all.json", "--measurement=doors", "--sort-key=door", "--page-token", token]

private def emptyFiles : Files := fun _ => some (Utf8.encode "\x7b\x7d".toList)

/-- The first window that is too long and the last one that is not, and a page that is refused for its token, of which
not even the first line is printed. -/
theorem runProgram_ends_window :
    (runProgram emptyFiles ⟨0, 0⟩ (chartArguments "-153722867280913")).exitCode = 101 ∧
    (runProgram emptyFiles ⟨0, 0⟩ (chartArguments "-153722867280913")).stdout = "" ∧
    (runProgram emptyFiles ⟨0, 0⟩ (chartArguments "153722867280912")).exitCode ≠ 101 ∧
    (runProgram emptyFiles ⟨0, 0⟩ (pageArguments "=")).exitCode = 1 ∧
    (runProgram emptyFiles ⟨0, 0⟩ (pageArguments "=")).stdout = "" := by
  have hlong : Arguments.parse? (chartArguments "-153722867280913") =
    some (.chart ⟨"all.json", "doors", "door", none, none, -153722867280913, none⟩) := by decide +kernel
  have hshort : Arguments.parse? (chartArguments "153722867280912") =
    some (.chart ⟨"all.json", "doors", "door", none, none, 153722867280912, none⟩) := by decide +kernel
  have hpage : (runProgram emptyFiles ⟨0, 0⟩ (pageArguments "=")).exitCode = 1 := by decide +kernel
  obtain ⟨d, hd⟩ : ∃ d, Document.read? "\x7b\x7d" = some d := Option.isSome_iff_exists.1 (by decide +kernel)
  obtain ⟨-, hstdout, -, -, hlongIff⟩ := runProgram_ends emptyFiles ⟨0, 0⟩ (chartArguments "-153722867280913")
  obtain ⟨-, -, -, -, hshortIff⟩ := runProgram_ends emptyFiles ⟨0, 0⟩ (chartArguments "153722867280912")
  obtain ⟨-, hrefused, -⟩ := runProgram_ends emptyFiles ⟨0, 0⟩ (pageArguments "=")
  have hcode := hlongIff.2 ⟨_, hlong, nofun, ⟨_, d, Files.holds_encode _ _, hd⟩, by decide⟩
  refine ⟨hcode, hstdout (by rw [hcode]; decide), fun h => ?_, hpage, hrefused (by rw [hpage]; decide)⟩
  obtain ⟨a, ha, -, -, hwindow⟩ := hshortIff.1 h
  rw [hshort] at ha
  cases ha
  exact absurd hwindow (by decide)

end FluxQuery
