import FluxQuery.Proofs.Paging
import FluxQuery.Proofs.Range
import FluxQuery.Proofs.TimeTexts
import FluxQuery.Query.Chart

/-!
# Charts and pages

A chart and a page of the same source read the same records: both texts begin with the same lines (`Source.text`). They
fail together on a filter without a fragment. A chart needs to know when its range starts, so it also fails where the
start is no time; the beginning of a range that nothing narrows is one.
-/

namespace FluxQuery

/-! ### The records that are read -/

/-- The lines that read the records of a range, written out. -/
def Source.text (s : Source) (range : TimeRange) : String :=
  "from(bucket: \"" ++ s.settings.bucket ++ "\")\n  |> range(start: " ++ range.start ++ ", stop: " ++ range.stop ++
    ")\n  |> filter(fn: (r) => r[\"_measurement\"] == \"" ++ s.measurement ++
    "\")\n  |> pivot(rowKey: [\"" ++ s.settings.timeColumn ++
    "\"], columnKey: [\"_field\"], valueColumn: \"_value\")" ++
    s.owner?.elim "" (fun owner => "\n  |> filter(fn: (r) => r[\"owner_uid\"] == \"" ++ owner ++ "\")") ++
    if range.filters = "" then "" else "\n  " ++ range.filters

theorem Source.render_eq_text (s : Source) (range : TimeRange) : s.render range = s.text range := by
  have hrange : "\")\n  |> range(start: " = "\")" ++ "\n" ++ "  |> range(start: " := by decide
  have hmeasurement : ")\n  |> filter(fn: (r) => r[\"_measurement\"] == \"" =
    ")" ++ "\n" ++ "  " ++ "|> filter(fn: (r) => " ++ "r[\"_measurement\"] == \"" := by decide
  have hpivot : "\")\n  |> pivot(rowKey: [\"" = "\"" ++ ")" ++ "\n" ++ "  |> pivot(rowKey: [\"" := by decide
  have howner : "\n  |> filter(fn: (r) => r[\"owner_uid\"] == \"" =
    "\n" ++ "  " ++ "|> filter(fn: (r) => " ++ "r[\"owner_uid\"] == \"" := by decide
  have hclose : "\")" = "\"" ++ ")" := by decide
  have hfilters : "\n  " = "\n" ++ "  " := by decide
  unfold render lines text filterStage
  rw [hrange, hmeasurement, hpivot, howner, hclose, hfilters]
  cases s.owner? <;> split <;>
    simp only [Option.map_none, Option.map_some, Option.toList_none, Option.toList_some, Option.elim_none,
      Option.elim_some, List.append_nil, List.cons_append, List.nil_append, String.intercalate_cons_cons,
      String.intercalate_singleton, String.append_assoc, String.append_empty]

theorem Source.lines_ne_nil (s : Source) (range : TimeRange) : s.lines range ≠ [] := by
  unfold lines
  simp

/-- A range keeps its start where no piece of the fragment is an anchor for it. -/
theorem TimeRange.start_split {fragment : String} (h : ∀ piece ∈ pieces fragment.toList, ¬ "start@".toList <+: piece)
    (start stop : String) : (split fragment start stop).start = start := by
  have hnone : (pieces fragment.toList).filterMap start? = [] := by
    rw [List.filterMap_eq_nil_iff]
    intro piece hpiece
    exact after?_eq_none_iff.2 (h piece hpiece)
  rw [split_eq, hnone]
  rfl

theorem Source.isTime_beginning : Rfc3339.IsTime beginning.toList :=
  Rfc3339.exists_read_eq_ok_iff.1 ⟨⟨-62135596800, 0⟩, by decide +kernel⟩

/-! ### What is made of them -/

namespace PageQuery

/-- The page, behind the name of its first stage. -/
def tail (q : PageQuery) : String :=
  ")\n  |> sort(columns: [\"" ++ q.sortKey ++ "\"])\n  |> limit(n: " ++
    toString (q.source.settings.pageSize q.size).toNat ++ ")"

/-- The count of all records, behind the name of its first stage. -/
def totalTail (q : PageQuery) : String := ")\n  |> count(column: \"" ++ q.sortKey ++ "\")"

theorem rendered_eq (q : PageQuery) (range : TimeRange) :
    q.rendered range =
      { query := q.source.text range ++ "\n  |> group(" ++ q.tail
        total := q.source.text range ++ "\n  |> group(" ++ q.totalTail
        size := q.source.settings.pageSize q.size } := by
  have hsort : "\n  |> group()\n  |> sort(columns: [\"" = "\n  |> group(" ++ ")\n  |> sort(columns: [\"" := by decide
  have hcount : "\n  |> group()\n  |> count(column: \"" = "\n  |> group(" ++ ")\n  |> count(column: \"" := by decide
  unfold rendered tail totalTail
  rw [Source.render_eq_text, hsort, hcount]
  simp only [String.append_assoc]

variable {q : PageQuery} {filter : Filter} {enum? : String → Option Enumeration} {now : Instant}

theorem render_of_error {e : RenderError} (h : filter.render enum? = .error e) :
    q.render filter enum? now = .error (.render e) := by
  rw [render, range_of_error h]
  rfl

theorem render_of_no_token {fragment : String} (htoken : q.token = "") (h : filter.render enum? = .ok fragment) :
    q.render filter enum? now = .ok (q.rendered (TimeRange.split fragment Source.beginning now.bound)) := by
  rw [render, range_of_ok h]
  dsimp only
  rw [if_pos htoken]
  rfl

end PageQuery

namespace ChartQuery

variable {q : ChartQuery} {filter : Filter} {enum? : String → Option Enumeration} {now : Instant}

/-- The counts of a chart, behind the name of their first stage. -/
def tail (q : ChartQuery) (offset : Span) : String :=
  q.groupKey?.elim "" (fun key => "columns: [\"" ++ key ++ "\"]") ++ ")\n  |> sort(columns: [\"" ++ q.countColumn ++
    "\"])\n  |> aggregateWindow(every: " ++ q.window.flux ++ ", column: \"" ++ q.countColumn ++
    "\", fn: count, createEmpty: false, offset: " ++ offset.flux ++ ")"

private theorem intercalate_stages (q : ChartQuery) (offset : Span) :
    "\n" ++ "\n".intercalate (q.stages offset) = "\n  |> group(" ++ q.tail offset := by
  have hgroup : "\n  |> group(" = "\n" ++ "  |> group(" := by decide
  have hkey : "  |> group(columns: [\"" = "  |> group(" ++ "columns: [\"" := by decide
  have hall : "  |> group()" = "  |> group(" ++ ")" := by decide
  have hsort : ")\n  |> sort(columns: [\"" = ")" ++ "\n" ++ "  |> sort(columns: [\"" := by decide
  have hwindow : "\"])\n  |> aggregateWindow(every: " = "\"])" ++ "\n" ++ "  |> aggregateWindow(every: " := by decide
  have hclose : "\"])" = "\"]" ++ ")" := by decide
  unfold stages tail
  rw [hgroup, hsort, hwindow, hall, hclose]
  cases q.groupKey? <;>
    simp only [hkey, Option.elim_none, Option.elim_some, String.intercalate_cons_cons, String.intercalate_singleton,
      String.append_assoc, String.empty_append]

section

variable {fragment : String}

theorem render_of_error {e : RenderError} (h : filter.render enum? = .error e) :
    q.render filter enum? now = .error (.render e) := by
  rw [render, range, Source.range, h]
  rfl

private theorem range_of_ok {range : TimeRange} (h : filter.render enum? = .ok fragment)
    (hrange : TimeRange.split fragment Source.beginning now.bound = range) :
    ChartQuery.range filter enum? now =
      ((Rfc3339.read range.start.toList).mapError (.rangeStart range.start) >>= fun start => pure (range, start)) := by
  rw [ChartQuery.range, Source.range, h, ← hrange]
  rfl

theorem render_of_fault {fault : Rfc3339.Fault} (h : filter.render enum? = .ok fragment)
    (hfault : Rfc3339.read (TimeRange.split fragment Source.beginning now.bound).start.toList = .error fault) :
    q.render filter enum? now =
      .error (.rangeStart (TimeRange.split fragment Source.beginning now.bound).start fault) := by
  rw [render, range_of_ok h rfl, hfault]
  rfl

theorem render_of_start {start : Instant} (h : filter.render enum? = .ok fragment)
    (hstart : Rfc3339.read (TimeRange.split fragment Source.beginning now.bound).start.toList = .ok start) :
    q.render filter enum? now =
      .ok (q.source.text (TimeRange.split fragment Source.beginning now.bound) ++ "\n  |> group(" ++
        q.tail start.offset) := by
  have hstages : q.stages start.offset ≠ [] := by simp [stages]
  rw [String.append_assoc, ← intercalate_stages, ← Source.render_eq_text, Source.render, ← String.append_assoc,
    ← String.intercalate_append_of_ne_nil (Source.lines_ne_nil _ _) hstages, render, range_of_ok h rfl, hstart]
  rfl

/-- A chart has a text if the filter has a fragment and the range starts at a time. -/
theorem render_eq_ok_iff {text : String} :
    q.render filter enum? now = .ok text ↔ ∃ fragment f, filter.render enum? = .ok fragment ∧
      Rfc3339.Tells (TimeRange.split fragment Source.beginning now.bound).start.toList f ∧
      text = q.source.text (TimeRange.split fragment Source.beginning now.bound) ++ "\n  |> group(" ++
        q.tail f.instant.offset := by
  constructor
  · intro h
    cases hfragment : filter.render enum? with
    | error e =>
      rw [render_of_error hfragment] at h
      cases h
    | ok fragment =>
      cases hread : Rfc3339.read (TimeRange.split fragment Source.beginning now.bound).start.toList with
      | error fault =>
        rw [render_of_fault hfragment hread] at h
        cases h
      | ok start =>
        rw [render_of_start hfragment hread] at h
        obtain ⟨f, hf, rfl⟩ := Rfc3339.read_eq_ok_iff_tells.1 hread
        exact ⟨fragment, f, rfl, hf, (Except.ok.inj h).symm⟩
  · rintro ⟨fragment, f, hfragment, hf, rfl⟩
    exact render_of_start hfragment (Rfc3339.read_eq_ok_iff_tells.2 ⟨f, hf, rfl⟩)

theorem render_eq_rangeStart_iff (h : filter.render enum? = .ok fragment) :
    (∃ fault, q.render filter enum? now =
      .error (.rangeStart (TimeRange.split fragment Source.beginning now.bound).start fault)) ↔
      ¬ Rfc3339.IsTime (TimeRange.split fragment Source.beginning now.bound).start.toList := by
  rw [← Rfc3339.exists_read_eq_ok_iff]
  cases hread : Rfc3339.read (TimeRange.split fragment Source.beginning now.bound).start.toList with
  | error fault =>
    constructor
    · rintro - ⟨t, ht⟩
      cases ht
    · exact fun _ => ⟨fault, render_of_fault h hread⟩
  | ok start =>
    rw [render_of_start h hread]
    constructor
    · rintro ⟨fault, hfault⟩
      cases hfault
    · exact fun hnone => absurd ⟨start, rfl⟩ hnone

end

/-- A chart beside a page without a token, over the same source. Where the page fails, the filter has no fragment, and
the chart fails in the same way. Otherwise the chart fails exactly if its range starts at a text that is no time, which
takes an anchor for the start in the fragment. If it does not fail, all three texts begin with the lines that read the
records of one range and go on with a stage `group`. -/
theorem render_beside_page {page : PageQuery} {chart : ChartQuery} (hsource : page.source = chart.source)
    (htoken : page.token = "") (filter : Filter) (enum? : String → Option Enumeration) (now : Instant) :
    (∀ error, page.render filter enum? now = .error error →
      chart.render filter enum? now = .error error ∧ ∃ e, filter.render enum? = .error e ∧ error = .render e) ∧
    ∀ rendered, page.render filter enum? now = .ok rendered →
      ∃ fragment, filter.render enum? = .ok fragment ∧
        let range := TimeRange.split fragment Source.beginning now.bound
        let base := page.source.text range
        ((∃ fault, chart.render filter enum? now = .error (.rangeStart range.start fault)) ↔
          ¬ Rfc3339.IsTime range.start.toList) ∧
        ((∀ piece ∈ TimeRange.pieces fragment.toList, ¬ "start@".toList <+: piece) →
          Rfc3339.IsTime range.start.toList) ∧
        (Rfc3339.IsTime range.start.toList → ∃ start, Rfc3339.read range.start.toList = .ok start ∧
          chart.render filter enum? now = .ok (base ++ "\n  |> group(" ++ chart.tail start.offset)) ∧
        rendered.query = base ++ "\n  |> group(" ++ page.tail ∧
        rendered.total = base ++ "\n  |> group(" ++ page.totalTail := by
  cases hrender : filter.render enum? with
  | error e =>
    rw [PageQuery.render_of_error hrender, render_of_error hrender]
    constructor
    · intro error herror
      obtain rfl := Except.error.inj herror
      exact ⟨rfl, e, rfl, rfl⟩
    · intro rendered hrendered
      cases hrendered
  | ok fragment =>
    rw [PageQuery.render_of_no_token htoken hrender, PageQuery.rendered_eq]
    constructor
    · intro error herror
      cases herror
    · intro rendered hrendered
      obtain rfl := Except.ok.inj hrendered
      refine ⟨fragment, rfl, render_eq_rangeStart_iff hrender, fun hanchors => ?_, fun htime => ?_, rfl, rfl⟩
      · rw [TimeRange.start_split hanchors]
        exact Source.isTime_beginning
      · obtain ⟨start, hstart⟩ := Rfc3339.exists_read_eq_ok_iff.2 htime
        exact ⟨start, hstart, hsource ▸ render_of_start hrender hstart⟩

/-- Doors since a point in time that the filter gives as a text. -/
private def doorsFrom (time : String) : Filter :=
  ⟨some ⟨.call 4 ">=" [.ident 1 "start", .call 3 "timestamp" [.const 2 (.string time)]],
    Std.ExtTreeMap.ofList [((1 : NodeId), Ty.timestamp), (3, .timestamp), (4, .bool)]⟩⟩

private def doors : Source := { settings := {}, measurement := "doors", owner? := some "ana" }

private def doorsList : PageQuery := { source := doors, sortKey := "time" }

private def doorsChart : ChartQuery := { source := doors, countColumn := "door", groupKey? := some "floor" }

/-- A day that the calendar does not have, and a leap second five hours behind UTC. -/
theorem render_beside_page_doors :
    doorsList.source = doorsChart.source ∧ doorsList.token = "" ∧
    (∃ rendered, doorsList.render (doorsFrom "2023-02-29T00:00:00Z") (fun _ => none) ⟨0, 0⟩ = .ok rendered) ∧
    (∃ fault, doorsChart.render (doorsFrom "2023-02-29T00:00:00Z") (fun _ => none) ⟨0, 0⟩ =
      .error (.rangeStart "2023-02-29T00:00:00Z" fault)) ∧
    (∃ rendered, doorsList.render (doorsFrom "2016-12-31t18:59:60.5-05:00") (fun _ => none) ⟨0, 0⟩ = .ok rendered) ∧
    doorsChart.render (doorsFrom "2016-12-31t18:59:60.5-05:00") (fun _ => none) ⟨0, 0⟩ =
      .ok ("from(bucket: \"instance\")\n  |> range(start: 2016-12-31t18:59:60.5-05:00, stop: 1970-01-01T00:00:00Z)\n" ++
        "  |> filter(fn: (r) => r[\"_measurement\"] == \"doors\")\n" ++
        "  |> pivot(rowKey: [\"_time\"], columnKey: [\"_field\"], valueColumn: \"_value\")\n" ++
        "  |> filter(fn: (r) => r[\"owner_uid\"] == \"ana\")\n  |> group(columns: [\"floor\"])\n" ++
        "  |> sort(columns: [\"door\"])\n  |> aggregateWindow(every: 1h, column: \"door\", fn: count, " ++
        "createEmpty: false, offset: 24h500ms)") := by
  have hfault : Rfc3339.read "2023-02-29T00:00:00Z".toList = .error .outOfRange := by decide +kernel
  have hleap : Rfc3339.read "2016-12-31t18:59:60.5-05:00".toList = .ok ⟨1483228799, 1500000000⟩ := by decide +kernel
  have hday : (doorsFrom "2023-02-29T00:00:00Z").render (fun _ => none) = .ok "start@2023-02-29T00:00:00Z" := by
    decide +kernel
  have hsecond : (doorsFrom "2016-12-31t18:59:60.5-05:00").render (fun _ => none) =
    .ok "start@2016-12-31t18:59:60.5-05:00" := by decide +kernel
  have htoken : doorsList.token = "" := rfl
  have hbeside (time : String) :=
    @render_beside_page doorsList doorsChart rfl htoken (doorsFrom time) (fun _ => none) ⟨0, 0⟩
  refine ⟨rfl, htoken, ⟨_, PageQuery.render_of_no_token htoken hday⟩, ?_,
    ⟨_, PageQuery.render_of_no_token htoken hsecond⟩, ?_⟩
  · obtain ⟨fragment, hfragment, hrefused, -⟩ := (hbeside _).2 _ (PageQuery.render_of_no_token htoken hday)
    obtain rfl := Except.ok.inj (hday.symm.trans hfragment)
    refine hrefused.2 fun htime => ?_
    obtain ⟨t, ht⟩ := Rfc3339.exists_read_eq_ok_iff.2 htime
    have hread := hfault.symm.trans ht
    cases hread
  · obtain ⟨fragment, hfragment, -, -, htext, -⟩ := (hbeside _).2 _ (PageQuery.render_of_no_token htoken hsecond)
    obtain rfl := Except.ok.inj (hsecond.symm.trans hfragment)
    obtain ⟨start, hstart, hchart⟩ := htext (Rfc3339.exists_read_eq_ok_iff.1 ⟨_, hleap⟩)
    obtain rfl := Except.ok.inj (hleap.symm.trans hstart)
    rw [hchart]
    decide +kernel

end ChartQuery

end FluxQuery
