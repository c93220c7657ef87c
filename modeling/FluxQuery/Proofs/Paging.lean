import FluxQuery.Proofs.Case
import FluxQuery.Proofs.Cursors
import FluxQuery.Proofs.Rendering
import FluxQuery.Proofs.TimeTexts
import FluxQuery.Query.Page

/-!
# Paging

A token changes nothing of a page but the start of its range, which becomes the instant one nanosecond after the cursor.
That instant always exists: a token is read from a text whose year has four digits, and its offset is below a day, so
its time stays far from both ends of the instants (`isValid_next_of_read`). The start is read back as that instant if
its own year still has four digits.
-/

namespace FluxQuery

/-! ### Instants that are read -/

namespace Rfc3339

private theorem toDay_bounds {d : Date} (hd : d.IsValid) (hy : 0 ≤ d.year ∧ d.year ≤ 9999) :
    -719528 ≤ d.toDay ∧ d.toDay ≤ 2932896 := by
  obtain ⟨hmonth, hmonth', hday, hday'⟩ := hd
  have hdays := daysInMonth_le d.year d.month
  have hepoch : Date.epoch = -719468 := rfl
  unfold Date.toDay Date.daysBefore
  by_cases h : d.month ≤ 2
  · simp only [if_pos h]
    omega
  · simp only [if_neg h]
    omega

/-- What is read lies within a day of the years of four digits. -/
private theorem bounds_of_read {cs : List Char} {t : Instant} (h : read cs = .ok t) :
    -62167305600 < t.seconds ∧ t.seconds < 253402387200 ∧ t.nanos < 2 * Instant.second ∧
      (Instant.second ≤ t.nanos → t.seconds % 60 = 59) := by
  obtain ⟨-, f, _, _, _, hdate, -, hfraction, hrange, -, hoffset, rfl⟩ := read_eq_ok_iff.1 h
  obtain ⟨hvalid, hyear, -⟩ := readDate_eq_ok_iff.1 hdate
  have hday := toDay_bounds hvalid hyear
  obtain ⟨_, hpoint, -⟩ := exists_tellsFraction hfraction
  have hnanos := hpoint.lt
  have hzone : -1440 < f.offset ∧ f.offset < 1440 := by omega
  have hsecond : min f.second 59 ≤ 59 ∧ (f.second = 60 → min f.second 59 = 59) := by omega
  unfold Fields.instant
  refine ⟨?_, ?_, ?_, ?_⟩
  · dsimp only
    omega
  · dsimp only
    omega
  · dsimp only
    split <;> omega
  · dsimp only
    split <;> omega

theorem isValid_of_read {cs : List Char} {t : Instant} (h : read cs = .ok t) : t.IsValid := by
  obtain ⟨hlow, hhigh, hnanos, hleap⟩ := bounds_of_read h
  exact ⟨by omega, by omega, hnanos, hleap⟩

theorem isValid_next_of_read {cs : List Char} {t : Instant} (h : read cs = .ok t) : t.next.IsValid := by
  obtain ⟨hlow, hhigh, hnanos, hleap⟩ := bounds_of_read h
  unfold Instant.next Instant.IsValid
  split
  · rename_i hcarry
    exact ⟨by dsimp only; omega, by dsimp only; omega, by simp [Instant.second], by simp [Instant.second]⟩
  · rename_i hcarry
    exact ⟨by dsimp only; omega, by dsimp only; omega, by dsimp only; omega, fun _ => hleap (by dsimp only at *; omega)⟩

end Rfc3339

theorem Cursor.isValid_next {token : String} {c : Cursor} (h : decode token = .ok c) : c.time.next.IsValid := by
  obtain ⟨bytes, -, h⟩ := Except.bind_eq_ok_iff.1 h
  obtain ⟨text, -, h⟩ := Except.bind_eq_ok_iff.1 h
  unfold ofPlain at h
  split at h
  · cases h
  · obtain ⟨time, htime, h⟩ := Except.bind_eq_ok_iff.1 h
    cases h
    exact Rfc3339.isValid_next_of_read (Except.mapError_eq_ok_iff.1 htime)

/-- Nanoseconds from one instant to another. A leap second that has begun is over before the next second starts. -/
def Instant.until (earlier later : Instant) : Int :=
  (later.seconds - earlier.seconds) * second + ((later.nanos : Int) - earlier.nanos) +
    if earlier.seconds < later.seconds ∧ second ≤ earlier.nanos then (second : Int) else 0

theorem Instant.until_next (t : Instant) : t.until t.next = 1 := by
  unfold Instant.until next
  have hsecond : second = 1000000000 := rfl
  split
  · rename_i hcarry
    dsimp only
    split <;> omega
  · dsimp only
    split <;> omega

/-! ### The text of a page -/

/-- The bounds of a range stand in one place of the text that reads its records. -/
private theorem Source.exists_render_eq (s : Source) (filters : String) :
    ∃ stages, ∀ start stop, s.render ⟨start, stop, filters⟩ =
      "from(bucket: \"" ++ s.settings.bucket ++ "\")\n  |> range(start: " ++ start ++ ", stop: " ++ stop ++ ")" ++
        stages := by
  have hline : "\")\n  |> range(start: " = "\")" ++ "\n" ++ "  |> range(start: " := by decide
  refine ⟨"\n" ++ "\n".intercalate ((s.lines ⟨"", "", filters⟩).drop 2), fun start stop => ?_⟩
  rw [render, lines, List.append_assoc, List.cons_append, List.cons_append, List.cons_append,
    String.intercalate_cons_cons, String.intercalate_cons_cons, hline]
  simp only [String.append_assoc]
  rfl

namespace PageQuery

variable {q : PageQuery} {filter : Filter} {enum? : String → Option Enumeration} {now : Instant}

/-- A page by the bounds of its range and what follows the range in each of the two texts. -/
def page (q : PageQuery) (stop stages counting start : String) : RenderedPage :=
  let opening := "from(bucket: \"" ++ q.source.settings.bucket ++ "\")\n  |> range(start: " ++ start ++ ", stop: " ++
    stop ++ ")"
  { query := opening ++ stages, total := opening ++ counting, size := q.source.settings.pageSize q.size }

private theorem exists_rendered_eq (q : PageQuery) (filters : String) :
    ∃ stages counting, ∀ start stop, q.rendered ⟨start, stop, filters⟩ = q.page stop stages counting start := by
  obtain ⟨stages, hstages⟩ := q.source.exists_render_eq filters
  refine ⟨stages ++ ("\n  |> group()\n  |> sort(columns: [\"" ++ q.sortKey ++ "\"])\n  |> limit(n: " ++
      toString (q.source.settings.pageSize q.size).toNat ++ ")"),
    stages ++ ("\n  |> group()\n  |> count(column: \"" ++ q.sortKey ++ "\")"), fun start stop => ?_⟩
  unfold rendered page
  rw [RenderedPage.mk.injEq, hstages]
  refine ⟨?_, ?_, rfl⟩
  · simp only [String.append_assoc]
  · simp only [String.append_assoc]

theorem range_of_error {error : RenderError} (h : filter.render enum? = .error error) :
    q.range filter enum? now = .error (.render error) := by
  rw [range, Source.range, h]
  rfl

theorem range_of_ok {fragment : String} (h : filter.render enum? = .ok fragment) :
    q.range filter enum? now =
      let range := TimeRange.split fragment Source.beginning now.bound
      if q.token = "" then .ok range
      else ((Cursor.decode q.token).mapError .cursor).map fun c => { range with start := c.time.next.bound } := by
  rw [range, Source.range, h]
  dsimp only
  split
  · rfl
  · cases Cursor.decode q.token <;> rfl

/-- A page with a token. A fault of the filter comes before a fault of the token. If there is neither, the page is the
one that the query gives without its token, except for the start of the range in both texts: the token moves it by one
nanosecond past the cursor, to an instant that exists whatever the token is, and which is read back from the text if its
year has four digits. -/
theorem render_of_token (q : PageQuery) (filter : Filter) (enum? : String → Option Enumeration) (now : Instant)
    (htoken : q.token ≠ "") :
    (∀ error, filter.render enum? = .error error → q.render filter enum? now = .error (.render error)) ∧
    ∀ fragment, filter.render enum? = .ok fragment →
      (∀ fault, Cursor.decode q.token = .error fault → q.render filter enum? now = .error (.cursor fault)) ∧
      ∀ cursor, Cursor.decode q.token = .ok cursor →
        (∃ stages counting : String,
          let range := TimeRange.split fragment Source.beginning now.bound
          { q with token := "" }.render filter enum? now = .ok (q.page range.stop stages counting range.start) ∧
          q.render filter enum? now = .ok (q.page range.stop stages counting cursor.time.next.bound)) ∧
        cursor.time.next.IsValid ∧ cursor.time.until cursor.time.next = 1 ∧
        (0 ≤ cursor.time.next.date.year ∧ cursor.time.next.date.year ≤ 9999 →
          Rfc3339.read cursor.time.next.bound.toList = .ok cursor.time.next) := by
  refine ⟨fun error herror => ?_, fun fragment hfragment => ⟨fun fault hfault => ?_, fun cursor hcursor => ?_⟩⟩
  · rw [render, range_of_error herror]
    rfl
  · rw [render, range_of_ok hfragment, hfault]
    dsimp only
    rw [if_neg htoken]
    rfl
  · have hvalid := Cursor.isValid_next hcursor
    refine ⟨?_, hvalid, Instant.until_next _, fun hyear => ?_⟩
    · generalize hrange : TimeRange.split fragment Source.beginning now.bound = range
      obtain ⟨stages, counting, hpage⟩ := q.exists_rendered_eq range.filters
      refine ⟨stages, counting, ?_, ?_⟩
      · rw [render, range_of_ok hfragment, hrange, ← hpage]
        rfl
      · rw [render, range_of_ok hfragment, hrange, hcursor, ← hpage]
        dsimp only
        rw [if_neg htoken]
        rfl
    · rw [Instant.bound, String.toList_ofList]
      exact Rfc3339.read_print .fewest hvalid hyear

/-- Doors since the year 2000, after a page that ended with the leap second of 2016. -/
private def doorsPage : PageQuery :=
  { source := { settings := {}, measurement := "doors" }, sortKey := "door",
    token := "MjAxNi0xMi0zMVQyMzo1OTo2MC45OTk5OTk5OTlaLGFuYQ==" }

private def doorsSinceMillennium : Filter :=
  ⟨some ⟨.call 4 ">=" [.ident 1 "start", .call 3 "timestamp" [.const 2 (.string "2000-01-01T00:00:00Z")]],
    Std.ExtTreeMap.ofList [((1 : NodeId), Ty.timestamp), (3, .timestamp), (4, .bool)]⟩⟩

theorem render_of_token_leap :
    doorsPage.token ≠ "" ∧ doorsSinceMillennium.render (fun _ => none) = .ok "start@2000-01-01T00:00:00Z" ∧
    Cursor.decode doorsPage.token = .ok ⟨⟨1483228799, 1999999999⟩, "ana"⟩ ∧
    (∃ stages counting,
      { doorsPage with token := "" }.render doorsSinceMillennium (fun _ => none) ⟨1704067200, 0⟩ =
        .ok (doorsPage.page "2024-01-01T00:00:00Z" stages counting "2000-01-01T00:00:00Z") ∧
      doorsPage.render doorsSinceMillennium (fun _ => none) ⟨1704067200, 0⟩ =
        .ok (doorsPage.page "2024-01-01T00:00:00Z" stages counting "2017-01-01T00:00:00Z")) ∧
    Rfc3339.read "2017-01-01T00:00:00Z".toList = .ok ⟨1483228800, 0⟩ := by
  have htoken : doorsPage.token ≠ "" := by decide
  have hfragment : doorsSinceMillennium.render (fun _ => none) = .ok "start@2000-01-01T00:00:00Z" := by decide +kernel
  have hcursor : Cursor.decode doorsPage.token = .ok ⟨⟨1483228799, 1999999999⟩, "ana"⟩ := by decide +kernel
  obtain ⟨⟨stages, counting, hpages⟩, -, -, hread⟩ :=
    (render_of_token doorsPage doorsSinceMillennium (fun _ => none) ⟨1704067200, 0⟩ htoken).2 _ hfragment |>.2 _ hcursor
  have hsplit : TimeRange.split "start@2000-01-01T00:00:00Z" Source.beginning (Instant.bound ⟨1704067200, 0⟩) =
      ⟨"2000-01-01T00:00:00Z", "2024-01-01T00:00:00Z", ""⟩ := by decide +kernel
  have hbound : Instant.bound (Instant.next ⟨1483228799, 1999999999⟩) = "2017-01-01T00:00:00Z" := by decide +kernel
  simp only [hsplit, hbound] at hpages hread
  exact ⟨htoken, hfragment, hcursor, ⟨stages, counting, hpages⟩, hread (by decide)⟩

end PageQuery

end FluxQuery
