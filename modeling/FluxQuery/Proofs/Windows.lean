import FluxQuery.Proofs.Charts
import FluxQuery.Proofs.Durations

/-!
# The windows of a chart

Windows are laid out from the Unix epoch in both directions and all are shifted by one length of time. The shift is the
time of day at which the range starts (`cast_sinceMidnight`), so if a day is a whole number of windows, then one of them
begins where the range does. What a chart is asked for comes in any order, and the last window wins
(`window_foldl_choose`).
-/

namespace FluxQuery

/-! ### The time of day -/

/-- Nanoseconds in a day. -/
def Span.day : Nat := 24 * 60 * Span.minute

/-- The nanoseconds from the Unix epoch to a time that lies in no leap second; negative for one before. -/
def Rfc3339.Fields.sinceEpoch (f : Fields) : Int :=
  (((f.date.toDay * 24 + f.hour) * 60 + f.minute - f.offset) * 60 + f.second) * Instant.second + f.nanos

/-- Outside of leap seconds, whole days leave the time since midnight of the time since the epoch. -/
theorem Instant.cast_sinceMidnight {t : Instant} (h : t.nanos < second) :
    (t.sinceMidnight : Int) = (t.seconds * second + t.nanos) % Span.day := by
  have hday : Span.day = 86400 * second := rfl
  rw [sinceMidnight, secondOfDay, hday]
  unfold second at h ⊢
  omega

theorem Rfc3339.Tells.cast_sinceMidnight {cs : List Char} {f : Fields} (h : Tells cs f) (hleap : f.second ≠ 60) :
    (f.instant.sinceMidnight : Int) = f.sinceEpoch % Span.day := by
  obtain ⟨-, -, -, -, -, hsecond, hfraction, -⟩ := h
  have hnanos : f.instant.nanos = f.nanos := if_neg hleap
  have hlt : f.instant.nanos < Instant.second := hnanos ▸ hfraction.lt
  have hmin : min f.second 59 = f.second := by omega
  have hseconds : f.instant.seconds * Instant.second + f.instant.nanos = f.sinceEpoch := by
    rw [hnanos, Fields.sinceEpoch]
    unfold Fields.instant Instant.second
    dsimp only
    rw [hmin]
    omega
  rw [Instant.cast_sinceMidnight hlt, hseconds]

/-- A window begins at `s` if it begins at the time of day of `s` and days are made of windows. -/
theorem exists_window_eq {s : Int} {window offset day : Nat} (hoffset : (offset : Int) = s % day) (h : window ∣ day) :
    s % window = offset % window ∧ ∃ k : Int, s = k * window + offset := by
  obtain ⟨n, rfl⟩ := h
  constructor
  · rw [hoffset, Int.emod_emod_of_dvd _ (Int.natCast_dvd_natCast.2 (Nat.dvd_mul_right window n))]
  · refine ⟨s / (window * n : Nat) * n, ?_⟩
    have hdiv := Int.mul_ediv_add_emod s (window * n : Nat)
    rw [hoffset, Int.mul_assoc, Int.mul_comm n window, ← Int.natCast_mul, Int.mul_comm, hdiv]

/-! ### The chart that is asked for -/

namespace ChartQuery

namespace Choice

def window? : Choice → Option Span
  | .window span => some span
  | _ => none

/-- The window that was asked for last, if it is a minute or more, and an hour otherwise. -/
def lastWindow (choices : List Choice) : Span :=
  ((choices.filterMap window?).getLast?.filter fun span : Span => Span.minute ≤ span.nanos).getD ⟨60 * Span.minute⟩

end Choice

theorem countColumn_choose (q : ChartQuery) (c : Choice) : (q.choose c).countColumn = q.countColumn := by
  cases c <;> rfl

/-- What a choice does to the window. -/
theorem window_choose (q : ChartQuery) (c : Choice) :
    (q.choose c).window =
      (c.window?.map fun span : Span =>
        if Span.minute ≤ span.nanos then span else ⟨60 * Span.minute⟩).getD q.window := by
  cases c with
  | window span =>
    change (if span.nanos < Span.minute then _ else span) = if _ then span else _
    by_cases h : span.nanos < Span.minute
    · rw [if_pos h, if_neg (Int.not_le.2 h)]
    · rw [if_neg h, if_pos (Int.not_lt.1 h)]
  | groupBy key => rfl
  | owner owner => rfl

theorem countColumn_foldl_choose (choices : List Choice) (q : ChartQuery) :
    (choices.foldl choose q).countColumn = q.countColumn := by
  induction choices generalizing q with
  | nil => rfl
  | cons c choices ih => rw [List.foldl_cons, ih, countColumn_choose]

/-- Each window replaces the one before. -/
theorem window_foldl_choose (choices : List Choice) (q : ChartQuery) :
    (choices.foldl choose q).window =
      ((choices.filterMap Choice.window?).getLast?.map fun span : Span =>
        if Span.minute ≤ span.nanos then span else ⟨60 * Span.minute⟩).getD q.window := by
  induction choices generalizing q with
  | nil => rfl
  | cons c choices ih =>
    rw [List.foldl_cons, ih, window_choose]
    cases hc : c.window? with
    | none => rw [List.filterMap_cons_none hc]; rfl
    | some span =>
      rw [List.filterMap_cons_some hc, List.getLast?_cons]
      cases (choices.filterMap Choice.window?).getLast? <;> rfl

theorem window_ofChoices (settings : Settings) (measurement countColumn : String) (choices : List Choice) :
    (ofChoices settings measurement countColumn choices).window = Choice.lastWindow choices := by
  rw [ofChoices, window_foldl_choose, Choice.lastWindow]
  cases (choices.filterMap Choice.window?).getLast? with
  | none => rfl
  | some span =>
    rw [Option.filter_some]
    by_cases h : Span.minute ≤ span.nanos <;> simp [h]

theorem tail_ofChoices (settings : Settings) (measurement column : String) (choices : List Choice) (offset : Span) :
    ∃ key, (ofChoices settings measurement column choices).tail offset =
      key ++ ")\n  |> sort(columns: [\"" ++ column ++ "\"])\n  |> aggregateWindow(every: " ++
        (Choice.lastWindow choices).flux ++ ", column: \"" ++ column ++
        "\", fn: count, createEmpty: false, offset: " ++ offset.flux ++ ")" := by
  rw [tail, window_ofChoices, ofChoices, countColumn_foldl_choose]
  exact ⟨_, rfl⟩

theorem Choice.minute_le_lastWindow (choices : List Choice) : Span.minute ≤ (lastWindow choices).nanos := by
  unfold lastWindow
  cases h : (choices.filterMap window?).getLast?.filter fun span : Span => decide (Span.minute ≤ span.nanos) with
  | none => decide
  | some span => exact of_decide_eq_true (Option.filter_eq_some_iff.1 h).2

/-! ### The chart that is written -/

variable {filter : Filter} {enum? : String → Option Enumeration} {now : Instant} {text : String}

/-- The last line of a chart has two literals. The one behind `every` is the length of the windows, which is what was
asked for last or an hour, and never below a minute. The one behind `offset` is what the whole days since the epoch
leave of the start of the range. If days are made of windows, then one of the windows begins at the start. -/
theorem window_begins_at_start (settings : Settings) (measurement column : String) (choices : List Choice)
    (h : (ofChoices settings measurement column choices).render filter enum? now = .ok text) :
    ∃ fragment, filter.render enum? = .ok fragment ∧
      let range := TimeRange.split fragment Source.beginning now.bound
      Rfc3339.IsTime range.start.toList ∧
      ∃ (key every offset : String) (window shift : Nat),
        text = (ofChoices settings measurement column choices).source.text range ++ "\n  |> group(" ++ key ++
          ")\n  |> sort(columns: [\"" ++ column ++ "\"])\n  |> aggregateWindow(every: " ++ every ++ ", column: \"" ++
          column ++ "\", fn: count, createEmpty: false, offset: " ++ offset ++ ")" ∧
        Span.read? every = some window ∧ Span.read? offset = some shift ∧
        (window : Int) = (Choice.lastWindow choices).nanos ∧ Span.minute ≤ window ∧
        ∀ f, Rfc3339.Tells range.start.toList f → f.second ≠ 60 →
          (shift : Int) = f.sinceEpoch % Span.day ∧ shift < Span.day ∧
          (window ∣ Span.day →
            f.sinceEpoch % window = shift % window ∧ ∃ k : Int, f.sinceEpoch = k * window + shift) := by
  obtain ⟨fragment, start, hfragment, hstart, rfl⟩ := render_eq_ok_iff.1 h
  have hminute := Choice.minute_le_lastWindow choices
  obtain ⟨key, htail⟩ := tail_ofChoices settings measurement column choices start.instant.offset
  refine ⟨fragment, hfragment, ⟨start, hstart⟩, key, _, _, _, _, ?_,
    Span.read?_flux (Choice.lastWindow choices), Span.read?_flux start.instant.offset,
    Int.toNat_of_nonneg (by omega), by omega, fun f hf hleap => ?_⟩
  · rw [htail]
    simp only [String.append_assoc]
  · have hshift := hf.cast_sinceMidnight hleap
    rw [hf.instant_eq hstart] at hshift
    have hlt : f.sinceEpoch % Span.day < Span.day := Int.emod_lt_of_pos _ (by decide)
    rw [Instant.offset, Int.toNat_natCast]
    exact ⟨hshift, by omega, exists_window_eq hshift⟩

/-- Doors since an evening of 1969, four hours behind UTC. -/
private def doorsSinceLanding : Filter :=
  ⟨some ⟨.call 4 ">" [.ident 1 "start", .call 3 "timestamp" [.const 2 (.string "1969-07-20t22:56:15.5-04:00")]],
    Std.ExtTreeMap.ofList [((1 : NodeId), Ty.timestamp), (3, .timestamp), (4, .bool)]⟩⟩

private def landing : Rfc3339.Fields := ⟨⟨1969, 7, 20⟩, 22, 56, 15, 500000000, -240⟩

/-- A window of ten seconds is asked for, and then one of six hours. -/
private def doorsByFloor : List Choice :=
  [.window ⟨10 * Instant.second⟩, .groupBy "floor", .window ⟨6 * 60 * Span.minute⟩, .owner "ana"]

private theorem tells_landing : Rfc3339.Tells "1969-07-20t22:56:15.5-04:00".toList landing :=
  @Rfc3339.Tells.intro landing 't' ['.', '5'] "-04:00".toList (by decide) (by decide) (by decide) (by decide)
    (by decide) (by decide) (.point (List.cons_ne_nil _ _) (List.forall_mem_singleton.2 rfl))
    (@Rfc3339.TellsZone.behind '-' 4 0 (by decide) (by decide) (by decide))

private def doorsSinceLandingText : String :=
  "from(bucket: \"instance\")\n  |> range(start: 1969-07-20t22:56:15.5-04:00, stop: 1970-01-01T00:00:00Z)\n" ++
  "  |> filter(fn: (r) => r[\"_measurement\"] == \"doors\")\n" ++
  "  |> pivot(rowKey: [\"_time\"], columnKey: [\"_field\"], valueColumn: \"_value\")\n" ++
  "  |> filter(fn: (r) => r[\"owner_uid\"] == \"ana\")\n  |> group(columns: [\"floor\"])\n" ++
  "  |> sort(columns: [\"door\"])\n  |> aggregateWindow(every: 6h, column: \"door\", fn: count, " ++
  "createEmpty: false, offset: 2h56m15s500ms)"

/-- Before the epoch, a window of six hours begins in UTC at 02:56:15.5 of the next day. -/
theorem window_begins_at_start_landing :
    (ofChoices {} "doors" "door" doorsByFloor).render doorsSinceLanding (fun _ => none) ⟨0, 0⟩ =
      .ok doorsSinceLandingText ∧
    Rfc3339.Tells "1969-07-20t22:56:15.5-04:00".toList landing ∧ landing.second ≠ 60 ∧
    6 * 60 * Span.minute ∣ Span.day ∧ landing.sinceEpoch = -14159024500000000 ∧
    ∃ k : Int, landing.sinceEpoch = k * (6 * 60 * Span.minute : Nat) + 10575500000000 := by
  have hrender : (ofChoices {} "doors" "door" doorsByFloor).render doorsSinceLanding (fun _ => none) ⟨0, 0⟩ =
    .ok doorsSinceLandingText := by decide +kernel
  have hday : 6 * 60 * Span.minute ∣ Span.day := ⟨4, by decide⟩
  have hepoch : landing.sinceEpoch = -14159024500000000 := by decide +kernel
  have hfragment : doorsSinceLanding.render (fun _ => none) = .ok "start@1969-07-20t22:56:15.5-04:00" := by
    decide +kernel
  obtain ⟨fragment, hrendered, -, -, -, -, window, shift, -, -, -, hwindow, -, hstart⟩ :=
    window_begins_at_start {} "doors" "door" doorsByFloor hrender
  obtain rfl := Except.ok.inj (hfragment.symm.trans hrendered)
  have hsix : window = 6 * 60 * Span.minute := Int.ofNat.inj (hwindow.trans (by decide +kernel))
  obtain ⟨hshift, -, hbegins⟩ := hstart landing tells_landing (by decide)
  obtain ⟨-, k, hk⟩ := hbegins (hsix ▸ hday)
  refine ⟨hrender, tells_landing, by decide, hday, hepoch, k, ?_⟩
  rw [hk, hsix, hshift, hepoch]
  rfl

end ChartQuery

end FluxQuery
