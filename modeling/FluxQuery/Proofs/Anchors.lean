import FluxQuery.Proofs.Range

/-!
# Anchors that stay behind

Every comparison of a point in time is written as an anchor `field@value`, whatever the field is called. Only the
anchors of `start` and `stop` are lifted into the range: one of any other field stays among the stages, where Flux has
no use for it. All that stays behind is made of stages exactly if the conjunction has no such comparison.
-/

namespace FluxQuery

namespace Context

variable {ctx : Context}

/-- The field and the right side of a comparison of a point in time. -/
def anchor? (ctx : Context) : Expr → Option (String × Expr)
  | .call _ function [.ident i name, rhs] =>
    match Operator.ofName? function with
    | some (.compare _) => if ctx.types[i]? = some .timestamp then some (snakeCase name, rhs) else none
    | _ => none
  | _ => none

/-- A comparison of a point in time that is no end of the range. -/
def isStray (ctx : Context) (c : Expr) : Bool := (ctx.anchor? c).any fun a => a.1 != "start" && a.1 != "stop"

theorem isStray_iff {c : Expr} :
    ctx.isStray c = true ↔ ∃ field rhs, ctx.anchor? c = some (field, rhs) ∧ field ≠ "start" ∧ field ≠ "stop" := by
  simp [isStray, Option.any_eq_true]

private theorem anchor?_compare {id : NodeId} {c : Comparison} {i : NodeId} {name : String} {rhs : Expr} :
    ctx.anchor? (.call id (Operator.compare c).name [.ident i name, rhs]) =
      if ctx.types[i]? = some .timestamp then some (snakeCase name, rhs) else none := by
  simp only [anchor?, Operator.ofName?_name]

private theorem anchor?_has {id : NodeId} {args : List Expr} :
    ctx.anchor? (.call id Operator.has.name args) = none := by
  unfold anchor?
  split
  · rename_i heq
    rw [Expr.call.injEq] at heq
    rw [← heq.2.1, Operator.ofName?_name]
  · rfl

/-- A bound is an anchor of the right field. -/
private theorem bound?_eq {field : String} {c : Expr} (hc : c.IsComparison ∨ c.IsMembership) :
    ctx.bound? field c = (ctx.anchor? c).bind fun a => if a.1 = field then some a.2 else none := by
  rcases hc with hc | hc
  · obtain ⟨id, how, i, name, hrhs⟩ := hc
    rw [bound?_compare, anchor?_compare]
    by_cases ht : ctx.types[i]? = some .timestamp
    · simp [ht]
    · simp [ht]
  · obtain ⟨id, args⟩ := hc
    rw [bound?_has, anchor?_has]
    rfl

private theorem isStage_iff {c : Expr} (hc : c.IsComparison ∨ c.IsMembership) :
    ctx.isStage c = true ↔ ctx.anchor? c = none ∨ ctx.isStray c = true := by
  rw [isStage, bound?_eq hc, bound?_eq hc, isStray]
  cases ctx.anchor? c with
  | none => simp
  | some a => simp

/-! ### Anchors and stages -/

/-- A stage has a space before any at-sign, and an anchor has none. -/
private theorem anchor_ne_filterStage (name value condition : String) :
    snakeCase name ++ "@" ++ value ≠ filterStage condition := by
  intro h
  let mark : Char → Bool := fun c => c == ' ' || c == '@'
  have hstage : (filterStage condition).toList.find? mark = some ' ' := by
    have hopen : "|> filter(fn: (r) => ".toList.find? mark = some ' ' := by decide
    unfold filterStage
    rw [String.append_assoc, String.toList_append, List.find?_append, hopen]
    rfl
  have hanchor : (snakeCase name ++ "@" ++ value).toList.find? mark = some '@' := by
    have hat : "@".toList.find? mark = some '@' := by decide
    rw [String.append_assoc, String.toList_append, String.toList_append, List.find?_append, List.find?_append, hat]
    cases hfind : (snakeCase name).toList.find? mark with
    | none => rfl
    | some c =>
      have hmark : c = ' ' ∨ c = '@' := by simpa [mark] using List.find?_some hfind
      rcases hmark with rfl | rfl
      · exact absurd (List.mem_of_find?_eq_some hfind) (space_not_mem_snakeCase name)
      · rfl
  rw [h, hstage] at hanchor
  exact absurd (Option.some.inj hanchor) (by decide)

private theorem Renders.text_anchor {c rhs : Expr} {field : String} {o : Operand} (h : ctx.Renders c o)
    (hc : c.IsComparison ∨ c.IsMembership) (ha : ctx.anchor? c = some (field, rhs)) :
    o.text = field ++ "@" ++ ctx.text rhs ∧ ∃ name, field = snakeCase name := by
  rcases hc with hc | hc
  · obtain ⟨id, how, i, name, hrhs⟩ := hc
    obtain ⟨-, l, r, hl, hr, rfl⟩ := renders_compare_iff.1 h
    obtain ⟨ty, hty, rfl⟩ := renders_ident_iff.1 hl
    rw [anchor?_compare] at ha
    split at ha
    · rename_i ht
      rw [hty] at ht
      obtain rfl := Option.some.inj ht
      obtain ⟨rfl, rfl⟩ := Prod.mk.inj (Option.some.inj ha)
      rw [render_renderTyped, if_pos (by decide), hr.text_eq]
      exact ⟨rfl, name, rfl⟩
    · cases ha
  · obtain ⟨id, args⟩ := hc
    rw [anchor?_has] at ha
    cases ha

private theorem Renders.text_stage {c : Expr} {o : Operand} (h : ctx.Renders c o)
    (hc : c.IsComparison ∨ c.IsMembership) (ha : ctx.anchor? c = none) :
    ∃ condition, o.text = filterStage condition := by
  rcases hc with hc | hc
  · obtain ⟨id, how, i, name, hrhs⟩ := hc
    obtain ⟨-, l, r, hl, hr, rfl⟩ := renders_compare_iff.1 h
    obtain ⟨ty, hty, rfl⟩ := renders_ident_iff.1 hl
    rw [anchor?_compare, hty] at ha
    have ht : ¬ ty.isTimestamp = true := by
      intro ht
      rw [if_pos (congrArg some (beq_iff_eq.1 ht))] at ha
      cases ha
    rw [render_renderTyped, if_neg ht]
    exact ⟨_, rfl⟩
  · obtain ⟨id, args⟩ := hc
    obtain ⟨-, i, name, kind, j, value, text, rfl, -, -, rfl⟩ := renders_has_iff.1 h
    exact ⟨_, rfl⟩

/-- A conjunct that bounds no end is a stage unless it is stray. -/
private theorem Renders.text_isStage_iff {c : Expr} {o : Operand} (h : ctx.Renders c o)
    (hc : c.IsComparison ∨ c.IsMembership) (hstage : ctx.isStage c = true) :
    (∃ condition, o.text = filterStage condition) ↔ ctx.isStray c = false := by
  rw [← Bool.not_eq_true]
  constructor
  · rintro ⟨condition, htext⟩ hstray
    obtain ⟨field, rhs, ha, -, -⟩ := isStray_iff.1 hstray
    obtain ⟨hanchor, name, rfl⟩ := h.text_anchor hc ha
    exact anchor_ne_filterStage name (ctx.text rhs) condition (hanchor.symm.trans htext)
  · intro hstray
    exact h.text_stage hc (((isStage_iff hc).1 hstage).resolve_right hstray)

end Context

namespace TimeRange

/-- The pieces of a fragment that stay behind when the range is taken out. -/
def kept (fragment : String) : List String := ((pieces fragment.toList).filter isStage).map String.ofList

theorem filters_split (fragment start stop : String) :
    (split fragment start stop).filters = String.join (kept fragment) := by
  rw [split_eq, kept]

/-- A line that goes on with a pipeline. -/
def IsStageLine (line : String) : Prop := "  |> ".toList <+: line.toList

private theorem IsStageLine.append {line : String} (h : IsStageLine line) (rest : String) :
    IsStageLine (line ++ rest) := by
  unfold IsStageLine
  rw [String.toList_append]
  exact h.trans (List.prefix_append _ _)

private theorem isStageLine_filterStage (condition rest : String) :
    IsStageLine ("  " ++ (filterStage condition ++ rest)) := by
  have hopen : IsStageLine ("  " ++ "|> filter(fn: (r) => ") := by
    unfold IsStageLine
    decide
  unfold filterStage
  rw [String.append_assoc, String.append_assoc, ← String.append_assoc]
  exact hopen.append _

/-- Nothing but stages follows the first line of a source if the filter leaves nothing but stages. -/
private theorem isStageLine_of_mem_lines {s : Source} {range : TimeRange} {conditions : List String} {line : String}
    (hfilters : range.filters = String.join (conditions.map filterStage)) (hline : line ∈ (s.lines range).tail) :
    IsStageLine line := by
  simp only [Source.lines, List.cons_append, List.nil_append, List.tail_cons, List.mem_cons, List.mem_append] at hline
  rcases hline with rfl | rfl | rfl | hline | hline
  · refine IsStageLine.append (IsStageLine.append (IsStageLine.append (IsStageLine.append ?_ _) _) _) _
    unfold IsStageLine
    decide
  · have := isStageLine_filterStage ("r[\"_measurement\"] == \"" ++ s.measurement ++ "\"") ""
    rwa [String.append_empty] at this
  · refine IsStageLine.append (IsStageLine.append ?_ _) _
    unfold IsStageLine
    decide
  · obtain ⟨owner, -, rfl⟩ := Option.map_eq_some_iff.1 (Option.mem_toList.1 hline)
    have := isStageLine_filterStage ("r[\"owner_uid\"] == \"" ++ owner ++ "\"") ""
    rwa [String.append_empty] at this
  · split at hline
    · cases hline
    · rename_i hne
      obtain rfl := List.mem_singleton.1 hline
      cases conditions with
      | nil => exact absurd hfilters hne
      | cons condition conditions =>
        rw [hfilters, List.map_cons, String.join_cons]
        exact isStageLine_filterStage condition _

private theorem exists_conditions {parts : List String} (h : ∀ p ∈ parts, ∃ condition, p = filterStage condition) :
    ∃ conditions : List String, parts = conditions.map filterStage := by
  induction parts with
  | nil => exact ⟨[], rfl⟩
  | cons p parts ih =>
    obtain ⟨condition, rfl⟩ := h p (by simp)
    obtain ⟨conditions, rfl⟩ := ih fun p hp => h p (by simp [hp])
    exact ⟨condition :: conditions, rfl⟩

end TimeRange

namespace Context

variable {ctx : Context} {e : Expr} {o : Operand}

/-- What stays behind of a conjunction is made of stages exactly if none of its conjuncts is stray. -/
theorem Renders.kept_stages_iff (h : ctx.Renders e o) (hshape : ∀ c ∈ e.conjuncts, c.IsComparison ∨ c.IsMembership)
    (hkept : TimeRange.kept o.text = (e.conjuncts.filter ctx.isStage).map ctx.text) :
    (∀ p ∈ TimeRange.kept o.text, ∃ condition, p = filterStage condition) ↔
      ∀ c ∈ e.conjuncts, ctx.isStray c = false := by
  rw [hkept]
  constructor
  · intro hall c hc
    obtain ⟨oc, hoc⟩ := h.of_mem_conjuncts hc
    by_cases hstray : ctx.isStray c = true
    · have hstage : ctx.isStage c = true := (isStage_iff (hshape c hc)).2 (.inr hstray)
      have hp := hall (ctx.text c) (List.mem_map_of_mem (List.mem_filter.2 ⟨hc, hstage⟩))
      rw [hoc.text_eq] at hp
      exact (hoc.text_isStage_iff (hshape c hc) hstage).1 hp
    · simpa using hstray
  · intro hall p hp
    obtain ⟨c, hc, rfl⟩ := List.mem_map.1 hp
    obtain ⟨hc, hstage⟩ := List.mem_filter.1 hc
    obtain ⟨oc, hoc⟩ := h.of_mem_conjuncts hc
    rw [hoc.text_eq]
    exact (hoc.text_isStage_iff (hshape c hc) hstage).2 (hall c hc)

/-- A stray anchor stands among the stages as it was written. -/
theorem Renders.exists_kept_anchor (h : ctx.Renders e o) (hshape : ∀ c ∈ e.conjuncts, c.IsComparison ∨ c.IsMembership)
    (hkept : TimeRange.kept o.text = (e.conjuncts.filter ctx.isStage).map ctx.text) {c rhs : Expr} {field : String}
    (hc : c ∈ e.conjuncts) (ha : ctx.anchor? c = some (field, rhs)) (hstart : field ≠ "start")
    (hstop : field ≠ "stop") :
    ∃ before after, String.join (TimeRange.kept o.text) = before ++ (field ++ "@" ++ ctx.text rhs) ++ after := by
  obtain ⟨oc, hoc⟩ := h.of_mem_conjuncts hc
  have hstray : ctx.isStray c = true := isStray_iff.2 ⟨field, rhs, ha, hstart, hstop⟩
  have hstage : ctx.isStage c = true := (isStage_iff (hshape c hc)).2 (.inr hstray)
  obtain ⟨before, after, hsplit⟩ := List.append_of_mem (List.mem_filter.2 ⟨hc, hstage⟩)
  refine ⟨String.join (before.map ctx.text), String.join (after.map ctx.text), ?_⟩
  rw [hkept, hsplit, ← (hoc.text_anchor (hshape c hc) ha).1, ← hoc.text_eq, List.map_append, String.join_append,
    List.map_cons, String.join_cons, String.append_assoc]

end Context

namespace TimeRange

/-- The filter of a conjunction leaves nothing but stages behind exactly if `start` and `stop` are the only points in
time that it compares. Then its query is a pipeline throughout. The anchor of any other point in time stays in the
query. -/
theorem filters_stages_iff_no_stray {ctx : Context} {e : Expr} {fragment : String}
    (hrender : (Filter.mk (some ⟨e, ctx.types⟩)).render ctx.enum? = .ok fragment)
    (hshape : ∀ c ∈ e.conjuncts, c.IsComparison ∨ c.IsMembership)
    (hnames : e.NamesAvoid '&') (hstrings : e.StringsAvoid '&') (hat : e.NamesAvoid '@') (start stop : String) :
    (split fragment start stop).filters = String.join (kept fragment) ∧
    ((∀ p ∈ kept fragment, ∃ condition, p = filterStage condition) ↔ ∀ c ∈ e.conjuncts, ctx.isStray c = false) ∧
    ((∀ c ∈ e.conjuncts, ctx.isStray c = false) → ∀ (s : Source) (range : TimeRange),
      range.filters = (split fragment start stop).filters → ∀ line ∈ (s.lines range).tail, IsStageLine line) ∧
    (∀ c ∈ e.conjuncts, ∀ field rhs, ctx.anchor? c = some (field, rhs) → field ≠ "start" → field ≠ "stop" →
      ∃ before after, (split fragment start stop).filters = before ++ (field ++ "@" ++ ctx.text rhs) ++ after) := by
  obtain ⟨o, ho, rfl⟩ := Except.map_eq_ok_iff.1 hrender
  have h : ctx.Renders e o := Context.Renders.of_render ho
  have hkept : kept o.text = (e.conjuncts.filter ctx.isStage).map ctx.text := h.stages_text hshape hnames hstrings hat
  have hiff := h.kept_stages_iff hshape hkept
  rw [filters_split]
  refine ⟨rfl, hiff, ?_, fun c hc field rhs => h.exists_kept_anchor hshape hkept hc⟩
  intro hstray s range hfilters line hline
  obtain ⟨conditions, hconditions⟩ := exists_conditions (hiff.2 hstray)
  rw [hconditions] at hfilters
  exact isStageLine_of_mem_lines hfilters hline

/-- The doors of a house since the new year. -/
private def doorsSince (field : String) : Expr :=
  .call 7 "AND"
    [.call 4 ">=" [.ident 1 field, .call 3 "timestamp" [.const 2 (.string "2024-01-01T00:00:00Z")]],
      .call 8 "!=" [.ident 5 "doorState", .const 6 (.string "start@dusk")]]

private def doorsTypes : TypeTable :=
  Std.ExtTreeMap.ofList
    [((1 : NodeId), Ty.timestamp), (3, .timestamp), (4, .bool), (5, .string), (7, .bool), (8, .bool)]

private theorem doorsSince_shape (field : String) :
    ∀ c ∈ (doorsSince field).conjuncts, c.IsComparison ∨ c.IsMembership := by
  intro c hc
  have hc : c ∈ [_, _] := hc
  simp only [List.mem_cons, List.not_mem_nil, or_false] at hc
  rcases hc with rfl | rfl
  · exact .inl (.intro 4 .ge 1 field (.timestamp 3 2 _))
  · exact .inl (.intro 8 .ne 5 "doorState" (.const 6 _))

theorem filters_stages_iff_no_stray_doors :
    (Filter.mk (some ⟨doorsSince "Start", doorsTypes⟩)).render (fun _ => none) =
      .ok "start@2024-01-01T00:00:00Z&&|> filter(fn: (r) => r[\"door_state\"] != \"start@dusk\")" ∧
    ∀ line ∈ (Source.lines ⟨{}, "doors", none⟩ (split
        "start@2024-01-01T00:00:00Z&&|> filter(fn: (r) => r[\"door_state\"] != \"start@dusk\")" "" "")).tail,
      IsStageLine line := by
  have hrender : (Filter.mk (some ⟨doorsSince "Start", doorsTypes⟩)).render (fun _ => none) =
      .ok "start@2024-01-01T00:00:00Z&&|> filter(fn: (r) => r[\"door_state\"] != \"start@dusk\")" := by decide +kernel
  have hnames : (doorsSince "Start").NamesAvoid '&' := by unfold Expr.NamesAvoid; decide +kernel
  have hstrings : (doorsSince "Start").StringsAvoid '&' := by unfold Expr.StringsAvoid; decide +kernel
  have hat : (doorsSince "Start").NamesAvoid '@' := by unfold Expr.NamesAvoid; decide +kernel
  obtain ⟨-, -, hlines, -⟩ := @filters_stages_iff_no_stray ⟨doorsTypes, fun _ => none⟩ _ _ hrender
    (doorsSince_shape "Start") hnames hstrings hat "" ""
  exact ⟨hrender, hlines (by decide +kernel) _ _ rfl⟩

/-- A filter on the time of creation leaves its anchor behind, which is no stage. -/
theorem created_at_stays_behind :
    (Filter.mk (some ⟨doorsSince "createdAt", doorsTypes⟩)).render (fun _ => none) =
      .ok "created_at@2024-01-01T00:00:00Z&&|> filter(fn: (r) => r[\"door_state\"] != \"start@dusk\")" ∧
    (∀ c ∈ (doorsSince "createdAt").conjuncts, c.IsComparison ∨ c.IsMembership) ∧
    (doorsSince "createdAt").NamesAvoid '&' ∧ (doorsSince "createdAt").StringsAvoid '&' ∧
    (doorsSince "createdAt").NamesAvoid '@' ∧
    split "created_at@2024-01-01T00:00:00Z&&|> filter(fn: (r) => r[\"door_state\"] != \"start@dusk\")" "" "" =
      ⟨"", "", "created_at@2024-01-01T00:00:00Z|> filter(fn: (r) => r[\"door_state\"] != \"start@dusk\")"⟩ ∧
    ¬ ∃ conditions : List String,
      "created_at@2024-01-01T00:00:00Z|> filter(fn: (r) => r[\"door_state\"] != \"start@dusk\")" =
        String.join (conditions.map filterStage) := by
  refine ⟨by decide +kernel, doorsSince_shape _, ?_, ?_, ?_, by decide +kernel, ?_⟩
  · unfold Expr.NamesAvoid; decide +kernel
  · unfold Expr.StringsAvoid; decide +kernel
  · unfold Expr.NamesAvoid; decide +kernel
  · rintro ⟨conditions, h⟩
    have hhead := congrArg (fun text : String => text.toList.head?) h
    cases conditions with
    | nil => exact absurd hhead (by decide +kernel)
    | cons condition conditions =>
      rw [List.map_cons, String.join_cons] at hhead
      simp only [String.toList_append, List.head?_append, Context.head?_filterStage, Option.some_or] at hhead
      exact absurd hhead (by decide +kernel)

end TimeRange

end FluxQuery
