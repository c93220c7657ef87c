import FluxQuery.Proofs.Characters
import FluxQuery.Proofs.Pieces
import FluxQuery.Query.Source

/-!
# The range of a conjunction

Splitting a fragment is textual, but on the fragment of a conjunction it finds the conjuncts again, provided that no
ampersand gets into their texts (`Renders.pieces_text`). The comparisons of the points in time `start` and `stop` then
give the bounds, the last one of each winning, and all other conjuncts stay, in order.
-/

namespace FluxQuery

namespace Context

variable {ctx : Context}

/-! ### Conjuncts as pieces -/

/-- The right side of a comparison of the point in time `field`. -/
def bound? (ctx : Context) (field : String) : Expr → Option Expr
  | .call _ function [.ident i name, rhs] =>
    match Operator.ofName? function with
    | some (.compare _) => if ctx.types[i]? = some .timestamp ∧ snakeCase name = field then some rhs else none
    | _ => none
  | _ => none

/-- A conjunct that bounds neither end of the range. -/
def isStage (ctx : Context) (c : Expr) : Bool := (ctx.bound? "start" c).isNone && (ctx.bound? "stop" c).isNone

theorem bound?_compare {field : String} {id : NodeId} {c : Comparison} {i : NodeId} {name : String} {rhs : Expr} :
    ctx.bound? field (.call id (Operator.compare c).name [.ident i name, rhs]) =
      if ctx.types[i]? = some .timestamp ∧ snakeCase name = field then some rhs else none := by
  simp only [bound?, Operator.ofName?_name]

theorem bound?_has {field : String} {id : NodeId} {args : List Expr} :
    ctx.bound? field (.call id Operator.has.name args) = none := by
  unfold bound?
  split
  · rename_i heq
    cases heq
    rw [Operator.ofName?_name]
  · rfl

private theorem after?_anchor {field name value : String} (hfield : '@' ∉ field.toList) (hname : '@' ∉ name.toList) :
    TimeRange.after? (field ++ "@").toList (name ++ "@" ++ value).toList =
      if name = field then some value else none := by
  have e1 : (field ++ "@").toList = field.toList ++ ['@'] := by simp
  have e2 : (name ++ "@" ++ value).toList = name.toList ++ '@' :: value.toList := by simp
  rw [e1, e2]
  by_cases h : name = field
  · rw [if_pos h, h]
    exact TimeRange.after?_eq_some_iff.2 (by simp)
  · have hne : field.toList ≠ name.toList := fun heq => h (String.toList_inj.1 heq).symm
    rw [if_neg h]
    exact TimeRange.after?_eq_none_iff.2 (mt (List.append_singleton_isPrefix_iff hfield hname).1 hne)

theorem head?_filterStage (condition : String) : (filterStage condition).toList.head? = some '|' := by
  have h : "|> filter(fn: (r) => ".toList.head? = some '|' := by decide
  unfold filterStage
  simp only [String.append_assoc, String.toList_append, List.head?_append, h, Option.some_or]

private theorem after?_filterStage {field condition : String} (hfield : '|' ∉ field.toList) :
    TimeRange.after? (field ++ "@").toList (filterStage condition).toList = none := by
  rw [TimeRange.after?_eq_none_iff]
  rintro ⟨rest, hrest⟩
  have hhead := congrArg List.head? hrest
  rw [head?_filterStage, String.toList_append] at hhead
  cases hf : field.toList with
  | nil =>
    rw [hf] at hhead
    exact absurd (Option.some.inj hhead) (by decide)
  | cons c cs =>
    rw [hf, List.mem_cons, not_or] at hfield
    rw [hf] at hhead
    exact hfield.1 (Option.some.inj hhead).symm

/-- A conjunct is an anchor of `field` exactly if it compares the point in time of that name. -/
private theorem Renders.after?_text {field : String} (hat : '@' ∉ field.toList) (hbar : '|' ∉ field.toList) {c : Expr}
    {o : Operand} (h : ctx.Renders c o) (hc : c.IsComparison ∨ c.IsMembership) (hn : c.NamesAvoid '@') :
    TimeRange.after? (field ++ "@").toList o.text.toList = (ctx.bound? field c).map ctx.text := by
  rcases hc with hc | hc
  · obtain ⟨id, how, i, name, hrhs⟩ := hc
    obtain ⟨-, l, r, hl, hr, rfl⟩ := renders_compare_iff.1 h
    obtain ⟨ty, hty, rfl⟩ := renders_ident_iff.1 hl
    have hident : (Expr.ident i name).NamesAvoid '@' := hn.arg (by simp)
    have hname : '@' ∉ (snakeCase name).toList := snakeCase_not_mem (by decide) (by decide) hident.self
    rw [bound?_compare, hty, render_renderTyped]
    by_cases ht : ty.isTimestamp = true
    · have ht' : some ty = some Ty.timestamp := congrArg some (beq_iff_eq.1 ht)
      rw [if_pos ht, after?_anchor hat hname]
      by_cases heq : snakeCase name = field
      · rw [if_pos heq, if_pos ⟨ht', heq⟩, Option.map_some, hr.text_eq]
      · rw [if_neg heq, if_neg (fun h => heq h.2), Option.map_none]
    · have ht' : some ty ≠ some Ty.timestamp := fun h => ht (beq_iff_eq.2 (Option.some.inj h))
      rw [if_neg ht, after?_filterStage hbar, if_neg (fun h => ht' h.1), Option.map_none]
  · obtain ⟨id, args⟩ := hc
    obtain ⟨-, i, name, kind, j, value, text, rfl, -, -, rfl⟩ := renders_has_iff.1 h
    rw [bound?_has, Option.map_none]
    exact after?_filterStage hbar

theorem Renders.isStage_text {c : Expr} {o : Operand} (h : ctx.Renders c o) (hc : c.IsComparison ∨ c.IsMembership)
    (hn : c.NamesAvoid '@') : TimeRange.isStage o.text.toList = ctx.isStage c := by
  have hstart : TimeRange.start? o.text.toList = _ :=
    @Renders.after?_text ctx "start" (by decide) (by decide) c o h hc hn
  have hstop : TimeRange.stop? o.text.toList = _ := @Renders.after?_text ctx "stop" (by decide) (by decide) c o h hc hn
  rw [TimeRange.isStage, isStage, hstart, hstop, Option.isNone_map, Option.isNone_map]

/-- What bounds an end of the range has a text. -/
private theorem Renders.of_bound? {field : String} {c rhs : Expr} {o : Operand} (h : ctx.Renders c o)
    (hb : ctx.bound? field c = some rhs) : ∃ o, ctx.Renders rhs o := by
  unfold bound? at hb
  split at hb
  · split at hb
    · rename_i hname
      obtain rfl := Operator.ofName?_eq_some_iff.1 hname
      obtain ⟨-, l, r, -, hr, -⟩ := renders_compare_iff.1 h
      split at hb
      · obtain rfl := Option.some.inj hb
        exact ⟨r, hr⟩
      · cases hb
    · cases hb
  · cases hb

/-- The pieces of a fragment are the texts of the conjuncts. -/
theorem Renders.pieces_text {e : Expr} {o : Operand} (h : ctx.Renders e o)
    (hshape : ∀ c ∈ e.conjuncts, c.IsComparison ∨ c.IsMembership) (hnames : e.NamesAvoid '&')
    (hstrings : e.StringsAvoid '&') :
    TimeRange.pieces o.text.toList = e.conjuncts.map fun c => (ctx.text c).toList := by
  rw [h.text_conjuncts, String.toList_intercalate, List.map_map]
  refine (TimeRange.IsCut.of_not_mem fun p hp => ?_).pieces_intercalate (by simp [Expr.conjuncts_ne_nil])
  obtain ⟨c, hc, rfl⟩ := List.mem_map.1 hp
  obtain ⟨oc, hoc⟩ := h.of_mem_conjuncts hc
  rw [Function.comp_apply, hoc.text_eq]
  exact hoc.ampersand_not_mem (hshape c hc) (hnames.conjunct hc) (hstrings.conjunct hc)

/-- The pieces that set no bound are the texts of the conjuncts that bound no end. -/
theorem Renders.stages_text {e : Expr} {o : Operand} (h : ctx.Renders e o)
    (hshape : ∀ c ∈ e.conjuncts, c.IsComparison ∨ c.IsMembership) (hnames : e.NamesAvoid '&')
    (hstrings : e.StringsAvoid '&') (hat : e.NamesAvoid '@') :
    ((TimeRange.pieces o.text.toList).filter TimeRange.isStage).map String.ofList =
      (e.conjuncts.filter ctx.isStage).map ctx.text := by
  have hstage : ∀ c ∈ e.conjuncts, (TimeRange.isStage ∘ fun c => (ctx.text c).toList) c = ctx.isStage c := by
    intro c hc
    obtain ⟨oc, hoc⟩ := h.of_mem_conjuncts hc
    rw [Function.comp_apply, hoc.text_eq]
    exact hoc.isStage_text (hshape c hc) (hat.conjunct hc)
  rw [h.pieces_text hshape hnames hstrings, List.filter_map, List.filter_congr hstage, List.map_map]
  exact List.map_congr_left fun c _ => String.ofList_toList

theorem Renders.split_text {e : Expr} {o : Operand} (h : ctx.Renders e o)
    (hshape : ∀ c ∈ e.conjuncts, c.IsComparison ∨ c.IsMembership) (hnames : e.NamesAvoid '&')
    (hstrings : e.StringsAvoid '&') (hat : e.NamesAvoid '@') (start stop : String) :
    TimeRange.split o.text start stop =
      { start := ((e.conjuncts.filterMap (ctx.bound? "start")).getLast?.map ctx.text).getD start
        stop := ((e.conjuncts.filterMap (ctx.bound? "stop")).getLast?.map ctx.text).getD stop
        filters := String.join ((e.conjuncts.filter ctx.isStage).map ctx.text) } := by
  have hafter : ∀ field : String, '@' ∉ field.toList → '|' ∉ field.toList → ∀ c ∈ e.conjuncts,
      TimeRange.after? (field ++ "@").toList (ctx.text c).toList = (ctx.bound? field c).map ctx.text := by
    intro field hfield hbar c hc
    obtain ⟨oc, hoc⟩ := h.of_mem_conjuncts hc
    rw [hoc.text_eq]
    exact hoc.after?_text hfield hbar (hshape c hc) (hat.conjunct hc)
  have hstart := hafter "start" (by decide) (by decide)
  have hstop := hafter "stop" (by decide) (by decide)
  -- the bounds are read off the conjuncts, so they are compared conjunct by conjunct
  rw [TimeRange.split_eq, h.stages_text hshape hnames hstrings hat, h.pieces_text hshape hnames hstrings,
    List.filterMap_map, List.filterMap_map, ← List.getLast?_map, ← List.getLast?_map, List.map_filterMap,
    List.map_filterMap]
  congr 1
  · exact congrArg (fun l => l.getLast?.getD start) (List.filterMap_congr hstart)
  · exact congrArg (fun l => l.getLast?.getD stop) (List.filterMap_congr hstop)

end Context

/-- The range of a filter that is a conjunction of comparisons and membership tests. Each end is what the last
comparison of the point in time `start` or `stop` gives, or else the default; the comparisons of that name before it
have no effect. The stages are the texts of all other conjuncts, in order. -/
theorem TimeRange.split_conjunction {ctx : Context} {e : Expr} {fragment : String}
    (hrender : (Filter.mk (some ⟨e, ctx.types⟩)).render ctx.enum? = .ok fragment)
    (hshape : ∀ c ∈ e.conjuncts, c.IsComparison ∨ c.IsMembership)
    (hnames : e.NamesAvoid '&') (hstrings : e.StringsAvoid '&') (hat : e.NamesAvoid '@') (now : Instant) :
    (∀ c ∈ e.conjuncts, (∃ o, ctx.render c = .ok o) ∧
      ∀ field rhs, ctx.bound? field c = some rhs → ∃ o, ctx.render rhs = .ok o) ∧
    TimeRange.split fragment Source.beginning now.bound =
      { start := ((e.conjuncts.filterMap (ctx.bound? "start")).getLast?.map ctx.text).getD Source.beginning
        stop := ((e.conjuncts.filterMap (ctx.bound? "stop")).getLast?.map ctx.text).getD now.bound
        filters := String.join ((e.conjuncts.filter ctx.isStage).map ctx.text) } := by
  obtain ⟨o, ho, rfl⟩ := Except.map_eq_ok_iff.1 hrender
  have h : ctx.Renders e o := Context.Renders.of_render ho
  refine ⟨fun c hc => ?_, h.split_text hshape hnames hstrings hat _ _⟩
  obtain ⟨oc, hoc⟩ := h.of_mem_conjuncts hc
  refine ⟨⟨oc, hoc.render_eq⟩, fun field rhs hb => ?_⟩
  obtain ⟨r, hr⟩ := hoc.of_bound? hb
  exact ⟨r, hr.render_eq⟩

/-- Two starts, of which the later one counts, a field named `stop` that holds no point in time, and a point in time of
another name. -/
private def maintenance : Expr :=
  .call 20 "AND"
    [.call 9 "AND"
      [.call 4 ">=" [.ident 1 "start", .call 3 "timestamp" [.const 2 (.string "2024-01-01T00:00:00Z")]],
        .call 8 ":" [.ident 5 "zoneIds", .const 6 (.int 3)]],
      .call 19 "AND"
        [.call 12 "<=" [.ident 10 "Start", .const 11 (.string "a@b")],
          .call 18 "AND"
            [.call 15 "!=" [.ident 13 "stop", .ident 14 "doorState"],
              .call 17 ">" [.ident 16 "createdAt", .const 21 (.string "2024")]]]]

private def maintenanceTypes : TypeTable :=
  Std.ExtTreeMap.ofList
    [((1 : NodeId), Ty.timestamp), (3, .timestamp), (4, .bool), (5, .list .string), (8, .bool), (9, .bool),
      (10, .timestamp), (12, .bool), (13, .string), (14, .string), (15, .bool), (16, .timestamp), (17, .bool),
      (18, .bool), (19, .bool), (20, .bool)]

private def maintenanceFragment : String :=
  "start@2024-01-01T00:00:00Z&&|> filter(fn: (r) => contains(value: \"zone_ids\", set: \"3\"))&&start@a@b&&" ++
    "|> filter(fn: (r) => r[\"stop\"] != \"door_state\")&&created_at@2024"

theorem TimeRange.split_conjunction_maintenance :
    (Filter.mk (some ⟨maintenance, maintenanceTypes⟩)).render (fun _ => none) = .ok maintenanceFragment ∧
    (∀ c ∈ maintenance.conjuncts, c.IsComparison ∨ c.IsMembership) ∧
    maintenance.NamesAvoid '&' ∧ maintenance.StringsAvoid '&' ∧ maintenance.NamesAvoid '@' ∧
    TimeRange.split maintenanceFragment Source.beginning (Instant.bound ⟨0, 0⟩) =
      { start := "a@b", stop := "1970-01-01T00:00:00Z",
        filters := "|> filter(fn: (r) => contains(value: \"zone_ids\", set: \"3\"))" ++
          "|> filter(fn: (r) => r[\"stop\"] != \"door_state\")created_at@2024" } := by
  have hrender : (Filter.mk (some ⟨maintenance, maintenanceTypes⟩)).render (fun _ => none) =
    .ok maintenanceFragment := by decide +kernel
  have hshape : ∀ c ∈ maintenance.conjuncts, c.IsComparison ∨ c.IsMembership := by
    intro c hc
    have hc : c ∈ [_, _, _, _, _] := hc
    simp only [List.mem_cons, List.not_mem_nil, or_false] at hc
    rcases hc with rfl | rfl | rfl | rfl | rfl
    · exact .inl (.intro 4 .ge 1 "start" (.timestamp 3 2 _))
    · exact .inr (.intro 8 _)
    · exact .inl (.intro 12 .le 10 "Start" (.const 11 _))
    · exact .inl (.intro 15 .ne 13 "stop" (.ident 14 _))
    · exact .inl (.intro 17 .gt 16 "createdAt" (.const 21 _))
  have hnames : maintenance.NamesAvoid '&' := by unfold Expr.NamesAvoid; decide +kernel
  have hstrings : maintenance.StringsAvoid '&' := by unfold Expr.StringsAvoid; decide +kernel
  have hat : maintenance.NamesAvoid '@' := by unfold Expr.NamesAvoid; decide +kernel
  have h := @TimeRange.split_conjunction ⟨maintenanceTypes, fun _ => none⟩ _ _ hrender hshape hnames hstrings hat ⟨0, 0⟩
  refine ⟨hrender, hshape, hnames, hstrings, hat, h.2.trans ?_⟩
  decide +kernel

end FluxQuery
