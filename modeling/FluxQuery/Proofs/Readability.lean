import FluxQuery.Proofs.Range

/-!
# Reading a fragment back

Names and values go into a fragment as they are, quotes and brackets included. Still no two conjunctions of comparisons
share a fragment unless they compare the same fields in the same way with the same values: a field is in snake case and
so has no space, which makes the first space of a stage the end of its field (`Condition.stage_inj`), and stages without
ampersands are told apart by the `&&` between them.
-/

namespace FluxQuery

/-- What a comparison asks of a record. -/
structure Condition where
  field : String
  how : Comparison
  value : String
  deriving DecidableEq

namespace Condition

def stage (c : Condition) : String :=
  filterStage ("r[\"" ++ c.field ++ "\"] " ++ c.how.flux ++ " \"" ++ c.value ++ "\"")

private theorem flux_inj {c d : Comparison} (h : c.flux.toList = d.flux.toList) : c = d := by
  revert h
  cases c <;> cases d <;> decide

private theorem space_not_mem_flux (c : Comparison) : ' ' ∉ c.flux.toList := by
  cases c <;> decide

/-- A stage is cut at its first two spaces behind the opening. -/
private theorem toList_stage (c : Condition) :
    c.stage.toList =
      "|> filter(fn: (r) => r[\"".toList ++ ((c.field.toList ++ ['"', ']']) ++
        ' ' :: (c.how.flux.toList ++ ' ' :: '"' :: (c.value.toList ++ ['"', ')']))) := by
  have hopen : "|> filter(fn: (r) => r[\"".toList = "|> filter(fn: (r) => ".toList ++ "r[\"".toList := by decide
  have hfield : "\"] ".toList = ['"', ']', ' '] := by decide
  have hvalue : " \"".toList = [' ', '"'] := by decide
  have hquote : "\"".toList = ['"'] := by decide
  have hclose : ")".toList = [')'] := by decide
  unfold stage filterStage
  simp only [String.toList_append, hopen, hfield, hvalue, hquote, hclose, List.append_assoc, List.cons_append,
    List.nil_append]

theorem stage_inj {c d : Condition} (hc : ' ' ∉ c.field.toList) (hd : ' ' ∉ d.field.toList) (h : c.stage = d.stage) :
    c = d := by
  have h := congrArg String.toList h
  rw [toList_stage, toList_stage] at h
  obtain ⟨hfield, h⟩ := List.append_cons_inj_of_first (by simpa using hc) (by simpa using hd) (List.append_cancel_left h)
  obtain ⟨hhow, h⟩ := List.append_cons_inj_of_first (space_not_mem_flux _) (space_not_mem_flux _) h
  have hvalue := List.append_cancel_right (List.cons.inj h).2
  have hfield := String.toList_inj.1 (List.append_cancel_right hfield)
  cases c
  cases d
  cases hfield
  cases flux_inj hhow
  cases String.toList_inj.1 hvalue
  rfl

end Condition

namespace Context

variable {ctx : Context}

/-- The condition of a comparison whose right side has a text. -/
def condition? (ctx : Context) : Expr → Option Condition
  | .call _ function [.ident _ name, rhs] =>
    match Operator.ofName? function, ctx.render rhs with
    | some (.compare how), .ok value => some ⟨snakeCase name, how, value.text⟩
    | _, _ => none
  | _ => none

/-- A comparison with an identifier on its left that is no point in time. -/
inductive ComparesField (ctx : Context) : Expr → Prop where
  | intro (id : NodeId) (c : Comparison) (i : NodeId) (name : String) {rhs : Expr} (hrhs : rhs.IsComparand)
      (ht : ctx.types[i]? ≠ some .timestamp) :
      ComparesField ctx (.call id (Operator.compare c).name [.ident i name, rhs])

theorem ComparesField.isComparison {c : Expr} (h : ctx.ComparesField c) : c.IsComparison := by
  obtain ⟨id, how, i, name, hrhs, -⟩ := h
  exact .intro id how i name hrhs

/-- A conjunction of comparisons of fields, without ampersands in its names and strings. -/
structure Clean (ctx : Context) (e : Expr) : Prop where
  comparisons : ∀ c ∈ e.conjuncts, ctx.ComparesField c
  names : e.NamesAvoid '&'
  strings : e.StringsAvoid '&'

theorem Renders.exists_condition {c : Expr} {o : Operand} (h : ctx.Renders c o) (hc : ctx.ComparesField c) :
    ∃ condition, ctx.condition? c = some condition ∧ ' ' ∉ condition.field.toList ∧ o.text = condition.stage := by
  obtain ⟨id, how, i, name, hrhs, ht⟩ := hc
  obtain ⟨-, l, r, hl, hr, rfl⟩ := renders_compare_iff.1 h
  obtain ⟨ty, hty, rfl⟩ := renders_ident_iff.1 hl
  have htime : ¬ ty.isTimestamp = true := fun htime => ht (hty.trans (congrArg some (beq_iff_eq.1 htime)))
  refine ⟨⟨snakeCase name, how, r.text⟩, ?_, space_not_mem_snakeCase name, ?_⟩
  · simp only [condition?, Operator.ofName?_name, hr.render_eq]
  · rw [render_renderTyped, if_neg htime]
    rfl

/-- Cut at every `&&`, a clean conjunction falls into the stages of its conditions. -/
theorem Renders.exists_conditions {e : Expr} {o : Operand} (h : ctx.Renders e o) (he : ctx.Clean e) :
    ∃ conditions : List Condition, e.conjuncts.map ctx.condition? = conditions.map some ∧
      (∀ c ∈ conditions, ' ' ∉ c.field.toList) ∧
      TimeRange.pieces o.text.toList = conditions.map fun c => c.stage.toList := by
  rw [h.pieces_text (fun c hc => .inl (he.comparisons c hc).isComparison) he.names he.strings]
  have hall : ∀ c ∈ e.conjuncts, ∃ condition, ctx.condition? c = some condition ∧ ' ' ∉ condition.field.toList ∧
      ctx.text c = condition.stage := by
    intro c hc
    obtain ⟨oc, hoc⟩ := h.of_mem_conjuncts hc
    rw [hoc.text_eq]
    exact hoc.exists_condition (he.comparisons c hc)
  generalize e.conjuncts = cs at hall
  induction cs with
  | nil => exact ⟨[], rfl, by simp, rfl⟩
  | cons c cs ih =>
    obtain ⟨condition, hcondition, hspace, htext⟩ := hall c (by simp)
    obtain ⟨conditions, hmap, hspaces, hpieces⟩ := ih fun c hc => hall c (by simp [hc])
    refine ⟨condition :: conditions, ?_, ?_, ?_⟩
    · rw [List.map_cons, List.map_cons, hcondition, hmap]
    · rintro d (_ | ⟨_, hd⟩)
      · exact hspace
      · exact hspaces d hd
    · rw [List.map_cons, List.map_cons, htext, hpieces]

end Context

private theorem Condition.eq_of_map_stage {cs ds : List Condition} (hcs : ∀ c ∈ cs, ' ' ∉ c.field.toList)
    (hds : ∀ d ∈ ds, ' ' ∉ d.field.toList) (h : cs.map (·.stage.toList) = ds.map (·.stage.toList)) : cs = ds := by
  induction cs generalizing ds with
  | nil => exact (List.map_eq_nil_iff.1 h.symm).symm
  | cons c cs ih =>
    cases ds with
    | nil => cases h
    | cons d ds =>
      obtain ⟨hhead, htail⟩ := List.cons.inj h
      have hc : c = d := stage_inj (hcs c (by simp)) (hds d (by simp)) (String.toList_inj.1 hhead)
      have hrest : cs = ds := ih (fun c hc => hcs c (by simp [hc])) (fun d hd => hds d (by simp [hd])) htail
      rw [hc, hrest]

/-- Two clean conjunctions with the same fragment have the same conditions, one by one from left to right: the same
field, the same comparison and the same text on the right. Every conjunct has a condition, so there are equally many.
The conjunctions may differ in their types and in what their names stand for. -/
theorem Filter.conditions_eq_of_fragment_eq {ctx ctx' : Context} {e e' : Expr} {fragment : String}
    (hrender : (Filter.mk (some ⟨e, ctx.types⟩)).render ctx.enum? = .ok fragment)
    (hrender' : (Filter.mk (some ⟨e', ctx'.types⟩)).render ctx'.enum? = .ok fragment)
    (hclean : ctx.Clean e) (hclean' : ctx'.Clean e') :
    ∃ conditions : List Condition,
      e.conjuncts.map ctx.condition? = conditions.map some ∧
        e'.conjuncts.map ctx'.condition? = conditions.map some := by
  obtain ⟨o, ho, rfl⟩ := Except.map_eq_ok_iff.1 hrender
  obtain ⟨o', ho', htext⟩ := Except.map_eq_ok_iff.1 hrender'
  have h : ctx.Renders e o := .of_render ho
  have h' : ctx'.Renders e' o' := .of_render ho'
  obtain ⟨cs, hcs, hspace, hpieces⟩ := h.exists_conditions hclean
  obtain ⟨ds, hds, hspace', hpieces'⟩ := h'.exists_conditions hclean'
  have hstages : cs.map (·.stage.toList) = ds.map (·.stage.toList) := by
    rw [← hpieces, ← hpieces', htext]
  obtain rfl := Condition.eq_of_map_stage hspace hspace' hstages
  exact ⟨cs, hcs, hds⟩

/-- A name that looks like the end of a condition, in a conjunction that leans to the left. -/
private def leftLeaning : Expr :=
  .call 11 "AND"
    [.call 7 "AND"
      [.call 3 "=" [.ident 1 "doorState\"]==\"open", .const 2 (.string "a\") and r[\"b\"] == \"c")],
        .call 6 "<" [.ident 4 "heat", .const 5 (.int 3)]],
      .call 10 "!=" [.ident 8 "zone id", .ident 9 "FloorPlan"]]

/-- The same conditions in a conjunction that leans to the right. -/
private def rightLeaning : Expr :=
  .call 12 "AND"
    [.call 3 "=" [.ident 1 " door-state\"]==\"open", .const 2 (.string "a\") and r[\"b\"] == \"c")],
      .call 11 "AND"
        [.call 6 "<" [.ident 4 "HEAT", .const 5 (.string "3")],
          .call 10 "!=" [.ident 7 "zone_id", .call 9 "timestamp" [.const 8 (.string "floor_plan")]]]]

private def leaningTypes : TypeTable :=
  Std.ExtTreeMap.ofList
    [((1 : NodeId), Ty.string), (3, .bool), (4, .string), (6, .bool), (7, .bool), (8, .message "Zone"), (9, .string),
      (10, .bool), (11, .bool), (12, .bool)]

private def leaningFragment : String :=
  "|> filter(fn: (r) => r[\"door_state\"]==\"open\"] == \"a\") and r[\"b\"] == \"c\")&&" ++
    "|> filter(fn: (r) => r[\"heat\"] < \"3\")&&|> filter(fn: (r) => r[\"zone_id\"] != \"floor_plan\")"

theorem Filter.conditions_eq_of_fragment_eq_leaning :
    (Filter.mk (some ⟨leftLeaning, leaningTypes⟩)).render (fun _ => none) = .ok leaningFragment ∧
    (Filter.mk (some ⟨rightLeaning, leaningTypes⟩)).render (fun _ => none) = .ok leaningFragment ∧
    leftLeaning.conjuncts.map (Context.condition? ⟨leaningTypes, fun _ => none⟩) =
      rightLeaning.conjuncts.map (Context.condition? ⟨leaningTypes, fun _ => none⟩) := by
  have hleft : (Filter.mk (some ⟨leftLeaning, leaningTypes⟩)).render (fun _ => none) = .ok leaningFragment := by
    decide +kernel
  have hright : (Filter.mk (some ⟨rightLeaning, leaningTypes⟩)).render (fun _ => none) = .ok leaningFragment := by
    decide +kernel
  have hcleanLeft : Context.Clean ⟨leaningTypes, fun _ => none⟩ leftLeaning := by
    refine ⟨?_, by unfold Expr.NamesAvoid; decide +kernel, by unfold Expr.StringsAvoid; decide +kernel⟩
    intro c hc
    have hc : c ∈ [_, _, _] := hc
    simp only [List.mem_cons, List.not_mem_nil, or_false] at hc
    rcases hc with rfl | rfl | rfl
    · exact .intro 3 .eq 1 _ (.const 2 _) (by decide +kernel)
    · exact .intro 6 .lt 4 _ (.const 5 _) (by decide +kernel)
    · exact .intro 10 .ne 8 _ (.ident 9 _) (by decide +kernel)
  have hcleanRight : Context.Clean ⟨leaningTypes, fun _ => none⟩ rightLeaning := by
    refine ⟨?_, by unfold Expr.NamesAvoid; decide +kernel, by unfold Expr.StringsAvoid; decide +kernel⟩
    intro c hc
    have hc : c ∈ [_, _, _] := hc
    simp only [List.mem_cons, List.not_mem_nil, or_false] at hc
    rcases hc with rfl | rfl | rfl
    · exact .intro 3 .eq 1 _ (.const 2 _) (by decide +kernel)
    · exact .intro 6 .lt 4 _ (.const 5 _) (by decide +kernel)
    · exact .intro 10 .ne 7 _ (.timestamp 9 8 _) (by decide +kernel)
  obtain ⟨conditions, hl, hr⟩ := @Filter.conditions_eq_of_fragment_eq ⟨leaningTypes, fun _ => none⟩
    ⟨leaningTypes, fun _ => none⟩ _ _ _ hleft hright hcleanLeft hcleanRight
  exact ⟨hleft, hright, hl.trans hr.symm⟩

end FluxQuery
