import FluxQuery.Proofs.Conjunction
import FluxQuery.Proofs.Overwriting

/-!
# Redirecting a conjunction

A redirection walks over the arguments of calls and knows nothing of conjunctions. Yet in a conjunction of comparisons
it changes one conjunct, the first that compares the target, and keeps all others in place (`exists_turns`). The ids
stay as they are, so that the changed tree has a fragment under the same types.
-/

namespace FluxQuery

namespace Expr

/-- The field that a comparison names, in snake case. -/
def field? : Expr → Option String
  | call _ _ [ident _ name, _] => some (snakeCase name)
  | _ => none

/-- A comparison that names the target at most once, on its left. -/
def IsRedirectable (r : Redirection) (c : Expr) : Prop :=
  c.IsComparison ∧ ∀ a ∈ c.args.tail, a.isTarget r.target = false

private theorem conjuncts_compare (id : NodeId) (how : Comparison) (args : List Expr) :
    (call id (Operator.compare how).name args).conjuncts = [call id (Operator.compare how).name args] := by
  have hne : (Operator.compare how).name ≠ Operator.and.name := fun h => by cases Operator.name_inj.1 h
  unfold conjuncts
  split
  · rename_i heq
    cases heq
    rw [if_neg hne]
  · rfl

namespace Redirection

variable {r : Redirection}

/-- The walk goes past `e` and finds nothing. -/
def Skips (r : Redirection) (e : Expr) : Prop := e.redirectFrom r false = ⟨e, "", false⟩

/-- The walk puts the value into `e`, makes `e'` of it, and ends there. -/
def Turns (r : Redirection) (e e' : Expr) : Prop := e.redirectFrom r false = ⟨e', r.value, true⟩

/-! ### The walk over a comparison -/

private theorem skips_comparand {rhs : Expr} (h : rhs.IsComparand) (hne : rhs.isTarget r.target = false) :
    r.Skips rhs := by
  unfold Skips
  cases h with
  | const id value => simp [redirectFrom, hne]
  | ident id name => simp [redirectFrom, hne]
  | timestamp id i value => simp [redirectFrom, redirectArgs, isTarget]

private theorem skips_ident {i : NodeId} {name : String} (h : snakeCase name ≠ r.target) : r.Skips (.ident i name) := by
  simp [Skips, redirectFrom, isTarget, h]

/-- Once the identifier is renamed, its value is overwritten, and the empty value is the only one that does not end
the walk. -/
private theorem turns_comparison {id i : NodeId} {function name : String} {rhs : Expr} (hvalue : r.value ≠ "")
    (hname : snakeCase name = r.target) (hrhs : rhs.isTarget r.target = false) :
    r.Turns (.call id function [.ident i name, rhs])
      (.call id function [.ident i r.name, .const rhs.id (.string r.value)]) := by
  have hident : (ident i name).isTarget r.target = true := by simp [isTarget, hname]
  unfold Turns
  rw [redirectFrom, redirectArgs_target false hident, redirectArgs_met hvalue hrhs]
  simp [isTarget, Expr.id]

/-! ### The walk over a call -/

/-- A call is passed if all of its arguments are. -/
theorem skips_call {id : NodeId} {function : String} {args : List Expr} (h : ∀ a ∈ args, r.Skips a) :
    r.Skips (.call id function args) := by
  have hargs : redirectArgs r false args = ⟨args, "", false⟩ := by
    induction args with
    | nil => rfl
    | cons a as ih =>
      obtain ⟨ha, has⟩ := List.forall_mem_cons.1 h
      unfold Skips at ha
      rw [redirectArgs, ha, ih has]
      rfl
  unfold Skips
  rw [redirectFrom, hargs]
  rfl

section Call

variable {id : NodeId} {function : String} {lhs lhs' rhs rhs' : Expr}

private theorem turns_left (hvalue : r.value ≠ "") (hl : r.Turns lhs lhs') :
    r.Turns (.call id function [lhs, rhs]) (.call id function [lhs', rhs]) := by
  unfold Turns at hl ⊢
  rw [redirectFrom, redirectArgs, hl]
  simp [hvalue, isTarget]

private theorem turns_right (hvalue : r.value ≠ "") (hl : r.Skips lhs) (hr : r.Turns rhs rhs') :
    r.Turns (.call id function [lhs, rhs]) (.call id function [lhs, rhs']) := by
  unfold Turns Skips at *
  rw [redirectFrom, redirectArgs, redirectArgs, hl, hr]
  simp [hvalue, isTarget]

end Call

/-! ### The walk over a conjunction -/

/-- The second list is the first one after a redirection of the first comparison in it that names the target. -/
inductive RedirectsFirst (r : Redirection) : List Expr → List Expr → Prop where
  | intro {before after : List Expr} {id : NodeId} {how : Comparison} {i : NodeId} {name : String} {rhs : Expr} :
      (∀ c ∈ before, c.field? ≠ some r.target) → snakeCase name = r.target →
      RedirectsFirst r (before ++ call id (Operator.compare how).name [ident i name, rhs] :: after)
        (before ++ call id (Operator.compare how).name [ident i r.name, const rhs.id (.string r.value)] :: after)

private theorem RedirectsFirst.append_right {cs cs' : List Expr} (h : r.RedirectsFirst cs cs') (ds : List Expr) :
    r.RedirectsFirst (cs ++ ds) (cs' ++ ds) := by
  obtain ⟨hbefore, hname⟩ := h
  rw [List.append_assoc, List.append_assoc]
  exact .intro hbefore hname

private theorem RedirectsFirst.append_left {cs cs' ds : List Expr} (hds : ∀ c ∈ ds, c.field? ≠ some r.target)
    (h : r.RedirectsFirst cs cs') : r.RedirectsFirst (ds ++ cs) (ds ++ cs') := by
  obtain ⟨hbefore, hname⟩ := h
  rw [← List.append_assoc, ← List.append_assoc]
  refine .intro (fun c hc => ?_) hname
  rcases List.mem_append.1 hc with hc | hc
  · exact hds c hc
  · exact hbefore c hc

private theorem skips_redirectable {c : Expr} (hc : c.IsRedirectable r) (hfield : c.field? ≠ some r.target) :
    r.Skips c := by
  obtain ⟨⟨id, how, i, name, hrhs⟩, htail⟩ := hc
  have hname : snakeCase name ≠ r.target := fun h => hfield (congrArg some h)
  have hvalue := skips_comparand hrhs (htail _ (by simp [args]))
  exact skips_call (by simp [skips_ident hname, hvalue])

/-- Where no conjunct names the target, nothing changes. -/
theorem skips_conjunction {e : Expr} (hshape : ∀ c ∈ e.conjuncts, c.IsRedirectable r)
    (h : ∀ c ∈ e.conjuncts, c.field? ≠ some r.target) : r.Skips e := by
  induction e using conjunction_induction with
  | and id lhs rhs ihl ihr =>
    rw [conjuncts_and, List.forall_mem_append] at hshape h
    exact skips_call (by simp [ihl hshape.1 h.1, ihr hshape.2 h.2])
  | single e he =>
    have hmem : e ∈ e.conjuncts := by simp [he]
    exact skips_redirectable (hshape e hmem) (h e hmem)

private theorem exists_turns_redirectable {ctx : Context} {c : Expr} {o : Operand} (h : ctx.Renders c o)
    (hvalue : r.value ≠ "") (hc : c.IsRedirectable r) (hfield : c.field? = some r.target) :
    ∃ c', r.Turns c c' ∧ r.RedirectsFirst [c] c'.conjuncts ∧ ∃ o', ctx.Renders c' o' := by
  obtain ⟨⟨id, how, i, name, hrhs⟩, htail⟩ := hc
  have hname : snakeCase name = r.target := Option.some.inj hfield
  refine ⟨_, turns_comparison hvalue hname (htail _ (by simp [args])), ?_, ?_⟩
  · rw [conjuncts_compare]
    exact @RedirectsFirst.intro r [] [] id how i name _ (by simp) hname
  · obtain ⟨hid, l, rr, hl, -, -⟩ := Context.renders_compare_iff.1 h
    obtain ⟨ty, hty, -⟩ := Context.renders_ident_iff.1 hl
    exact ⟨_, .compare hid (.ident hty) (.const rfl)⟩

/-- A conjunction that names the target is redirected in its first conjunct that does, and still has a fragment. -/
theorem exists_turns {ctx : Context} {e : Expr} {o : Operand} (h : ctx.Renders e o) (hvalue : r.value ≠ "")
    (hshape : ∀ c ∈ e.conjuncts, c.IsRedirectable r) (hmatch : ∃ c ∈ e.conjuncts, c.field? = some r.target) :
    ∃ e', r.Turns e e' ∧ r.RedirectsFirst e.conjuncts e'.conjuncts ∧ ∃ o', ctx.Renders e' o' := by
  induction e using conjunction_induction generalizing o with
  | and id lhs rhs ihl ihr =>
    rw [conjuncts_and] at hshape hmatch ⊢
    obtain ⟨hid, l, rr, hl, hr, -⟩ := Context.renders_and_iff.1 h
    obtain ⟨hshapel, hshaper⟩ := List.forall_mem_append.1 hshape
    by_cases hleft : ∃ c ∈ lhs.conjuncts, c.field? = some r.target
    · obtain ⟨lhs', hturns, hfirst, o', ho'⟩ := ihl hl hshapel hleft
      refine ⟨_, turns_left hvalue hturns, ?_, _, .and hid ho' hr⟩
      rw [conjuncts_and]
      exact hfirst.append_right _
    · -- the walk comes to the right side only if the left side is free of the target
      have hnone : ∀ c ∈ lhs.conjuncts, c.field? ≠ some r.target := fun c hc hf => hleft ⟨c, hc, hf⟩
      have hright : ∃ c ∈ rhs.conjuncts, c.field? = some r.target := by
        obtain ⟨c, hc, hf⟩ := hmatch
        rcases List.mem_append.1 hc with hc | hc
        · exact absurd hf (hnone c hc)
        · exact ⟨c, hc, hf⟩
      obtain ⟨rhs', hturns, hfirst, o', ho'⟩ := ihr hr hshaper hright
      refine ⟨_, turns_right hvalue (skips_conjunction hshapel hnone) hturns, ?_, _, .and hid hl ho'⟩
      rw [conjuncts_and]
      exact hfirst.append_left hnone
  | single e he =>
    rw [he] at hshape hmatch ⊢
    obtain ⟨c, hc, hf⟩ := hmatch
    obtain rfl := List.mem_singleton.1 hc
    exact exists_turns_redirectable h hvalue (hshape c hc) hf

end Redirection

end Expr

/-! ### Fragments -/

/-- A redirection of a conjunction of comparisons, with a value that is not empty, reaches the fragment in one place.
The text of the first comparison that names the target gives way to a comparison of the new name with the new value, by
the same comparator, and every other text stays as it was. -/
theorem Expr.render_redirect_conjunction {ctx : Context} {e : Expr} {fragment : String} {r : Redirection}
    (hrender : (Filter.mk (some ⟨e, ctx.types⟩)).render ctx.enum? = .ok fragment)
    (hshape : ∀ c ∈ e.conjuncts, c.IsRedirectable r) (hmatch : ∃ c ∈ e.conjuncts, c.field? = some r.target)
    (hvalue : r.value ≠ "") :
    (∀ c ∈ e.conjuncts, ∃ o, ctx.render c = .ok o) ∧
    fragment = "&&".intercalate (e.conjuncts.map ctx.text) ∧
    (e.redirect r).2 = some r.value ∧
    ∃ before after id how i name rhs,
      e.conjuncts = before ++ .call id (Operator.compare how).name [.ident i name, rhs] :: after ∧
      (∀ c ∈ before, c.field? ≠ some r.target) ∧ snakeCase name = r.target ∧
      (Filter.mk (some ⟨(e.redirect r).1, ctx.types⟩)).render ctx.enum? =
        .ok ("&&".intercalate (before.map ctx.text ++
          (if ctx.types[i]? = some .timestamp then snakeCase r.name ++ "@" ++ r.value
            else "|> filter(fn: (r) => r[\"" ++ snakeCase r.name ++ "\"] " ++ how.flux ++ " \"" ++ r.value ++ "\")") ::
          after.map ctx.text)) := by
  obtain ⟨o, ho, rfl⟩ := Except.map_eq_ok_iff.1 hrender
  have h : ctx.Renders e o := Context.Renders.of_render ho
  obtain ⟨e', hturns, hfirst, o', ho'⟩ := Redirection.exists_turns h hvalue hshape hmatch
  have hredirect : e.redirect r = (e', some r.value) := by
    unfold redirect
    rw [hturns]
    rfl
  refine ⟨fun c hc => ?_, h.text_conjuncts, by rw [hredirect], ?_⟩
  · obtain ⟨oc, hoc⟩ := h.of_mem_conjuncts hc
    exact ⟨oc, hoc.render_eq⟩
  · -- the relation is opened into its split once the two lists are variables
    generalize hcs : e.conjuncts = cs at hfirst
    generalize hcs' : e'.conjuncts = cs' at hfirst
    obtain ⟨hbefore, hname⟩ := hfirst
    rename_i before after id how i name rhs
    refine ⟨before, after, id, how, i, name, rhs, rfl, hbefore, hname, ?_⟩
    rw [hredirect]
    refine Except.map_eq_ok_iff.2 ⟨o', ho'.render_eq, ?_⟩
    obtain ⟨on, hon⟩ := ho'.of_mem_conjuncts (hcs' ▸ List.mem_append_right before (.head after))
    obtain ⟨-, l, rr, hl, hr, rfl⟩ := Context.renders_compare_iff.1 hon
    obtain ⟨ty, hty, rfl⟩ := Context.renders_ident_iff.1 hl
    cases hr with
    | const hv =>
      cases hv
      rw [ho'.text_conjuncts, hcs', List.map_append, List.map_cons, hon.text_eq, hty,
        Context.render_renderTyped_eq]
      simp only [Option.some.injEq]

/-- The second side compares the target twice, and the new name is that of another value of its enumeration. -/
private def lighting : Expr :=
  .call 16 "AND"
    [.call 4 ">" [.ident 1 "createdAt", .call 3 "timestamp" [.const 2 (.string "2024-01-01T00:00:00Z")]],
      .call 15 "AND"
        [.call 9 "AND"
          [.call 7 "=" [.ident 5 "zone", .ident 6 "doorId"],
            .call 8 "!=" [.ident 10 "LightState", .const 11 (.int 7)]],
          .call 14 "=" [.ident 12 "lightState", .const 13 (.string "off")]]]

private def lightingContext : Context where
  types := Std.ExtTreeMap.ofList
    [((1 : NodeId), Ty.timestamp), (3, .timestamp), (4, .bool), (5, .string), (6, .string), (7, .bool), (8, .bool),
      (9, .bool), (10, .message "home.Light"), (12, .message "home.Light"), (14, .bool), (15, .bool), (16, .bool)]
  enum? _ := some (.ofNames "home.Light" ["OFF", "DIMMED_OUT"])

private def dimming : Expr.Redirection := ⟨"light_state", "dimmedOut", "hall"⟩

private def lightingFragment : String :=
  "created_at@2024-01-01T00:00:00Z&&|> filter(fn: (r) => r[\"zone\"] == \"door_id\")&&" ++
    "|> filter(fn: (r) => r[\"light_state\"] != \"7\")&&|> filter(fn: (r) => r[\"light_state\"] == \"off\")"

theorem Expr.render_redirect_lighting :
    (Filter.mk (some ⟨lighting, lightingContext.types⟩)).render lightingContext.enum? = .ok lightingFragment ∧
    (∀ c ∈ lighting.conjuncts, c.IsRedirectable dimming) ∧
    (∃ c ∈ lighting.conjuncts, c.field? = some dimming.target) ∧ dimming.value ≠ "" ∧
    (lighting.redirect dimming).2 = some "hall" ∧
    (Filter.mk (some ⟨(lighting.redirect dimming).1, lightingContext.types⟩)).render lightingContext.enum? =
      .ok ("created_at@2024-01-01T00:00:00Z&&|> filter(fn: (r) => r[\"zone\"] == \"door_id\")&&" ++
        "|> filter(fn: (r) => r[\"dimmed_out\"] != \"hall\")&&|> filter(fn: (r) => r[\"light_state\"] == \"off\")") := by
  have hrender : (Filter.mk (some ⟨lighting, lightingContext.types⟩)).render lightingContext.enum? =
    .ok lightingFragment := by decide +kernel
  have hconjuncts : lighting.conjuncts = [_, _, _, _] := rfl
  have hshape : ∀ c ∈ lighting.conjuncts, c.IsRedirectable dimming := by
    rw [hconjuncts]
    intro c hc
    simp only [List.mem_cons, List.not_mem_nil, or_false] at hc
    rcases hc with rfl | rfl | rfl | rfl
    · exact ⟨.intro 4 .gt 1 "createdAt" (.timestamp 3 2 _), by decide⟩
    · exact ⟨.intro 7 .eq 5 "zone" (.ident 6 _), by decide +kernel⟩
    · exact ⟨.intro 8 .ne 10 "LightState" (.const 11 _), by decide⟩
    · exact ⟨.intro 14 .eq 12 "lightState" (.const 13 _), by decide⟩
  have hmatch : ∃ c ∈ lighting.conjuncts, c.field? = some dimming.target := by decide +kernel
  have hvalue : dimming.value ≠ "" := by decide
  obtain ⟨-, -, hsome, before, after, id, how, i, name, rhs, hcs, hbefore, hname, hchanged⟩ :=
    @render_redirect_conjunction lightingContext _ _ _ hrender hshape hmatch hvalue
  refine ⟨hrender, hshape, hmatch, hvalue, hsome, hchanged.trans ?_⟩
  rw [hconjuncts] at hcs
  rcases before with _ | ⟨c₁, _ | ⟨c₂, _ | ⟨c₃, before⟩⟩⟩ <;>
    simp only [List.nil_append, List.cons_append, List.cons.injEq, call.injEq, ident.injEq] at hcs
  · obtain ⟨⟨-, -, ⟨-, rfl⟩, -⟩, -⟩ := hcs
    exact absurd hname (by decide +kernel)
  · obtain ⟨-, ⟨-, -, ⟨-, rfl⟩, -⟩, -⟩ := hcs
    exact absurd hname (by decide +kernel)
  · obtain ⟨rfl, rfl, ⟨rfl, hhow, ⟨rfl, rfl⟩, rfl, -⟩, rfl⟩ := hcs
    cases Operator.name_inj.1 (show (Operator.compare .ne).name = _ from hhow)
    decide +kernel
  · obtain ⟨-, -, rfl, -⟩ := hcs
    exact absurd (by decide +kernel) (hbefore (.call 8 "!=" [.ident 10 "LightState", .const 11 (.int 7)]) (by simp))

end FluxQuery
