import FluxQuery.Proofs.Places
import FluxQuery.Proofs.Rendering
import Mathlib.Data.List.Basic

/-!
# What an error is about

An error says in a few words why a filter has no fragment, but not where. `RenderError.Reason` says for each error what
node can be meant by it. A filter that is refused always has such a node, and one that a reader from the left comes to
first: all that stands to the left of the way from the root to it has a fragment of its own (`exists_offender`).
-/

namespace FluxQuery

/-- A node that is a reason for an error. -/
inductive RenderError.Reason (ctx : Context) : RenderError → Expr → Prop where
  | untypedIdent {id : NodeId} {name : String} : id ∉ ctx.types → Reason ctx (.untypedIdent id) (.ident id name)
  | untypedCall {id : NodeId} {function : String} {args : List Expr} :
      id ∉ ctx.types → Reason ctx (.untypedCall id) (.call id function args)
  | unknownFunction {id : NodeId} {function : String} {args : List Expr} :
      id ∈ ctx.types → (∀ op : Operator, function ≠ op.name) →
      Reason ctx (.unknownFunction function) (.call id function args)
  | arity {id : NodeId} {op : Operator} {args : List Expr} :
      id ∈ ctx.types → args.length ≠ op.arity → Reason ctx (.arity op.name args.length) (.call id op.name args)
  | select {id : NodeId} {operand : Expr} {field : String} : Reason ctx .select (.select id operand field)
  | list {id : NodeId} {items : List Expr} : Reason ctx (.list (Expr.list id items).text) (.list id items)
  | constant {id : NodeId} {value : Literal} :
      (value = .null ∨ ∃ bytes, value = .bytes bytes) → Reason ctx (.constant value.text) (.const id value)
  | negation {id : NodeId} {arg : Expr} : id ∈ ctx.types → Reason ctx .negation (.call id Operator.not.name [arg])
  | disjunction {id : NodeId} {lhs rhs : Expr} {l r : Operand} :
      id ∈ ctx.types → ctx.render lhs = .ok l → ctx.render rhs = .ok r →
      Reason ctx .disjunction (.call id Operator.or.name [lhs, rhs])
  | membership {id : NodeId} {lhs rhs : Expr} {kind : String} :
      id ∈ ctx.types → Reason ctx (.membership kind) (.call id Operator.has.name [lhs, rhs])
  | timestamp {id : NodeId} {arg : Expr} :
      id ∈ ctx.types → (∀ i value, arg ≠ .const i (.string value)) →
      Reason ctx (.timestamp Operator.timestamp.name) (.call id Operator.timestamp.name [arg])

namespace Context

variable {ctx : Context} {error : RenderError} {e : Expr}

/-! ### One node -/

/-- One of the arguments gives the error, and those to the left of it have a text. -/
private def FromArg (ctx : Context) (error : RenderError) (args : List Expr) : Prop :=
  ∃ (i : Nat) (a : Expr), args[i]? = some a ∧ ctx.render a = .error error ∧
    ∀ j s, j < i → args[j]? = some s → ∃ o, ctx.render s = .ok o

private theorem fromArg_left {lhs : Expr} {args : List Expr} (h : ctx.render lhs = .error error) :
    ctx.FromArg error (lhs :: args) := by
  refine ⟨0, lhs, rfl, h, fun j s hj => ?_⟩
  omega

private theorem fromArg_right {lhs rhs : Expr} {l : Operand} (hl : ctx.render lhs = .ok l)
    (h : ctx.render rhs = .error error) : ctx.FromArg error [lhs, rhs] := by
  refine ⟨1, rhs, rfl, h, fun j s hj hs => ?_⟩
  obtain rfl : j = 0 := by omega
  cases hs
  exact ⟨l, hl⟩

/-- Of two sides that are rendered one after the other the first that fails gives the error. -/
private theorem fromArg_of_bind {lhs rhs : Expr} {f : Operand → Operand → Except RenderError Operand}
    (h : (do let l ← ctx.render lhs; let r ← ctx.render rhs; f l r) = .error error) :
    ctx.FromArg error [lhs, rhs] ∨
      ∃ l r, ctx.render lhs = .ok l ∧ ctx.render rhs = .ok r ∧ f l r = .error error := by
  rcases Except.bind_eq_error_iff.1 h with h | ⟨l, hl, h⟩
  · exact .inl (fromArg_left h)
  · rcases Except.bind_eq_error_iff.1 h with h | ⟨r, hr, h⟩
    · exact .inl (fromArg_right hl h)
    · exact .inr ⟨l, r, hl, hr, h⟩

private theorem reason_const {id : NodeId} {value : Literal} (h : value.render = .error error) :
    error.Reason ctx (.const id value) := by
  cases value with
  | null =>
    cases h
    exact .constant (.inl rfl)
  | bytes bs =>
    cases h
    exact .constant (.inr ⟨bs, rfl⟩)
  | _ => cases h

private theorem not_mem_types {id : NodeId} (h : ctx.types[id]? = none) : id ∉ ctx.types := by
  rw [mem_types_iff, h]
  simp

private theorem reason_membership {id : NodeId} {lhs rhs : Expr} (hid : id ∈ ctx.types)
    (h : ctx.renderHas lhs rhs = .error error) :
    error.Reason ctx (.call id Operator.has.name [lhs, rhs]) ∨ ctx.FromArg error [lhs, rhs] := by
  unfold renderHas at h
  split at h
  · rename_i j value
    split at h
    · rename_i i name
      split at h
      · rename_i hty
        have hfield : ctx.render (.ident i name) = .error (.untypedIdent i) := by rw [render, renderIdent, hty]
        cases h
        exact .inr (fromArg_left hfield)
      · rename_i ty hty
        split at h
        · -- the field has a type, and the value no text
          have hfield : ctx.render (.ident i name) = .ok (ctx.renderTyped ty name) := (Renders.ident hty).render_eq
          have hvalue : ctx.render (.const j value) = .error error := by
            rw [render, Except.map_eq_error_iff.1 h]
            rfl
          exact .inr (fromArg_right hfield hvalue)
        · cases h
          exact .inl (.membership hid)
    all_goals
      cases h
      exact .inl (.membership hid)
  · cases h
    exact .inl (.membership hid)

/-- A call that none of the rules for its operator covers has a wrong number of arguments. -/
private theorem length_ne_arity {op : Operator} {args : List Expr} (hone : op.arity = 1 → ∀ a, args ≠ [a])
    (htwo : op.arity = 2 → ∀ a b, args ≠ [a, b]) : args.length ≠ op.arity := by
  intro hlength
  have harity : op.arity = 1 ∨ op.arity = 2 := by cases op <;> simp [Operator.arity]
  rcases harity with harity | harity
  · obtain ⟨a, ha⟩ := List.length_eq_one_iff.1 (hlength.trans harity)
    exact hone harity a ha
  · obtain ⟨a, b, hab⟩ := List.length_eq_two.1 (hlength.trans harity)
    exact htwo harity a b hab

/-- A node that is refused is the reason, or passes on the error of one of its arguments. -/
private theorem reason_or_fromArg (h : ctx.render e = .error error) :
    error.Reason ctx e ∨ ctx.FromArg error e.args := by
  revert h
  fun_cases render ctx e with
  | case1 id value =>
    intro h
    exact .inl (reason_const (Except.map_eq_error_iff.1 h))
  | case2 id name =>
    intro h
    unfold renderIdent at h
    split at h
    · rename_i hty
      cases h
      exact .inl (.untypedIdent (not_mem_types hty))
    · cases h
  | case3 id operand field =>
    intro h
    cases h
    exact .inl .select
  | case4 id items =>
    intro h
    cases h
    exact .inl .list
  | case5 id function args hty =>
    intro h
    cases h
    exact .inl (.untypedCall (not_mem_types hty))
  | case6 id function args ty hty hname =>
    intro h
    cases h
    refine .inl (.unknownFunction (mem_types_iff.2 ⟨ty, hty⟩) fun op hop => ?_)
    rw [Operator.ofName?_eq_some_iff.2 hop] at hname
    cases hname
  | case7 id function ty hty c lhs rhs hname =>
    intro h
    rcases fromArg_of_bind h with h | ⟨l, r, -, -, h⟩
    · exact .inr h
    · cases h
  | case8 id function ty hty lhs rhs hname =>
    intro h
    rcases fromArg_of_bind h with h | ⟨l, r, -, -, h⟩
    · exact .inr h
    · cases h
  | case9 id function ty hty lhs rhs hname =>
    intro h
    obtain rfl := Operator.ofName?_eq_some_iff.1 hname
    rcases fromArg_of_bind h with h | ⟨l, r, hl, hr, h⟩
    · exact .inr h
    · cases h
      exact .inl (.disjunction (mem_types_iff.2 ⟨ty, hty⟩) hl hr)
  | case10 id function ty hty lhs rhs hname =>
    intro h
    obtain rfl := Operator.ofName?_eq_some_iff.1 hname
    exact reason_membership (mem_types_iff.2 ⟨ty, hty⟩) (Except.map_eq_error_iff.1 h)
  | case11 id function ty hty arg hname =>
    intro h
    obtain rfl := Operator.ofName?_eq_some_iff.1 hname
    cases h
    exact .inl (.negation (mem_types_iff.2 ⟨ty, hty⟩))
  | case12 id function ty hty i value hname =>
    intro h
    cases h
  | case13 id function ty hty arg harg hname =>
    intro h
    obtain rfl := Operator.ofName?_eq_some_iff.1 hname
    cases h
    exact .inl (.timestamp (mem_types_iff.2 ⟨ty, hty⟩) harg)
  | case14 id function ty hty op args hcompare hand hor hhas hnot htime htime' hname =>
    intro h
    obtain rfl := Operator.ofName?_eq_some_iff.1 hname
    cases h
    refine .inl (.arity (mem_types_iff.2 ⟨ty, hty⟩) (length_ne_arity (fun hone a ha => ?_) fun htwo a b hab => ?_))
    · cases op with
      | not => exact hnot a ha rfl
      | timestamp => exact htime' a ha rfl
      | _ => cases hone
    · cases op with
      | compare c => exact hcompare c a b hab rfl
      | and => exact hand a b hab rfl
      | or => exact hor a b hab rfl
      | has => exact hhas a b hab rfl
      | _ => cases htwo

/-! ### The way to the reason -/

/-- The node in a place is a reason for the error and gives it on its own, and what stands to the left of the way to it
has a text. -/
structure Offender (ctx : Context) (error : RenderError) (e : Expr) (place : Place) (node : Expr) : Prop where
  found : e.get? place = some node
  reason : error.Reason ctx node
  alone : ctx.render node = .error error
  first : ∀ s, e.LeftSibling place s → ∃ o, ctx.render s = .ok o

private theorem Offender.arg {id : NodeId} {function : String} {args : List Expr} {i : Nat} {a node : Expr}
    {place : Place} (h : ctx.Offender error a place node) (ha : args[i]? = some a)
    (hleft : ∀ j s, j < i → args[j]? = some s → ∃ o, ctx.render s = .ok o) :
    ctx.Offender error (.call id function args) (i :: place) node where
  found := by
    rw [Expr.get?_call, ha]
    exact h.found
  reason := h.reason
  alone := h.alone
  first := by
    intro s hs
    rcases Expr.leftSibling_cons_iff.1 hs with ⟨j, hj, hs⟩ | ⟨c, hc, hs⟩
    · exact hleft j s hj hs
    · obtain rfl : a = c := Option.some.inj (ha.symm.trans hc)
      exact h.first s hs

/-- Every error has a reason, and the first one from the left. -/
theorem exists_offender (h : ctx.render e = .error error) : ∃ place node, ctx.Offender error e place node := by
  induction e using Expr.children_induction with
  | step e ih =>
    rcases reason_or_fromArg h with hreason | ⟨i, a, ha, herror, hleft⟩
    · refine ⟨[], e, rfl, hreason, h, fun s hs => ?_⟩
      exact absurd hs (Expr.not_leftSibling_nil e s)
    · cases e with
      | call id function args =>
        obtain ⟨place, node, hnode⟩ := ih a (List.mem_of_getElem? ha) herror
        exact ⟨i :: place, node, hnode.arg ha hleft⟩
      | _ => cases ha

end Context

theorem Filter.exists_render_iff {e : Expr} {types : TypeTable} {enum? : String → Option Enumeration} :
    (∃ fragment, (Filter.mk (some ⟨e, types⟩)).render enum? = .ok fragment) ↔
      ∃ o, Context.render ⟨types, enum?⟩ e = .ok o := by
  constructor
  · rintro ⟨fragment, h⟩
    obtain ⟨o, ho, -⟩ := Except.map_eq_ok_iff.1 h
    exact ⟨o, ho⟩
  · rintro ⟨o, ho⟩
    exact ⟨o.text, Except.map_eq_ok_iff.2 ⟨o, ho, rfl⟩⟩

/-- A filter that is refused has a node that is a reason for the error, and would be refused with the same error if the
node were all of it. On the way from the root to the node, every node to the left of the way is a filter with a
fragment. -/
theorem Filter.exists_reason (f : Filter) (enum? : String → Option Enumeration) (error : RenderError)
    (h : f.render enum? = .error error) :
    ∃ checked place node, f.checked? = some checked ∧ checked.expr.get? place = some node ∧
      error.Reason ⟨checked.types, enum?⟩ node ∧
      (Filter.mk (some ⟨node, checked.types⟩)).render enum? = .error error ∧
      ∀ s, checked.expr.LeftSibling place s →
        ∃ fragment, (Filter.mk (some ⟨s, checked.types⟩)).render enum? = .ok fragment := by
  unfold render at h
  split at h
  · cases h
  · rename_i checked hchecked
    obtain ⟨place, node, hoffender⟩ := Context.exists_offender (Except.map_eq_error_iff.1 h)
    refine ⟨checked, place, node, hchecked, hoffender.found, hoffender.reason, ?_, fun s hs => ?_⟩
    · exact Except.map_eq_error_iff.2 hoffender.alone
    · exact exists_render_iff.2 (hoffender.first s hs)

/-- Two nodes are at fault: the value of the membership test, and to the right of it a negation of nothing. -/
private def shelf : Checked where
  expr :=
    .call 9 "AND"
      [.call 3 "=" [.ident 1 "doorState", .const 2 (.string "open")],
        .call 8 "OR" [.call 6 ":" [.ident 4 "tags", .const 5 .null], .call 7 "NOT" []]]
  types := Std.ExtTreeMap.ofList
    [((1 : NodeId), Ty.string), (3, .bool), (4, .list .string), (6, .bool), (7, .bool), (8, .bool), (9, .bool)]

theorem Filter.exists_reason_shelf :
    (Filter.mk (some shelf)).render (fun _ => none) = .error (.constant "null") ∧
    ∃ place node, shelf.expr.get? place = some node ∧
      RenderError.Reason ⟨shelf.types, fun _ => none⟩ (.constant "null") node ∧
      (Filter.mk (some ⟨node, shelf.types⟩)).render (fun _ => none) = .error (.constant "null") ∧
      ∀ s, shelf.expr.LeftSibling place s →
        ∃ fragment, (Filter.mk (some ⟨s, shelf.types⟩)).render (fun _ => none) = .ok fragment := by
  have h : (Filter.mk (some shelf)).render (fun _ => none) = .error (.constant "null") := by decide +kernel
  obtain ⟨checked, place, node, hchecked, hnode⟩ := Filter.exists_reason _ _ _ h
  cases hchecked
  exact ⟨h, place, node, hnode⟩

end FluxQuery
