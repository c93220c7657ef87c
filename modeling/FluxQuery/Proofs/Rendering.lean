import FluxQuery.Fragment
import FluxQuery.Proofs.Basic
import FluxQuery.Proofs.Tree

/-!
# Which expressions have a fragment

`Context.Renders` gives one rule for each kind of node that has a text, and `Context.render` succeeds exactly as these
rules say (`render_eq_ok_iff`). Proofs about fragments go by the rules and never look into `render` again.
-/

namespace FluxQuery

namespace Operator

theorem ofName?_name (op : Operator) : ofName? op.name = some op := by
  cases op with
  | compare c => cases c <;> rfl
  | _ => rfl

theorem ofName?_eq_some_iff {name : String} {op : Operator} : ofName? name = some op ↔ name = op.name := by
  constructor
  · intro h
    unfold ofName? at h
    have := List.find?_some h
    exact (beq_iff_eq.1 this).symm
  · rintro rfl
    exact ofName?_name op

/-- Different operators have different names. -/
theorem name_inj {op op' : Operator} : op.name = op'.name ↔ op = op' := by
  constructor
  · intro h
    exact Option.some.inj ((ofName?_name op).symm.trans (h ▸ ofName?_name op'))
  · rintro rfl
    rfl

end Operator

namespace Context

variable {ctx : Context}

/-- How an expression is written, if it has a text at all. -/
inductive Renders (ctx : Context) : Expr → Operand → Prop where
  | const {id : NodeId} {value : Literal} {text : String} :
      value.render = .ok text → Renders ctx (.const id value) { text }
  | ident {id : NodeId} {name : String} {ty : Ty} :
      ctx.types[id]? = some ty → Renders ctx (.ident id name) (ctx.renderTyped ty name)
  | compare {id : NodeId} {c : Comparison} {lhs rhs : Expr} {l r : Operand} :
      id ∈ ctx.types → Renders ctx lhs l → Renders ctx rhs r →
      Renders ctx (.call id (Operator.compare c).name [lhs, rhs]) { text := c.render l r }
  | and {id : NodeId} {lhs rhs : Expr} {l r : Operand} :
      id ∈ ctx.types → Renders ctx lhs l → Renders ctx rhs r →
      Renders ctx (.call id Operator.and.name [lhs, rhs]) { text := l.text ++ "&&" ++ r.text }
  | has {id i j : NodeId} {name text : String} {kind : Scalar} {value : Literal} :
      id ∈ ctx.types → ctx.types[i]? = some (.list (.scalar kind)) → value.render = .ok text →
      Renders ctx (.call id Operator.has.name [.ident i name, .const j value])
        { text := renderMembership (ctx.renderTyped (.list (.scalar kind)) name).text text }
  | timestamp {id i : NodeId} {value : String} :
      id ∈ ctx.types →
      Renders ctx (.call id Operator.timestamp.name [.const i (.string value)]) { text := value }

/-! ### The rules and the function -/

/-- A node is typed if the table has an entry under its id. -/
theorem mem_types_iff {id : NodeId} : id ∈ ctx.types ↔ ∃ ty, ctx.types[id]? = some ty := by
  rw [Std.ExtTreeMap.mem_iff_isSome_getElem?, Option.isSome_iff_exists]

private theorem isScalarList_iff {ty : Ty} : ty.isScalarList = true ↔ ∃ kind, ty = .list (.scalar kind) := by
  unfold Ty.isScalarList
  split <;> simp_all

private theorem renderHas_eq_ok_iff {lhs rhs : Expr} {text : String} :
    ctx.renderHas lhs rhs = .ok text ↔
      ∃ i name kind j value t, lhs = .ident i name ∧ rhs = .const j value ∧
        ctx.types[i]? = some (.list (.scalar kind)) ∧ value.render = .ok t ∧
        text = renderMembership (ctx.renderTyped (.list (.scalar kind)) name).text t := by
  constructor
  · intro h
    unfold renderHas at h
    split at h
    · rename_i j value
      split at h
      · rename_i i name
        split at h
        · cases h
        · rename_i ty hty
          split at h
          · rename_i hlist
            obtain ⟨kind, rfl⟩ := isScalarList_iff.1 hlist
            obtain ⟨t, ht, rfl⟩ := Except.map_eq_ok_iff.1 h
            exact ⟨i, name, kind, j, value, t, rfl, rfl, hty, ht, rfl⟩
          · cases h
      all_goals cases h
    · cases h
  · rintro ⟨i, name, kind, j, value, t, rfl, rfl, hty, ht, rfl⟩
    simp [renderHas, hty, Ty.isScalarList, ht, Except.map]

theorem Renders.of_render {e : Expr} {o : Operand} (h : ctx.render e = .ok o) : ctx.Renders e o := by
  fun_induction render ctx e generalizing o with
  | case1 id value =>
    obtain ⟨text, ht, rfl⟩ := Except.map_eq_ok_iff.1 h
    exact .const ht
  | case2 id name =>
    unfold renderIdent at h
    split at h
    · cases h
    · rename_i ty hty
      cases h
      exact .ident hty
  | case7 id function ty hty c lhs rhs hname ihl ihr =>
    obtain rfl := Operator.ofName?_eq_some_iff.1 hname
    obtain ⟨l, hl, h⟩ := Except.bind_eq_ok_iff.1 h
    obtain ⟨r, hr, h⟩ := Except.bind_eq_ok_iff.1 h
    cases h
    exact .compare (mem_types_iff.2 ⟨ty, hty⟩) (ihl hl) (ihr hr)
  | case8 id function ty hty lhs rhs hname ihl ihr =>
    obtain rfl := Operator.ofName?_eq_some_iff.1 hname
    obtain ⟨l, hl, h⟩ := Except.bind_eq_ok_iff.1 h
    obtain ⟨r, hr, h⟩ := Except.bind_eq_ok_iff.1 h
    cases h
    exact .and (mem_types_iff.2 ⟨ty, hty⟩) (ihl hl) (ihr hr)
  | case9 id function ty hty lhs rhs hname ihl ihr =>
    -- a disjunction fails even if both sides have a text
    obtain ⟨l, hl, h⟩ := Except.bind_eq_ok_iff.1 h
    obtain ⟨r, hr, h⟩ := Except.bind_eq_ok_iff.1 h
    cases h
  | case10 id function ty hty lhs rhs hname =>
    obtain rfl := Operator.ofName?_eq_some_iff.1 hname
    obtain ⟨text, ht, rfl⟩ := Except.map_eq_ok_iff.1 h
    obtain ⟨i, name, kind, j, value, t, rfl, rfl, hi, hv, rfl⟩ := renderHas_eq_ok_iff.1 ht
    exact .has (mem_types_iff.2 ⟨ty, hty⟩) hi hv
  | case12 id function ty hty i value hname =>
    obtain rfl := Operator.ofName?_eq_some_iff.1 hname
    cases h
    exact .timestamp (mem_types_iff.2 ⟨ty, hty⟩)
  | _ => cases h

theorem Renders.render_eq {e : Expr} {o : Operand} (h : ctx.Renders e o) : ctx.render e = .ok o := by
  induction h with
  | const hv => simp [render, hv, Except.map]
  | ident hty => simp [render, renderIdent, hty]
  | compare hid hl hr ihl ihr =>
    obtain ⟨ty, hty⟩ := mem_types_iff.1 hid
    unfold render
    simp [hty, Operator.ofName?_name, ihl, ihr, bind, Except.bind, pure, Except.pure]
  | and hid hl hr ihl ihr =>
    obtain ⟨ty, hty⟩ := mem_types_iff.1 hid
    unfold render
    simp [hty, Operator.ofName?_name, ihl, ihr, bind, Except.bind, pure, Except.pure]
  | has hid hi hv =>
    obtain ⟨ty, hty⟩ := mem_types_iff.1 hid
    unfold render
    simp [hty, Operator.ofName?_name, renderHas_eq_ok_iff.2 ⟨_, _, _, _, _, _, rfl, rfl, hi, hv, rfl⟩, Except.map]
  | timestamp hid =>
    obtain ⟨ty, hty⟩ := mem_types_iff.1 hid
    unfold render
    simp [hty, Operator.ofName?_name]

theorem render_eq_ok_iff {e : Expr} {o : Operand} : ctx.render e = .ok o ↔ ctx.Renders e o :=
  ⟨Renders.of_render, Renders.render_eq⟩

/-! ### Reading the rules backwards -/

theorem renders_ident_iff {id : NodeId} {name : String} {o : Operand} :
    ctx.Renders (.ident id name) o ↔ ∃ ty, ctx.types[id]? = some ty ∧ o = ctx.renderTyped ty name := by
  constructor
  · intro h
    cases h with
    | ident hty => exact ⟨_, hty, rfl⟩
  · rintro ⟨ty, hty, rfl⟩
    exact .ident hty

-- Names of operators are no constructors, so the cases of a call are told apart by `Operator.name_inj`.

theorem renders_compare_iff {id : NodeId} {c : Comparison} {lhs rhs : Expr} {o : Operand} :
    ctx.Renders (.call id (Operator.compare c).name [lhs, rhs]) o ↔
      id ∈ ctx.types ∧ ∃ l r, ctx.Renders lhs l ∧ ctx.Renders rhs r ∧ o = { text := c.render l r } := by
  constructor
  · intro h
    generalize hname : (Operator.compare c).name = function at h
    cases h with
    | compare hid hl hr =>
      cases Operator.name_inj.1 hname
      exact ⟨hid, _, _, hl, hr, rfl⟩
    | and => cases Operator.name_inj.1 hname
    | has => cases Operator.name_inj.1 hname
  · rintro ⟨hid, l, r, hl, hr, rfl⟩
    exact .compare hid hl hr

theorem renders_and_iff {id : NodeId} {lhs rhs : Expr} {o : Operand} :
    ctx.Renders (.call id Operator.and.name [lhs, rhs]) o ↔
      id ∈ ctx.types ∧ ∃ l r, ctx.Renders lhs l ∧ ctx.Renders rhs r ∧ o = { text := l.text ++ "&&" ++ r.text } := by
  constructor
  · intro h
    generalize hname : Operator.and.name = function at h
    cases h with
    | compare => cases Operator.name_inj.1 hname
    | and hid hl hr => exact ⟨hid, _, _, hl, hr, rfl⟩
    | has => cases Operator.name_inj.1 hname
  · rintro ⟨hid, l, r, hl, hr, rfl⟩
    exact .and hid hl hr

theorem renders_has_iff {id : NodeId} {args : List Expr} {o : Operand} :
    ctx.Renders (.call id Operator.has.name args) o ↔
      id ∈ ctx.types ∧ ∃ i name kind j value text, args = [.ident i name, .const j value] ∧
        ctx.types[i]? = some (.list (.scalar kind)) ∧ value.render = .ok text ∧
        o = { text := renderMembership (ctx.renderTyped (.list (.scalar kind)) name).text text } := by
  constructor
  · intro h
    generalize hname : Operator.has.name = function at h
    cases h with
    | compare => cases Operator.name_inj.1 hname
    | and => cases Operator.name_inj.1 hname
    | has hid hi hv => exact ⟨hid, _, _, _, _, _, _, rfl, hi, hv, rfl⟩
    | timestamp => cases Operator.name_inj.1 hname
  · rintro ⟨hid, i, name, kind, j, value, text, rfl, hi, hv, rfl⟩
    exact .has hid hi hv

theorem renders_timestamp_iff {id i : NodeId} {value : String} {o : Operand} :
    ctx.Renders (.call id Operator.timestamp.name [.const i (.string value)]) o ↔
      id ∈ ctx.types ∧ o = { text := value } := by
  constructor
  · intro h
    generalize hname : Operator.timestamp.name = function at h
    cases h with
    | timestamp hid => exact ⟨hid, rfl⟩
  · rintro ⟨hid, rfl⟩
    exact .timestamp hid

end Context

end FluxQuery
