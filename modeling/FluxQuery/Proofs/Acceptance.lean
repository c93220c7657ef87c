import FluxQuery.Proofs.Rendering
import Mathlib.Data.List.Basic

/-!
# Acceptance

Whether a filter has a fragment can be read off its nodes one by one: `Expr.Accepted` is a condition on a single node
and the types around it, and a filter has a fragment if and only if all nodes of its tree satisfy it. No node can make
up for another, however deep it stands.
-/

namespace FluxQuery

/-- A node that can stand in a filter with a fragment. Its parts are looked at no further than their kind. -/
def Expr.Accepted (types : TypeTable) : Expr → Prop
  | .const _ value => value ≠ .null ∧ ∀ bytes, value ≠ .bytes bytes
  | .ident id _ => id ∈ types
  | .select .. => False
  | .list .. => False
  | .call id function args =>
    id ∈ types ∧
      ((function ∈ ["=", "!=", "<", "<=", ">", ">=", "AND"] ∧ args.length = 2) ∨
        (function = ":" ∧ ∃ i name kind j value,
          args = [.ident i name, .const j value] ∧ types[i]? = some (.list (.scalar kind))) ∨
        (function = "timestamp" ∧ ∃ i value, args = [.const i (.string value)]))

/-- A node that no filter with a fragment has: a disjunction, a negation, a selection, or an identifier or a call
without a type. -/
inductive Expr.Refused (types : TypeTable) : Expr → Prop where
  | disjunction (id : NodeId) (args : List Expr) : Refused types (.call id "OR" args)
  | negation (id : NodeId) (args : List Expr) : Refused types (.call id "NOT" args)
  | select (id : NodeId) (operand : Expr) (field : String) : Refused types (.select id operand field)
  | untypedIdent (id : NodeId) (name : String) : id ∉ types → Refused types (.ident id name)
  | untypedCall (id : NodeId) (function : String) (args : List Expr) :
      id ∉ types → Refused types (.call id function args)

theorem Expr.Refused.not_accepted {types : TypeTable} {e : Expr} (h : e.Refused types) : ¬ e.Accepted types := by
  cases h with
  | disjunction id args => simp [Accepted]
  | negation id args => simp [Accepted]
  | select id operand field => simp [Accepted]
  | untypedIdent id name hid => exact hid
  | untypedCall id function args hid => exact fun h => hid h.1

private theorem Literal.render_isOk_iff {value : Literal} :
    (∃ text, value.render = .ok text) ↔ value ≠ .null ∧ ∀ bytes, value ≠ .bytes bytes := by
  cases value <;> simp [Literal.render]

namespace Context

variable {ctx : Context}

/-- A binary operator whose two sides are rendered on their own. -/
private theorem mem_binary_iff {function : String} :
    function ∈ ["=", "!=", "<", "<=", ">", ">=", "AND"] ↔
      (∃ c, function = (Operator.compare c).name) ∨ function = Operator.and.name := by
  constructor
  · intro h
    simp only [List.mem_cons, List.not_mem_nil, or_false] at h
    rcases h with rfl | rfl | rfl | rfl | rfl | rfl | rfl
    · exact .inl ⟨.eq, rfl⟩
    · exact .inl ⟨.ne, rfl⟩
    · exact .inl ⟨.lt, rfl⟩
    · exact .inl ⟨.le, rfl⟩
    · exact .inl ⟨.gt, rfl⟩
    · exact .inl ⟨.ge, rfl⟩
    · exact .inr rfl
  · rintro (⟨c, rfl⟩ | rfl)
    · cases c <;> simp [Operator.name, Comparison.name]
    · simp [Operator.name]

/-- All nodes of an expression with a text are accepted. -/
theorem Renders.accepted {e : Expr} {o : Operand} (h : ctx.Renders e o) : ∀ n ∈ e.nodes, n.Accepted ctx.types := by
  induction h with
  | const hv =>
    intro n hn
    obtain rfl := Expr.mem_nodes_const.1 hn
    exact Literal.render_isOk_iff.1 ⟨_, hv⟩
  | ident hty =>
    intro n hn
    obtain rfl := Expr.mem_nodes_ident.1 hn
    exact mem_types_iff.2 ⟨_, hty⟩
  | compare hid hl hr ihl ihr =>
    intro n hn
    rcases Expr.mem_nodes_binary.1 hn with rfl | hn | hn
    · exact ⟨hid, .inl ⟨mem_binary_iff.2 (.inl ⟨_, rfl⟩), rfl⟩⟩
    · exact ihl n hn
    · exact ihr n hn
  | and hid hl hr ihl ihr =>
    intro n hn
    rcases Expr.mem_nodes_binary.1 hn with rfl | hn | hn
    · exact ⟨hid, .inl ⟨mem_binary_iff.2 (.inr rfl), rfl⟩⟩
    · exact ihl n hn
    · exact ihr n hn
  | has hid hi hv =>
    intro n hn
    rcases Expr.mem_nodes_binary.1 hn with rfl | hn | hn
    · exact ⟨hid, .inr (.inl ⟨rfl, _, _, _, _, _, rfl, hi⟩)⟩
    · obtain rfl := Expr.mem_nodes_ident.1 hn
      exact mem_types_iff.2 ⟨_, hi⟩
    · obtain rfl := Expr.mem_nodes_const.1 hn
      exact Literal.render_isOk_iff.1 ⟨_, hv⟩
  | timestamp hid =>
    intro n hn
    rcases Expr.mem_nodes_call.1 hn with rfl | ⟨a, ha, hna⟩
    · exact ⟨hid, .inr (.inr ⟨rfl, _, _, rfl⟩)⟩
    · obtain rfl := List.mem_singleton.1 ha
      obtain rfl := Expr.mem_nodes_const.1 hna
      exact ⟨by simp, by simp⟩

/-- An expression all of whose nodes are accepted has a text. -/
theorem exists_renders {e : Expr} (h : ∀ n ∈ e.nodes, n.Accepted ctx.types) : ∃ o, ctx.Renders e o := by
  induction e using Expr.induction with
  | const id value =>
    obtain ⟨text, ht⟩ := Literal.render_isOk_iff.2 (h _ (Expr.self_mem_nodes _))
    exact ⟨_, .const ht⟩
  | ident id name =>
    obtain ⟨ty, hty⟩ := mem_types_iff.1 (h _ (Expr.self_mem_nodes _))
    exact ⟨_, .ident hty⟩
  | select id operand field => exact (h _ (Expr.self_mem_nodes _)).elim
  | list id items => exact (h _ (Expr.self_mem_nodes _)).elim
  | call id function args ih =>
    have hargs : ∀ a ∈ args, ∃ o, ctx.Renders a o := fun a ha => ih a ha fun n hn => h n (Expr.arg_mem_nodes ha hn)
    obtain ⟨hid, ⟨hbin, hlen⟩ | ⟨rfl, i, name, kind, j, value, rfl, hi⟩ | ⟨rfl, i, value, rfl⟩⟩ :=
      h _ (Expr.self_mem_nodes _)
    · obtain ⟨lhs, rhs, rfl⟩ := List.length_eq_two.1 hlen
      obtain ⟨l, hl⟩ := hargs lhs (by simp)
      obtain ⟨r, hr⟩ := hargs rhs (by simp)
      rcases mem_binary_iff.1 hbin with ⟨c, rfl⟩ | rfl
      · exact ⟨_, .compare hid hl hr⟩
      · exact ⟨_, .and hid hl hr⟩
    · -- a membership test renders its value but not its field, whose type is known
      have hvalue := h (.const j value) (Expr.arg_mem_nodes (a := .const j value) (by simp) (Expr.self_mem_nodes _))
      obtain ⟨text, ht⟩ := Literal.render_isOk_iff.2 hvalue
      exact ⟨_, .has hid hi ht⟩
    · exact ⟨_, .timestamp hid⟩

end Context

/-- A filter has a fragment if and only if every node of its tree is accepted. In particular, a disjunction, a
negation, a selection or an untyped identifier or call anywhere in the tree leaves it without one. -/
theorem Filter.exists_fragment_iff (e : Expr) (types : TypeTable) (enum? : String → Option Enumeration) :
    ((∃ fragment, (Filter.mk (some ⟨e, types⟩)).render enum? = .ok fragment) ↔ ∀ n ∈ e.nodes, n.Accepted types) ∧
      ¬ ((∃ n ∈ e.nodes, n.Refused types) ∧
        ∃ fragment, (Filter.mk (some ⟨e, types⟩)).render enum? = .ok fragment) := by
  have key : (∃ fragment, (Filter.mk (some ⟨e, types⟩)).render enum? = .ok fragment) ↔
      ∀ n ∈ e.nodes, n.Accepted types := by
    constructor
    · rintro ⟨fragment, h⟩
      obtain ⟨o, ho, -⟩ := Except.map_eq_ok_iff.1 h
      exact (Context.Renders.of_render ho).accepted
    · intro h
      obtain ⟨o, ho⟩ := @Context.exists_renders ⟨types, enum?⟩ e h
      exact ⟨o.text, Except.map_eq_ok_iff.2 ⟨o, ho.render_eq, rfl⟩⟩
  refine ⟨key, ?_⟩
  rintro ⟨⟨n, hn, hrefused⟩, hfragment⟩
  exact hrefused.not_accepted (key.1 hfragment n hn)

end FluxQuery
