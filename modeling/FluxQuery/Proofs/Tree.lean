import FluxQuery.Filter.Expr
import FluxQuery.Filter.Operator

/-!
# Parts of an expression

Two ways to take a tree apart, both from left to right. `Expr.nodes` lists all of its nodes, the root first.
`Expr.conjuncts` undoes the calls of `AND` at the top of the tree and lists what they join.
-/

namespace FluxQuery.Expr

/-- What holds of a node as soon as it holds of all parts of the node holds of every expression. -/
@[elab_as_elim]
theorem induction {motive : Expr → Prop} (const : ∀ id value, motive (const id value))
    (ident : ∀ id name, motive (ident id name))
    (select : ∀ id operand field, motive operand → motive (select id operand field))
    (call : ∀ id function args, (∀ a ∈ args, motive a) → motive (call id function args))
    (list : ∀ id items, (∀ a ∈ items, motive a) → motive (list id items)) (e : Expr) : motive e := by
  refine @Expr.rec motive (fun es => ∀ a ∈ es, motive a) const ident select call list ?_ ?_ e
  · intro a ha
    cases ha
  · intro head tail hhead htail a ha
    rcases List.mem_cons.1 ha with rfl | ha
    · exact hhead
    · exact htail a ha

/-! ### Nodes -/

mutual

/-- All nodes: through the arguments of calls, the operands of selections and the items of lists. -/
def nodes : Expr → List Expr
  | const id value => [const id value]
  | ident id name => [ident id name]
  | select id operand field => select id operand field :: operand.nodes
  | call id function args => call id function args :: nodesOf args
  | list id items => list id items :: nodesOf items

def nodesOf : List Expr → List Expr
  | [] => []
  | e :: es => e.nodes ++ nodesOf es

end

private theorem nodesOf_eq (es : List Expr) : nodesOf es = es.flatMap nodes := by
  induction es with
  | nil => rfl
  | cons e es ih => simp [nodesOf, ih]

@[simp]
theorem mem_nodes_const {id : NodeId} {value : Literal} {n : Expr} :
    n ∈ (const id value).nodes ↔ n = const id value := by
  simp [nodes]

@[simp]
theorem mem_nodes_ident {id : NodeId} {name : String} {n : Expr} : n ∈ (ident id name).nodes ↔ n = ident id name := by
  simp [nodes]

theorem mem_nodes_call {id : NodeId} {function : String} {args : List Expr} {n : Expr} :
    n ∈ (call id function args).nodes ↔ n = call id function args ∨ ∃ a ∈ args, n ∈ a.nodes := by
  rw [nodes, nodesOf_eq, List.mem_cons, List.mem_flatMap]

theorem mem_nodes_binary {id : NodeId} {function : String} {lhs rhs n : Expr} :
    n ∈ (call id function [lhs, rhs]).nodes ↔ n = call id function [lhs, rhs] ∨ n ∈ lhs.nodes ∨ n ∈ rhs.nodes := by
  simp [mem_nodes_call]

theorem self_mem_nodes (e : Expr) : e ∈ e.nodes := by
  cases e <;> simp [nodes]

/-- The nodes right below a node. -/
def children : Expr → List Expr
  | const .. | ident .. => []
  | select _ operand _ => [operand]
  | call _ _ args => args
  | list _ items => items

theorem mem_nodes_iff {e n : Expr} : n ∈ e.nodes ↔ n = e ∨ ∃ c ∈ e.children, n ∈ c.nodes := by
  cases e with
  | const id value => simp [children]
  | ident id name => simp [children]
  | select id operand field => simp [nodes, children]
  | call id function args => exact mem_nodes_call
  | list id items => rw [nodes, nodesOf_eq, List.mem_cons, List.mem_flatMap, children]

/-- Induction from the children of a node to the node, whatever its kind. -/
@[elab_as_elim]
theorem children_induction {motive : Expr → Prop} (step : ∀ e, (∀ c ∈ e.children, motive c) → motive e) (e : Expr) :
    motive e := by
  induction e using Expr.induction with
  | const id value => exact step _ (by simp [children])
  | ident id name => exact step _ (by simp [children])
  | select id operand field ih => exact step _ (by simpa [children] using ih)
  | call id function args ih => exact step _ ih
  | list id items ih => exact step _ ih

theorem arg_mem_nodes {id : NodeId} {function : String} {args : List Expr} {a n : Expr} (ha : a ∈ args)
    (hn : n ∈ a.nodes) : n ∈ (call id function args).nodes :=
  mem_nodes_call.2 (.inr ⟨a, ha, hn⟩)

/-! ### Conjuncts -/

/-- What the calls of `AND` at the top join. An expression that is no such call is its only conjunct. -/
def conjuncts : Expr → List Expr
  | call id function [lhs, rhs] =>
    if function = Operator.and.name then lhs.conjuncts ++ rhs.conjuncts else [call id function [lhs, rhs]]
  | e => [e]

theorem conjuncts_and (id : NodeId) (lhs rhs : Expr) :
    (call id Operator.and.name [lhs, rhs]).conjuncts = lhs.conjuncts ++ rhs.conjuncts := by
  simp [conjuncts]

/-- Every expression joins two conjunctions or is its own conjunct. -/
@[elab_as_elim]
theorem conjunction_induction {motive : Expr → Prop}
    (and : ∀ id lhs rhs, motive lhs → motive rhs → motive (call id Operator.and.name [lhs, rhs]))
    (single : ∀ e, e.conjuncts = [e] → motive e) (e : Expr) : motive e := by
  fun_induction conjuncts e with
  | case1 id lhs rhs ihl ihr => exact and id lhs rhs ihl ihr
  | case2 id function lhs rhs hname =>
    apply single
    rw [conjuncts, if_neg hname]
  | case3 e hcall =>
    apply single
    rw [conjuncts]
    exact hcall

theorem conjuncts_ne_nil (e : Expr) : e.conjuncts ≠ [] := by
  induction e using conjunction_induction with
  | and id lhs rhs ihl ihr => simp [conjuncts_and, ihl]
  | single e he => simp [he]

/-- The nodes of a conjunct are nodes of the tree. -/
theorem nodes_of_mem_conjuncts {e c n : Expr} (hc : c ∈ e.conjuncts) (hn : n ∈ c.nodes) : n ∈ e.nodes := by
  induction e using conjunction_induction with
  | and id lhs rhs ihl ihr =>
    rw [conjuncts_and] at hc
    rcases List.mem_append.1 hc with hc | hc
    · exact arg_mem_nodes (by simp) (ihl hc)
    · exact arg_mem_nodes (by simp) (ihr hc)
  | single e he =>
    rw [he, List.mem_singleton] at hc
    rwa [hc] at hn

end FluxQuery.Expr
