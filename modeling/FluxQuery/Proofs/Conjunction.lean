import FluxQuery.Proofs.Case
import FluxQuery.Proofs.Rendering

/-!
# Conjunctions of comparisons

The fragment of a conjunction is made of the texts of its conjuncts, joined by `&&` in the order of the tree, however
the calls of `AND` are nested (`Renders.text_conjuncts`). A comparison with an identifier on its left names the field
by the identifier's name in snake case, whatever the identifier stands for (`render_renderTyped`).
-/

namespace FluxQuery

namespace Expr

/-- What an identifier is compared with: a constant, an identifier, or a point in time that is given as a string. -/
inductive IsComparand : Expr → Prop where
  | const (id : NodeId) (value : Literal) : IsComparand (.const id value)
  | ident (id : NodeId) (name : String) : IsComparand (.ident id name)
  | timestamp (id i : NodeId) (value : String) :
      IsComparand (.call id Operator.timestamp.name [.const i (.string value)])

/-- A comparison with an identifier on its left. -/
inductive IsComparison : Expr → Prop where
  | intro (id : NodeId) (c : Comparison) (i : NodeId) (name : String) {rhs : Expr} (h : rhs.IsComparand) :
      IsComparison (.call id (Operator.compare c).name [.ident i name, rhs])

/-- A membership test, whatever its arguments are. -/
inductive IsMembership : Expr → Prop where
  | intro (id : NodeId) (args : List Expr) : IsMembership (.call id Operator.has.name args)

end Expr

namespace Context

variable {ctx : Context}

/-- The text of an expression; empty if it has none. -/
def text (ctx : Context) (e : Expr) : String :=
  match ctx.render e with
  | .ok o => o.text
  | .error _ => ""

theorem Renders.text_eq {e : Expr} {o : Operand} (h : ctx.Renders e o) : ctx.text e = o.text := by
  simp [text, h.render_eq]

/-! ### Identifiers and comparisons -/

/-- A member of an enumeration has the name that was asked for. -/
private theorem member?_name {e : Enumeration} {name : String} {member : EnumMember} (h : e.member? name = some member) :
    member.name = name := by
  unfold Enumeration.member? at h
  have := List.find?_some h
  exact beq_iff_eq.1 this

theorem enumMember?_name {ty : Ty} {name : String} {member : EnumMember} (h : ctx.enumMember? ty name = some member) :
    member.name = screamingCase (snakeCase name) := by
  unfold enumMember? at h
  split at h
  · obtain ⟨e, -, he⟩ := Option.bind_eq_some_iff.1 h
    exact member?_name he
  · cases h

theorem isTime_renderTyped (ctx : Context) (ty : Ty) (name : String) :
    (ctx.renderTyped ty name).isTime = ty.isTimestamp := by
  unfold renderTyped
  split
  · rename_i member hmember
    -- only a message type has members
    unfold enumMember? at hmember
    split at hmember
    · rfl
    · cases hmember
  · split <;> simp_all

/-- An identifier is written in several ways, but in snake case they are all the same. -/
theorem snakeCase_renderTyped (ctx : Context) (ty : Ty) (name : String) :
    snakeCase (ctx.renderTyped ty name).text = snakeCase name := by
  unfold renderTyped
  split
  · rename_i member hmember
    simp [enumMember?_name hmember]
  · split <;> simp

theorem render_renderTyped (ctx : Context) (c : Comparison) (ty : Ty) (name : String) (r : Operand) :
    c.render (ctx.renderTyped ty name) r =
      if ty.isTimestamp then snakeCase name ++ "@" ++ r.text
      else filterStage ("r[\"" ++ snakeCase name ++ "\"] " ++ c.flux ++ " \"" ++ r.text ++ "\"") := by
  simp only [Comparison.render, isTime_renderTyped, snakeCase_renderTyped]

/-- The text of a comparison, written out. -/
theorem render_renderTyped_eq (ctx : Context) (c : Comparison) (ty : Ty) (name : String) (r : Operand) :
    c.render (ctx.renderTyped ty name) r =
      if ty = .timestamp then snakeCase name ++ "@" ++ r.text
      else "|> filter(fn: (r) => r[\"" ++ snakeCase name ++ "\"] " ++ c.flux ++ " \"" ++ r.text ++ "\")" := by
  have hopen : "|> filter(fn: (r) => r[\"" = "|> filter(fn: (r) => " ++ "r[\"" := by decide
  have hclose : "\")" = "\"" ++ ")" := by decide
  rw [render_renderTyped]
  by_cases ht : ty.isTimestamp = true
  · rw [if_pos ht, if_pos (beq_iff_eq.1 ht)]
  · rw [if_neg ht, if_neg fun h => ht (beq_iff_eq.2 h), hopen, hclose]
    unfold filterStage
    simp only [String.append_assoc]

/-! ### Conjunctions -/

/-- With a conjunction, each of its conjuncts has a text. -/
theorem Renders.of_mem_conjuncts {e c : Expr} {o : Operand} (h : ctx.Renders e o) (hc : c ∈ e.conjuncts) :
    ∃ o, ctx.Renders c o := by
  induction e using Expr.conjunction_induction generalizing o with
  | and id lhs rhs ihl ihr =>
    obtain ⟨-, l, r, hl, hr, -⟩ := renders_and_iff.1 h
    rw [Expr.conjuncts_and] at hc
    rcases List.mem_append.1 hc with hc | hc
    · exact ihl hl hc
    · exact ihr hr hc
  | single e he =>
    rw [he, List.mem_singleton] at hc
    rw [hc]
    exact ⟨o, h⟩

/-- The text of a conjunction joins the texts of its conjuncts. -/
theorem Renders.text_conjuncts {e : Expr} {o : Operand} (h : ctx.Renders e o) :
    o.text = "&&".intercalate (e.conjuncts.map ctx.text) := by
  induction e using Expr.conjunction_induction generalizing o with
  | and id lhs rhs ihl ihr =>
    obtain ⟨-, l, r, hl, hr, rfl⟩ := renders_and_iff.1 h
    rw [Expr.conjuncts_and, List.map_append, String.intercalate_append_of_ne_nil (by simp [Expr.conjuncts_ne_nil])
      (by simp [Expr.conjuncts_ne_nil]), ← ihl hl, ← ihr hr]
  | single e he => simp [he, h.text_eq]

end Context

end FluxQuery
