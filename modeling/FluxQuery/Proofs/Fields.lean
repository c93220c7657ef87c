import FluxQuery.Filter.Codec
import FluxQuery.Proofs.Conjunction

/-!
# The field of a comparison

The identifier on the left of a comparison is written in one of three ways before it becomes a field: as the value of an
enumeration that it names, as it stands if it holds points in time, and in snake case otherwise. In a fragment all three
have become its name in snake case, so the field is known without the enumerations, and of the type it only matters
whether the comparison is an anchor.
-/

namespace FluxQuery

namespace Context

variable {ctx : Context}

/-- A comparison with an identifier has a text if both of its sides have, and the text names the field. -/
theorem renders_comparison_iff {c : Comparison} {id i : NodeId} {name : String} {rhs : Expr} {o : Operand} :
    ctx.Renders (.call id c.name [.ident i name, rhs]) o ↔
      id ∈ ctx.types ∧ ∃ ty v, ctx.types[i]? = some ty ∧ ctx.Renders rhs v ∧
        o = { text :=
          if ty = .timestamp then snakeCase name ++ "@" ++ v.text
          else "|> filter(fn: (r) => r[\"" ++ snakeCase name ++ "\"] " ++ c.flux ++ " \"" ++ v.text ++ "\")" } := by
  refine (renders_compare_iff (c := c)).trans (and_congr_right fun _ => ?_)
  constructor
  · rintro ⟨l, v, hl, hv, rfl⟩
    obtain ⟨ty, hty, rfl⟩ := renders_ident_iff.1 hl
    exact ⟨ty, v, hty, hv, by rw [render_renderTyped_eq]⟩
  · rintro ⟨ty, v, hty, hv, rfl⟩
    exact ⟨_, v, .ident hty, hv, by rw [render_renderTyped_eq]⟩

/-- A conjunct stands in the fragment with its own text. -/
theorem Renders.exists_split_of_mem_conjuncts {e c : Expr} {o p : Operand} (h : ctx.Renders e o) (hc : c ∈ e.conjuncts)
    (hp : ctx.Renders c p) :
    ∃ before after, e.conjuncts = before ++ c :: after ∧
      o.text = "&&".intercalate (before.map ctx.text ++ p.text :: after.map ctx.text) := by
  obtain ⟨before, after, hsplit⟩ := List.append_of_mem hc
  refine ⟨before, after, hsplit, ?_⟩
  rw [h.text_conjuncts, hsplit, List.map_append, List.map_cons, hp.text_eq]

/-- The field of a comparison is the name on its left in snake case, whatever the type of the name and the enumerations
are. With a point in time all six comparators give the same anchor. The comparison has this text alone and as a
conjunct, and an enumeration's value that the name stands for is called the same as the name, up to case. -/
theorem render_comparison (ctx : Context) (c : Comparison) {id i : NodeId} {name : String} {ty : Ty} {rhs : Expr}
    {v : Operand} (hid : id ∈ ctx.types) (hty : ctx.types[i]? = some ty) (hv : ctx.render rhs = .ok v) :
    let call := Expr.call id c.name [.ident i name, rhs]
    let fragment :=
      if ty = .timestamp then snakeCase name ++ "@" ++ v.text
      else "|> filter(fn: (r) => r[\"" ++ snakeCase name ++ "\"] " ++ c.flux ++ " \"" ++ v.text ++ "\")"
    ctx.render call = .ok { text := fragment } ∧
    (Filter.mk (some ⟨call, ctx.types⟩)).render ctx.enum? = .ok fragment ∧
    (∀ e whole, (Filter.mk (some ⟨e, ctx.types⟩)).render ctx.enum? = .ok whole → call ∈ e.conjuncts →
      ∃ before after, e.conjuncts = before ++ call :: after ∧
        whole = "&&".intercalate (before.map ctx.text ++ fragment :: after.map ctx.text)) ∧
    ∀ member, ctx.enumMember? ty name = some member → snakeCase member.name = snakeCase name := by
  intro call fragment
  have hcall : ctx.Renders call { text := fragment } :=
    renders_comparison_iff.2 ⟨hid, ty, v, hty, .of_render hv, rfl⟩
  refine ⟨hcall.render_eq, Except.map_eq_ok_iff.2 ⟨_, hcall.render_eq, rfl⟩, fun e whole hwhole hmem => ?_,
    fun member hmember => ?_⟩
  · obtain ⟨o, ho, rfl⟩ := Except.map_eq_ok_iff.1 hwhole
    exact (Renders.of_render ho).exists_split_of_mem_conjuncts hmem hcall
  · rw [enumMember?_name hmember, snakeCase_screamingCase, snakeCase_snakeCase]

/-- A file with one enumeration, under another name than its own, in which a value stands twice. -/
private def lampFile : String :=
  "\x7b\"home.Lamp\": \x7b\"full_name\": \"Light\", \"values\": [\x7b\"name\": \"LIGHT_STATE\", \"number\": 2\x7d, " ++
    "\x7b\"name\": \"LIGHT_STATE\", \"number\": -1\x7d, \x7b\"name\": \"DIMMED\", \"number\": 2\x7d]\x7d\x7d"

private def lampCatalog : Catalog :=
  .ofList [("home.Lamp", Enumeration.mk "Light" [⟨"LIGHT_STATE", 2⟩, ⟨"LIGHT_STATE", -1⟩, ⟨"DIMMED", 2⟩])]

private def lampContext : Context where
  types := .ofList [((1 : NodeId), Ty.message "home.Lamp"), (2, .message "home.Lamp"), (3, .bool)]
  enum? := lampCatalog.find?

/-- A field with the name of one of its own values. -/
theorem render_comparison_lamp :
    Json.decode? Catalog.ofJson? lampFile = some lampCatalog ∧ 3 ∈ lampContext.types ∧
    lampContext.types[(1 : NodeId)]? = some (.message "home.Lamp") ∧
    lampContext.render (.ident 2 "dimmed") = .ok { text := "DIMMED" } ∧
    lampContext.enumMember? (.message "home.Lamp") "LightState" = some ⟨"LIGHT_STATE", 2⟩ ∧
    (Filter.mk (some ⟨.call 3 "!=" [.ident 1 "LightState", .ident 2 "dimmed"], lampContext.types⟩)).render
      lampContext.enum? = .ok "|> filter(fn: (r) => r[\"light_state\"] != \"DIMMED\")" := by
  have hid : 3 ∈ lampContext.types := by decide +kernel
  have hty : lampContext.types[(1 : NodeId)]? = some (.message "home.Lamp") := by decide +kernel
  have hv : lampContext.render (.ident 2 "dimmed") = .ok { text := "DIMMED" } := by decide +kernel
  obtain ⟨-, hfragment, -⟩ := @render_comparison lampContext .ne 3 1 "LightState" _ _ _ hid hty hv
  exact ⟨by decide +kernel, hid, hty, hv, by decide +kernel, hfragment.trans (by decide +kernel)⟩

end Context

end FluxQuery
