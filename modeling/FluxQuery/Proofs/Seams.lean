import FluxQuery.Proofs.Range

/-!
# The range of two sides

A fragment is cut wherever two ampersands meet, so those in the values on both sides of an `AND` could move the cut
between them. They do not if the left side ends with another character, as every stage does. The range of the whole is
then that of the right side, with the bounds of the left side as its defaults (`split_append`).
-/

namespace FluxQuery

namespace TimeRange

theorem split_append {a : String} (h : a.toList.getLast? ≠ some '&') (b start stop : String) :
    split (a ++ "&&" ++ b) start stop =
      let left := split a start stop
      let right := split b left.start left.stop
      ⟨right.start, right.stop, left.filters ++ right.filters⟩ := by
  have hseam : (a ++ "&&" ++ b).toList = a.toList ++ '&' :: '&' :: b.toList := by simp
  have hpieces : pieces (a ++ "&&" ++ b).toList = pieces a.toList ++ pieces b.toList := by
    rw [hseam]
    exact pieces_append h b.toList
  -- the left side is taken into the range first, and the right side goes on from there
  have hfold : split (a ++ "&&" ++ b) start stop = (pieces b.toList).foldl add (split a start stop) := by
    rw [split, hpieces, List.foldl_append]
    rfl
  rw [hfold, foldl_add]
  simp only [split_eq b]

end TimeRange

namespace Context

variable {ctx : Context}

/-- A conjunction ends with the text of its last conjunct. -/
theorem Renders.exists_text_eq_append {e c : Expr} {o : Operand} (h : ctx.Renders e o)
    (hc : e.conjuncts.getLast? = some c) : ∃ before, o.text = before ++ ctx.text c := by
  induction e using Expr.conjunction_induction generalizing o with
  | and id lhs rhs ihl ihr =>
    obtain ⟨-, l, r, -, hr, rfl⟩ := renders_and_iff.1 h
    rw [Expr.conjuncts_and, List.getLast?_append_of_ne_nil _ (Expr.conjuncts_ne_nil rhs)] at hc
    obtain ⟨before, hbefore⟩ := ihr hr hc
    refine ⟨l.text ++ "&&" ++ before, ?_⟩
    simp only [hbefore, String.append_assoc]
  | single e he =>
    rw [he] at hc
    have hself : e = c := Option.some.inj hc
    exact ⟨"", by rw [← hself, h.text_eq, String.empty_append]⟩

theorem getLast?_filterStage (before condition : String) :
    (before ++ filterStage condition).toList.getLast? = some ')' := by
  unfold filterStage
  rw [← String.append_assoc, String.toList_append]
  exact List.getLast?_append_of_ne_nil _ (by decide)

/-- Where the last conjunct is a stage, no ampersand is at the end. -/
theorem Renders.getLast?_text {e c : Expr} {o : Operand} {condition : String} (h : ctx.Renders e o)
    (hc : e.conjuncts.getLast? = some c) (hstage : ctx.text c = filterStage condition) :
    o.text.toList.getLast? ≠ some '&' := by
  obtain ⟨before, hbefore⟩ := h.exists_text_eq_append hc
  rw [hbefore, hstage, getLast?_filterStage]
  decide

end Context

/-- The range of an `AND`, for two sides that have a fragment. If that of the left side does not end with an ampersand,
which it never does if its last conjunct is a stage, then the range is found side by side: first the left side and then
the right side, whose anchors override those of the left side, with the stages of both in order. -/
theorem TimeRange.split_sides {ctx : Context} {lhs rhs : Expr} {a b : String} {id : NodeId}
    (hl : (Filter.mk (some ⟨lhs, ctx.types⟩)).render ctx.enum? = .ok a)
    (hr : (Filter.mk (some ⟨rhs, ctx.types⟩)).render ctx.enum? = .ok b) (hid : id ∈ ctx.types) :
    ∃ fragment,
      (Filter.mk (some ⟨.call id Operator.and.name [lhs, rhs], ctx.types⟩)).render ctx.enum? = .ok fragment ∧
      ((∃ c condition, lhs.conjuncts.getLast? = some c ∧ ctx.text c = filterStage condition) →
        a.toList.getLast? ≠ some '&') ∧
      (a.toList.getLast? ≠ some '&' → ∀ start stop,
        let left := split a start stop
        let right := split b left.start left.stop
        split fragment start stop = ⟨right.start, right.stop, left.filters ++ right.filters⟩) := by
  obtain ⟨l, hlhs, rfl⟩ := Except.map_eq_ok_iff.1 hl
  obtain ⟨r, hrhs, rfl⟩ := Except.map_eq_ok_iff.1 hr
  have hleft : ctx.Renders lhs l := .of_render hlhs
  have hboth : ctx.Renders (.call id Operator.and.name [lhs, rhs]) _ := .and hid hleft (.of_render hrhs)
  refine ⟨_, Except.map_eq_ok_iff.2 ⟨_, hboth.render_eq, rfl⟩, ?_, fun hlast => split_append hlast r.text⟩
  rintro ⟨c, condition, hc, hstage⟩
  exact hleft.getLast?_text hc hstage

/-- An ampersand at the end would be taken for one of the separator, and the anchor behind it would not be found. -/
example : TimeRange.split ("x&" ++ "&&" ++ "start@y") "" "" = ⟨"", "", "x&start@y"⟩ := by decide +kernel

/-- A note with an anchor and a run of three ampersands in it. -/
private def noted : Expr := .call 3 "=" [.ident 1 "note", .const 2 (.string "a&&start@x&&&b")]

/-- A range whose stop begins with a separator. -/
private def bounded : Expr :=
  .call 10 "AND"
    [.call 6 ">" [.ident 4 "start", .const 5 (.string "y")], .call 9 "<" [.ident 7 "stop", .const 8 (.string "&&t")]]

private def notedTypes : TypeTable :=
  Std.ExtTreeMap.ofList
    [((1 : NodeId), Ty.string), (3, .bool), (4, .timestamp), (6, .bool), (7, .timestamp), (9, .bool), (10, .bool),
      (11, .bool)]

theorem TimeRange.split_sides_noted :
    (Filter.mk (some ⟨noted, notedTypes⟩)).render (fun _ => none) =
      .ok "|> filter(fn: (r) => r[\"note\"] == \"a&&start@x&&&b\")" ∧
    (Filter.mk (some ⟨bounded, notedTypes⟩)).render (fun _ => none) = .ok "start@y&&stop@&&t" ∧
    (11 : NodeId) ∈ notedTypes ∧
    ∃ fragment, (Filter.mk (some ⟨.call 11 "AND" [noted, bounded], notedTypes⟩)).render (fun _ => none) = .ok fragment ∧
      split "|> filter(fn: (r) => r[\"note\"] == \"a&&start@x&&&b\")" "s" "t" =
        ⟨"x", "t", "|> filter(fn: (r) => r[\"note\"] == \"a&b\")"⟩ ∧
      split "start@y&&stop@&&t" "x" "t" = ⟨"y", "", "t"⟩ ∧
      split fragment "s" "t" = ⟨"y", "", "|> filter(fn: (r) => r[\"note\"] == \"a&b\")t"⟩ := by
  have hl : (Filter.mk (some ⟨noted, notedTypes⟩)).render (fun _ => none) =
    .ok "|> filter(fn: (r) => r[\"note\"] == \"a&&start@x&&&b\")" := by decide +kernel
  have hr : (Filter.mk (some ⟨bounded, notedTypes⟩)).render (fun _ => none) = .ok "start@y&&stop@&&t" := by
    decide +kernel
  have hid : (11 : NodeId) ∈ notedTypes := by decide +kernel
  obtain ⟨fragment, hfragment, hstage, hsplit⟩ := @split_sides ⟨notedTypes, fun _ => none⟩ _ _ _ _ _ hl hr hid
  have hlast := hstage ⟨noted, "r[\"note\"] == \"a&&start@x&&&b\"", rfl, by decide +kernel⟩
  exact ⟨hl, hr, hid, fragment, hfragment, by decide +kernel, by decide +kernel,
    (hsplit hlast "s" "t").trans (by decide +kernel)⟩

end FluxQuery
