import FluxQuery.Filter.Draft
import FluxQuery.Proofs.Compatibility
import FluxQuery.Proofs.Conjunction

/-!
# Values of enumerations in a fragment

A scope knows the values of its enumerations by their exact names, but a fragment looks for a value under its name in
screaming case, and writes the name in snake case if there is none. The two agree on names that are in screaming case
already. Of all others only a name in snake case may come out as it is (`Enumeration.written_eq_self_iff`).
-/

namespace FluxQuery

namespace Enumeration

/-- A name of the enumeration's type as a fragment has it. -/
def written (e : Enumeration) (name : String) : String :=
  if e.names (screamingCase name) then screamingCase name else snakeCase name

theorem written_eq_self_iff {e : Enumeration} {v : String} (hv : e.names v) :
    e.written v = v ↔ screamingCase v = v ∨ snakeCase v = v ∧ ¬ e.names (screamingCase v) := by
  unfold written
  split
  · rename_i hnames
    simp [hnames]
  · rename_i hnames
    have hne : screamingCase v ≠ v := by
      intro heq
      rw [heq] at hnames
      exact hnames hv
    simp [hne, hnames]

end Enumeration

theorem Context.renderTyped_message {ctx : Context} {n : String} {e : Enumeration} (he : ctx.enum? n = some e)
    (name : String) : ctx.renderTyped (.message n) name = { text := e.written name } := by
  have hmember : ctx.enumMember? (.message n) name = e.member? (screamingCase name) := by
    simp [enumMember?, he]
  unfold renderTyped Enumeration.written Enumeration.names
  cases hm : e.member? (screamingCase name) with
  | none =>
    rw [hmember, hm]
    rfl
  | some member =>
    have hname : member.name = screamingCase name := by
      have := enumMember?_name (hmember.trans hm)
      rwa [screamingCase_snakeCase] at this
    rw [hmember, hm]
    simp [hname]

namespace Scope

variable {s : Scope}

/-- The filter that compares two names for equality, drafted over the scope. -/
def equation? (s : Scope) (lhs rhs : String) : Option Filter :=
  (Bench.run? { draft := { scope := s } } [.ident lhs, .ident rhs, .call (Operator.compare .eq).name 2]).map
    Bench.filter

private def equationTypes (l r : Ty) : TypeTable := ((Std.ExtTreeMap.insert ∅ 1 l).insert 2 r).insert 3 .bool

private theorem equation?_eq {lhs rhs : String} {l r : Ty} (hl : s.typeOf? lhs = some l) (hr : s.typeOf? rhs = some r) :
    s.equation? lhs rhs =
      some ⟨some ⟨.call 3 (Operator.compare .eq).name [.ident 1 lhs, .ident 2 rhs], equationTypes l r⟩⟩ := by
  simp [equation?, Bench.run?, Bench.step?, Bench.push, Bench.take?, Bench.filter, Draft.ident, Draft.call, Draft.fresh,
    Draft.filter, equationTypes, hl, hr]

private theorem equationTypes_spec (l r : Ty) :
    (equationTypes l r)[(1 : NodeId)]? = some l ∧ (equationTypes l r)[(2 : NodeId)]? = some r ∧
      (3 : NodeId) ∈ equationTypes l r := by
  simp [equationTypes, Std.ExtTreeMap.getElem_insert, Std.LawfulEqCmp.compare_eq_iff_eq]

end Scope

/-- The stage that compares a field with a value for equality. -/
def equalityStage (field value : String) : String := filterStage ("r[\"" ++ field ++ "\"] == \"" ++ value ++ "\"")

private theorem equalityStage_inj {field value value' : String} :
    equalityStage field value = equalityStage field value' ↔ value = value' := by
  unfold equalityStage filterStage
  rw [String.append_left_inj, String.append_right_inj, String.append_left_inj, String.append_right_inj]

private theorem equalityStage_eq (field value : String) :
    equalityStage field value =
      filterStage ("r[\"" ++ field ++ "\"] " ++ Comparison.eq.flux ++ " \"" ++ value ++ "\"") := by
  have hflux : "\"] == \"" = "\"] " ++ Comparison.eq.flux ++ " \"" := by decide
  rw [equalityStage, hflux, ← String.append_assoc, ← String.append_assoc]

/-- The fragment of an equation whose left side holds values of an enumeration. -/
theorem Context.Renders.equation {ctx : Context} {id i j : NodeId} {f v n n' : String} {e : Enumeration}
    (hid : id ∈ ctx.types) (hi : ctx.types[i]? = some (.message n')) (hj : ctx.types[j]? = some (.message n))
    (he : ctx.enum? n = some e) :
    ctx.Renders (.call id (Operator.compare .eq).name [.ident i f, .ident j v])
      { text := equalityStage (snakeCase f) (e.written v) } := by
  have hl : ctx.Renders (.ident i f) _ := .ident hi
  have hr : ctx.Renders (.ident j v) _ := .ident hj
  have h := Renders.compare (c := .eq) hid hl hr
  rwa [render_renderTyped, renderTyped_message he, if_neg (by simp [Ty.isTimestamp, Ty.timestamp]),
    ← equalityStage_eq] at h

namespace Scope

/-- A value of an enumeration, named in a drafted equation over accepted declarations, comes out as itself exactly if
its name is in screaming case, or in snake case with no other value of that name in screaming case. -/
theorem equation_names_value_iff {ds : List Declaration} (hs : ofDeclarations ds = .ok s) {f v n : String}
    {e : Enumeration} (hf : s.idents[f]? = some (.message n)) (he : s.enums.find? n = some e) (hv : e.names v)
    (hfree : v ∉ s.idents) :
    ∃ filter, s.equation? f v = some filter ∧
      filter.render s.enums.find? = .ok (equalityStage (snakeCase f) (e.written v)) ∧
      (filter.render s.enums.find? = .ok (equalityStage (snakeCase f) v) ↔
        screamingCase v = v ∨ snakeCase v = v ∧ ¬ e.names (screamingCase v)) := by
  have hholds : s.Holds ds := holds_of_ofDeclarations hs
  have hds : Declaration.Compatible ds := (exists_ofDeclarations_iff ds).1 ⟨s, hs⟩
  have htf : s.typeOf? f = some (.message n) := by
    rw [typeOf?, hf]
    rfl
  have htv : s.typeOf? v = some (.message n) := by
    obtain ⟨hmem, rfl⟩ := (hholds.enums n e).1 he
    exact hholds.typeOf?_value hds (mt hholds.mem_idents_iff.2 hfree) hmem hv
  obtain ⟨hi, hj, hid⟩ := equationTypes_spec (.message n) (.message n)
  let ctx : Context := ⟨equationTypes (.message n) (.message n), s.enums.find?⟩
  have hrender : ctx.render (.call 3 (Operator.compare .eq).name [.ident 1 f, .ident 2 v]) = .ok _ :=
    (Context.Renders.equation hid hi hj he).render_eq
  have hfragment : (Filter.mk (some ⟨_, ctx.types⟩)).render ctx.enum? =
      .ok (equalityStage (snakeCase f) (e.written v)) := Except.map_eq_ok_iff.2 ⟨_, hrender, rfl⟩
  refine ⟨_, equation?_eq htf htv, hfragment, ?_⟩
  rw [hfragment, Except.ok.injEq, equalityStage_inj, Enumeration.written_eq_self_iff hv]

private def digest : Enumeration := .ofNames "files.Digest" ["NONE", "SHA256"]

private def files : Scope :=
  ⟨.ofList [("digest", Ty.message "files.Digest")], .ofList [("files.Digest", digest)]⟩

theorem equation_names_value_digest :
    ofDeclarations [.enumIdent "digest" digest] = .ok files ∧
    ∃ filter, files.equation? "digest" "NONE" = some filter ∧
      filter.render files.enums.find? = .ok "|> filter(fn: (r) => r[\"digest\"] == \"NONE\")" := by
  have hs : ofDeclarations [.enumIdent "digest" digest] = .ok files := by decide +kernel
  have hf : files.idents["digest"]? = some (.message "files.Digest") := by decide +kernel
  have he : files.enums.find? "files.Digest" = some digest := by decide +kernel
  obtain ⟨filter, hfilter, -, hiff⟩ := equation_names_value_iff (v := "NONE") hs hf he (by decide) (by decide +kernel)
  refine ⟨hs, filter, hfilter, (hiff.2 (.inl (by decide))).trans ?_⟩
  decide

/-- A value that has a digit beside a letter in its name comes out under another name. -/
theorem value_with_digits_written_otherwise :
    ofDeclarations [.enumIdent "digest" digest] = .ok files ∧ files.idents["digest"]? = some (.message "files.Digest") ∧
    files.enums.find? "files.Digest" = some digest ∧ digest.names "SHA256" ∧ "SHA256" ∉ files.idents ∧
    (files.equation? "digest" "SHA256").map (·.render files.enums.find?) =
      some (.ok "|> filter(fn: (r) => r[\"digest\"] == \"sha_256\")") := by
  decide +kernel

end Scope

end FluxQuery
