import FluxQuery.Filter.Scope
import FluxQuery.Proofs.Basic

/-!
# Unambiguous values of enumerations

A scope is unambiguous if no name is a value of two enumerations in use. A declaration of an identifier of an
enumeration keeps it so, refused or not, as it compares the enumeration with all those in use. A plain declaration of an
identifier compares nothing. It is safe unless it brings an enumeration into use that clashes with another one
(`unambiguous_declare_iff`), and ambiguity, once there, stays. An enumeration can be registered and not in use only
after a refusal: it was added, and then the name of its identifier was taken.
-/

namespace FluxQuery

theorem Enumeration.names_iff {e : Enumeration} {v : String} : e.names v ↔ ∃ m ∈ e.members, m.name = v := by
  simp [names, member?]

namespace Scope

variable {s s' : Scope}

/-- The enumeration `e` is registered as `n`, and an identifier is of that type. -/
def Uses (s : Scope) (n : String) (e : Enumeration) : Prop :=
  s.enums.find? n = some e ∧ ∃ x : String, s.idents[x]? = some (.message n)

/-- No value name belongs to two enumerations in use. -/
def Unambiguous (s : Scope) : Prop :=
  ∀ n₁ e₁ n₂ e₂ v, s.Uses n₁ e₁ → s.Uses n₂ e₂ → e₁.names v → e₂.names v → n₁ = n₂

/-- No other enumeration in use has a value name of `e`, which is to be known as `n`. -/
def Apart (s : Scope) (n : String) (e : Enumeration) : Prop :=
  ∀ n' e' v, s.Uses n' e' → e.names v → e'.names v → n' = n

/-- A declaration that brings a registered enumeration into use beside one that it shares a value name with. -/
def Clashes (s : Scope) : Declaration → Prop
  | .ident name ty => name ∉ s.idents ∧ ∃ n e, ty = .message n ∧ s.enums.find? n = some e ∧ ¬ s.Apart n e
  | .enumIdent _ _ => False

/-! ### Enumerations in use -/

/-- With fewer enumerations in use a scope stays unambiguous. -/
private theorem Unambiguous.anti (hs : s'.Unambiguous) (h : ∀ n e, s.Uses n e → s'.Uses n e) : s.Unambiguous :=
  fun n₁ e₁ n₂ e₂ v h₁ h₂ => hs n₁ e₁ n₂ e₂ v (h n₁ e₁ h₁) (h n₂ e₂ h₂)

/-- And so it does with one more, if that is apart from all others. -/
private theorem Unambiguous.add {n : String} {e : Enumeration} (hs : s.Unambiguous) (ha : s.Apart n e)
    (h : ∀ n' e', s'.Uses n' e' → s.Uses n' e' ∨ n' = n ∧ e' = e) : s'.Unambiguous := by
  intro n₁ e₁ n₂ e₂ v h₁ h₂ hv₁ hv₂
  rcases h n₁ e₁ h₁ with h₁ | ⟨rfl, rfl⟩ <;> rcases h n₂ e₂ h₂ with h₂ | ⟨rfl, rfl⟩
  · exact hs n₁ e₁ n₂ e₂ v h₁ h₂ hv₁ hv₂
  · exact ha n₁ e₁ v h₁ hv₂ hv₁
  · exact (ha n₂ e₂ v h₂ hv₁ hv₂).symm
  · rfl

private theorem uses_declare_iff {name n : String} {ty : Ty} {e : Enumeration} :
    (s.declare name ty).scope.Uses n e ↔
      s.Uses n e ∨ name ∉ s.idents ∧ ty = .message n ∧ s.enums.find? n = some e := by
  unfold declare
  split
  · rename_i hname
    exact (or_iff_left fun h => h.1 hname).symm
  · rename_i hname
    have hname : name ∉ s.idents := hname
    simp only [Uses, Std.ExtTreeMap.getElem?_insert_eq_some_iff (Std.ExtTreeMap.getElem?_eq_none hname)]
    constructor
    · rintro ⟨he, x, hx | ⟨rfl, hty⟩⟩
      · exact .inl ⟨he, x, hx⟩
      · exact .inr ⟨hname, hty.symm, he⟩
    · rintro (⟨he, x, hx⟩ | ⟨-, rfl, he⟩)
      · exact ⟨he, x, .inl hx⟩
      · exact ⟨he, name, .inr ⟨rfl, rfl⟩⟩

theorem find?_add? {catalog catalog' : Catalog} {e e' : Enumeration} {n : String}
    (h : catalog.add? e = some catalog') :
    catalog'.find? n = some e' ↔ catalog.find? n = some e' ∨ n = e.fullName ∧ e' = e := by
  unfold Catalog.add? at h
  split at h
  · rename_i hnone
    obtain rfl := Option.some.inj h
    exact Std.ExtTreeMap.getElem?_insert_eq_some_iff hnone
  · rename_i known hknown
    split at h
    · rename_i heq
      obtain rfl := Option.some.inj h
      subst heq
      constructor
      · exact .inl
      · rintro (h | ⟨rfl, rfl⟩)
        · exact h
        · exact hknown
    · cases h

/-! ### The search for shared values -/

private theorem values_eq {β : Type} (t : Std.ExtTreeMap String β) : t.values = t.toList.map (·.2) := by
  obtain ⟨⟨q⟩⟩ := t
  induction q using Quotient.ind with
  | _ m =>
    change m.inner.values = (Std.DTreeMap.Internal.Impl.Const.toList m.inner).map _
    rw [Std.DTreeMap.Internal.Impl.values_eq_map_snd, Std.DTreeMap.Internal.Impl.Const.toList_eq_toListModel_map,
      List.map_map]
    rfl

theorem mem_values_iff {β : Type} {t : Std.ExtTreeMap String β} {v : β} :
    v ∈ t.values ↔ ∃ k : String, t[k]? = some v := by
  simp [values_eq, Std.ExtTreeMap.mem_toList_iff_getElem?_eq_some]

private theorem Uses.mem_enumsInUse {n : String} {e : Enumeration} (h : s.Uses n e) : (n, e) ∈ s.enumsInUse := by
  obtain ⟨he, x, hx⟩ := h
  refine List.mem_filter.2 ⟨Std.ExtTreeMap.mem_toList_iff_getElem?_eq_some.2 he, List.any_eq_true.2 ?_⟩
  exact ⟨_, mem_values_iff.2 ⟨x, hx⟩, beq_self_eq_true n⟩

/-- An enumeration in which no value is found shared is apart from all others in use. -/
private theorem apart_of_sharedValue? {e : Enumeration} (h : s.sharedValue? e = none) : s.Apart e.fullName e := by
  intro n' e' v hu hv hv'
  obtain ⟨m, hm, rfl⟩ := Enumeration.names_iff.1 hv
  have hnone := List.findSome?_eq_none_iff.1 h m hm
  rw [Option.map_eq_none_iff, List.find?_eq_none] at hnone
  refine Decidable.byContradiction fun hne => hnone (n', e') (List.mem_filter.2 ⟨hu.mem_enumsInUse, ?_⟩) hv'
  exact bne_iff_ne.2 hne

/-! ### One declaration -/

private theorem unambiguous_ident_iff (s : Scope) (name : String) (ty : Ty) :
    (s.declare name ty).scope.Unambiguous ↔ s.Unambiguous ∧ ¬ s.Clashes (.ident name ty) := by
  constructor
  · intro h
    have hold : ∀ n e, s.Uses n e → (s.declare name ty).scope.Uses n e := fun n e hu => uses_declare_iff.2 (.inl hu)
    refine ⟨h.anti hold, ?_⟩
    rintro ⟨hname, n, e, rfl, he, hapart⟩
    have hnew := uses_declare_iff.2 (.inr ⟨hname, rfl, he⟩)
    exact hapart fun n' e' v hu hv hv' => h n' e' n e v (hold n' e' hu) hnew hv' hv
  · rintro ⟨hs, hclash⟩
    by_cases hnew : ∃ n e, name ∉ s.idents ∧ ty = .message n ∧ s.enums.find? n = some e
    · obtain ⟨n, e, hname, rfl, he⟩ := hnew
      have hapart : s.Apart n e := Classical.byContradiction fun h => hclash ⟨hname, n, e, rfl, he, h⟩
      refine hs.add hapart fun n' e' hu => (uses_declare_iff.1 hu).imp_right ?_
      rintro ⟨-, hty, he'⟩
      cases hty
      exact ⟨rfl, Option.some.inj (he'.symm.trans he)⟩
    · -- an identifier of any other type brings nothing into use
      exact hs.anti fun n e hu => (uses_declare_iff.1 hu).resolve_right fun h => hnew ⟨n, e, h⟩

/-- The enumeration is refused, or it is added and its identifier is declared like any other. -/
private theorem declareEnum_cases (s : Scope) (name : String) (e : Enumeration) :
    (s.declareEnum name e).scope = s ∨
      ∃ enums, s.Apart e.fullName e ∧ s.enums.add? e = some enums ∧
        s.declareEnum name e = { s with enums }.declare name (.message e.fullName) := by
  unfold declareEnum
  split
  · exact .inl rfl
  · rename_i hshared
    split
    · exact .inl rfl
    · rename_i enums hadd
      exact .inr ⟨enums, apart_of_sharedValue? hshared, hadd, rfl⟩

private theorem unambiguous_declareEnum_iff (s : Scope) (name : String) (e : Enumeration) :
    (s.declareEnum name e).scope.Unambiguous ↔ s.Unambiguous := by
  rcases s.declareEnum_cases name e with h | ⟨enums, hapart, hadd, h⟩ <;> rw [h]
  constructor
  · refine fun hs => hs.anti fun n e' ⟨he', x, hx⟩ => uses_declare_iff.2 (.inl ⟨?_, x, hx⟩)
    exact (find?_add? hadd).2 (.inl he')
  · -- only the enumeration itself can have come into use, whether or not its identifier is refused
    refine fun hs => hs.add hapart fun n e' hu => ?_
    rcases uses_declare_iff.1 hu with ⟨he', x, hx⟩ | ⟨-, hty, he'⟩
    · exact ((find?_add? hadd).1 he').imp_left fun he' => ⟨he', x, hx⟩
    · cases hty
      have he : Catalog.find? enums e.fullName = some e := (find?_add? hadd).2 (.inr ⟨rfl, rfl⟩)
      exact .inr ⟨rfl, Option.some.inj (he'.symm.trans he)⟩

/-- Only a plain declaration of an identifier can make a scope ambiguous, and no declaration mends one that is. -/
theorem unambiguous_declare_iff (s : Scope) (d : Declaration) :
    (d.declare s).scope.Unambiguous ↔ s.Unambiguous ∧ ¬ s.Clashes d := by
  cases d with
  | ident name ty => exact s.unambiguous_ident_iff name ty
  | enumIdent name e =>
    rw [Declaration.declare, unambiguous_declareEnum_iff]
    exact (and_iff_left id).symm

/-! ### All declarations -/

/-- A run ends in an unambiguous scope if it starts in one and none of its declarations clashes with what was declared
before it. -/
private theorem unambiguous_declareAll_iff (s : Scope) (ds : List Declaration) :
    (s.declareAll ds).Unambiguous ↔
      s.Unambiguous ∧ ∀ before d after, ds = before ++ d :: after → ¬ (s.declareAll before).Clashes d := by
  induction ds generalizing s with
  | nil => simp [declareAll]
  | cons d ds ih =>
    change ((d.declare s).scope.declareAll ds).Unambiguous ↔ _
    rw [ih, unambiguous_declare_iff]
    constructor
    · rintro ⟨⟨hs, hd⟩, h⟩
      refine ⟨hs, fun before d' after heq => ?_⟩
      cases before with
      | nil =>
        cases heq
        exact hd
      | cons _ before =>
        cases heq
        exact h before d' after rfl
    · rintro ⟨hs, h⟩
      refine ⟨⟨hs, h [] d ds rfl⟩, fun before d' after heq => h (d :: before) d' after ?_⟩
      rw [heq, List.cons_append]

/-- Every registered enumeration is in use. -/
private def AllInUse (s : Scope) : Prop := ∀ n e, s.enums.find? n = some e → s.Uses n e

private theorem AllInUse.not_clashes (h : s.AllInUse) (hs : s.Unambiguous) (d : Declaration) : ¬ s.Clashes d := by
  cases d with
  | ident name ty =>
    rintro ⟨-, n, e, -, he, hapart⟩
    exact hapart fun n' e' v hu hv hv' => hs n' e' n e v hu (h n e he) hv' hv
  | enumIdent name e => exact id

private theorem declare_enums (s : Scope) (name : String) (ty : Ty) : (s.declare name ty).scope.enums = s.enums := by
  unfold declare
  split <;> rfl

private theorem refusal_declare {name : String} (h : name ∈ s.idents) (ty : Ty) :
    (s.declare name ty).refusal = some (.duplicateIdent name) := by
  have hname : s.idents.contains name = true := h
  rw [declare, if_pos hname]

/-- An enumeration is added together with an identifier of its type, unless the identifier is refused. -/
private theorem AllInUse.declare {d : Declaration} (h : s.AllInUse)
    (hd : ∀ name e, d = .enumIdent name e → (s.declareEnum name e).refusal ≠ some (.duplicateIdent name)) :
    (d.declare s).scope.AllInUse := by
  cases d with
  | ident name ty =>
    intro n e he
    rw [Declaration.declare, declare_enums] at he
    exact uses_declare_iff.2 (.inl (h n e he))
  | enumIdent name e =>
    have hd := hd name e rfl
    rw [Declaration.declare]
    rcases s.declareEnum_cases name e with heq | ⟨enums, -, hadd, heq⟩ <;> rw [heq]
    · exact h
    · rw [heq] at hd
      have hname : name ∉ s.idents := fun hmem => hd (@refusal_declare { s with enums } name hmem _)
      intro n e' he'
      rw [declare_enums] at he'
      rcases (find?_add? hadd).1 he' with hold | ⟨rfl, rfl⟩
      · obtain ⟨-, x, hx⟩ := h n e' hold
        exact uses_declare_iff.2 (.inl ⟨he', x, hx⟩)
      · exact uses_declare_iff.2 (.inr ⟨hname, rfl, he'⟩)

private theorem AllInUse.unambiguous_declareAll {ds : List Declaration} (h : s.AllInUse) (hs : s.Unambiguous)
    (hds : ∀ before name e after, ds = before ++ .enumIdent name e :: after →
      ((s.declareAll before).declareEnum name e).refusal ≠ some (.duplicateIdent name)) :
    (s.declareAll ds).Unambiguous := by
  induction ds generalizing s with
  | nil => exact hs
  | cons d ds ih =>
    have hstep : (d.declare s).scope.AllInUse := by
      refine h.declare fun name e hd => hds [] name e ds ?_
      rw [hd, List.nil_append]
    refine ih hstep ((unambiguous_declare_iff s d).2 ⟨hs, h.not_clashes hs d⟩) ?_
    intro before name e after heq
    exact hds (d :: before) name e after (by rw [heq, List.cons_append])

/-- From the empty scope on, values stay unambiguous exactly as long as no plain declaration brings an enumeration into
use that clashes with another one. That cannot happen where no enumeration is left behind by an identifier that was
refused. -/
theorem unambiguous_iff_forall_not_clashes (ds : List Declaration) :
    ((declareAll {} ds).Unambiguous ↔
      ∀ before d after, ds = before ++ d :: after → ¬ (declareAll {} before).Clashes d) ∧
    ((∀ before name e after, ds = before ++ .enumIdent name e :: after →
        ((declareAll {} before).declareEnum name e).refusal ≠ some (.duplicateIdent name)) →
      (declareAll {} ds).Unambiguous) := by
  have hnone : ∀ n e, ¬ ({} : Scope).enums.find? n = some e := by simp [Catalog.find?]
  have hempty : ({} : Scope).Unambiguous := fun n₁ e₁ _ _ _ h₁ => absurd h₁.1 (hnone n₁ e₁)
  constructor
  · rw [unambiguous_declareAll_iff]
    exact and_iff_right hempty
  · exact AllInUse.unambiguous_declareAll (fun n e he => absurd he (hnone n e)) hempty

/-- The first `OPEN` is registered although its identifier is refused, so that the second one is not compared with it,
and the last declaration makes both of them values. -/
theorem ambiguous_after_refusal :
    ¬ (declareAll {}
      [.ident "state" .string, .enumIdent "state" (.ofNames "home.Door" ["OPEN"]),
        .enumIdent "window" (.ofNames "home.Window" ["OPEN"]), .ident "door" (.message "home.Door")]).Unambiguous := by
  intro h
  have hdoor := h "home.Door" (.ofNames "home.Door" ["OPEN"]) "home.Window" (.ofNames "home.Window" ["OPEN"]) "OPEN"
  refine absurd (hdoor ⟨?_, "door", ?_⟩ ⟨?_, "window", ?_⟩ ?_ ?_) (by decide) <;> decide +kernel

end Scope

end FluxQuery
