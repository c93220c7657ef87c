import FluxQuery.Proofs.Unambiguity

/-!
# Declarations in any order

Whether a list of declarations can be made does not depend on its order: the names must be distinct, and any two of its
enumerations must be the same one or have neither their full name nor a value in common (`Compatible`). A declaration
looks only at the enumerations in use. The invariant that makes this enough is `Scope.Holds`: as long as nothing is
refused, a scope holds the declarations made so far and nothing else, so that every registered enumeration is in use.
-/

namespace FluxQuery

/-- Two enumerations that one scope can hold. -/
def Enumeration.Coexists (a b : Enumeration) : Prop :=
  (a.fullName = b.fullName → a = b) ∧ (a.fullName ≠ b.fullName → ∀ v, ¬ (a.names v ∧ b.names v))

theorem Enumeration.Coexists.symm {a b : Enumeration} (h : a.Coexists b) : b.Coexists a :=
  ⟨fun heq => (h.1 heq.symm).symm, fun hne v hv => h.2 (Ne.symm hne) v hv.symm⟩

theorem Enumeration.coexists_self (a : Enumeration) : a.Coexists a :=
  ⟨fun _ => rfl, fun hne => absurd rfl hne⟩

namespace Declaration

variable {d : Declaration} {ds ds' : List Declaration}

/-- The identifier that is declared. -/
def name : Declaration → String
  | ident name _ => name
  | enumIdent name _ => name

/-- The type of the identifier. -/
def ty : Declaration → Ty
  | ident _ ty => ty
  | enumIdent _ e => .message e.fullName

def enum? : Declaration → Option Enumeration
  | ident _ _ => none
  | enumIdent _ e => some e

/-- The enumerations among the declarations. -/
def enums (ds : List Declaration) : List Enumeration := ds.filterMap enum?

/-- Declarations that can be made together. -/
structure Compatible (ds : List Declaration) : Prop where
  distinct : (ds.map name).Nodup
  coexist : ∀ a ∈ enums ds, ∀ b ∈ enums ds, a.Coexists b

theorem mem_enums_cons {e : Enumeration} : e ∈ enums (d :: ds) ↔ d.enum? = some e ∨ e ∈ enums ds := by
  simp only [enums, List.mem_filterMap, List.mem_cons]
  constructor
  · rintro ⟨d', rfl | hd', he⟩
    · exact .inl he
    · exact .inr ⟨d', hd', he⟩
  · rintro (he | ⟨d', hd', he⟩)
    · exact ⟨d, .inl rfl, he⟩
    · exact ⟨d', .inr hd', he⟩

/-- An enumeration comes with an identifier of its type. -/
theorem exists_of_mem_enums {e : Enumeration} (h : e ∈ enums ds) : ∃ d ∈ ds, d.ty = .message e.fullName := by
  obtain ⟨d, hd, he⟩ := List.mem_filterMap.1 h
  cases d with
  | ident name ty => cases he
  | enumIdent name e' =>
    cases he
    exact ⟨_, hd, rfl⟩

namespace Compatible

theorem nil : Compatible [] := ⟨List.nodup_nil, fun _ ha => by cases ha⟩

theorem perm (h : Compatible ds) (hp : ds.Perm ds') : Compatible ds' := by
  have henums : ∀ e, e ∈ enums ds' ↔ e ∈ enums ds := fun e => (hp.filterMap enum?).symm.mem_iff
  refine ⟨(hp.map name).nodup_iff.1 h.distinct, fun a ha b hb => ?_⟩
  exact h.coexist a ((henums a).1 ha) b ((henums b).1 hb)

theorem append_right {before : List Declaration} (h : Compatible (before ++ ds)) : Compatible ds := by
  have hdistinct := h.distinct
  rw [List.map_append, List.nodup_append] at hdistinct
  have henums : ∀ e ∈ enums ds, e ∈ enums (before ++ ds) := by
    intro e he
    rw [enums, List.filterMap_append]
    exact List.mem_append_right _ he
  exact ⟨hdistinct.2.1, fun a ha b hb => h.coexist a (henums a ha) b (henums b hb)⟩

end Compatible

/-- One more declaration. -/
theorem compatible_cons_iff :
    Compatible (d :: ds) ↔
      (d.name ∉ ds.map name ∧ ∀ a, d.enum? = some a → ∀ b ∈ enums ds, a.Coexists b) ∧ Compatible ds := by
  constructor
  · intro h
    have hdistinct := h.distinct
    rw [List.map_cons, List.nodup_cons] at hdistinct
    refine ⟨⟨hdistinct.1, fun a ha b hb => ?_⟩, @Compatible.append_right ds [d] h⟩
    exact h.coexist a (mem_enums_cons.2 (.inl ha)) b (mem_enums_cons.2 (.inr hb))
  · rintro ⟨⟨hname, hnew⟩, h⟩
    refine ⟨List.nodup_cons.2 ⟨hname, h.distinct⟩, fun a ha b hb => ?_⟩
    rcases mem_enums_cons.1 ha with ha | ha <;> rcases mem_enums_cons.1 hb with hb | hb
    · obtain rfl := Option.some.inj (ha.symm.trans hb)
      exact a.coexists_self
    · exact hnew a ha b hb
    · exact (hnew b hb a ha).symm
    · exact h.coexist a ha b hb

end Declaration

namespace Scope

open Declaration

variable {s s' : Scope} {d : Declaration} {ds ds' : List Declaration}

/-- The scope has the identifiers and the enumerations of `ds`, and nothing else. -/
structure Holds (s : Scope) (ds : List Declaration) : Prop where
  idents : ∀ x ty, s.idents[x]? = some ty ↔ ∃ d ∈ ds, d.name = x ∧ d.ty = ty
  enums : ∀ n e, s.enums.find? n = some e ↔ e ∈ Declaration.enums ds ∧ n = e.fullName

namespace Holds

theorem nil : Holds {} [] := by
  refine ⟨fun x ty => ?_, fun n e => ?_⟩
  · simp
  · simp [Catalog.find?, Declaration.enums]

theorem perm (h : s.Holds ds) (hp : ds.Perm ds') : s.Holds ds' := by
  refine ⟨fun x ty => ?_, fun n e => ?_⟩
  · rw [h.idents]
    simp only [hp.mem_iff]
  · rw [h.enums, Declaration.enums, Declaration.enums, (hp.filterMap enum?).mem_iff]

/-- There is only one scope that holds given declarations. -/
theorem eq (h : s.Holds ds) (h' : s'.Holds ds) : s = s' := by
  have hidents : s.idents = s'.idents := by
    apply Std.ExtTreeMap.ext_getElem?
    intro x
    apply Option.ext
    intro ty
    rw [h.idents, h'.idents]
  have henums : s.enums = s'.enums := by
    apply Std.ExtTreeMap.ext_getElem?
    intro n
    apply Option.ext
    intro e
    exact (h.enums n e).trans (h'.enums n e).symm
  cases s
  cases s'
  cases hidents
  cases henums
  rfl

theorem mem_idents_iff (h : s.Holds ds) {x : String} : x ∈ s.idents ↔ x ∈ ds.map name := by
  rw [Std.ExtTreeMap.mem_iff_isSome_getElem?, Option.isSome_iff_exists, List.mem_map]
  constructor
  · rintro ⟨ty, hty⟩
    obtain ⟨d, hd, hname, -⟩ := (h.idents x ty).1 hty
    exact ⟨d, hd, hname⟩
  · rintro ⟨d, hd, hname⟩
    exact ⟨d.ty, (h.idents x d.ty).2 ⟨d, hd, hname, rfl⟩⟩

/-- All enumerations are in use. -/
theorem mem_enumsInUse_iff (h : s.Holds ds) {n : String} {e : Enumeration} :
    (n, e) ∈ s.enumsInUse ↔ e ∈ Declaration.enums ds ∧ n = e.fullName := by
  rw [enumsInUse, List.mem_filter, Std.ExtTreeMap.mem_toList_iff_getElem?_eq_some]
  refine ⟨fun hmem => (h.enums n e).1 hmem.1, fun hmem => ⟨(h.enums n e).2 hmem, ?_⟩⟩
  obtain ⟨he, rfl⟩ := hmem
  obtain ⟨d, hd, hty⟩ := exists_of_mem_enums he
  have hident : s.idents[d.name]? = some (.message e.fullName) := (h.idents _ _).2 ⟨d, hd, rfl, hty⟩
  exact List.any_eq_true.2 ⟨_, mem_values_iff.2 ⟨_, hident⟩, beq_self_eq_true _⟩

/-! ### What a declaration asks for -/

theorem sharedValue?_eq_none_iff (h : s.Holds ds) {e : Enumeration} :
    s.sharedValue? e = none ↔
      ∀ b ∈ Declaration.enums ds, e.fullName ≠ b.fullName → ∀ v, ¬ (e.names v ∧ b.names v) := by
  simp only [sharedValue?, List.findSome?_eq_none_iff, Option.map_eq_none_iff, List.find?_eq_none, List.mem_filter,
    bne_iff_ne]
  constructor
  · rintro hnone b hb hne v ⟨hv, hbv⟩
    obtain ⟨m, hm, rfl⟩ := Enumeration.names_iff.1 hv
    exact hnone m hm (b.fullName, b) ⟨h.mem_enumsInUse_iff.2 ⟨hb, rfl⟩, Ne.symm hne⟩ hbv
  · rintro hnone m hm ⟨n, b⟩ ⟨hmem, hne⟩ hbv
    obtain ⟨hb, rfl⟩ := h.mem_enumsInUse_iff.1 hmem
    exact hnone b hb (Ne.symm hne) m.name ⟨Enumeration.names_iff.2 ⟨m, hm, rfl⟩, hbv⟩

theorem exists_add?_iff (h : s.Holds ds) {e : Enumeration} :
    (∃ catalog, s.enums.add? e = some catalog) ↔
      ∀ b ∈ Declaration.enums ds, e.fullName = b.fullName → e = b := by
  unfold Catalog.add?
  constructor
  · rintro ⟨catalog, hadd⟩ b hb hname
    have hfound := (h.enums b.fullName b).2 ⟨hb, rfl⟩
    rw [hname, hfound] at hadd
    by_cases hbe : b = e
    · exact hbe.symm
    · simp [hbe] at hadd
  · intro hsame
    cases hfound : s.enums.find? e.fullName with
    | none => exact ⟨_, rfl⟩
    | some known =>
      obtain ⟨hknown, hname⟩ := (h.enums _ _).1 hfound
      exact ⟨s.enums, if_pos (hsame known hknown hname).symm⟩

end Holds

/-! ### One declaration -/

private theorem toExcept_declare_iff {name : String} {ty : Ty} :
    (s.declare name ty).toExcept = .ok s' ↔ name ∉ s.idents ∧ s' = { s with idents := s.idents.insert name ty } := by
  unfold declare
  split
  · rename_i hname
    have hname : name ∈ s.idents := hname
    simp [Declared.toExcept, hname]
  · rename_i hname
    have hname : name ∉ s.idents := hname
    simp [Declared.toExcept, hname, eq_comm]

private theorem toExcept_declareEnum_iff {name : String} {e : Enumeration} :
    (s.declareEnum name e).toExcept = .ok s' ↔
      s.sharedValue? e = none ∧ name ∉ s.idents ∧ ∃ catalog, s.enums.add? e = some catalog ∧
        s' = ⟨s.idents.insert name (.message e.fullName), catalog⟩ := by
  unfold declareEnum
  split
  · rename_i hshared
    simp [Declared.toExcept, hshared]
  · rename_i hshared
    split
    · rename_i hadd
      simp [Declared.toExcept, hadd]
    · rename_i catalog hadd
      rw [toExcept_declare_iff]
      simp [hshared, hadd]

namespace Holds

/-- A declaration is accepted exactly if it is compatible with those made before it. -/
theorem exists_declare_iff (h : s.Holds ds) (hds : Compatible ds) :
    (∃ s', (d.declare s).toExcept = .ok s') ↔ Compatible (d :: ds) := by
  rw [compatible_cons_iff, and_iff_left hds, ← h.mem_idents_iff]
  cases d with
  | ident name ty =>
    simp only [Declaration.declare, toExcept_declare_iff]
    constructor
    · rintro ⟨s', hname, -⟩
      exact ⟨hname, fun a ha => by cases ha⟩
    · rintro ⟨hname, -⟩
      exact ⟨_, hname, rfl⟩
  | enumIdent name e =>
    simp only [Declaration.declare, toExcept_declareEnum_iff, h.sharedValue?_eq_none_iff]
    constructor
    · rintro ⟨s', hshared, hname, catalog, hadd, -⟩
      refine ⟨hname, fun a ha b hb => ?_⟩
      obtain rfl := Option.some.inj ha
      exact ⟨h.exists_add?_iff.1 ⟨catalog, hadd⟩ b hb, hshared b hb⟩
    · rintro ⟨hname, hnew⟩
      obtain ⟨catalog, hadd⟩ := h.exists_add?_iff.2 fun b hb => (hnew e rfl b hb).1
      exact ⟨_, fun b hb => (hnew e rfl b hb).2, hname, catalog, hadd, rfl⟩

private theorem idents_insert (h : s.Holds ds) (hname : d.name ∉ s.idents) (x : String) (ty : Ty) :
    (s.idents.insert d.name d.ty)[x]? = some ty ↔ ∃ d' ∈ d :: ds, d'.name = x ∧ d'.ty = ty := by
  rw [Std.ExtTreeMap.getElem?_insert_eq_some_iff (Std.ExtTreeMap.getElem?_eq_none hname), h.idents]
  constructor
  · rintro (⟨d', hd', hx⟩ | ⟨rfl, rfl⟩)
    · exact ⟨d', List.mem_cons_of_mem d hd', hx⟩
    · exact ⟨d, List.mem_cons_self, rfl, rfl⟩
  · rintro ⟨d', hd', hx, hty⟩
    rcases List.mem_cons.1 hd' with rfl | hd'
    · exact .inr ⟨hx.symm, hty.symm⟩
    · exact .inl ⟨d', hd', hx, hty⟩

/-- What one accepted declaration adds. -/
theorem declare (h : s.Holds ds) (hd : (d.declare s).toExcept = .ok s') : s'.Holds (d :: ds) := by
  cases d with
  | ident name ty =>
    obtain ⟨hname, rfl⟩ := toExcept_declare_iff.1 hd
    refine ⟨h.idents_insert (d := .ident name ty) hname, fun n e => ?_⟩
    rw [h.enums, mem_enums_cons]
    simp [enum?]
  | enumIdent name e =>
    obtain ⟨-, hname, catalog, hadd, rfl⟩ := toExcept_declareEnum_iff.1 hd
    refine ⟨h.idents_insert (d := .enumIdent name e) hname, fun n e' => ?_⟩
    rw [find?_add? hadd, h.enums, mem_enums_cons]
    constructor
    · rintro (⟨he', rfl⟩ | ⟨rfl, rfl⟩)
      · exact ⟨.inr he', rfl⟩
      · exact ⟨.inl rfl, rfl⟩
    · rintro ⟨he' | he', rfl⟩
      · obtain rfl := Option.some.inj he'
        exact .inr ⟨rfl, rfl⟩
      · exact .inl ⟨he', rfl⟩

/-! ### All declarations -/

/-- A chain from a scope that holds `ds` goes through exactly if all declarations are compatible. -/
theorem exists_chain_iff (h : s.Holds ds) (hds : Compatible ds) (todo : List Declaration) :
    (∃ s', todo.foldlM (fun s d => (d.declare s).toExcept) s = .ok s') ↔ Compatible (todo.reverse ++ ds) := by
  induction todo generalizing s ds with
  | nil => exact iff_of_true ⟨s, rfl⟩ hds
  | cons d todo ih =>
    rw [List.foldlM_cons, List.reverse_cons, List.append_assoc, List.singleton_append]
    cases hd : (d.declare s).toExcept with
    | ok s₁ =>
      have hnext : Compatible (d :: ds) := (h.exists_declare_iff hds).1 ⟨s₁, hd⟩
      exact ih (h.declare hd) hnext
    | error e =>
      refine iff_of_false (fun ⟨s', hs'⟩ => by cases hs') fun hall => ?_
      obtain ⟨s', hs'⟩ := (h.exists_declare_iff hds).2 hall.append_right
      rw [hd] at hs'
      cases hs'

theorem chain (h : s.Holds ds) {todo : List Declaration}
    (hs' : todo.foldlM (fun s d => (d.declare s).toExcept) s = .ok s') : s'.Holds (todo.reverse ++ ds) := by
  induction todo generalizing s ds with
  | nil =>
    cases hs'
    exact h
  | cons d todo ih =>
    rw [List.foldlM_cons] at hs'
    rw [List.reverse_cons, List.append_assoc, List.singleton_append]
    cases hd : (d.declare s).toExcept with
    | ok s₁ =>
      rw [hd] at hs'
      exact ih (h.declare hd) hs'
    | error e =>
      rw [hd] at hs'
      cases hs'

/-! ### Types of names -/

theorem typeOf?_name (h : s.Holds ds) (hd : d ∈ ds) : s.typeOf? d.name = some d.ty := by
  rw [typeOf?, (h.idents d.name d.ty).2 ⟨d, hd, rfl, rfl⟩]
  rfl

private theorem typeOf?_of_not_mem (h : s.Holds ds) {n : String} (hn : n ∉ ds.map name) :
    s.typeOf? n = (s.enumsInUse.find? (·.2.names n)).map fun (fullName, _) => .message fullName := by
  rw [← h.mem_idents_iff] at hn
  rw [typeOf?, Std.ExtTreeMap.getElem?_eq_none hn]
  rfl

theorem typeOf?_value (h : s.Holds ds) (hds : Compatible ds) {n : String} (hn : n ∉ ds.map name) {e : Enumeration}
    (he : e ∈ Declaration.enums ds) (hv : e.names n) : s.typeOf? n = some (.message e.fullName) := by
  rw [h.typeOf?_of_not_mem hn]
  cases hfind : s.enumsInUse.find? (·.2.names n) with
  | none => exact absurd hv (List.find?_eq_none.1 hfind _ (h.mem_enumsInUse_iff.2 ⟨he, rfl⟩))
  | some found =>
    obtain ⟨fullName, e'⟩ := found
    have hv' := List.find?_some hfind
    obtain ⟨he', rfl⟩ := h.mem_enumsInUse_iff.1 (List.mem_of_find?_eq_some hfind)
    have hsame : e'.fullName = e.fullName :=
      Decidable.byContradiction fun hne => (hds.coexist e' he' e he).2 hne n ⟨hv', hv⟩
    rw [Option.map_some, hsame]

theorem typeOf?_none (h : s.Holds ds) {n : String} (hn : n ∉ ds.map name)
    (hv : ∀ e ∈ Declaration.enums ds, ¬ e.names n) : s.typeOf? n = none := by
  rw [h.typeOf?_of_not_mem hn, Option.map_eq_none_iff, List.find?_eq_none]
  rintro ⟨fullName, e⟩ hmem
  exact hv e (h.mem_enumsInUse_iff.1 hmem).1

end Holds

theorem holds_of_ofDeclarations (h : ofDeclarations ds = .ok s) : s.Holds ds := by
  have hs := Holds.nil.chain h
  rw [List.append_nil] at hs
  exact hs.perm (List.reverse_perm ds)

theorem exists_ofDeclarations_iff (ds : List Declaration) : (∃ s, ofDeclarations ds = .ok s) ↔ Compatible ds := by
  rw [ofDeclarations, Holds.nil.exists_chain_iff Compatible.nil, List.append_nil]
  exact ⟨fun h => h.perm (List.reverse_perm ds), fun h => h.perm (List.reverse_perm ds).symm⟩

/-- A list of declarations is accepted exactly if its names are distinct and its enumerations can coexist. The scope
then holds these declarations and nothing else: a declared name has its declared type, any other name that of the only
enumeration it is a value of, if there is one. The order of the declarations does not matter. -/
theorem ofDeclarations_iff_compatible (ds : List Declaration) :
    ((∃ s, ofDeclarations ds = .ok s) ↔ Compatible ds) ∧
    ∀ s, ofDeclarations ds = .ok s →
      s.Holds ds ∧
      (∀ d ∈ ds, s.typeOf? d.name = some d.ty) ∧
      (∀ n, n ∉ ds.map name →
        (∀ e ∈ Declaration.enums ds, e.names n →
          s.typeOf? n = some (.message e.fullName) ∧ ∀ e' ∈ Declaration.enums ds, e'.names n → e' = e) ∧
        ((∀ e ∈ Declaration.enums ds, ¬ e.names n) → s.typeOf? n = none)) ∧
      ∀ ds', ds'.Perm ds → ofDeclarations ds' = .ok s := by
  refine ⟨exists_ofDeclarations_iff ds, fun s hs => ?_⟩
  have hds : Compatible ds := (exists_ofDeclarations_iff ds).1 ⟨s, hs⟩
  have h : s.Holds ds := holds_of_ofDeclarations hs
  refine ⟨h, fun d hd => h.typeOf?_name hd, fun n hn => ⟨fun e he hv => ?_, h.typeOf?_none hn⟩, fun ds' hp => ?_⟩
  · refine ⟨h.typeOf?_value hds hn he hv, fun e' he' hv' => ?_⟩
    by_cases hname : e'.fullName = e.fullName
    · exact (hds.coexist e' he' e he).1 hname
    · exact absurd ⟨hv', hv⟩ ((hds.coexist e' he' e he).2 hname n)
  · obtain ⟨s', hs'⟩ := (exists_ofDeclarations_iff ds').2 (hds.perm hp.symm)
    have h' : s'.Holds ds := (holds_of_ofDeclarations hs').perm hp
    rw [hs', h.eq h']

/-- An identifier may be of the type of an enumeration that is declared only later, and two may share one. -/
theorem ofDeclarations_iff_compatible_home :
    ∃ s, ofDeclarations
        [.ident "door" (.message "home.Door"), .enumIdent "door_state" (.ofNames "home.Door" ["OPEN", "SHUT"]),
          .enumIdent "last_state" (.ofNames "home.Door" ["OPEN", "SHUT"]),
          .enumIdent "SHUT" (.ofNames "home.Blind" ["RAISED"])] = .ok s ∧
      ofDeclarations
        [.enumIdent "SHUT" (.ofNames "home.Blind" ["RAISED"]),
          .enumIdent "last_state" (.ofNames "home.Door" ["OPEN", "SHUT"]),
          .enumIdent "door_state" (.ofNames "home.Door" ["OPEN", "SHUT"]),
          .ident "door" (.message "home.Door")] = .ok s ∧
      s.typeOf? "OPEN" = some (.message "home.Door") ∧ s.typeOf? "SHUT" = some (.message "home.Blind") := by
  let home : List Declaration :=
    [.ident "door" (.message "home.Door"), .enumIdent "door_state" (.ofNames "home.Door" ["OPEN", "SHUT"]),
      .enumIdent "last_state" (.ofNames "home.Door" ["OPEN", "SHUT"]),
      .enumIdent "SHUT" (.ofNames "home.Blind" ["RAISED"])]
  have hok : (ofDeclarations home).toOption.isSome = true := by decide +kernel
  cases hs : ofDeclarations home with
  | error e => simp [hs, Except.toOption] at hok
  | ok s =>
    obtain ⟨-, hnames, hvalues, hperm⟩ := (ofDeclarations_iff_compatible home).2 s hs
    refine ⟨s, rfl, hperm _ (List.reverse_perm home), ?_, ?_⟩
    · exact ((hvalues "OPEN" (by decide)).1 (.ofNames "home.Door" ["OPEN", "SHUT"]) (by decide) (by decide)).1
    · exact hnames (.enumIdent "SHUT" (.ofNames "home.Blind" ["RAISED"])) (by decide)

end Scope

end FluxQuery
