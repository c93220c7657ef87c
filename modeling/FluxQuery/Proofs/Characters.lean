import FluxQuery.Proofs.Conjunction

/-!
# The characters of a text

Numbers are written with digits and a few signs, so an ampersand in the text of a comparison or of a membership test
comes from a name or from a string of the filter (`Renders.ampersand_not_mem`).
-/

namespace FluxQuery

/-! ### Numbers -/

/-- What numbers are written with. -/
private def Numeral (c : Char) : Prop := c.isDigit = true ∨ c ∈ ".e+-NaInf".toList

private theorem not_numeral_ampersand : ¬ Numeral '&' := by
  unfold Numeral
  decide

private theorem numeral_ofNat {n : Nat} {c : Char} (h : c ∈ Digits.ofNat n) : Numeral c :=
  .inl (Nat.isDigit_of_mem_toDigits (by decide) (by decide) h)

private theorem numeral_zeros {n : Nat} {c : Char} (h : c ∈ List.replicate n '0') : Numeral c :=
  .inl (by rw [List.eq_of_mem_replicate h]; rfl)

private theorem numeral_padded {width n : Nat} {c : Char} (h : c ∈ Digits.padded width n) : Numeral c :=
  (List.mem_append.1 h).elim numeral_zeros numeral_ofNat

private theorem numeral_nat {n : Nat} {c : Char} (h : c ∈ (toString n).toList) : Numeral c := by
  rw [Nat.toString_eq_repr, Nat.toList_repr] at h
  exact numeral_ofNat h

private theorem numeral_int {n : Int} {c : Char} (h : c ∈ (toString n).toList) : Numeral c := by
  rw [Int.toString_eq_repr, Int.repr_eq_if] at h
  split at h
  · exact numeral_nat h
  · rw [String.toList_append] at h
    rcases List.mem_append.1 h with h | h
    · exact .inr (by rw [List.mem_singleton.1 h]; decide)
    · exact numeral_nat h

namespace Decimal

private theorem numeral_pointed {whole fraction : List Char} {c : Char} (hw : c ∈ whole → Numeral c)
    (hf : c ∈ fraction → Numeral c) (h : c ∈ pointed whole fraction) : Numeral c := by
  unfold pointed at h
  split at h
  · exact hw h
  · simp only [List.mem_append, List.mem_cons] at h
    rcases h with h | rfl | h
    · exact hw h
    · exact .inr (by decide)
    · exact hf h

private theorem numeral_whole {s : Shortest} {c : Char} (h : c ∈ s.whole) : Numeral c := by
  unfold Shortest.whole at h
  split at h
  · exact (List.mem_append.1 h).elim numeral_ofNat numeral_zeros
  · dsimp only at h
    split at h
    · exact .inl (by rw [List.mem_singleton.1 h]; rfl)
    · exact numeral_ofNat (List.mem_of_mem_take h)

private theorem numeral_fraction {s : Shortest} {c : Char} (h : c ∈ s.fraction) : Numeral c :=
  (List.mem_append.1 h).elim numeral_zeros fun h => numeral_ofNat (List.mem_of_mem_drop h)

private theorem numeral_positional {s : Shortest} {c : Char} (h : c ∈ s.positional) : Numeral c := by
  refine numeral_pointed numeral_whole (fun h => ?_) h
  split at h
  · cases h
  · exact numeral_fraction h

private theorem numeral_mantissa {s : Shortest} {c : Char} (h : c ∈ s.mantissa) : Numeral c :=
  numeral_pointed (fun h => numeral_ofNat (List.mem_of_mem_take h)) (fun h => numeral_ofNat (List.mem_of_mem_drop h)) h

end Decimal

private theorem numeral_signed {negative : Bool} {text : List Char} {c : Char} (ht : c ∈ text → Numeral c)
    (h : c ∈ (signed negative text).toList) : Numeral c := by
  rw [signed, String.toList_ofList] at h
  split at h
  · rcases List.mem_cons.1 h with rfl | h
    · exact .inr (by decide)
    · exact ht h
  · exact ht h

private theorem numeral_flux {d : Double} {c : Char} (h : c ∈ d.flux.toList) : Numeral c := by
  unfold Double.flux at h
  split at h
  · exact .inr ((show "NaN".toList ⊆ ".e+-NaInf".toList by decide) h)
  · rename_i hnan
    split at h
    · split at h
      · exact .inr ((show "-Inf".toList ⊆ ".e+-NaInf".toList by decide) h)
      · exact .inr ((show "+Inf".toList ⊆ ".e+-NaInf".toList by decide) h)
    · rename_i hfinite
      -- zero and the numbers without an exponent are written alike
      have hpositional : c ∈ d.positional.toList → Numeral c := by
        intro h
        unfold Double.positional at h
        rw [if_neg hnan, if_neg hfinite] at h
        split at h
        · exact numeral_signed (fun h => .inl (by rw [List.mem_singleton.1 h]; rfl)) h
        · exact numeral_signed Decimal.numeral_positional h
      split at h
      · exact hpositional h
      · dsimp only at h
        split at h
        · refine numeral_signed (fun h => ?_) h
          simp only [List.mem_append, List.mem_cons] at h
          rcases h with h | rfl | h | h
          · exact Decimal.numeral_mantissa h
          · exact .inr (by decide)
          · split at h <;> exact .inr (by rw [h]; decide)
          · exact numeral_padded h
        · exact hpositional h

/-! ### Ampersands -/

namespace Expr

/-- No identifier of the tree has `x` in its name. -/
def NamesAvoid (x : Char) (e : Expr) : Prop := ∀ n ∈ e.nodes, x ∉ n.name.toList

/-- No string constant of the tree has `x` in it. -/
def StringsAvoid (x : Char) (e : Expr) : Prop := ∀ n ∈ e.nodes, x ∉ n.string.toList

section Avoid

variable {x : Char} {e c a : Expr} {id : NodeId} {function : String} {args : List Expr}

theorem NamesAvoid.self (h : e.NamesAvoid x) : x ∉ e.name.toList := h e (self_mem_nodes e)

theorem NamesAvoid.arg (h : (call id function args).NamesAvoid x) (ha : a ∈ args) : a.NamesAvoid x :=
  fun n hn => h n (arg_mem_nodes ha hn)

theorem NamesAvoid.conjunct (h : e.NamesAvoid x) (hc : c ∈ e.conjuncts) : c.NamesAvoid x :=
  fun n hn => h n (nodes_of_mem_conjuncts hc hn)

theorem StringsAvoid.self (h : e.StringsAvoid x) : x ∉ e.string.toList := h e (self_mem_nodes e)

theorem StringsAvoid.arg (h : (call id function args).StringsAvoid x) (ha : a ∈ args) : a.StringsAvoid x :=
  fun n hn => h n (arg_mem_nodes ha hn)

theorem StringsAvoid.conjunct (h : e.StringsAvoid x) (hc : c ∈ e.conjuncts) : c.StringsAvoid x :=
  fun n hn => h n (nodes_of_mem_conjuncts hc hn)

end Avoid

end Expr

theorem snakeCase_not_mem {x : Char} {name : String} (ha : x.isAlpha = false) (hu : x ≠ '_') (h : x ∉ name.toList) :
    x ∉ (snakeCase name).toList :=
  fun hx => h (Case.mem_of_mem_delimited .lower ha hu hx)

private theorem not_mem_append {x : Char} {s t : String} (hs : x ∉ s.toList) (ht : x ∉ t.toList) :
    x ∉ (s ++ t).toList := by
  rw [String.toList_append, List.mem_append]
  exact fun h => h.elim hs ht

private theorem ampersand_filterStage {condition : String} (h : '&' ∉ condition.toList) :
    '&' ∉ (filterStage condition).toList :=
  not_mem_append (not_mem_append (by decide) h) (by decide)

private theorem ampersand_literal {value : Literal} {text : String} (h : value.render = .ok text)
    (hs : ∀ s, value = .string s → '&' ∉ s.toList) : '&' ∉ text.toList := by
  cases value with
  | null => cases h
  | bytes bs => cases h
  | bool b =>
    cases h
    cases b <;> decide
  | int n =>
    cases h
    exact fun h => not_numeral_ampersand (numeral_int h)
  | uint n =>
    cases h
    exact fun h => not_numeral_ampersand (numeral_nat h)
  | double d =>
    cases h
    exact fun h => not_numeral_ampersand (numeral_flux h)
  | string s =>
    cases h
    exact hs _ rfl

namespace Context

variable {ctx : Context}

private theorem ampersand_renderTyped {ty : Ty} {name : String} (h : '&' ∉ name.toList) :
    '&' ∉ (ctx.renderTyped ty name).text.toList := by
  have hsnake : '&' ∉ (snakeCase name).toList := snakeCase_not_mem (by decide) (by decide) h
  unfold renderTyped
  split
  · rename_i member hmember
    rw [enumMember?_name hmember]
    exact fun hx => hsnake (Case.mem_of_mem_delimited .upper (by decide) (by decide) hx)
  · split
    · exact h
    · exact hsnake

private theorem Renders.ampersand_comparand {e : Expr} {o : Operand} (h : ctx.Renders e o) (he : e.IsComparand)
    (hn : e.NamesAvoid '&') (hs : e.StringsAvoid '&') : '&' ∉ o.text.toList := by
  cases he with
  | const id value =>
    cases h with
    | const hv =>
      apply ampersand_literal hv
      rintro s rfl
      exact hs.self
  | ident id name =>
    obtain ⟨ty, -, rfl⟩ := renders_ident_iff.1 h
    exact ampersand_renderTyped hn.self
  | timestamp id i value =>
    obtain ⟨-, rfl⟩ := renders_timestamp_iff.1 h
    exact (hs.arg (List.mem_singleton.2 rfl)).self

/-- A conjunct has no ampersand in its text unless it has one in a name or in a string. -/
theorem Renders.ampersand_not_mem {e : Expr} {o : Operand} (h : ctx.Renders e o)
    (he : e.IsComparison ∨ e.IsMembership) (hn : e.NamesAvoid '&') (hs : e.StringsAvoid '&') :
    '&' ∉ o.text.toList := by
  rcases he with he | he
  · obtain ⟨id, c, i, name, hrhs⟩ := he
    rename_i rhs
    obtain ⟨-, l, r, hl, hr, rfl⟩ := renders_compare_iff.1 h
    obtain ⟨ty, -, rfl⟩ := renders_ident_iff.1 hl
    have hname : (Expr.ident i name).NamesAvoid '&' := hn.arg (by simp)
    have hfield : '&' ∉ (snakeCase name).toList := snakeCase_not_mem (by decide) (by decide) hname.self
    have hvalue : '&' ∉ r.text.toList := hr.ampersand_comparand hrhs (hn.arg (by simp)) (hs.arg (by simp))
    have hflux : '&' ∉ c.flux.toList := by cases c <;> decide
    rw [render_renderTyped]
    split
    · exact not_mem_append (not_mem_append hfield (by decide)) hvalue
    · apply ampersand_filterStage
      refine not_mem_append (not_mem_append (not_mem_append ?_ (by decide)) hvalue) (by decide)
      exact not_mem_append (not_mem_append (not_mem_append (by decide) hfield) (by decide)) hflux
  · obtain ⟨id, args⟩ := he
    obtain ⟨-, i, name, kind, j, value, text, rfl, -, hv, rfl⟩ := renders_has_iff.1 h
    have hname : (Expr.ident i name).NamesAvoid '&' := hn.arg (by simp)
    have hfield : '&' ∉ (ctx.renderTyped (.list (.scalar kind)) name).text.toList := ampersand_renderTyped hname.self
    have hvalue : '&' ∉ text.toList := by
      have hconst : (Expr.const j value).StringsAvoid '&' := hs.arg (by simp)
      apply ampersand_literal hv
      rintro s rfl
      exact hconst.self
    apply ampersand_filterStage
    refine not_mem_append (not_mem_append (not_mem_append ?_ (by decide)) hvalue) (by decide)
    exact not_mem_append (by decide) hfield

end Context

end FluxQuery
