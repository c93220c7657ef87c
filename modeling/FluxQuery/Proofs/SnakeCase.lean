import FluxQuery.Proofs.Comparands
import FluxQuery.Proofs.Redirection

/-!
# Names in snake case and in screaming case

`snakeCase` is a projection. The names that it keeps can be told by looking at their characters (`IsSnake`), and what it
does to any other name is to lower the capitals, drop the blanks at the ends and move the underscores: without
separators the name and its snake case are the same (`filter_spellAll`). An identifier is looked for under its snake
case, so under a name that is not in snake case nothing is found.

`screamingCase` is a projection too, onto the same names with their letters raised (`IsScreaming`), and each of the two
undoes the other there.
-/

namespace FluxQuery

/-- A name in snake case: no blank at its ends, no capital, no separator but the underscore, and no lower-case letter
beside a digit. -/
structure IsSnake (name : String) : Prop where
  head : ∀ c, name.toList.head? = some c → isBlank c = false
  last : ∀ c, name.toList.getLast? = some c → isBlank c = false
  upper : ∀ c ∈ name.toList, c.isUpper = false
  separator : ∀ c ∈ name.toList, c ≠ ' ' ∧ c ≠ '-' ∧ c ≠ '.'
  apart : name.toList.IsChain fun c d =>
    ¬ (c.isLower = true ∧ d.isDigit = true) ∧ ¬ (c.isDigit = true ∧ d.isLower = true)

namespace Case

variable {f : Char → Char}

/-! ### The names that are kept -/

private theorem isAlpha_of_not_isUpper {c : Char} (h : c.isUpper = false) : c.isAlpha = c.isLower := by
  change (c.isUpper || c.isLower) = c.isLower
  rw [h, Bool.false_or]

private theorem isSeparator_iff {c : Char} : isSeparator c = true ↔ c ∈ [' ', '_', '-', '.'] := by
  simp [isSeparator, or_assoc]

/-- A pass in lower case has nothing left to do on a name in snake case. -/
theorem settled_of_isSnake {name : String} (h : IsSnake name) : Settled name.toList where
  separator c hc hsep := by
    obtain ⟨hspace, hhyphen, hdot⟩ := h.separator c hc
    simpa [hspace, hhyphen, hdot] using isSeparator_iff.1 hsep
  apart := by
    refine h.apart.imp_of_mem_imp fun c d hc hd hcd => ?_
    rw [Apart, isAlpha_of_not_isUpper (h.upper c hc), isAlpha_of_not_isUpper (h.upper d hd)]
    exact hcd
  oneCase := .inl h.upper

/-! ### The characters that are kept -/

/-- Recasing makes no separator and takes none away. -/
private theorem isSeparator_recased (hf : Recasing f) (c : Char) : isSeparator (f c) = isSeparator c := by
  rw [Bool.eq_iff_iff]
  simp only [isSeparator, Bool.or_eq_true, beq_iff_eq]
  rw [hf.eq_iff (by decide), hf.eq_iff (by decide), hf.eq_iff (by decide), hf.eq_iff (by decide)]

private theorem filter_spell (hf : Recasing f) (prev : Option Char) (c : Char) (next : Option Char) :
    (spell f prev c next).filter (· ≠ '_') = [f c].filter (!isSeparator ·) := by
  have hunder : ∀ b : Bool, (if b then ['_'] else []).filter (· ≠ '_') = [] := by decide
  unfold spell
  rw [List.filter_append, hunder, List.nil_append, List.filter_cons, hunder]
  by_cases hsep : isSeparator c = true
  · simp [hsep, isSeparator_recased hf]
  · have hne : f c ≠ '_' := by
      intro h
      rw [(hf.eq_iff (by decide)).1 h] at hsep
      exact hsep (by decide)
    simp [hsep, isSeparator_recased hf, hne]

/-- Without its underscores, what a pass has written is the recased name without its separators. -/
theorem filter_spellAll (hf : Recasing f) (prev : Option Char) (cs : List Char) :
    (spellAll f prev cs).filter (· ≠ '_') = (cs.map f).filter (!isSeparator ·) := by
  induction cs generalizing prev with
  | nil => rfl
  | cons c cs ih =>
    rw [spellAll, List.filter_append, filter_spell hf, ih, List.map_cons, ← List.filter_append, List.singleton_append]

end Case

theorem isSnake_snakeCase (name : String) : IsSnake (snakeCase name) := by
  have hsettled : Case.Settled (snakeCase name).toList := by
    rw [snakeCase, Case.delimited, String.toList_ofList]
    exact Case.settled_spellAll .lower none _
  have hupper : ∀ c ∈ (snakeCase name).toList, c.isUpper = false := by
    intro c hc
    rw [snakeCase, Case.delimited, String.toList_ofList] at hc
    rcases Case.mem_spellAll hc with rfl | ⟨d, -, -, rfl⟩
    · rfl
    · exact isUpper_toLower d
  obtain ⟨hhead, hlast⟩ := trim_eq_self_iff.1 (Case.trim_delimited .lower name)
  refine ⟨hhead, hlast, hupper, fun c hc => ?_, ?_⟩
  · refine ⟨?_, ?_, ?_⟩ <;>
    · rintro rfl
      exact absurd (hsettled.separator _ hc (by decide)) (by decide)
  · refine hsettled.apart.imp_of_mem_imp fun c d hc hd hcd => ?_
    rwa [Case.Apart, Case.isAlpha_of_not_isUpper (hupper c hc), Case.isAlpha_of_not_isUpper (hupper d hd)] at hcd

/-- The names that `snakeCase` keeps are those in snake case. -/
theorem snakeCase_eq_self_iff {name : String} : snakeCase name = name ↔ IsSnake name := by
  constructor
  · intro h
    rw [← h]
    exact isSnake_snakeCase name
  · intro h
    have hlower : name.toList.map Char.toLower = name.toList := by
      have hself : ∀ c ∈ name.toList, c.toLower = id c := fun c hc => toLower_eq_self (h.upper c hc)
      rw [List.map_congr_left hself, List.map_id]
    rw [snakeCase, Case.delimited, trim_eq_self h.head h.last,
      Case.spellAll_of_settled .lower (Case.settled_of_isSnake h), hlower, String.ofList_toList]

instance (name : String) : Decidable (IsSnake name) := decidable_of_iff _ snakeCase_eq_self_iff

/-! ### Looking for a name -/

namespace Expr

variable {target : String}

/-- An identifier can only be found under a name in snake case. -/
theorem isTarget_of_not_isSnake (h : ¬ IsSnake target) (e : Expr) : e.isTarget target = false := by
  cases e with
  | ident id name =>
    have hne : snakeCase name ≠ target := by
      rintro rfl
      exact h (isSnake_snakeCase name)
    simpa [isTarget] using hne
  | _ => rfl

theorem comparandsOf_eq_nil {args : List Expr} (htarget : ∀ a ∈ args, a.isTarget target = false)
    (h : ∀ a ∈ args, a.comparands target = []) : comparandsOf target args = [] := by
  induction args with
  | nil => rfl
  | cons a as ih =>
    obtain ⟨hat, hast⟩ := List.forall_mem_cons.1 htarget
    obtain ⟨ha, has⟩ := List.forall_mem_cons.1 h
    rw [comparandsOf_cons hat, ha, ih hast has, List.append_nil]

/-- An expression without the target gives no value. -/
theorem comparand?_eq_none {e : Expr} (h : ∀ n ∈ e.nodes, n.isTarget target = false) : e.comparand? target = none := by
  have hnil : e.comparands target = [] := by
    induction e using children_induction with
    | step e ih =>
      cases e with
      | call id function args =>
        have hargs : ∀ a ∈ args, ∀ n ∈ a.nodes, n.isTarget target = false := fun a ha n hn => h n (arg_mem_nodes ha hn)
        exact comparandsOf_eq_nil (fun a ha => hargs a ha a (self_mem_nodes a)) fun a ha => ih a ha (hargs a ha)
      | _ => rfl
  rw [comparand?_of_not_target (h e (self_mem_nodes e)), hnil]
  rfl

/-- An expression without the target is not changed. -/
theorem redirect_eq_self {e : Expr} {r : Redirection} (h : ∀ n ∈ e.nodes, n.isTarget r.target = false) :
    e.redirect r = (e, none) := by
  have hskips : r.Skips e := by
    induction e using children_induction with
    | step e ih =>
      cases e with
      | call id function args =>
        exact Redirection.skips_call fun a ha => ih a ha fun n hn => h n (arg_mem_nodes ha hn)
      | _ => exact Redirection.redirectFrom_leaf (by simp) (h _ (self_mem_nodes _))
  unfold Redirection.Skips at hskips
  rw [redirect, hskips]
  rfl

end Expr

/-- `snakeCase` is a projection onto the names in snake case, and loses nothing of a name but blanks at its ends and
separators. A search for an identifier under any other name finds nothing and changes nothing. -/
theorem snakeCase_projection :
    (∀ name, snakeCase (snakeCase name) = snakeCase name) ∧
    (∀ name, snakeCase name = name ↔ IsSnake name) ∧
    (∀ name, (snakeCase name).toList.filter (· ≠ '_') =
      ((trim name.toList).map Char.toLower).filter fun c => c ∉ [' ', '_', '-', '.']) ∧
    ∀ target, ¬ IsSnake target → ∀ e : Expr, e.comparand? target = none ∧
      ∀ name value, e.redirect ⟨target, name, value⟩ = (e, none) := by
  refine ⟨snakeCase_snakeCase, fun name => snakeCase_eq_self_iff, fun name => ?_, fun target htarget e => ?_⟩
  · have hsep : (fun c => !Case.isSeparator c) = fun c => decide (c ∉ [' ', '_', '-', '.']) := by
      funext c
      rw [decide_not, Bool.eq_iff_iff.2 (Case.isSeparator_iff.trans decide_eq_true_iff.symm)]
    rw [snakeCase, Case.delimited, String.toList_ofList, ← hsep]
    exact Case.filter_spellAll .lower none _
  · have hnone : ∀ n ∈ e.nodes, n.isTarget target = false := fun n _ => Expr.isTarget_of_not_isSnake htarget n
    exact ⟨Expr.comparand?_eq_none hnone, fun name value => Expr.redirect_eq_self hnone⟩

/-- Capitals, digits and blanks of several kinds: only ASCII letters and digits are kept apart. -/
example : snakeCase "\tJSONData-v2.é7\tx\u3000" = "json_data_v_2_é7\tx" ∧ IsSnake "json_data_v_2_é7\tx" := by
  decide +kernel

private def doorNorth : Expr := .call 3 "=" [.ident 1 "doorId", .const 2 (.string "north")]

/-- An identifier is not found under the name that it has itself. -/
theorem snakeCase_projection_door :
    ¬ IsSnake "doorId" ∧ doorNorth.comparand? "doorId" = none ∧
    doorNorth.redirect ⟨"doorId", "gate", "south"⟩ = (doorNorth, none) ∧
    IsSnake "door_id" ∧ doorNorth.comparand? "door_id" = some "north" := by
  have hname : ¬ IsSnake "doorId" := by decide +kernel
  obtain ⟨-, -, -, hsearch⟩ := snakeCase_projection
  obtain ⟨hnone, hsame⟩ := hsearch "doorId" hname doorNorth
  exact ⟨hname, hnone, hsame "gate" "south", by decide +kernel, by decide +kernel⟩

/-! ### Screaming case -/

/-- A name in screaming case: no lower-case letter, and in snake case once the capitals are lowered. -/
structure IsScreaming (name : String) : Prop where
  lower : ∀ c ∈ name.toList, c.isLower = false
  snake : IsSnake (name.map Char.toLower)

theorem isScreaming_screamingCase (name : String) : IsScreaming (screamingCase name) where
  lower c hc := by
    rw [screamingCase, Case.delimited, String.toList_ofList] at hc
    rcases Case.mem_spellAll hc with rfl | ⟨d, -, -, rfl⟩
    · rfl
    · exact isLower_toUpper d
  snake := by
    have hlower : (screamingCase name).map Char.toLower = snakeCase name := Case.map_delimited .upper .lower name
    rw [hlower]
    exact isSnake_snakeCase name

/-- Capitals that have been lowered can be raised again. -/
private theorem map_toUpper_map_toLower {name : String} (h : ∀ c ∈ name.toList, c.isLower = false) :
    (name.map Char.toLower).map Char.toUpper = name := by
  apply String.toList_inj.1
  rw [String.toList_map, String.toList_map, List.map_map]
  have hself : ∀ c ∈ name.toList, (Char.toUpper ∘ Char.toLower) c = id c := by
    intro c hc
    have hcomp : c.toLower.toUpper = c.toUpper := Case.Recasing.lower.comp .upper c
    rw [Function.comp_apply, hcomp, toUpper_eq_self (h c hc), id]
  rw [List.map_congr_left hself, List.map_id]

/-- The names that `screamingCase` keeps are those in screaming case. -/
theorem screamingCase_eq_self_iff {name : String} : screamingCase name = name ↔ IsScreaming name := by
  constructor
  · intro h
    rw [← h]
    exact isScreaming_screamingCase name
  · intro h
    -- the name is the screaming case of what it is in snake case
    have hname : screamingCase (name.map Char.toLower) = name := by
      calc screamingCase (name.map Char.toLower)
          = (snakeCase (name.map Char.toLower)).map Char.toUpper := (Case.map_delimited .lower .upper _).symm
        _ = (name.map Char.toLower).map Char.toUpper := by rw [snakeCase_eq_self_iff.2 h.snake]
        _ = name := map_toUpper_map_toLower h.lower
    rw [← hname, screamingCase_screamingCase]

instance (name : String) : Decidable (IsScreaming name) := decidable_of_iff _ screamingCase_eq_self_iff

/-- The two cases differ by the case of ASCII letters only, and the last one taken decides: words are found alike in a
name, in its snake case and in its screaming case. Hence each undoes the other on the names that are in its own case,
and on no other names. -/
theorem screamingCase_snakeCase_inverse (name : String) :
    screamingCase name = (snakeCase name).map Char.toUpper ∧
    screamingCase (snakeCase name) = screamingCase name ∧
    snakeCase (screamingCase name) = snakeCase name ∧
    screamingCase (screamingCase name) = screamingCase name ∧
    (snakeCase (screamingCase name) = name ↔ IsSnake name) ∧
    (screamingCase (snakeCase name) = name ↔ IsScreaming name) := by
  refine ⟨(Case.map_delimited .lower .upper name).symm, screamingCase_snakeCase name, snakeCase_screamingCase name,
    screamingCase_screamingCase name, ?_, ?_⟩
  · rw [snakeCase_screamingCase]
    exact snakeCase_eq_self_iff
  · rw [screamingCase_snakeCase]
    exact screamingCase_eq_self_iff

/-- A name whose digits follow its letters is in neither case. -/
example : screamingCase "JSONData-v2.é7" = "JSON_DATA_V_2_é7" ∧ ¬ IsScreaming "SHA256" ∧ ¬ IsSnake "sha256" := by
  decide +kernel

end FluxQuery
