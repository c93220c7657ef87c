import FluxQuery.Query.TimeRange
import Mathlib.Data.List.Chain

/-!
# Cutting a fragment

`TimeRange.pieces` cuts a text at every `&&`, from left to right. With the separators between them the pieces give the
text again (`intercalate_pieces`). None of them holds a separator, and none but the last ends with an ampersand, which
the cut would have taken instead of the one behind it (`isCut_pieces`). The last two facts do not depend on the pieces
being all there (`IsCut.sublist`), and they are what lets the pieces meet without making a new separator
(`IsCut.flatten`): whatever anchors are taken out, the stages that are left hold none. A second split then finds one
piece only.
-/

namespace FluxQuery.TimeRange

/-! ### Pieces -/

theorem pieces_ne_nil (cs : List Char) : pieces cs ≠ [] := by
  fun_induction pieces cs <;> simp_all

theorem intercalate_pieces (cs : List Char) : "&&".toList.intercalate (pieces cs) = cs := by
  fun_induction pieces cs with
  | case1 => rfl
  | case2 rest ih =>
    obtain ⟨piece, more, hpieces⟩ := List.exists_cons_of_ne_nil (pieces_ne_nil rest)
    rw [hpieces] at ih ⊢
    rw [List.intercalate_cons_cons, ih]
    rfl
  | case3 c rest hsep piece more hpieces ih =>
    rw [hpieces] at ih
    cases more with
    | nil => simpa using ih
    | cons next more =>
      rw [List.intercalate_cons_cons] at ih ⊢
      rw [List.cons_append, List.cons_append, ih]
  | case4 c rest hsep hpieces => exact absurd hpieces (pieces_ne_nil rest)

/-- A text that does not end with an ampersand is cut off whole at the separator behind it, wherever it is cut
itself. -/
theorem pieces_append {cs : List Char} (h : cs.getLast? ≠ some '&') (rest : List Char) :
    pieces (cs ++ '&' :: '&' :: rest) = pieces cs ++ pieces rest := by
  fun_induction pieces cs with
  | case1 => rfl
  | case2 cs ih =>
    cases cs with
    | nil => exact absurd rfl h
    | cons d cs => exact congrArg ([] :: ·) (ih h)
  | case3 c cs hsep piece more hpieces ih =>
    cases cs with
    | nil =>
      -- only an ampersand could take one from the separator behind it
      have hc : c ≠ '&' := fun hc => h (congrArg some hc)
      cases hpieces
      rw [List.cons_append, pieces]
      · rfl
      · intro _ hc'
        exact absurd hc' hc
    | cons d cs =>
      have htail : (d :: cs).getLast? ≠ some '&' := h
      rw [hpieces] at ih
      rw [List.cons_append, pieces, ih htail]
      · rfl
      · intro more hc hmore
        exact hsep cs hc (congrArg (· :: cs) (List.cons.inj hmore).1)
  | case4 c cs hsep hpieces ih => exact absurd hpieces (pieces_ne_nil cs)

/-- A text without a separator is one piece. -/
theorem pieces_of_not_isInfix {cs : List Char} (h : ¬ "&&".toList <:+: cs) : pieces cs = [cs] := by
  have hcs := intercalate_pieces cs
  obtain ⟨piece, more, hpieces⟩ := List.exists_cons_of_ne_nil (pieces_ne_nil cs)
  rw [hpieces] at hcs ⊢
  cases more with
  | nil => rw [← hcs, List.intercalate_singleton]
  | cons next more =>
    rw [List.intercalate_cons_cons] at hcs
    exact absurd ⟨piece, _, hcs⟩ h

/-! ### What a cut leaves -/

/-- A text holds no separator if no two neighbours in it are ampersands. -/
private theorem not_isInfix_iff_isChain {cs : List Char} :
    ¬ "&&".toList <:+: cs ↔ cs.IsChain fun c d => ¬ (c = '&' ∧ d = '&') := by
  rw [List.isChain_iff_forall_rel_of_append_cons_cons]
  constructor
  · rintro h c d before after hcs ⟨rfl, rfl⟩
    exact h ⟨before, after, by rw [hcs, List.append_assoc]; rfl⟩
  · rintro h ⟨before, after, hcs⟩
    exact h (hcs.symm.trans (List.append_assoc _ _ _)) ⟨rfl, rfl⟩

/-- Pieces that a cut from left to right can leave: no separator in any of them, and no ampersand at the end of one that
is followed by another. -/
structure IsCut (ps : List (List Char)) : Prop where
  inside : ∀ p ∈ ps, ¬ "&&".toList <:+: p
  atEnd : ps.Pairwise fun p _ => p.getLast? ≠ some '&'

/-- A character before a text that is cut stays with the first piece, unless a separator begins there. -/
private theorem IsCut.cons_head {c : Char} {cs piece : List Char} {more : List (List Char)}
    (h : IsCut (piece :: more)) (hcs : "&&".toList.intercalate (piece :: more) = cs)
    (hsep : ∀ rest, c = '&' → cs = '&' :: rest → False) : IsCut ((c :: piece) :: more) := by
  obtain ⟨hpiece, hmore⟩ := List.forall_mem_cons.1 h.inside
  obtain ⟨hlast, hpairwise⟩ := List.pairwise_cons.1 h.atEnd
  cases piece with
  | cons d piece =>
    refine ⟨List.forall_mem_cons.2 ⟨?_, hmore⟩, List.pairwise_cons.2 ⟨hlast, hpairwise⟩⟩
    rw [not_isInfix_iff_isChain] at hpiece ⊢
    refine List.isChain_cons_cons.2 ⟨?_, hpiece⟩
    rintro ⟨hc, rfl⟩
    cases more with
    | nil => exact hsep piece hc (hcs.symm.trans (List.intercalate_singleton ..))
    | cons next more =>
      rw [List.intercalate_cons_cons] at hcs
      exact hsep _ hc hcs.symm
  | nil =>
    refine ⟨List.forall_mem_cons.2 ⟨not_isInfix_iff_isChain.2 (.singleton c), hmore⟩,
      List.pairwise_cons.2 ⟨fun next hnext => ?_, hpairwise⟩⟩
    -- another piece comes after the empty one, so a separator begins the text
    cases more with
    | nil => cases hnext
    | cons next more =>
      rw [List.intercalate_cons_cons] at hcs
      intro hc
      exact hsep _ (Option.some.inj hc) hcs.symm

theorem isCut_pieces (cs : List Char) : IsCut (pieces cs) := by
  fun_induction pieces cs with
  | case1 => exact ⟨by decide, List.pairwise_singleton _ _⟩
  | case2 rest ih =>
    refine ⟨List.forall_mem_cons.2 ⟨by decide, ih.inside⟩, List.pairwise_cons.2 ⟨fun _ _ => ?_, ih.atEnd⟩⟩
    decide
  | case3 c rest hsep piece more hpieces ih =>
    rw [hpieces] at ih
    have hrest := intercalate_pieces rest
    rw [hpieces] at hrest
    exact ih.cons_head hrest fun _ hc hcs => hsep _ hc hcs
  | case4 c rest hsep hpieces => exact absurd hpieces (pieces_ne_nil rest)

namespace IsCut

variable {ps qs : List (List Char)}

theorem sublist (h : IsCut ps) (hqs : qs.Sublist ps) : IsCut qs :=
  ⟨fun p hp => h.inside p (hqs.mem hp), h.atEnd.sublist hqs⟩

/-- Pieces without ampersands can come from a cut. -/
theorem of_not_mem (h : ∀ p ∈ ps, '&' ∉ p) : IsCut ps where
  inside p hp hsep := h p hp (hsep.mem (by decide))
  atEnd := List.pairwise_of_forall_mem_list fun p hp _ _ hlast => h p hp (List.mem_of_getLast? hlast)

/-- The pieces of a cut are found again. -/
theorem pieces_intercalate (h : IsCut ps) (hne : ps ≠ []) : pieces ("&&".toList.intercalate ps) = ps := by
  induction ps with
  | nil => exact absurd rfl hne
  | cons p ps ih =>
    have hp : pieces p = [p] := pieces_of_not_isInfix (h.inside p (by simp))
    cases ps with
    | nil => rw [List.intercalate_singleton, hp]
    | cons q ps =>
      have ih := ih (h.sublist (List.sublist_cons_self ..)) (by simp)
      have hlast : p.getLast? ≠ some '&' := List.rel_of_pairwise_cons h.atEnd List.mem_cons_self
      rw [List.intercalate_cons_cons, List.append_assoc]
      calc _ = pieces p ++ pieces ("&&".toList.intercalate (q :: ps)) := pieces_append hlast _
        _ = _ := by rw [hp, ih, List.singleton_append]

/-- Put together without separators, the pieces of a cut hold none. -/
theorem flatten (h : IsCut ps) : ¬ "&&".toList <:+: ps.flatten := by
  rw [not_isInfix_iff_isChain]
  induction ps with
  | nil => exact .nil
  | cons p ps ih =>
    have hp := not_isInfix_iff_isChain.1 (h.inside p (by simp))
    refine hp.append (ih (h.sublist (List.sublist_cons_self ..))) ?_
    rintro c hc d hd ⟨rfl, rfl⟩
    -- something comes after `p`, so `p` does not end with an ampersand
    cases ps with
    | nil => cases hd
    | cons q ps => exact List.rel_of_pairwise_cons h.atEnd List.mem_cons_self hc

end IsCut

/-! ### Bounds and stages -/

theorem after?_eq_some_iff {anchor piece : List Char} {value : String} :
    after? anchor piece = some value ↔ piece = anchor ++ value.toList := by
  unfold after?
  constructor
  · intro h
    split at h
    · rename_i hanchor
      obtain ⟨rest, rfl⟩ := List.isPrefixOf_iff_prefix.1 hanchor
      simp [← Option.some.inj h]
    · cases h
  · rintro rfl
    simp

theorem after?_eq_none_iff {anchor piece : List Char} : after? anchor piece = none ↔ ¬ anchor <+: piece := by
  rw [after?, ← List.isPrefixOf_iff_prefix]
  split <;> simp_all

/-- The start that a piece sets. -/
def start? (piece : List Char) : Option String := after? "start@".toList piece

/-- The stop that a piece sets. -/
def stop? (piece : List Char) : Option String := after? "stop@".toList piece

/-- A piece that sets no bound. -/
def isStage (piece : List Char) : Bool := (start? piece).isNone && (stop? piece).isNone

theorem isStage_iff {piece : List Char} :
    isStage piece = true ↔ ¬ "start@".toList <+: piece ∧ ¬ "stop@".toList <+: piece := by
  rw [isStage, Bool.and_eq_true, Option.isNone_iff_eq_none, Option.isNone_iff_eq_none]
  exact and_congr after?_eq_none_iff after?_eq_none_iff

private theorem add_eq (range : TimeRange) (piece : List Char) :
    range.add piece =
      match start? piece, stop? piece with
      | some start, _ => { range with start }
      | none, some stop => { range with stop }
      | none, none => { range with filters := range.filters ++ String.ofList piece } := rfl

/-- No piece sets both bounds. -/
private theorem stop?_eq_none {piece : List Char} {start : String} (h : start? piece = some start) :
    stop? piece = none := by
  rw [start?, after?_eq_some_iff] at h
  rw [h]
  rfl

/-- The last piece that sets a bound wins, and the stages stay in order. -/
theorem foldl_add (ps : List (List Char)) (range : TimeRange) :
    ps.foldl add range =
      { start := (ps.filterMap start?).getLast?.getD range.start
        stop := (ps.filterMap stop?).getLast?.getD range.stop
        filters := range.filters ++ String.join ((ps.filter isStage).map String.ofList) } := by
  induction ps generalizing range with
  | nil => simp
  | cons p ps ih =>
    -- what `p` sets is the default for the pieces after it
    rw [List.foldl_cons, ih, add_eq]
    cases hstart : start? p with
    | some start =>
      have hstop := stop?_eq_none hstart
      have hstage : isStage p = false := by simp [isStage, hstart]
      simp [hstart, hstop, hstage, List.getLast?_cons]
    | none =>
      cases hstop : stop? p with
      | some stop =>
        have hstage : isStage p = false := by simp [isStage, hstop]
        simp [hstart, hstop, hstage, List.getLast?_cons]
      | none =>
        have hstage : isStage p = true := by simp [isStage, hstart, hstop]
        simp [hstart, hstop, hstage, String.append_assoc]

theorem split_eq (fragment start stop : String) :
    split fragment start stop =
      { start := ((pieces fragment.toList).filterMap start?).getLast?.getD start
        stop := ((pieces fragment.toList).filterMap stop?).getLast?.getD stop
        filters := String.join (((pieces fragment.toList).filter isStage).map String.ofList) } := by
  rw [split, foldl_add, String.empty_append]

/-! ### No separator is left -/

/-- A bound is the default, or what an anchor among the pieces says. -/
private theorem bound_cases (anchor : List Char) (ps : List (List Char)) (default : String) :
    let bound := (ps.filterMap (after? anchor)).getLast?.getD default
    (∀ p ∈ ps, ¬ anchor <+: p) ∧ bound = default ∨ anchor ++ bound.toList ∈ ps := by
  cases h : (ps.filterMap (after? anchor)).getLast? with
  | none =>
    rw [List.getLast?_eq_none_iff, List.filterMap_eq_nil_iff] at h
    exact .inl ⟨fun p hp => after?_eq_none_iff.1 (h p hp), rfl⟩
  | some value =>
    obtain ⟨p, hp, hvalue⟩ := List.mem_filterMap.1 (List.mem_of_getLast? h)
    rw [after?_eq_some_iff] at hvalue
    exact .inr (hvalue ▸ hp)

theorem toList_filters_split (fragment start stop : String) :
    (split fragment start stop).filters.toList = ((pieces fragment.toList).filter isStage).flatten := by
  rw [split_eq, String.toList_join, List.flatMap_map, List.flatten_eq_flatMap]
  exact List.flatMap_congr fun p _ => String.toList_ofList

/-- A text without separators is one stage or one anchor. -/
theorem split_eq_self_iff {filters : String} (h : ¬ "&&".toList <:+: filters.toList) (start stop : String) :
    split filters start stop = ⟨start, stop, filters⟩ ↔
      ¬ "start@".toList <+: filters.toList ∧ ¬ "stop@".toList <+: filters.toList := by
  rw [← isStage_iff, split_eq, pieces_of_not_isInfix h]
  constructor
  · intro hsplit
    by_contra hstage
    -- an anchor is taken out, and an empty text is left where one that is not empty stood
    have hempty : "" = filters := by simpa [hstage] using congrArg TimeRange.filters hsplit
    rw [← hempty] at hstage
    exact hstage (by decide)
  · intro hstage
    have hnone := hstage
    rw [isStage, Bool.and_eq_true, Option.isNone_iff_eq_none, Option.isNone_iff_eq_none] at hnone
    simp [hstage, hnone]

/-- A split leaves no separator behind: not in the stages, whatever anchors are taken out between the pieces, and not in
a bound that is set by an anchor. A second split, with the bounds that were found as the defaults, changes nothing
unless the stages begin with an anchor by now. -/
theorem split_removes_separators (fragment start stop : String) :
    let range := split fragment start stop
    ¬ "&&".toList <:+: range.filters.toList ∧
    ((∀ p ∈ pieces fragment.toList, ¬ "start@".toList <+: p) ∧ range.start = start ∨
      "start@".toList ++ range.start.toList ∈ pieces fragment.toList ∧ ¬ "&&".toList <:+: range.start.toList) ∧
    ((∀ p ∈ pieces fragment.toList, ¬ "stop@".toList <+: p) ∧ range.stop = stop ∨
      "stop@".toList ++ range.stop.toList ∈ pieces fragment.toList ∧ ¬ "&&".toList <:+: range.stop.toList) ∧
    (split range.filters range.start range.stop = range ↔
      ¬ "start@".toList <+: range.filters.toList ∧ ¬ "stop@".toList <+: range.filters.toList) := by
  intro range
  have hcut : IsCut (pieces fragment.toList) := isCut_pieces fragment.toList
  have hfilters : ¬ "&&".toList <:+: range.filters.toList := by
    rw [toList_filters_split]
    exact (hcut.sublist List.filter_sublist).flatten
  have hvalue : ∀ {anchor value : List Char}, anchor ++ value ∈ pieces fragment.toList → ¬ "&&".toList <:+: value :=
    fun hmem hsep => hcut.inside _ hmem (hsep.trans (List.suffix_append _ _).isInfix)
  have hstart := bound_cases "start@".toList (pieces fragment.toList) start
  have hstop := bound_cases "stop@".toList (pieces fragment.toList) stop
  have hrange : range = _ := split_eq fragment start stop
  refine ⟨hfilters, ?_, ?_, split_eq_self_iff hfilters _ _⟩
  · rw [hrange]
    exact hstart.imp_right fun hmem => ⟨hmem, hvalue hmem⟩
  · rw [hrange]
    exact hstop.imp_right fun hmem => ⟨hmem, hvalue hmem⟩

/-- Runs of ampersands, with anchors between them and an anchor that only the split puts together. -/
example :
    split "sta&&stop@u&v&&rt@&&&x&&&&&y&" "s" "t" = ⟨"s", "u&v", "start@&x&y&"⟩ ∧
    split "start@&x&y&" "s" "u&v" = ⟨"&x&y&", "u&v", ""⟩ := by
  decide +kernel

end FluxQuery.TimeRange
