import FluxQuery.Filter.Comparand
import FluxQuery.Proofs.Places

/-!
# What a redirection changes

A redirection looks for its target in the calls that it comes to. It goes into the arguments of a call up to the first
target, and the flag that a target was met lasts until the end of that call. The statement here has no flag and no walk:
`Searched` and `Matches` say which calls are looked at and which of them takes the value, `Effect` says what is
different afterwards, place by place, and `redirect_effect` that this is so.
-/

namespace FluxQuery

namespace Expr

variable {target : String} {id : NodeId} {function : String} {a : Expr} {args as : List Expr}

/-- A call that is looked at: every step from the root to it goes into an argument before the first target among the
arguments. -/
def Searched (target : String) (e : Expr) : Place → Prop
  | [] => ∃ id function args, e = call id function args
  | i :: p => i < e.args.findIdx (isTarget target) ∧ ∃ a, e.args[i]? = some a ∧ a.Searched target p

/-- A call that has a target among its arguments and behind it an argument that is none. -/
def Matches (target : String) (c : Expr) : Prop :=
  ∃ (i j : Nat) (a b : Expr), i < j ∧ c.args[i]? = some a ∧ a.isTarget target = true ∧ c.args[j]? = some b ∧
    b.isTarget target = false

def MatchesAt (target : String) (e : Expr) (p : Place) : Prop :=
  e.Searched target p ∧ ∃ c, e.get? p = some c ∧ c.Matches target

/-- The first call that matches, calls being in the order in which a walk is done with them. -/
def FirstMatch (target : String) (e : Expr) (p : Place) : Prop :=
  e.MatchesAt target p ∧ ∀ q, e.MatchesAt target q → q = p ∨ Before p q

/-- The number of the first argument behind the first target that is no target. -/
def valueIndex (target : String) (args : List Expr) : Nat :=
  let first := args.findIdx (isTarget target)
  first + (args.drop first).findIdx fun a => !a.isTarget target

/-- The place of that argument in the first call that matches. -/
def ValueAt (target : String) (e : Expr) (q : Place) : Prop :=
  ∃ p c, e.FirstMatch target p ∧ e.get? p = some c ∧ q = p ++ [valueIndex target c.args]

/-- A target that is an argument of a call that is looked at. -/
def TargetAt (target : String) (e : Expr) (s : Place) : Prop :=
  ∃ p i a, s = p ++ [i] ∧ e.Searched target p ∧ e.get? s = some a ∧ a.isTarget target = true

/-! ### Calls that match -/

private theorem matchesAt_call_cons {i : Nat} {p : Place} :
    (call id function args).MatchesAt target (i :: p) ↔
      i < args.findIdx (isTarget target) ∧ ∃ a, args[i]? = some a ∧ a.MatchesAt target p := by
  unfold MatchesAt
  rw [get?_call]
  constructor
  · rintro ⟨⟨hi, a, ha, hp⟩, c, hc, hmatches⟩
    have ha' : args[i]? = some a := ha
    rw [ha'] at hc
    exact ⟨hi, a, ha, hp, c, hc, hmatches⟩
  · rintro ⟨hi, a, ha, hp, c, hc, hmatches⟩
    exact ⟨⟨hi, a, ha, hp⟩, c, by rw [ha]; exact hc, hmatches⟩

private theorem matchesAt_call_nil :
    (call id function args).MatchesAt target [] ↔ (call id function args).Matches target := by
  constructor
  · rintro ⟨-, c, hc, hmatches⟩
    cases hc
    exact hmatches
  · exact fun h => ⟨⟨id, function, args, rfl⟩, _, rfl, h⟩

private theorem findIdx_cons_of_not (ha : a.isTarget target = false) :
    (a :: as).findIdx (isTarget target) = as.findIdx (isTarget target) + 1 := by
  rw [List.findIdx_cons, ha]
  rfl

private theorem findIdx_cons_of_target (ha : a.isTarget target = true) :
    (a :: as).findIdx (isTarget target) = 0 := by
  rw [List.findIdx_cons, ha]
  rfl

private theorem matchesAt_cons_zero (ha : a.isTarget target = false) {p : Place} :
    (call id function (a :: as)).MatchesAt target (0 :: p) ↔ a.MatchesAt target p := by
  rw [matchesAt_call_cons, findIdx_cons_of_not ha]
  simp

private theorem matchesAt_cons_succ (ha : a.isTarget target = false) {i : Nat} {p : Place} :
    (call id function (a :: as)).MatchesAt target ((i + 1) :: p) ↔
      (call id function as).MatchesAt target (i :: p) := by
  rw [matchesAt_call_cons, matchesAt_call_cons, findIdx_cons_of_not ha]
  simp

private theorem matches_cons (ha : a.isTarget target = false) :
    (call id function (a :: as)).Matches target ↔ (call id function as).Matches target := by
  constructor
  · rintro ⟨i, j, b, c, hij, hb, hbt, hc, hct⟩
    cases i with
    | zero =>
      cases hb
      rw [ha] at hbt
      cases hbt
    | succ i =>
      obtain ⟨j, rfl⟩ : ∃ k, j = k + 1 := ⟨j - 1, by omega⟩
      exact ⟨i, j, b, c, by omega, hb, hbt, hc, hct⟩
  · rintro ⟨i, j, b, c, hij, hb, hbt, hc, hct⟩
    exact ⟨i + 1, j + 1, b, c, by omega, hb, hbt, hc, hct⟩

private theorem matches_cons_target (ha : a.isTarget target = true) :
    (call id function (a :: as)).Matches target ↔
      (a :: as).findIdx (fun a => !a.isTarget target) < (a :: as).length := by
  rw [List.findIdx_lt_length]
  constructor
  · rintro ⟨i, j, b, c, hij, -, -, hc, hct⟩
    exact ⟨c, List.mem_of_getElem? hc, by simp [hct]⟩
  · rintro ⟨c, hc, hct⟩
    obtain ⟨j, hj⟩ := List.mem_iff_getElem?.1 hc
    refine ⟨0, j, a, c, ?_, rfl, ha, hj, by simpa using hct⟩
    cases j with
    | zero =>
      cases hj
      simp [ha] at hct
    | succ j => omega

private theorem not_matchesAt_of_target (ha : a.isTarget target = true) {i : Nat} {p : Place} :
    ¬ (call id function (a :: as)).MatchesAt target (i :: p) := by
  rw [matchesAt_call_cons, findIdx_cons_of_target ha]
  omega

/-! ### Places of targets -/

private theorem not_targetAt_nil (e : Expr) : ¬ e.TargetAt target [] := by
  rintro ⟨p, i, -, h, -⟩
  simp at h

private theorem targetAt_call_cons {i : Nat} {s : Place} :
    (call id function args).TargetAt target (i :: s) ↔
      ∃ a, args[i]? = some a ∧
        (s = [] ∧ a.isTarget target = true ∨ i < args.findIdx (isTarget target) ∧ a.TargetAt target s) := by
  constructor
  · rintro ⟨p, j, b, heq, hp, hb, hbt⟩
    rw [get?_call] at hb
    obtain ⟨a, ha, hb⟩ := Option.bind_eq_some_iff.1 hb
    refine ⟨a, ha, ?_⟩
    cases p with
    | nil =>
      obtain ⟨rfl, rfl⟩ := List.cons.inj heq
      cases hb
      exact .inl ⟨rfl, hbt⟩
    | cons k p =>
      obtain ⟨rfl, rfl⟩ := List.cons.inj heq
      obtain ⟨hlt, a', ha', hp⟩ := hp
      obtain rfl : a = a' := Option.some.inj (ha.symm.trans ha')
      exact .inr ⟨hlt, p, j, b, rfl, hp, hb, hbt⟩
  · rintro ⟨a, ha, ⟨rfl, hat⟩ | ⟨hlt, p, j, b, rfl, hp, hb, hbt⟩⟩
    · exact ⟨[], i, a, rfl, ⟨id, function, args, rfl⟩, by rw [get?_call, ha]; rfl, hat⟩
    · exact ⟨i :: p, j, b, rfl, ⟨hlt, a, ha, hp⟩, by rw [get?_call, ha]; exact hb, hbt⟩

private theorem targetAt_cons_zero (ha : a.isTarget target = false) {s : Place} :
    (call id function (a :: as)).TargetAt target (0 :: s) ↔ a.TargetAt target s := by
  rw [targetAt_call_cons, findIdx_cons_of_not ha]
  simp [ha]

private theorem targetAt_cons_succ (ha : a.isTarget target = false) {i : Nat} {s : Place} :
    (call id function (a :: as)).TargetAt target ((i + 1) :: s) ↔
      (call id function as).TargetAt target (i :: s) := by
  rw [targetAt_call_cons, targetAt_call_cons, findIdx_cons_of_not ha]
  simp

private theorem targetAt_cons_target (ha : a.isTarget target = true) {i : Nat} {s : Place} :
    (call id function (a :: as)).TargetAt target (i :: s) ↔
      s = [] ∧ ∃ b, (a :: as)[i]? = some b ∧ b.isTarget target = true := by
  rw [targetAt_call_cons, findIdx_cons_of_target ha]
  constructor
  · rintro ⟨b, hb, ⟨rfl, hbt⟩ | ⟨hlt, -⟩⟩
    · exact ⟨rfl, b, hb, hbt⟩
    · omega
  · rintro ⟨rfl, b, hb, hbt⟩
    exact ⟨b, hb, .inl ⟨rfl, hbt⟩⟩

end Expr

/-- The same place once another child has been put before all others. -/
def Place.shift : Place → Place
  | [] => []
  | i :: p => (i + 1) :: p

namespace Expr

variable {target : String} {id : NodeId} {function : String} {a : Expr} {args as : List Expr}

/-! ### The place of the value -/

private theorem valueIndex_cons (ha : a.isTarget target = false) :
    valueIndex target (a :: as) = valueIndex target as + 1 := by
  unfold valueIndex
  rw [findIdx_cons_of_not ha]
  simp only [List.drop_succ_cons]
  omega

private theorem valueIndex_cons_target (ha : a.isTarget target = true) :
    valueIndex target (a :: as) = (a :: as).findIdx fun a => !a.isTarget target := by
  unfold valueIndex
  rw [findIdx_cons_of_target ha]
  simp

private theorem ValueAt.ne_nil {e : Expr} {q : Place} (h : e.ValueAt target q) : q ≠ [] := by
  obtain ⟨p, c, -, -, rfl⟩ := h
  simp

private theorem ValueAt.cons_pass (ha : a.isTarget target = false) (hnone : ∀ p, ¬ a.MatchesAt target p) {q : Place}
    (h : (call id function as).ValueAt target q) : (call id function (a :: as)).ValueAt target q.shift := by
  obtain ⟨p, c, ⟨hmatch, hfirst⟩, hc, rfl⟩ := h
  -- the calls that match are the old ones, in the same order
  have hbefore : ∀ s, (call id function (a :: as)).MatchesAt target s → s = p.shift ∨ Before p.shift s := by
    intro s hs
    rcases s with _ | ⟨_ | i, s⟩
    · have hs' := matchesAt_call_nil.2 ((matches_cons ha).1 (matchesAt_call_nil.1 hs))
      cases p with
      | nil => exact .inl rfl
      | cons i p => exact .inr (before_nil _ _)
    · exact absurd ((matchesAt_cons_zero ha).1 hs) (hnone s)
    · have hs' := hfirst _ ((matchesAt_cons_succ ha).1 hs)
      cases p with
      | nil =>
        rcases hs' with hs' | hs' | ⟨_, _, hs'⟩
        · cases hs'
        · exact absurd hs' (not_leftOf_nil _)
        · cases hs'
      | cons j p =>
        rw [before_cons_iff, List.cons.injEq] at hs'
        rw [Place.shift, before_cons_iff, List.cons.injEq, Nat.add_right_cancel_iff, Nat.add_right_cancel_iff,
          Nat.add_lt_add_iff_right]
        exact hs'
  cases p with
  | nil =>
    cases hc
    refine ⟨[], _, ⟨matchesAt_call_nil.2 ((matches_cons ha).2 (matchesAt_call_nil.1 hmatch)), hbefore⟩, rfl, ?_⟩
    simp [args, valueIndex_cons ha, Place.shift]
  | cons i p => exact ⟨(i + 1) :: p, c, ⟨(matchesAt_cons_succ ha).2 hmatch, hbefore⟩, hc, rfl⟩

private theorem ValueAt.cons_stop (ha : a.isTarget target = false) {q : Place} (h : a.ValueAt target q) :
    (call id function (a :: as)).ValueAt target (0 :: q) := by
  obtain ⟨p, c, ⟨hmatch, hfirst⟩, hc, rfl⟩ := h
  refine ⟨0 :: p, c, ⟨(matchesAt_cons_zero ha).2 hmatch, fun s hs => ?_⟩, hc, rfl⟩
  rcases s with _ | ⟨_ | i, s⟩
  · exact .inr (before_nil _ _)
  · rw [before_cons_iff, List.cons.injEq]
    rcases hfirst s ((matchesAt_cons_zero ha).1 hs) with rfl | hs
    · exact .inl ⟨rfl, rfl⟩
    · exact .inr (.inr ⟨rfl, hs⟩)
  · exact .inr (before_cons_iff.2 (.inl (by omega)))

private theorem ValueAt.cons_target (ha : a.isTarget target = true)
    (h : (a :: as).findIdx (fun a => !a.isTarget target) < (a :: as).length) :
    (call id function (a :: as)).ValueAt target [(a :: as).findIdx fun a => !a.isTarget target] := by
  have hmatch : (call id function (a :: as)).MatchesAt target [] :=
    matchesAt_call_nil.2 ((matches_cons_target ha).2 h)
  refine ⟨[], _, ⟨hmatch, fun s hs => ?_⟩, rfl, ?_⟩
  · cases s with
    | nil => exact .inl rfl
    | cons i s => exact absurd hs (not_matchesAt_of_target ha)
  · rw [Expr.args, valueIndex_cons_target ha]
    rfl

namespace Redirection

variable {r : Redirection}

/-! ### The effect on a call, argument by argument -/

/-- What is different in `e'`, with the value put in the place `place?`, if there is one. There a string takes the place
of the node and keeps its id. The targets to the left of it have the new name under their old ids. All else that is not
below it is as it was. -/
structure Effect (r : Redirection) (e e' : Expr) (place? : Option Place) : Prop where
  overwritten : ∀ q ∈ place?, ∃ n, e.get? q = some n ∧ n.isTarget r.target = false ∧
    e'.get? q = some (const n.id (.string r.value))
  renamed : ∀ s, e.TargetAt r.target s → (∀ q ∈ place?, LeftOf s q) →
    ∃ id name, e.get? s = some (ident id name) ∧ e'.get? s = some (ident id r.name)
  kept : ∀ s, (∀ q ∈ place?, ¬ q <+: s) → ¬ (e.TargetAt r.target s ∧ ∀ q ∈ place?, LeftOf s q) →
    e'.label? s = e.label? s

private theorem effect_self {e : Expr} (h : ∀ s, ¬ e.TargetAt r.target s) : r.Effect e e none where
  overwritten := by simp
  renamed s hs := absurd hs (h s)
  kept _ _ _ := rfl

/-- The walk goes past an argument and finds its place, if any, among the others. -/
private theorem Effect.cons_pass {a' : Expr} {as' : List Expr} {place? : Option Place}
    (ha : a.isTarget r.target = false) (hhead : r.Effect a a' none) (hne : ∀ q ∈ place?, q ≠ [])
    (htail : r.Effect (call id function as) (call id function as') place?) :
    r.Effect (call id function (a :: as)) (call id function (a' :: as')) (place?.map Place.shift) := by
  have hleft (i : Nat) (s : Place) :
      (∀ q ∈ place?.map Place.shift, LeftOf ((i + 1) :: s) q) ↔ ∀ q ∈ place?, LeftOf (i :: s) q := by
    cases place? with
    | none => simp
    | some q =>
      cases q with
      | nil => simp [Place.shift, not_leftOf_nil_right]
      | cons j q => simp [Place.shift, leftOf_cons_iff]
  constructor
  · intro q hq
    obtain ⟨q, hmem, rfl⟩ := Option.map_eq_some_iff.1 hq
    cases q with
    | nil => exact absurd rfl (hne [] hmem)
    | cons i q => exact htail.overwritten _ hmem
  · intro s hs hq
    rcases s with _ | ⟨_ | i, s⟩
    · exact absurd hs (not_targetAt_nil _)
    · exact hhead.renamed s ((targetAt_cons_zero ha).1 hs) (by simp)
    · exact htail.renamed (i :: s) ((targetAt_cons_succ ha).1 hs) ((hleft i s).1 hq)
  · intro s hq hs
    rcases s with _ | ⟨_ | i, s⟩
    · have hroot := htail.kept [] (fun q hq => by simpa using hne q hq) fun h => not_targetAt_nil _ h.1
      simp only [label?_nil, label, Option.some.injEq, Label.call.injEq, true_and] at hroot
      simp [label, hroot]
    · refine hhead.kept s (by simp) fun h => hs ⟨(targetAt_cons_zero ha).2 h.1, fun q hq => ?_⟩
      obtain ⟨q, hmem, rfl⟩ := Option.map_eq_some_iff.1 hq
      cases q with
      | nil => exact absurd rfl (hne [] hmem)
      | cons i q => exact .inl (by omega)
    · refine htail.kept (i :: s) (fun q hmem hprefix => ?_)
        fun h => hs ⟨(targetAt_cons_succ ha).2 h.1, (hleft i s).2 h.2⟩
      refine hq q.shift (Option.map_eq_some_iff.2 ⟨q, hmem, rfl⟩) ?_
      cases q with
      | nil => exact List.nil_prefix
      | cons j q =>
        rw [List.cons_prefix_cons] at hprefix
        rw [Place.shift, List.cons_prefix_cons]
        exact ⟨by omega, hprefix.2⟩

/-- The walk puts the value into an argument and does not look at the others. -/
private theorem Effect.cons_stop {a' : Expr} {q : Place} (ha : a.isTarget r.target = false)
    (hhead : r.Effect a a' (some q)) :
    r.Effect (call id function (a :: as)) (call id function (a' :: as)) (some (0 :: q)) := by
  constructor
  · rintro _ ⟨⟩
    exact hhead.overwritten q rfl
  · intro s hs hq
    rcases s with _ | ⟨_ | i, s⟩
    · exact absurd hs (not_targetAt_nil _)
    · refine hhead.renamed s ((targetAt_cons_zero ha).1 hs) ?_
      rintro _ ⟨⟩
      simpa [leftOf_cons_iff] using hq _ rfl
    · have hlt := hq _ rfl
      simp [leftOf_cons_iff] at hlt
  · intro s hq hs
    rcases s with _ | ⟨_ | i, s⟩
    · simp [label]
    · refine hhead.kept s ?_ fun h => hs ⟨(targetAt_cons_zero ha).2 h.1, ?_⟩
      · rintro _ ⟨⟩ hprefix
        exact hq _ rfl (List.cons_prefix_cons.2 ⟨rfl, hprefix⟩)
      · rintro _ ⟨⟩
        exact .inr ⟨rfl, h.2 q rfl⟩
    · rfl

/-! ### The arguments from the first target on -/

/-- What becomes of argument `i` behind a target: the targets up to `stop` are renamed, and `stop` takes the value. -/
private def behind (r : Redirection) (stop i : Nat) (a : Expr) : Expr :=
  if i < stop then ident a.id r.name else if i = stop then const a.id (.string r.value) else a

private theorem behind_succ (stop i : Nat) : r.behind (stop + 1) (i + 1) = r.behind stop i := by
  funext a
  simp [behind]

private theorem behind_of_lt {stop i : Nat} (h : stop < i) : r.behind stop i = fun a => a := by
  funext a
  rw [behind, if_neg (by omega), if_neg (by omega)]

theorem redirectFrom_target (met : Bool) (ha : a.isTarget r.target = true) :
    a.redirectFrom r met = ⟨ident a.id r.name, "", true⟩ := by
  unfold redirectFrom
  rw [if_pos ha]

theorem redirectFrom_met (ha : a.isTarget r.target = false) :
    a.redirectFrom r true = ⟨const a.id (.string r.value), r.value, true⟩ := by
  unfold redirectFrom
  rw [ha, if_neg Bool.false_ne_true, if_pos rfl]

theorem redirectArgs_target (met : Bool) (ha : a.isTarget r.target = true) (as : List Expr) :
    redirectArgs r met (a :: as) =
      ⟨ident a.id r.name :: (redirectArgs r true as).node, (redirectArgs r true as).value,
        (redirectArgs r true as).met⟩ := by
  simp [redirectArgs, redirectFrom_target met ha]

theorem redirectArgs_met (hvalue : r.value ≠ "") (ha : a.isTarget r.target = false) (as : List Expr) :
    redirectArgs r true (a :: as) = ⟨const a.id (.string r.value) :: as, r.value, true⟩ := by
  simp [redirectArgs, redirectFrom_met ha, hvalue]

private theorem node_redirectArgs_met (hvalue : r.value ≠ "") (args : List Expr) :
    (redirectArgs r true args).node = args.mapIdx (r.behind (args.findIdx fun a => !a.isTarget r.target)) := by
  induction args with
  | nil => rfl
  | cons a args ih =>
    rw [List.mapIdx_cons, List.findIdx_cons]
    cases ha : a.isTarget r.target with
    | true =>
      rw [redirectArgs_target true ha, ih]
      simp [behind, behind_succ]
    | false =>
      rw [redirectArgs_met hvalue ha]
      exact congrArg (_ :: ·) (List.ext_getElem? (by simp [behind_of_lt]))

/-- The value is put behind the target if an argument follows that is no target. -/
private theorem end_redirectArgs_met (hvalue : r.value ≠ "") (args : List Expr) :
    ((redirectArgs r true args).value = r.value ∧ (redirectArgs r true args).met = true ∧
      args.findIdx (fun a => !a.isTarget r.target) < args.length) ∨
    ((redirectArgs r true args).value = "" ∧ (redirectArgs r true args).met = false ∧
      args.findIdx (fun a => !a.isTarget r.target) = args.length) := by
  induction args with
  | nil => exact .inr ⟨rfl, rfl, rfl⟩
  | cons a args ih =>
    cases ha : a.isTarget r.target with
    | true =>
      rw [redirectArgs_target true ha, List.findIdx_cons, ha]
      simpa using ih
    | false =>
      rw [redirectArgs_met hvalue ha, List.findIdx_cons, ha]
      exact .inl ⟨rfl, rfl, by simp⟩

private theorem exists_ident_of_lt {args : List Expr} {i : Nat} {n : Expr}
    (hi : i < args.findIdx fun a => !a.isTarget target) (hn : args[i]? = some n) :
    n.isTarget target = true ∧ ∃ j name, n = ident j name := by
  obtain ⟨hlt, rfl⟩ := List.getElem?_eq_some_iff.1 hn
  have htarget : args[i].isTarget target = true := by simpa using List.not_of_lt_findIdx hi
  refine ⟨htarget, ?_⟩
  cases hnode : args[i] with
  | ident j name => exact ⟨j, name, rfl⟩
  | _ =>
    rw [hnode] at htarget
    cases htarget

/-- From the first target on, the arguments themselves change, and nothing below them. -/
private theorem Effect.cons_target {stop : Nat} (ha : a.isTarget r.target = true)
    (hstop : (a :: as).findIdx (fun a => !a.isTarget r.target) = stop) :
    r.Effect (call id function (a :: as)) (call id function ((a :: as).mapIdx (r.behind stop)))
      (if stop < (a :: as).length then some [stop] else none) := by
  have hargs (i : Nat) := List.getElem?_mapIdx (l := a :: as) (f := r.behind stop) (i := i)
  constructor
  · intro q hq
    split at hq
    · rename_i hlt
      cases hq
      have hn := List.getElem?_eq_getElem hlt
      refine ⟨(a :: as)[stop], by rw [get?_call, hn]; rfl, ?_, ?_⟩
      · subst hstop
        simpa using List.findIdx_getElem (w := hlt)
      · rw [get?_call, hargs, hn]
        simp [behind]
    · cases hq
  · intro s hs hq
    cases s with
    | nil => exact absurd hs (not_targetAt_nil _)
    | cons i s =>
      obtain ⟨rfl, n, hn, -⟩ := (targetAt_cons_target ha).1 hs
      have hlength := (List.getElem?_eq_some_iff.1 hn).1
      have hi : i < stop := by
        split at hq
        · simpa [leftOf_cons_iff, not_leftOf_nil] using hq [stop] rfl
        · omega
      obtain ⟨-, j, name, rfl⟩ := exists_ident_of_lt (hstop ▸ hi) hn
      refine ⟨j, name, by rw [get?_call, hn]; rfl, ?_⟩
      rw [get?_call, hargs, hn]
      simp [behind, hi, Expr.id]
  · intro s hq hs
    cases s with
    | nil =>
      simp [label]
    | cons i s =>
      rw [label?, label?, get?_call, get?_call, hargs]
      cases hn : (a :: as)[i]? with
      | none => rfl
      | some n =>
        have hlength := (List.getElem?_eq_some_iff.1 hn).1
        rcases Nat.lt_trichotomy i stop with hi | rfl | hi
        · obtain ⟨hnt, j, name, rfl⟩ := exists_ident_of_lt (hstop ▸ hi) hn
          cases s with
          | nil =>
            refine absurd ⟨(targetAt_cons_target ha).2 ⟨rfl, _, hn, hnt⟩, ?_⟩ hs
            intro q hmem
            split at hmem
            · cases hmem
              exact .inl hi
            · cases hmem
          | cons k s => simp [behind, hi, get?_cons, children]
        · refine absurd ?_ (hq [i] (if_pos hlength))
          exact List.cons_prefix_cons.2 ⟨rfl, List.nil_prefix⟩
        · simp [behind_of_lt hi]

/-! ### The walk -/

/-- How a walk over `e` ends: with nothing found, or with the value in its place. -/
inductive Ends (r : Redirection) (e : Expr) : Redirected Expr → Prop where
  | passed {e' : Expr} : (∀ p, ¬ e.MatchesAt r.target p) → r.Effect e e' none → Ends r e ⟨e', "", false⟩
  | stopped {e' : Expr} {q : Place} : e.ValueAt r.target q → r.Effect e e' (some q) → Ends r e ⟨e', r.value, true⟩

private theorem ends_leaf {e : Expr} (h : ∀ id function args, e ≠ call id function args) : r.Ends e ⟨e, "", false⟩ := by
  have hnone : ∀ p, ¬ e.Searched r.target p := by
    rintro (_ | ⟨i, p⟩)
    · rintro ⟨id, function, args, rfl⟩
      exact h id function args rfl
    · rintro ⟨hi, -⟩
      cases e with
      | call id function args => exact h id function args rfl
      | _ => exact Nat.not_lt_zero i hi
  refine .passed (fun p hp => hnone p hp.1) (effect_self ?_)
  rintro s ⟨p, i, a, -, hp, -⟩
  exact hnone p hp

private theorem ends_call (hvalue : r.value ≠ "") (args : List Expr)
    (h : ∀ a ∈ args, a.isTarget r.target = false → r.Ends a (a.redirectFrom r false)) :
    r.Ends (call id function args)
      ⟨call id function (redirectArgs r false args).node, (redirectArgs r false args).value,
        (redirectArgs r false args).met⟩ := by
  induction args with
  | nil =>
    refine .passed (fun p hp => ?_) (effect_self fun s hs => ?_)
    · rcases p with _ | ⟨i, p⟩
      · obtain ⟨i, j, a, b, -, ha, -⟩ := matchesAt_call_nil.1 hp
        cases ha
      · exact absurd (matchesAt_call_cons.1 hp).1 (Nat.not_lt_zero i)
    · rcases s with _ | ⟨i, s⟩
      · exact not_targetAt_nil _ hs
      · obtain ⟨a, ha, -⟩ := targetAt_call_cons.1 hs
        cases ha
  | cons a as ih =>
    obtain ⟨ha, has⟩ := List.forall_mem_cons.1 h
    cases hat : a.isTarget r.target with
    | true =>
      have hmet : redirectArgs r false (a :: as) = redirectArgs r true (a :: as) := by
        rw [redirectArgs_target false hat, redirectArgs_target true hat]
      have heffect : r.Effect (call id function (a :: as)) _ _ := .cons_target hat rfl
      rw [hmet, node_redirectArgs_met hvalue]
      rcases end_redirectArgs_met hvalue (a :: as) with ⟨hv, hm, hlt⟩ | ⟨hv, hm, heq⟩
      · rw [if_pos hlt] at heffect
        rw [hv, hm]
        exact .stopped (.cons_target hat hlt) heffect
      · rw [if_neg (by omega)] at heffect
        rw [hv, hm]
        refine .passed (fun p hp => ?_) heffect
        cases p with
        | nil => exact absurd ((matches_cons_target hat).1 (matchesAt_call_nil.1 hp)) (by omega)
        | cons i p => exact not_matchesAt_of_target hat hp
    | false =>
      specialize ha hat
      specialize ih has
      rw [redirectArgs]
      generalize a.redirectFrom r false = here at ha ⊢
      cases ha with
      | stopped hplace heffect =>
        simp only [ne_eq, hvalue, not_false_eq_true, and_self, if_true]
        exact .stopped (.cons_stop hat hplace) (.cons_stop hat heffect)
      | passed hnone heffect =>
        simp only [ne_eq, not_true_eq_false, false_and, if_false]
        generalize redirectArgs r false as = rest at ih ⊢
        obtain ⟨node, value, met⟩ := rest
        cases ih with
        | stopped hplace htail =>
          exact .stopped (.cons_pass hat hnone hplace)
            (.cons_pass hat heffect (by rintro _ ⟨⟩; exact hplace.ne_nil) htail)
        | passed hnone' htail =>
          refine .passed (fun p hp => ?_) (.cons_pass hat heffect (by simp) htail)
          rcases p with _ | ⟨_ | i, p⟩
          · exact hnone' [] (matchesAt_call_nil.2 ((matches_cons hat).1 (matchesAt_call_nil.1 hp)))
          · exact hnone p ((matchesAt_cons_zero hat).1 hp)
          · exact hnone' (i :: p) ((matchesAt_cons_succ hat).1 hp)

theorem redirectFrom_leaf {e : Expr} (h : ∀ id function args, e ≠ call id function args)
    (he : e.isTarget r.target = false) : e.redirectFrom r false = ⟨e, "", false⟩ := by
  unfold redirectFrom
  rw [he, if_neg Bool.false_ne_true, if_neg Bool.false_ne_true]
  split
  · exact absurd rfl (h _ _ _)
  · rfl

theorem ends_redirectFrom (hvalue : r.value ≠ "") (e : Expr) (he : e.isTarget r.target = false) :
    r.Ends e (e.redirectFrom r false) := by
  induction e using children_induction with
  | step e ih =>
    cases e with
    | call id function args =>
      rw [redirectFrom, he]
      exact ends_call hvalue args ih
    | _ =>
      rw [redirectFrom_leaf (by simp) he]
      exact ends_leaf (by simp)

end Redirection

/-- A redirection with a value that is not empty, of an expression that is not the target itself. It gives the value
exactly if a call that is looked at matches. In the first such call the value takes the place of the first argument
behind the first target that is none, nothing to the right of this place changes, and to the left of it the targets
among the arguments of the calls that are looked at get the new name. If there is no such call, all these targets get
it. -/
theorem redirect_effect (e : Expr) (r : Redirection) (he : e.isTarget r.target = false) (hvalue : r.value ≠ "") :
    ((e.redirect r).2 = some r.value ↔ ∃ p, e.MatchesAt r.target p) ∧
    ((e.redirect r).2 = none ↔ ¬ ∃ p, e.MatchesAt r.target p) ∧
    ((∃ p, e.MatchesAt r.target p) → ∃ q, e.ValueAt r.target q ∧ r.Effect e (e.redirect r).1 (some q) ∧
      ∀ s, LeftOf q s → (e.redirect r).1.get? s = e.get? s) ∧
    ((¬ ∃ p, e.MatchesAt r.target p) → r.Effect e (e.redirect r).1 none) := by
  have hends := Redirection.ends_redirectFrom hvalue e he
  unfold redirect
  generalize e.redirectFrom r false = after at hends
  cases hends with
  | passed hnone heffect =>
    have hnone : ¬ ∃ p, e.MatchesAt r.target p := fun ⟨p, hp⟩ => hnone p hp
    exact ⟨⟨nofun, fun h => absurd h hnone⟩, ⟨fun _ => hnone, fun _ => rfl⟩, fun h => absurd h hnone, fun _ => heffect⟩
  | stopped hplace heffect =>
    have hmatch : ∃ p, e.MatchesAt r.target p := by
      obtain ⟨p, c, hfirst, -⟩ := hplace
      exact ⟨p, hfirst.1⟩
    refine ⟨⟨fun _ => hmatch, fun _ => rfl⟩, ⟨nofun, fun h => absurd hmatch h⟩,
      fun _ => ⟨_, hplace, heffect, fun s hs => ?_⟩, fun h => absurd hmatch h⟩
    -- whatever is below a place to the right is to the right as well
    refine get?_eq_of_labels fun below => heffect.kept (s ++ below) ?_ fun h => ?_
    · rintro _ ⟨⟩
      exact (hs.append below).not_isPrefix
    · exact (hs.append below).asymm (h.2 _ rfl)

/-- The target is the last argument of the first comparison and stands three times in the second one. -/
private def corridor : Expr :=
  .call 9 "AND"
    [.call 3 "=" [.ident 1 "zone", .ident 2 "doorId"],
      .call 8 "!=" [.ident 4 "doorId", .ident 5 "DoorID", .list 6 [], .ident 7 "door_id"]]

private def closing : Redirection := ⟨"door_id", "gate", "north"⟩

theorem redirect_effect_corridor :
    corridor.isTarget closing.target = false ∧ closing.value ≠ "" ∧ corridor.MatchesAt closing.target [1] ∧
    (corridor.redirect closing).2 = some "north" ∧
    (∃ q, corridor.ValueAt closing.target q ∧ closing.Effect corridor (corridor.redirect closing).1 (some q) ∧
      ∀ s, LeftOf q s → (corridor.redirect closing).1.get? s = corridor.get? s) ∧
    (corridor.redirect closing).1 = .call 9 "AND"
      [.call 3 "=" [.ident 1 "zone", .ident 2 "gate"],
        .call 8 "!=" [.ident 4 "gate", .ident 5 "gate", .const 6 (.string "north"), .ident 7 "door_id"]] := by
  have hroot : corridor.isTarget closing.target = false := rfl
  have hvalue : closing.value ≠ "" := by decide
  have hmatch : corridor.MatchesAt closing.target [1] :=
    ⟨⟨by decide +kernel, _, rfl, _, _, _, rfl⟩, _, rfl, 0, 2, _, _, by decide, rfl, by decide +kernel, rfl, rfl⟩
  obtain ⟨hsome, -, heffect, -⟩ := redirect_effect corridor closing hroot hvalue
  exact ⟨hroot, hvalue, hmatch, hsome.2 ⟨_, hmatch⟩, heffect ⟨_, hmatch⟩, by decide +kernel⟩

end Expr

end FluxQuery
