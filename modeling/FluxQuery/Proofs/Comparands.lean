import FluxQuery.Proofs.Overwriting

/-!
# The values of an identifier

The walk that reads the value of an identifier carries a flag from argument to argument and forgets it at the end of a
call. `Expr.comparands` has no flag: it lists every string that the target is compared with, and the walk gives the
first of them (`seek_eq_ending`). A redirection walks with the same flag. Over the tree that it leaves, the reading walk
takes the same steps again under the new name (`seek_redirectFrom`), and so it comes to the value that was put there.
-/

namespace FluxQuery.Expr

variable {target : String} {e : Expr}

/-! ### One step of the reading walk -/

theorem seek_of_target (h : e.isTarget target = true) (met : Bool) : e.seek target met = ("", true) := by
  unfold seek
  rw [if_pos h]

theorem string_of_target (h : e.isTarget target = true) : e.string = "" := by
  cases e with
  | ident id name => rfl
  | _ => cases h

/-- Behind a target every argument gives its string, and another target gives none. -/
theorem seek_met (e : Expr) : e.seek target true = (e.string, true) := by
  by_cases h : e.isTarget target = true
  · rw [seek_of_target h, string_of_target h]
  · unfold seek
    rw [if_neg h, if_pos rfl]

theorem seek_call (id : NodeId) (function : String) (args : List Expr) :
    (call id function args).seek target false = seekArgs target false args := rfl

theorem seek_leaf (h : ∀ id function args, e ≠ call id function args) (he : e.isTarget target = false) :
    e.seek target false = ("", false) := by
  unfold seek
  rw [he, if_neg Bool.false_ne_true, if_neg Bool.false_ne_true]
  split
  · exact absurd rfl (h _ _ _)
  · rfl

/-! ### The list of all values -/

/-- The strings among the arguments, without the empty ones. -/
def strings (args : List Expr) : List String := (args.map string).filter (· ≠ "")

mutual

/-- Every string that the target is compared with, from left to right. A call gives what the arguments before its first
target give, and then the strings behind that target. -/
def comparands (target : String) : Expr → List String
  | call _ _ args => comparandsOf target args
  | _ => []

def comparandsOf (target : String) : List Expr → List String
  | [] => []
  | a :: as => if a.isTarget target then strings as else a.comparands target ++ comparandsOf target as

end

theorem comparandsOf_target {a : Expr} (ha : a.isTarget target = true) (as : List Expr) :
    comparandsOf target (a :: as) = strings as := by
  rw [comparandsOf, if_pos ha]

theorem comparandsOf_cons {a : Expr} (ha : a.isTarget target = false) (as : List Expr) :
    comparandsOf target (a :: as) = a.comparands target ++ comparandsOf target as := by
  rw [comparandsOf, ha, if_neg Bool.false_ne_true]

private theorem ne_empty_of_mem_strings {args : List Expr} {value : String} (h : value ∈ strings args) :
    value ≠ "" := by
  have hmem := (List.mem_filter.1 h).2
  simpa using hmem

private theorem ne_empty_of_mem_comparandsOf {args : List Expr}
    (h : ∀ a ∈ args, ∀ value ∈ a.comparands target, value ≠ "") : ∀ value ∈ comparandsOf target args, value ≠ "" := by
  induction args with
  | nil => simp [comparandsOf]
  | cons a as ih =>
    obtain ⟨ha, has⟩ := List.forall_mem_cons.1 h
    intro value hvalue
    by_cases hat : a.isTarget target = true
    · rw [comparandsOf_target hat] at hvalue
      exact ne_empty_of_mem_strings hvalue
    · rw [comparandsOf_cons (by simpa using hat)] at hvalue
      rcases List.mem_append.1 hvalue with hvalue | hvalue
      · exact ha value hvalue
      · exact ih has value hvalue

/-- No value is empty, so that the walk cannot take a value for the sign that there was none. -/
theorem ne_empty_of_mem_comparands (e : Expr) : ∀ value ∈ e.comparands target, value ≠ "" := by
  induction e using children_induction with
  | step e ih =>
    cases e with
    | call id function args => exact ne_empty_of_mem_comparandsOf ih
    | _ => simp [comparands]

/-- How a walk ends that is to give the first of some values. -/
def ending : List String → String × Bool
  | [] => ("", false)
  | value :: _ => (value, true)

theorem seekArgs_met (args : List Expr) : seekArgs target true args = ending (strings args) := by
  induction args with
  | nil => rfl
  | cons a as ih =>
    rw [seekArgs, seek_met]
    by_cases ha : a.string = ""
    · simp [ha, ih, strings]
    · simp [ha, strings, ending]

private theorem seekArgs_eq_ending {args : List Expr}
    (h : ∀ a ∈ args, a.isTarget target = false → a.seek target false = ending (a.comparands target)) :
    seekArgs target false args = ending (comparandsOf target args) := by
  induction args with
  | nil => rfl
  | cons a as ih =>
    obtain ⟨ha, has⟩ := List.forall_mem_cons.1 h
    by_cases hat : a.isTarget target = true
    · rw [seekArgs, seek_of_target hat, comparandsOf_target hat]
      simp [seekArgs_met]
    · have hat : a.isTarget target = false := by simpa using hat
      rw [seekArgs, ha hat, comparandsOf_cons hat]
      cases hvalues : a.comparands target with
      | nil => simp [ending, ih has]
      | cons value rest =>
        have hmem : value ∈ a.comparands target := by simp [hvalues]
        have hne : value ≠ "" := ne_empty_of_mem_comparands a value hmem
        simp [ending, hne]

/-- The flag carries nothing that the list of values does not show. -/
theorem seek_eq_ending (e : Expr) (he : e.isTarget target = false) :
    e.seek target false = ending (e.comparands target) := by
  induction e using children_induction with
  | step e ih =>
    cases e with
    | call id function args =>
      rw [seek_call, comparands]
      exact seekArgs_eq_ending ih
    | _ =>
      rw [seek_leaf (by simp) he]
      rfl

theorem comparand?_of_not_target (he : e.isTarget target = false) :
    e.comparand? target = (e.comparands target).head? := by
  unfold comparand?
  rw [seek_eq_ending e he]
  cases e.comparands target with
  | nil => rfl
  | cons value rest => rfl

/-- The value of an identifier is the first of all strings that it is compared with. If the identifier is the whole
expression, its value is empty. -/
theorem comparand?_eq_head? (e : Expr) (target : String) :
    e.comparand? target = if e.isTarget target then some "" else (e.comparands target).head? := by
  by_cases he : e.isTarget target = true
  · unfold comparand?
    rw [seek_of_target he, if_pos he]
    rfl
  · rw [comparand?_of_not_target (by simpa using he), if_neg he]

/-- A number is no string, a timestamp hides its string, and neither ends the search. -/
example : (call 9 "AND"
    [call 4 "=" [ident 1 "doorId", const 2 (.int 3), call 3 "timestamp" [const 0 (.string "t")]],
      call 8 "=" [ident 5 "door_id", const 6 (.string ""), const 7 (.string "north")]]).comparand? "door_id" =
    some "north" := by
  decide +kernel

/-! ### Reading after a redirection -/

namespace Redirection

variable {r : Redirection}

/-- The new name stands only where the target stands. -/
def Fresh (r : Redirection) (e : Expr) : Prop :=
  ∀ n ∈ e.nodes, n.isTarget (snakeCase r.name) = true → n.isTarget r.target = true

private theorem Fresh.child {c : Expr} (h : r.Fresh e) (hc : c ∈ e.children) : r.Fresh c := by
  intro n hn
  exact h n (mem_nodes_iff.2 (.inr ⟨c, hc, hn⟩))

private theorem Fresh.self (h : r.Fresh e) (he : e.isTarget r.target = false) :
    e.isTarget (snakeCase r.name) = false := by
  cases hnew : e.isTarget (snakeCase r.name) with
  | false => rfl
  | true =>
    rw [h e (self_mem_nodes e) hnew] at he
    cases he

/-- Argument by argument both walks see the same value and the same flag, so that they stop at the same argument. -/
private theorem seekArgs_redirectArgs {args : List Expr}
    (h : ∀ a ∈ args, ∀ met, (a.redirectFrom r met).node.seek (snakeCase r.name) met =
      ((a.redirectFrom r met).value, (a.redirectFrom r met).met)) (met : Bool) :
    seekArgs (snakeCase r.name) met (redirectArgs r met args).node =
      ((redirectArgs r met args).value, (redirectArgs r met args).met) := by
  induction args generalizing met with
  | nil => rfl
  | cons a as ih =>
    obtain ⟨ha, has⟩ := List.forall_mem_cons.1 h
    rw [redirectArgs]
    by_cases hstop : (a.redirectFrom r met).value ≠ "" ∧ (a.redirectFrom r met).met = true
    · simp only [if_pos hstop]
      rw [seekArgs, ha]
      simp only [if_pos hstop]
    · simp only [if_neg hstop]
      rw [seekArgs, ha]
      simp only [if_neg hstop]
      exact ih has _

/-- The reading walk over what a redirection has made of a node ends as the redirection did. -/
theorem seek_redirectFrom (e : Expr) (hfresh : r.Fresh e) (met : Bool) :
    (e.redirectFrom r met).node.seek (snakeCase r.name) met =
      ((e.redirectFrom r met).value, (e.redirectFrom r met).met) := by
  induction e using children_induction generalizing met with
  | step e ih =>
    by_cases he : e.isTarget r.target = true
    · have hident : (ident e.id r.name).isTarget (snakeCase r.name) = true := by simp [isTarget]
      rw [redirectFrom_target met he, seek_of_target hident]
    · have he : e.isTarget r.target = false := by simpa using he
      cases met with
      | true =>
        rw [redirectFrom_met he, seek_met]
        rfl
      | false =>
        cases e with
        | call id function args =>
          have hargs : ∀ a ∈ args, r.Fresh a := fun a ha => hfresh.child ha
          rw [redirectFrom, he]
          exact seekArgs_redirectArgs (fun a ha => ih a ha (hargs a ha)) false
        | _ =>
          rw [redirectFrom_leaf (by simp) he]
          exact seek_leaf (by simp) (hfresh.self he)

end Redirection

/-- If the new name stands nowhere in an expression, or is another spelling of the old one, then a redirection is read
back under the new name: the value that it has put there, or nothing if it has found no place for it. -/
theorem comparand?_redirect (e : Expr) (r : Redirection)
    (hname : (∀ id name, ident id name ∈ e.nodes → snakeCase name ≠ snakeCase r.name) ∨ snakeCase r.name = r.target) :
    (e.redirect r).1.comparand? (snakeCase r.name) = (e.redirect r).2 := by
  have hfresh : r.Fresh e := by
    intro n hn hnew
    rcases hname with hnone | hsame
    · cases n with
      | ident id name => exact absurd (beq_iff_eq.1 hnew) (hnone id name hn)
      | _ => cases hnew
    · rwa [hsame] at hnew
  unfold redirect comparand?
  rw [Redirection.seek_redirectFrom e hfresh false]

/-- The target is renamed in three places, and only behind the last two is there an argument to take the value. -/
private def hall : Expr :=
  .call 9 "AND"
    [.call 3 "=" [.ident 1 "zone", .ident 2 "doorId"],
      .call 8 "!=" [.ident 4 "doorId", .ident 5 "DoorID", .list 6 [], .const 7 (.string "south")]]

private def opening : Redirection := ⟨"door_id", "gateId", "north"⟩

theorem comparand?_redirect_hall :
    (∀ id name, ident id name ∈ hall.nodes → snakeCase name ≠ snakeCase opening.name) ∧
    (hall.redirect opening).2 = some "north" ∧ (hall.redirect opening).1.comparand? "gate_id" = some "north" := by
  have hnone : ∀ id name, ident id name ∈ hall.nodes → snakeCase name ≠ snakeCase opening.name := by
    intro id name h
    simp only [hall, nodes, nodesOf, List.mem_cons, List.mem_append, List.not_mem_nil, reduceCtorEq, ident.injEq,
      or_false, false_or] at h
    rcases h with (⟨-, rfl⟩ | ⟨-, rfl⟩) | ⟨-, rfl⟩ | ⟨-, rfl⟩ <;> decide +kernel
  have hput : (hall.redirect opening).2 = some "north" := by decide +kernel
  have hgate : snakeCase opening.name = "gate_id" := by decide +kernel
  refine ⟨hnone, hput, ?_⟩
  rw [← hgate, comparand?_redirect hall opening (.inl hnone), hput]

end FluxQuery.Expr
