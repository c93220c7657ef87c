import Std.Data.ExtTreeMap

/-!
# Results, lists and tables

Facts that are about no definition of this library.
-/

namespace Except

variable {ε ε' α β : Type}

/-- A chain of two steps succeeds if both of them do. -/
theorem bind_eq_ok_iff {x : Except ε α} {f : α → Except ε β} {b : β} :
    (x >>= f) = .ok b ↔ ∃ a, x = .ok a ∧ f a = .ok b := by
  cases x with
  | error e => simp [bind, Except.bind]
  | ok a => simp [bind, Except.bind]

theorem bind_eq_error_iff {x : Except ε α} {f : α → Except ε β} {e : ε} :
    (x >>= f) = .error e ↔ x = .error e ∨ ∃ a, x = .ok a ∧ f a = .error e := by
  cases x with
  | error e' => simp [bind, Except.bind]
  | ok a => simp [bind, Except.bind]

theorem map_eq_ok_iff {x : Except ε α} {f : α → β} {b : β} : x.map f = .ok b ↔ ∃ a, x = .ok a ∧ f a = b := by
  cases x with
  | error e => simp [Except.map]
  | ok a => simp [Except.map]

theorem map_eq_error_iff {x : Except ε α} {f : α → β} {e : ε} : x.map f = .error e ↔ x = .error e := by
  cases x <;> simp [Except.map]

theorem mapError_eq_ok_iff {x : Except ε α} {f : ε → ε'} {a : α} : x.mapError f = .ok a ↔ x = .ok a := by
  cases x with
  | error e => constructor <;> intro h <;> cases h
  | ok b => exact ⟨fun h => congrArg Except.ok (Except.ok.inj h), fun h => congrArg Except.ok (Except.ok.inj h)⟩

theorem mapError_bind_of_eq_ok {x : Except ε α} {a : α} (h : x = .ok a) (f : ε → ε') (g : α → Except ε' β) :
    x.mapError f >>= g = g a := by
  rw [h]
  rfl

end Except

namespace List

/-- The part before the first `x` is where an `x` comes first. -/
theorem append_singleton_isPrefix_iff {α : Type} {x : α} {xs ys rest : List α} (hx : x ∉ xs) (hy : x ∉ ys) :
    xs ++ [x] <+: ys ++ x :: rest ↔ xs = ys := by
  induction xs generalizing ys with
  | nil =>
    cases ys with
    | nil => simp
    | cons y ys =>
      rw [List.mem_cons, not_or] at hy
      simp [hy.1]
  | cons c xs ih =>
    rw [List.mem_cons, not_or] at hx
    cases ys with
    | nil => simp [Ne.symm hx.1]
    | cons y ys =>
      rw [List.mem_cons, not_or] at hy
      simp [List.cons_prefix_cons, ih hx.2 hy.2]

/-- A list is cut at its first `x` in one way. -/
theorem append_cons_inj_of_first {α : Type} {x : α} {xs ys rest rest' : List α} (hx : x ∉ xs) (hy : x ∉ ys)
    (h : xs ++ x :: rest = ys ++ x :: rest') : xs = ys ∧ rest = rest' := by
  have hpre : xs ++ [x] <+: ys ++ x :: rest' := ⟨rest, by rw [List.append_assoc]; exact h⟩
  obtain rfl := (append_singleton_isPrefix_iff hx hy).1 hpre
  exact ⟨rfl, (List.cons.inj (List.append_cancel_left h)).2⟩

end List

namespace Std.ExtTreeMap

/-- What is found in a table after an entry under a new key. -/
theorem getElem?_insert_eq_some_iff {α β : Type} {cmp : α → α → Ordering} [TransCmp cmp] [LawfulEqCmp cmp]
    {t : ExtTreeMap α β cmp} {k x : α} {v w : β} (hnone : t[k]? = none) :
    (t.insert k v)[x]? = some w ↔ t[x]? = some w ∨ x = k ∧ w = v := by
  rw [getElem?_insert]
  by_cases hx : k = x
  · subst hx
    rw [if_pos (LawfulEqCmp.compare_eq_iff_eq.2 rfl)]
    simp [hnone, eq_comm]
  · rw [if_neg (mt LawfulEqCmp.compare_eq_iff_eq.1 hx)]
    simp [Ne.symm hx]

/-- The later of two entries under one key is the one that stays. -/
theorem insert_insert {α β : Type} {cmp : α → α → Ordering} [TransCmp cmp] [LawfulEqCmp cmp] {t : ExtTreeMap α β cmp}
    {k : α} {v w : β} : (t.insert k v).insert k w = t.insert k w := by
  apply ext_getElem?
  intro x
  rw [getElem?_insert, getElem?_insert, getElem?_insert]
  split <;> rfl

end Std.ExtTreeMap
