import FluxQuery.Proofs.Tree

/-!
# Places in an expression

A place is the way from the root to a node, so that equal nodes in two places are told apart. `Expr.get?` gives the node
in a place, and its label is the node without what is below it. An expression is known from the labels in all places
(`Expr.eq_of_labels`), and a difference between two expressions is a difference of labels in some place.
-/

namespace FluxQuery

/-- Which child to take at each node on the way from the root. -/
abbrev Place := List Nat

/-- Where the ways to two nodes part, the first one takes the earlier child. -/
def LeftOf : Place → Place → Prop
  | i :: p, j :: q => i < j ∨ i = j ∧ LeftOf p q
  | _, _ => False

/-- A walk from left to right is done with `p` before it is done with `q`: it is done with a node after all below it. -/
def Before (p q : Place) : Prop := LeftOf p q ∨ ∃ i below, p = q ++ i :: below

theorem leftOf_cons_iff {i j : Nat} {p q : Place} : LeftOf (i :: p) (j :: q) ↔ i < j ∨ i = j ∧ LeftOf p q := Iff.rfl

theorem not_leftOf_nil (p : Place) : ¬ LeftOf [] p := fun h => h

theorem not_leftOf_nil_right (p : Place) : ¬ LeftOf p [] := by
  cases p <;> exact fun h => h

/-- What is below a node lies where the node lies. -/
theorem LeftOf.append {p q : Place} (h : LeftOf p q) (below : Place) : LeftOf p (q ++ below) := by
  induction p generalizing q with
  | nil => exact absurd h (not_leftOf_nil q)
  | cons i p ih =>
    cases q with
    | nil => exact absurd h (not_leftOf_nil_right _)
    | cons j q =>
      rcases h with h | ⟨rfl, h⟩
      · exact .inl h
      · exact .inr ⟨rfl, ih h⟩

theorem LeftOf.not_isPrefix {p q : Place} (h : LeftOf p q) : ¬ p <+: q := by
  induction p generalizing q with
  | nil => exact absurd h (not_leftOf_nil q)
  | cons i p ih =>
    cases q with
    | nil => exact absurd h (not_leftOf_nil_right _)
    | cons j q =>
      rw [List.cons_prefix_cons]
      rintro ⟨rfl, hp⟩
      rcases h with h | ⟨-, h⟩
      · omega
      · exact ih h hp

theorem LeftOf.asymm {p q : Place} (h : LeftOf p q) : ¬ LeftOf q p := by
  induction p generalizing q with
  | nil => exact absurd h (not_leftOf_nil q)
  | cons i p ih =>
    cases q with
    | nil => exact not_leftOf_nil _
    | cons j q =>
      rw [leftOf_cons_iff] at h ⊢
      rintro (hji | ⟨rfl, hqp⟩)
      · omega
      · rcases h with h | ⟨-, h⟩
        · omega
        · exact ih h hqp

theorem before_cons_iff {i j : Nat} {p q : Place} : Before (i :: p) (j :: q) ↔ i < j ∨ i = j ∧ Before p q := by
  unfold Before
  rw [leftOf_cons_iff]
  constructor
  · rintro ((hlt | ⟨rfl, hleft⟩) | ⟨k, below, heq⟩)
    · exact .inl hlt
    · exact .inr ⟨rfl, .inl hleft⟩
    · obtain ⟨rfl, rfl⟩ := List.cons.inj heq
      exact .inr ⟨rfl, .inr ⟨k, below, rfl⟩⟩
  · rintro (hlt | ⟨rfl, hleft | ⟨k, below, rfl⟩⟩)
    · exact .inl (.inl hlt)
    · exact .inl (.inr ⟨rfl, hleft⟩)
    · exact .inr ⟨k, below, rfl⟩

theorem Before.asymm {p q : Place} (h : Before p q) : ¬ Before q p := by
  have hbelow : ∀ {p q : Place} {i below}, p = q ++ i :: below → ¬ Before q p := by
    rintro p q i below rfl (hleft | ⟨j, below', heq⟩)
    · exact hleft.not_isPrefix (List.prefix_append _ _)
    · have hlength := congrArg List.length heq
      simp only [List.length_append, List.length_cons] at hlength
      omega
  rcases h with hleft | ⟨i, below, heq⟩
  · rintro (hleft' | ⟨i, below, heq⟩)
    · exact hleft.asymm hleft'
    · exact hbelow heq (.inl hleft)
  · exact hbelow heq

theorem before_nil (i : Nat) (p : Place) : Before (i :: p) [] := .inr ⟨i, p, rfl⟩

/-- What a node is apart from its children, which are only counted. -/
inductive Label where
  | const (id : NodeId) (value : Literal)
  | ident (id : NodeId) (name : String)
  | select (id : NodeId) (field : String)
  | call (id : NodeId) (function : String) (count : Nat)
  | list (id : NodeId) (count : Nat)
  deriving DecidableEq, Repr

namespace Expr

def label : Expr → Label
  | const id value => .const id value
  | ident id name => .ident id name
  | select id _ field => .select id field
  | call id function args => .call id function args.length
  | list id items => .list id items.length

/-- The node in a place, if the place is one of the tree. -/
def get? (e : Expr) : Place → Option Expr
  | [] => some e
  | i :: p => e.children[i]?.bind (·.get? p)

/-- The label in a place. -/
def label? (e : Expr) (p : Place) : Option Label := (e.get? p).map label

@[simp]
theorem get?_nil (e : Expr) : e.get? [] = some e := rfl

theorem get?_cons (e : Expr) (i : Nat) (p : Place) : e.get? (i :: p) = e.children[i]?.bind (·.get? p) := rfl

theorem get?_call (id : NodeId) (function : String) (args : List Expr) (i : Nat) (p : Place) :
    (call id function args).get? (i :: p) = args[i]?.bind (·.get? p) := rfl

@[simp]
theorem label?_nil (e : Expr) : e.label? [] = some e.label := rfl

theorem label?_cons (e : Expr) (i : Nat) (p : Place) : e.label? (i :: p) = e.children[i]?.bind (·.label? p) := by
  rw [label?, get?_cons, Option.map_bind]
  rfl

theorem get?_append (e : Expr) (p q : Place) : e.get? (p ++ q) = (e.get? p).bind (·.get? q) := by
  induction p generalizing e with
  | nil => rfl
  | cons i p ih =>
    rw [List.cons_append, get?_cons, get?_cons]
    cases e.children[i]? with
    | none => rfl
    | some c => exact ih c

theorem mem_nodes_of_get? {e n : Expr} {p : Place} (h : e.get? p = some n) : n ∈ e.nodes := by
  induction p generalizing e with
  | nil =>
    cases h
    exact self_mem_nodes n
  | cons i p ih =>
    rw [get?_cons] at h
    obtain ⟨c, hc, hn⟩ := Option.bind_eq_some_iff.1 h
    exact mem_nodes_iff.2 (.inr ⟨c, List.mem_of_getElem? hc, ih hn⟩)

/-- On the way to a place, a child of the same node to the left of the one that is taken. -/
def LeftSibling (e : Expr) (place : Place) (s : Expr) : Prop :=
  ∃ way i below j, place = way ++ i :: below ∧ j < i ∧ e.get? (way ++ [j]) = some s

theorem not_leftSibling_nil (e s : Expr) : ¬ e.LeftSibling [] s := by
  rintro ⟨way, i, below, j, h, -⟩
  simp at h

theorem leftSibling_cons_iff {e s : Expr} {i : Nat} {p : Place} :
    e.LeftSibling (i :: p) s ↔
      (∃ j, j < i ∧ e.children[j]? = some s) ∨ ∃ c, e.children[i]? = some c ∧ c.LeftSibling p s := by
  constructor
  · rintro ⟨way, k, below, j, hplace, hj, hs⟩
    cases way with
    | nil =>
      obtain ⟨rfl, rfl⟩ := List.cons.inj hplace
      rw [List.nil_append, get?_cons] at hs
      obtain ⟨c, hc, hs⟩ := Option.bind_eq_some_iff.1 hs
      cases hs
      exact .inl ⟨j, hj, hc⟩
    | cons l way =>
      obtain ⟨rfl, rfl⟩ := List.cons.inj hplace
      rw [List.cons_append, get?_cons] at hs
      obtain ⟨c, hc, hs⟩ := Option.bind_eq_some_iff.1 hs
      exact .inr ⟨c, hc, way, k, below, j, rfl, hj, hs⟩
  · rintro (⟨j, hj, hs⟩ | ⟨c, hc, way, k, below, j, rfl, hj, hs⟩)
    · refine ⟨[], i, p, j, rfl, hj, ?_⟩
      rw [List.nil_append, get?_cons, hs]
      rfl
    · refine ⟨i :: way, k, below, j, rfl, hj, ?_⟩
      rw [List.cons_append, get?_cons, hc]
      exact hs

/-- The expression with another node in a place. -/
def put : Expr → Place → Expr → Expr
  | _, [], new => new
  | select id operand field, i :: p, new => select id (if i = 0 then operand.put p new else operand) field
  | call id function args, i :: p, new => call id function (args.modify i (·.put p new))
  | list id items, i :: p, new => list id (items.modify i (·.put p new))
  | e, _ :: _, _ => e

private theorem children_eq_of_label {e e' : Expr} (hlabel : e.label = e'.label)
    (hchildren : e.children = e'.children) : e = e' := by
  cases e <;> cases e' <;> simp_all [label, children]

private theorem length_children_of_label {e e' : Expr} (h : e.label = e'.label) :
    e.children.length = e'.children.length := by
  cases e <;> cases e' <;> simp_all [label, children]

/-- Two expressions with the same labels are the same. -/
theorem eq_of_labels {e e' : Expr} (h : ∀ p, e.label? p = e'.label? p) : e = e' := by
  induction e using children_induction generalizing e' with
  | step e ih =>
    have hlabel : e.label = e'.label := Option.some.inj (h [])
    have hlength := length_children_of_label hlabel
    refine children_eq_of_label hlabel (List.ext_getElem hlength fun i hi hi' => ?_)
    refine ih _ (List.getElem_mem hi) fun p => ?_
    have hp := h (i :: p)
    rwa [label?_cons, label?_cons, List.getElem?_eq_getElem hi, List.getElem?_eq_getElem hi'] at hp

/-- Where no label below a place differs, the nodes in the place are the same. -/
theorem get?_eq_of_labels {e e' : Expr} {p : Place} (h : ∀ q, e.label? (p ++ q) = e'.label? (p ++ q)) :
    e.get? p = e'.get? p := by
  have hbelow : ∀ q, (e.get? p).bind (·.label? q) = (e'.get? p).bind (·.label? q) := by
    intro q
    have hq := h q
    rwa [label?, label?, get?_append, get?_append, Option.map_bind, Option.map_bind] at hq
  have hroot := hbelow []
  cases hn : e.get? p with
  | none =>
    rw [hn] at hroot
    cases hn' : e'.get? p with
    | none => rfl
    | some n' =>
      rw [hn'] at hroot
      cases hroot
  | some n =>
    rw [hn] at hroot hbelow
    cases hn' : e'.get? p with
    | none =>
      rw [hn'] at hroot
      cases hroot
    | some n' =>
      rw [hn'] at hbelow
      rw [eq_of_labels hbelow]

end Expr

end FluxQuery
