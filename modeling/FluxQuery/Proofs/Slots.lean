import FluxQuery.Proofs.Comparands

/-!
# Where a value is read and where it is written

Reading the value of an identifier and redirecting it are two walks that stop for different reasons: the first at a
string that is not empty, the second at any node. `Expr.slots` lists the arguments that both of them come to, from left
to right. The value is put into the first of them and read from the first of them that holds a string, so that both
happen in the same place if all of them hold strings.

Which node is read and which is overwritten is said without the walks: a node is read if any other string in its place
would be found instead (`ReadAt`), and overwritten if any value would be put in its place (`OverwrittenAt`).
-/

namespace FluxQuery

/-- An argument that can have the value of a target: its place, and its string if it holds one. -/
structure Slot where
  place : Place
  text : String

namespace Slot

/-- A slot of the first argument, seen from the call. -/
def inFirst (x : Slot) : Slot := ⟨0 :: x.place, x.text⟩

/-- The same slot once another argument has been put before all others. -/
def shift (x : Slot) : Slot := ⟨x.place.shift, x.text⟩

/-- The slot after another string has been put in a place. -/
def put (p : Place) (s : String) (x : Slot) : Slot := ⟨x.place, if x.place = p then s else x.text⟩

def LeftOf (x y : Slot) : Prop := FluxQuery.LeftOf x.place y.place

theorem map_text_shift (l : List Slot) : (l.map shift).map text = l.map text := by
  rw [List.map_map]
  rfl

theorem map_text_inFirst (l : List Slot) : (l.map inFirst).map text = l.map text := by
  rw [List.map_map]
  rfl

variable {i : Nat} {p : Place} {s : String}

private theorem put_inFirst_zero (l : List Slot) :
    (l.map inFirst).map (put (0 :: p) s) = (l.map (put p s)).map inFirst := by
  simp [inFirst, put]

private theorem put_inFirst_succ (l : List Slot) :
    (l.map inFirst).map (put ((i + 1) :: p) s) = l.map inFirst := by
  simp [inFirst, put]

private theorem shift_place_eq_iff {x : Slot} : x.shift.place = (i + 1) :: p ↔ x.place = i :: p := by
  obtain ⟨_ | ⟨j, q⟩, text⟩ := x <;> simp [shift, Place.shift]

private theorem shift_place_ne_zero {x : Slot} : x.shift.place ≠ 0 :: p := by
  obtain ⟨_ | ⟨j, q⟩, text⟩ := x <;> simp [shift, Place.shift]

private theorem put_shift_zero (l : List Slot) : (l.map shift).map (put (0 :: p) s) = l.map shift := by
  rw [List.map_map]
  refine List.map_congr_left fun x _ => ?_
  rw [Function.comp, put, if_neg shift_place_ne_zero]

private theorem put_shift_succ (l : List Slot) :
    (l.map shift).map (put ((i + 1) :: p) s) = (l.map (put (i :: p) s)).map shift := by
  rw [List.map_map, List.map_map]
  refine List.map_congr_left fun x _ => ?_
  simp only [Function.comp, put, shift_place_eq_iff]
  rfl

end Slot

namespace Expr

variable {target : String} {id : NodeId} {function : String} {e a : Expr} {args as : List Expr}

/-- The string in a place is the one that is found: whatever string stands there, if it is not empty. -/
def ReadAt (target : String) (e : Expr) (q : Place) : Prop :=
  ∃ id w, w ≠ "" ∧ e.get? q = some (const id (.string w)) ∧
    ∀ s, s ≠ "" → (e.put q (const id (.string s))).comparand? target = some s

/-- The node in a place is overwritten: whatever the value is, if it is not empty, it stands there afterwards. -/
def OverwrittenAt (r : Redirection) (e : Expr) (q : Place) : Prop :=
  ∃ n, e.get? q = some n ∧
    ∀ v, v ≠ "" → (e.redirect { r with value := v }).1.get? q = some (const n.id (.string v))

/-! ### The arguments that both walks come to -/

mutual

/-- The slots of an expression, from left to right. In a call these are the arguments behind its first target that are
no targets, after the slots of the arguments before it. -/
def slots (target : String) : Expr → List Slot
  | call _ _ args => slotsOf target false args
  | _ => []

def slotsOf (target : String) (met : Bool) : List Expr → List Slot
  | [] => []
  | a :: as =>
    if a.isTarget target then (slotsOf target true as).map .shift
    else if met then ⟨[0], a.string⟩ :: (slotsOf target true as).map .shift
    else (a.slots target).map .inFirst ++ (slotsOf target false as).map .shift

end

theorem slotsOf_target (ha : a.isTarget target = true) (met : Bool) :
    slotsOf target met (a :: as) = (slotsOf target true as).map .shift := by
  rw [slotsOf, if_pos ha]

theorem slotsOf_met (ha : a.isTarget target = false) :
    slotsOf target true (a :: as) = ⟨[0], a.string⟩ :: (slotsOf target true as).map .shift := by
  rw [slotsOf, ha, if_neg Bool.false_ne_true, if_pos rfl]

theorem slotsOf_cons (ha : a.isTarget target = false) :
    slotsOf target false (a :: as) = (a.slots target).map .inFirst ++ (slotsOf target false as).map .shift := by
  rw [slotsOf, ha, if_neg Bool.false_ne_true, if_neg Bool.false_ne_true]

/-- A property `P` of expressions and their slots, by way of a property `Q` of arguments and their slots. An argument is
a target, or stands behind one, or before the first one. -/
theorem slots_induction {P : Expr → List Slot → Prop} {Q : Bool → List Expr → List Slot → Prop}
    (leaf : ∀ e, (∀ id function args, e ≠ call id function args) → P e [])
    (call : ∀ id function args, Q false args (slotsOf target false args) →
      P (call id function args) (slotsOf target false args))
    (nil : ∀ met, Q met [] [])
    (found : ∀ met a as, a.isTarget target = true → Q true as (slotsOf target true as) →
      Q met (a :: as) ((slotsOf target true as).map .shift))
    (behind : ∀ a as, a.isTarget target = false → Q true as (slotsOf target true as) →
      Q true (a :: as) (⟨[0], a.string⟩ :: (slotsOf target true as).map .shift))
    (before : ∀ a as, a.isTarget target = false → P a (a.slots target) → Q false as (slotsOf target false as) →
      Q false (a :: as) ((a.slots target).map .inFirst ++ (slotsOf target false as).map .shift))
    (e : Expr) : P e (e.slots target) := by
  have hargs (args : List Expr) (h : ∀ a ∈ args, P a (a.slots target)) (met : Bool) :
      Q met args (slotsOf target met args) := by
    induction args generalizing met with
    | nil => exact nil met
    | cons a as ih =>
      obtain ⟨ha, has⟩ := List.forall_mem_cons.1 h
      by_cases hat : a.isTarget target = true
      · rw [slotsOf_target hat]
        exact found met a as hat (ih has true)
      · have hat : a.isTarget target = false := by simpa using hat
        cases met with
        | true =>
          rw [slotsOf_met hat]
          exact behind a as hat (ih has true)
        | false =>
          rw [slotsOf_cons hat]
          exact before a as hat ha (ih has false)
  induction e using children_induction with
  | step e ih =>
    cases e with
    | call id function args => exact call id function args (hargs args ih false)
    | _ => exact leaf _ (by simp)

/-- The strings in the slots are the values of the target. -/
theorem comparands_eq (e : Expr) : e.comparands target = ((e.slots target).map Slot.text).filter (· ≠ "") := by
  refine slots_induction (P := fun e l => e.comparands target = (l.map Slot.text).filter (· ≠ ""))
    (Q := fun met args l =>
      (if met then strings args else comparandsOf target args) = (l.map Slot.text).filter (· ≠ ""))
    ?leaf ?call ?nil ?found ?behind ?before e
  case leaf =>
    intro e h
    cases e with
    | call id function args => exact absurd rfl (h id function args)
    | _ => rfl
  case call =>
    intro id function args h
    exact h
  case nil =>
    intro met
    cases met <;> rfl
  case found =>
    intro met a as ha h
    rw [Slot.map_text_shift, ← h, comparandsOf_target ha]
    cases met with
    | true => simp [strings, string_of_target ha]
    | false => rfl
  case behind =>
    intro a as ha h
    rw [List.map_cons, Slot.map_text_shift, List.filter_cons, ← h]
    simp [strings, List.filter_cons]
  case before =>
    intro a as ha hl hl'
    rw [List.map_append, List.filter_append, Slot.map_text_inFirst, Slot.map_text_shift, ← hl, ← hl']
    exact comparandsOf_cons ha as

/-! ### Order and contents of the slots -/

/-- The string of the slot is the one that stands in its place. -/
private def Holds (e : Expr) (x : Slot) : Prop := ∃ n, e.get? x.place = some n ∧ n.string = x.text

/-- The same among the arguments of a call. -/
private def HoldsArg (args : List Expr) (x : Slot) : Prop :=
  ∃ i p a, x.place = i :: p ∧ args[i]? = some a ∧ a.Holds ⟨p, x.text⟩

private theorem HoldsArg.holds {x : Slot} (h : HoldsArg args x) : (call id function args).Holds x := by
  obtain ⟨i, p, a, hplace, ha, n, hn, htext⟩ := h
  refine ⟨n, ?_, htext⟩
  rw [hplace, get?_call, ha]
  exact hn

private theorem HoldsArg.shift {x : Slot} (h : HoldsArg as x) : HoldsArg (a :: as) x.shift := by
  obtain ⟨i, p, b, hplace, hb, hholds⟩ := h
  exact ⟨i + 1, p, b, by rw [Slot.shift, hplace]; rfl, hb, hholds⟩

private theorem Holds.inFirst {x : Slot} (h : a.Holds x) : HoldsArg (a :: as) x.inFirst :=
  ⟨0, x.place, a, rfl, rfl, h⟩

private theorem leftOf_shift {x y : Slot} (h : x.LeftOf y) : x.shift.LeftOf y.shift := by
  unfold Slot.LeftOf Slot.shift at *
  cases hx : x.place with
  | nil => exact absurd (hx ▸ h) (not_leftOf_nil _)
  | cons i p =>
    cases hy : y.place with
    | nil => exact absurd (hy ▸ h) (not_leftOf_nil_right _)
    | cons j q =>
      rw [hx, hy] at h
      rcases h with hlt | ⟨rfl, h⟩
      · exact .inl (Nat.succ_lt_succ hlt)
      · exact .inr ⟨rfl, h⟩

/-- What starts in the first argument lies to the left of all other arguments. -/
private theorem leftOf_shift_of_head {x y : Slot} {p : Place} (hx : x.place = 0 :: p) (hy : HoldsArg as y) :
    x.LeftOf y.shift := by
  obtain ⟨j, q, b, hplace, -⟩ := hy
  unfold Slot.LeftOf Slot.shift
  rw [hx, hplace]
  exact .inl (Nat.succ_pos j)

/-- The slots lie from left to right and hold what their places hold. -/
private theorem slots_spec (e : Expr) : (e.slots target).Pairwise Slot.LeftOf ∧ ∀ x ∈ e.slots target, e.Holds x := by
  refine slots_induction (P := fun e l => l.Pairwise Slot.LeftOf ∧ ∀ x ∈ l, e.Holds x)
    (Q := fun _ args l => l.Pairwise Slot.LeftOf ∧ ∀ x ∈ l, HoldsArg args x)
    ?leaf ?call ?nil ?found ?behind ?before e
  case leaf => simp
  case call =>
    rintro id function args ⟨hleft, hholds⟩
    exact ⟨hleft, fun x hx => (hholds x hx).holds⟩
  case nil => simp
  case found =>
    rintro met a as - ⟨hleft, hholds⟩
    refine ⟨List.pairwise_map.2 (hleft.imp leftOf_shift), ?_⟩
    exact List.forall_mem_map.2 fun x hx => (hholds x hx).shift
  case behind =>
    rintro a as - ⟨hleft, hholds⟩
    refine ⟨List.pairwise_cons.2 ⟨?_, List.pairwise_map.2 (hleft.imp leftOf_shift)⟩, ?_⟩
    · exact List.forall_mem_map.2 fun x hx => leftOf_shift_of_head rfl (hholds x hx)
    · refine List.forall_mem_cons.2 ⟨⟨0, [], a, rfl, rfl, a, rfl, rfl⟩, ?_⟩
      exact List.forall_mem_map.2 fun x hx => (hholds x hx).shift
  case before =>
    rintro a as - ⟨hleft, hholds⟩ ⟨hleft', hholds'⟩
    constructor
    · refine List.pairwise_append.2 ⟨List.pairwise_map.2 ?_, List.pairwise_map.2 (hleft'.imp leftOf_shift), ?_⟩
      · exact hleft.imp fun h => .inr ⟨rfl, h⟩
      · refine List.forall_mem_map.2 fun x hx => List.forall_mem_map.2 fun y hy => ?_
        exact leftOf_shift_of_head rfl (hholds' y hy)
    · refine List.forall_mem_append.2 ⟨List.forall_mem_map.2 fun x hx => (hholds x hx).inFirst, ?_⟩
      exact List.forall_mem_map.2 fun x hx => (hholds' x hx).shift

/-! ### Reading -/

private theorem isTarget_of_get? {p : Place} {value : Literal} (h : e.get? p = some (const id value)) :
    e.isTarget target = false := by
  cases e with
  | ident j name =>
    cases p with
    | nil => cases h
    | cons i p => cases h
  | _ => rfl

private theorem isTarget_put {p : Place} {value : Literal} (he : e.isTarget target = false) :
    (e.put p (const id value)).isTarget target = false := by
  cases p with
  | nil => rfl
  | cons i p =>
    cases e with
    | ident j name => exact he
    | _ => rfl

private theorem string_put {p : Place} {w s : String} (h : e.get? p = some (const id (.string w))) :
    (e.put p (const id (.string s))).string = if p = [] then s else e.string := by
  cases p with
  | nil => rfl
  | cons i p =>
    cases e with
    | const j value => cases h
    | _ => rfl

/-- Another string in place of a string changes that string in the list of slots, and nothing else. -/
theorem slots_put {p : Place} {w s : String} (h : e.get? p = some (const id (.string w))) :
    (e.put p (const id (.string s))).slots target = (e.slots target).map (.put p s) := by
  refine slots_induction (P := fun e l => ∀ p, e.get? p = some (const id (.string w)) →
      (e.put p (const id (.string s))).slots target = l.map (.put p s))
    (Q := fun met args l => ∀ i p a, args[i]? = some a → a.get? p = some (const id (.string w)) →
      slotsOf target met (args.modify i (·.put p (const id (.string s)))) = l.map (.put (i :: p) s))
    ?leaf ?call ?nil ?found ?behind ?before e p h
  case leaf =>
    intro e hleaf p h
    cases p with
    | nil => rfl
    | cons i p =>
      cases e with
      | call id function args => exact absurd rfl (hleaf id function args)
      | _ => rfl
  case call =>
    intro id function args hl p h
    cases p with
    | nil => cases h
    | cons i p =>
      rw [get?_call] at h
      obtain ⟨a, ha, h⟩ := Option.bind_eq_some_iff.1 h
      exact hl i p a ha h
  case nil =>
    intro met i p a ha
    cases ha
  case found =>
    intro met b as hb hl i p a ha h
    cases i with
    | zero =>
      cases ha
      rw [isTarget_of_get? h] at hb
      cases hb
    | succ i =>
      rw [List.modify_succ_cons, slotsOf_target hb, hl i p a ha h, Slot.put_shift_succ]
  case behind =>
    intro b as hb hl i p a ha h
    cases i with
    | zero =>
      cases ha
      have hslot : (⟨[0], if p = [] then s else b.string⟩ : Slot) = .put (0 :: p) s ⟨[0], b.string⟩ := by
        simp [Slot.put]
      rw [List.modify_zero_cons, slotsOf_met (isTarget_put hb), string_put h, List.map_cons, Slot.put_shift_zero,
        hslot]
    | succ i =>
      have hslot : (⟨[0], b.string⟩ : Slot) = .put ((i + 1) :: p) s ⟨[0], b.string⟩ := by
        simp [Slot.put]
      rw [List.modify_succ_cons, slotsOf_met hb, hl i p a ha h, List.map_cons, Slot.put_shift_succ, ← hslot]
  case before =>
    intro b as hb hl hl' i p a ha h
    rw [List.map_append]
    cases i with
    | zero =>
      cases ha
      rw [List.modify_zero_cons, slotsOf_cons (isTarget_put hb), hl p h, Slot.put_inFirst_zero,
        Slot.put_shift_zero]
    | succ i =>
      rw [List.modify_succ_cons, slotsOf_cons hb, hl' i p a ha h, Slot.put_inFirst_succ, Slot.put_shift_succ]

/-- The slots that hold a string. -/
def readings (target : String) (e : Expr) : List Slot := (e.slots target).filter (·.text ≠ "")

/-- The value of the target is the string in the first slot that holds one. -/
theorem comparand?_eq_readings (he : e.isTarget target = false) :
    e.comparand? target = (e.readings target).head?.map (·.text) := by
  have hvalues : e.comparands target = (e.readings target).map (·.text) := by
    rw [comparands_eq, List.filter_map]
    rfl
  rw [comparand?_of_not_target he, hvalues, List.head?_map]

private theorem readings_put {p : Place} {w s : String} (h : e.get? p = some (const id (.string w))) (hw : w ≠ "")
    (hs : s ≠ "") : (e.put p (const id (.string s))).readings target = (e.readings target).map (.put p s) := by
  unfold readings
  rw [slots_put h, List.filter_map]
  congr 1
  refine List.filter_congr fun x hx => ?_
  -- a slot in that place holds `w`, and holds `s` afterwards
  obtain ⟨n, hn, htext⟩ := (slots_spec e).2 x hx
  by_cases hplace : x.place = p
  · have hxw : x.text = w := by
      rw [hplace, h] at hn
      cases hn
      exact htext.symm
    simp [Slot.put, hplace, hs, hxw, hw]
  · simp [Slot.put, hplace]

private theorem exists_const_of_string {n : Expr} (h : n.string ≠ "") : ∃ id, n = const id (.string n.string) := by
  unfold string at *
  split at h
  · exact ⟨_, rfl⟩
  · exact absurd rfl h

private theorem exists_other_text (w : String) : ∃ s, s ≠ "" ∧ s ≠ w := by
  by_cases hw : w = "a"
  · exact ⟨"b", by decide, by rw [hw]; decide⟩
  · exact ⟨"a", by decide, Ne.symm hw⟩

/-- The node that is read is the first slot that holds a string. -/
theorem readAt_iff {q : Place} (he : e.isTarget target = false) :
    e.ReadAt target q ↔ ∃ x, (e.readings target).head? = some x ∧ x.place = q := by
  have hput {id : NodeId} {w s : String} (hget : e.get? q = some (const id (.string w))) (hw : w ≠ "") (hs : s ≠ "") :
      (e.put q (const id (.string s))).comparand? target =
        ((e.readings target).head?.map (Slot.put q s)).map Slot.text := by
    rw [comparand?_eq_readings (isTarget_put he), readings_put hget hw hs, List.head?_map]
  constructor
  · rintro ⟨id, w, hw, hget, hread⟩
    cases hhead : (e.readings target).head? with
    | none =>
      have hfound := hread w hw
      rw [hput hget hw hw, hhead] at hfound
      cases hfound
    | some x =>
      refine ⟨x, rfl, ?_⟩
      by_cases hplace : x.place = q
      · exact hplace
      · -- a string elsewhere is found whatever stands in `q`
        obtain ⟨s, hs, hne⟩ := exists_other_text x.text
        have hfound := hread s hs
        rw [hput hget hw hs, hhead] at hfound
        simp only [Option.map_some, Slot.put, if_neg hplace, Option.some.injEq] at hfound
        exact absurd hfound.symm hne
  · rintro ⟨x, hhead, rfl⟩
    have hx := List.mem_filter.1 (List.mem_of_head? hhead)
    obtain ⟨n, hn, htext⟩ := (slots_spec e).2 x hx.1
    have hne : n.string ≠ "" := by simpa [htext] using hx.2
    obtain ⟨id, hconst⟩ := exists_const_of_string hne
    rw [hconst] at hn
    refine ⟨id, n.string, hne, hn, fun s hs => ?_⟩
    rw [hput hn hne hs, hhead]
    simp [Slot.put]

/-! ### Writing -/

namespace Redirection

variable {r : Redirection}

/-- How a redirection of `e` ends that comes to some slots: past all of them if there are none, and otherwise with the
value in the first one. -/
private inductive Lands (r : Redirection) (e : Expr) : List Slot → Redirected Expr → Prop where
  | passed {e' : Expr} : Lands r e [] ⟨e', "", false⟩
  | stopped {e' n : Expr} {x : Slot} {rest : List Slot} : e.get? x.place = some n →
      e'.get? x.place = some (const n.id (.string r.value)) → Lands r e (x :: rest) ⟨e', r.value, true⟩

private theorem Lands.shift {a' : Expr} {as' : List Expr} {l : List Slot} {value : String} {met : Bool}
    (h : r.Lands (call id function as) l ⟨call id function as', value, met⟩) :
    r.Lands (call id function (a :: as)) (l.map .shift) ⟨call id function (a' :: as'), value, met⟩ := by
  cases h with
  | passed => exact .passed
  | @stopped _ n x rest hn hn' =>
    obtain ⟨_ | ⟨i, p⟩, text⟩ := x
    · cases hn'
    · exact .stopped hn hn'

/-- A redirection puts its value into the first slot. -/
private theorem lands_redirectFrom (hvalue : r.value ≠ "") (e : Expr) (he : e.isTarget r.target = false) :
    r.Lands e (e.slots r.target) (e.redirectFrom r false) := by
  refine slots_induction (P := fun e l => e.isTarget r.target = false → r.Lands e l (e.redirectFrom r false))
    (Q := fun met args l => ∀ id function, r.Lands (Expr.call id function args) l
      ⟨Expr.call id function (redirectArgs r met args).node, (redirectArgs r met args).value,
        (redirectArgs r met args).met⟩)
    ?leaf ?call ?nil ?found ?behind ?before e he
  case leaf =>
    intro e hleaf he
    rw [redirectFrom_leaf hleaf he]
    exact .passed
  case call =>
    intro id function args h he
    rw [redirectFrom, he]
    exact h id function
  case nil =>
    intro met id function
    exact .passed
  case found =>
    intro met a as ha h id function
    rw [redirectArgs_target met ha]
    exact (h id function).shift
  case behind =>
    intro a as ha h id function
    rw [redirectArgs_met hvalue ha]
    exact .stopped (n := a) rfl rfl
  case before =>
    intro a as ha hhead htail id function
    specialize hhead ha
    specialize htail id function
    rw [redirectArgs]
    generalize a.redirectFrom r false = here at hhead ⊢
    generalize a.slots r.target = l at hhead ⊢
    cases hhead with
    | passed =>
      simp only [ne_eq, not_true_eq_false, false_and, if_false, List.map_nil, List.nil_append]
      exact htail.shift
    | stopped hn hn' =>
      simp only [ne_eq, hvalue, not_false_eq_true, and_self, if_true]
      exact .stopped hn hn'

private theorem Lands.met_iff {l : List Slot} {after : Redirected Expr} (h : r.Lands e l after) :
    after.met = true ↔ l ≠ [] := by
  cases h with
  | passed => simp
  | stopped => simp

/-- A string that was not there before stands where the value was put. -/
private theorem Effect.eq_of_get? {e' n : Expr} {p : Place} {place? : Option Place} (h : r.Effect e e' place?)
    (hn : e.get? p = some n) (hn' : e'.get? p = some (const n.id (.string r.value))) (hne : n.string ≠ r.value) :
    place? = some p := by
  -- elsewhere a target gets its name and every other node stays as it was
  have hother (hq : ∀ q ∈ place?, ¬ q <+: p) : False := by
    by_cases htarget : e.TargetAt r.target p ∧ ∀ q ∈ place?, LeftOf p q
    · obtain ⟨id, name, -, hident⟩ := h.renamed p htarget.1 htarget.2
      rw [hn'] at hident
      cases hident
    · have hlabel := h.kept p hq htarget
      rw [label?, label?, hn, hn', Option.map_some, Option.map_some, Option.some.injEq] at hlabel
      cases n with
      | const id value =>
        cases hlabel
        exact hne rfl
      | _ => cases hlabel
  cases place? with
  | none => exact (hother (by simp)).elim
  | some q =>
    by_cases hprefix : q <+: p
    · obtain ⟨below, rfl⟩ := hprefix
      obtain ⟨m, -, -, hm⟩ := h.overwritten q rfl
      rw [get?_append, hm, Option.bind_some] at hn'
      cases below with
      | nil => rw [List.append_nil]
      | cons i below => cases hn'
    · exact (hother (by simpa using hprefix)).elim

end Redirection

/-- The value is put in one place only. -/
theorem ValueAt.unique {q q' : Place} (h : e.ValueAt target q) (h' : e.ValueAt target q') : q = q' := by
  obtain ⟨p, c, ⟨hmatch, hfirst⟩, hc, rfl⟩ := h
  obtain ⟨p', c', ⟨hmatch', hfirst'⟩, hc', rfl⟩ := h'
  have hpp' : p = p' := by
    rcases hfirst p' hmatch' with heq | hbefore
    · exact heq.symm
    · rcases hfirst' p hmatch with heq | hbefore'
      · exact heq
      · exact absurd hbefore' hbefore.asymm
  subst hpp'
  cases hc.symm.trans hc'
  rfl

/-- A node that is overwritten is the one behind the first target of the first call that matches. -/
theorem OverwrittenAt.valueAt {r : Redirection} {q : Place} (h : OverwrittenAt r e q)
    (he : e.isTarget r.target = false) : e.ValueAt r.target q := by
  obtain ⟨n, hn, hwritten⟩ := h
  obtain ⟨v, hv, hne⟩ := exists_other_text n.string
  have hends := Redirection.ends_redirectFrom (r := { r with value := v }) hv e he
  have hn' := hwritten v hv
  unfold redirect at hn'
  generalize e.redirectFrom { r with value := v } false = after at hends hn'
  cases hends with
  | passed hnone heffect => cases heffect.eq_of_get? hn hn' hne.symm
  | stopped hplace heffect =>
    cases heffect.eq_of_get? hn hn' hne.symm
    exact hplace

private theorem overwrittenAt_of_head? {r : Redirection} {x : Slot} (he : e.isTarget r.target = false)
    (hx : (e.slots r.target).head? = some x) : OverwrittenAt r e x.place := by
  obtain ⟨rest, hslots⟩ := List.head?_eq_some_iff.1 hx
  obtain ⟨n, hn, -⟩ := (slots_spec e).2 x (List.mem_of_head? hx)
  refine ⟨n, hn, fun v hv => ?_⟩
  have hlands := Redirection.lands_redirectFrom (r := { r with value := v }) hv e he
  rw [hslots] at hlands
  unfold redirect
  generalize e.redirectFrom { r with value := v } false = after at hlands ⊢
  cases hlands with
  | stopped hm hm' =>
    cases hn.symm.trans hm
    exact hm'

/-- The node that is overwritten is the first slot. -/
theorem overwrittenAt_iff {r : Redirection} {q : Place} (he : e.isTarget r.target = false) :
    OverwrittenAt r e q ↔ ∃ x, (e.slots r.target).head? = some x ∧ x.place = q := by
  constructor
  · intro h
    cases hhead : (e.slots r.target).head? with
    | none =>
      -- with no slot the redirection finds nothing, but where it writes a call matches
      obtain ⟨p, c, ⟨hmatch, -⟩, -⟩ := h.valueAt he
      obtain ⟨v, hv, -⟩ := exists_other_text ""
      have hends := Redirection.ends_redirectFrom (r := { r with value := v }) hv e he
      have hlands := Redirection.lands_redirectFrom (r := { r with value := v }) hv e he
      have hnil : e.slots r.target = [] := List.head?_eq_none_iff.1 hhead
      generalize e.redirectFrom { r with value := v } false = after at hends hlands
      cases hends with
      | passed hnone => exact absurd hmatch (hnone p)
      | stopped => exact absurd hnil (hlands.met_iff.1 rfl)
    | some x =>
      have hx := overwrittenAt_of_head? he hhead
      exact ⟨x, rfl, (hx.valueAt he).unique (h.valueAt he)⟩
  · rintro ⟨x, hx, rfl⟩
    exact overwrittenAt_of_head? he hx

theorem redirect_eq_some_iff {r : Redirection} (hvalue : r.value ≠ "") (he : e.isTarget r.target = false) :
    (e.redirect r).2 = some r.value ↔ e.slots r.target ≠ [] := by
  have hlands := Redirection.lands_redirectFrom hvalue e he
  unfold redirect
  generalize e.redirectFrom r false = after at hlands ⊢
  generalize e.slots r.target = l at hlands ⊢
  cases hlands with
  | passed => simp
  | stopped => simp

/-! ### Both walks -/

/-- Behind a target every argument of the call that is no target holds a string. -/
def PlainValues (target : String) (c : Expr) : Prop :=
  c.args.Pairwise fun a b => a.isTarget target = true → b.isTarget target = false → b.string ≠ ""

instance (target : String) (c : Expr) : Decidable (c.PlainValues target) :=
  inferInstanceAs (Decidable (c.args.Pairwise fun a b =>
    a.isTarget target = true → b.isTarget target = false → b.string ≠ ""))

private theorem text_of_plainValues (h : ∀ c ∈ e.nodes, c.PlainValues target) : ∀ x ∈ e.slots target, x.text ≠ "" := by
  refine slots_induction (P := fun e l => (∀ c ∈ e.nodes, c.PlainValues target) → ∀ x ∈ l, x.text ≠ "")
    (Q := fun met args l => (∀ a ∈ args, ∀ c ∈ a.nodes, c.PlainValues target) →
      (args.Pairwise fun a b => a.isTarget target = true → b.isTarget target = false → b.string ≠ "") →
      (met = true → ∀ b ∈ args, b.isTarget target = false → b.string ≠ "") → ∀ x ∈ l, x.text ≠ "")
    ?leaf ?call ?nil ?found ?behind ?before e h
  case leaf => simp
  case call =>
    intro id function args hargs h
    exact hargs (fun a ha c hc => h c (arg_mem_nodes ha hc)) (h _ (self_mem_nodes _)) (by simp)
  case nil => simp
  case found =>
    intro met a as ha hl h hpairs hmet
    obtain ⟨hbehind, hpairs⟩ := List.pairwise_cons.1 hpairs
    refine List.forall_mem_map.2 (hl (List.forall_mem_cons.1 h).2 hpairs fun _ b hb => ?_)
    exact hbehind b hb ha
  case behind =>
    intro a as ha hl h hpairs hmet
    obtain ⟨hmeta, hmetas⟩ := List.forall_mem_cons.1 (hmet rfl)
    refine List.forall_mem_cons.2 ⟨hmeta ha, List.forall_mem_map.2 ?_⟩
    exact hl (List.forall_mem_cons.1 h).2 (List.pairwise_cons.1 hpairs).2 fun _ => hmetas
  case before =>
    intro a as ha hl hl' h hpairs hmet
    obtain ⟨hhead, htail⟩ := List.forall_mem_cons.1 h
    refine List.forall_mem_append.2 ⟨List.forall_mem_map.2 (hl hhead), List.forall_mem_map.2 ?_⟩
    exact hl' htail (List.pairwise_cons.1 hpairs).2 (by simp)

private theorem not_target_of_comparand? {w : String} (hw : w ≠ "") (h : e.comparand? target = some w) :
    e.isTarget target = false := by
  cases he : e.isTarget target with
  | false => rfl
  | true =>
    rw [comparand?, seek_of_target he] at h
    exact absurd (Option.some.inj h).symm hw

private theorem not_target_of_redirect {r : Redirection} (hvalue : r.value ≠ "") (h : (e.redirect r).2 = some r.value) :
    e.isTarget r.target = false := by
  cases he : e.isTarget r.target with
  | false => rfl
  | true =>
    rw [redirect, Redirection.redirectFrom_target false he] at h
    exact absurd (Option.some.inj h).symm hvalue

private theorem OverwrittenAt.not_target {r : Redirection} {q : Place} (h : OverwrittenAt r e q) :
    e.isTarget r.target = false := by
  obtain ⟨n, hn, hwritten⟩ := h
  obtain ⟨v, hv, -⟩ := exists_other_text ""
  have hconst := hwritten v hv
  cases he : e.isTarget r.target with
  | false => rfl
  | true =>
    rw [redirect, Redirection.redirectFrom_target (r := { r with value := v }) false he] at hconst
    have hident : (ident e.id r.name).isTarget (snakeCase r.name) = false := isTarget_of_get? hconst
    simp [isTarget] at hident

private theorem ReadAt.not_target {q : Place} (h : e.ReadAt target q) : e.isTarget target = false := by
  obtain ⟨id, w, -, hconst, -⟩ := h
  exact isTarget_of_get? hconst

private theorem readings_eq_slots (h : ∀ c ∈ e.nodes, c.PlainValues target) : e.readings target = e.slots target := by
  refine List.filter_eq_self.2 fun x hx => ?_
  simpa using text_of_plainValues h x hx

/-- The slots lie from left to right, so that the first of all is the first that is read or lies to the left of it. -/
private theorem head?_slots_of_head?_readings {x : Slot} (h : (e.readings target).head? = some x) :
    ∃ y, (e.slots target).head? = some y ∧ (y.place = x.place ∨ y.LeftOf x) := by
  have hmem : x ∈ e.slots target := (List.mem_filter.1 (List.mem_of_head? h)).1
  have hleft : (e.slots target).Pairwise Slot.LeftOf := (slots_spec e).1
  cases hslots : e.slots target with
  | nil =>
    rw [hslots] at hmem
    cases hmem
  | cons y rest =>
    rw [hslots] at hmem hleft
    refine ⟨y, rfl, ?_⟩
    rcases List.mem_cons.1 hmem with rfl | hmem
    · exact .inl rfl
    · exact .inr ((List.pairwise_cons.1 hleft).1 x hmem)

private theorem redirect_of_comparand? {r : Redirection} {w : String} (hvalue : r.value ≠ "") (hw : w ≠ "")
    (h : e.comparand? r.target = some w) :
    (e.redirect r).2 = some r.value ∧
      ∃ q s id, (∀ p, OverwrittenAt r e p ↔ p = q) ∧ (∀ p, ReadAt r.target e p ↔ p = s) ∧
        e.get? s = some (const id (.string w)) ∧ (q = s ∨ LeftOf q s) := by
  have he := not_target_of_comparand? hw h
  rw [comparand?_eq_readings he] at h
  obtain ⟨x, hx, rfl⟩ := Option.map_eq_some_iff.1 h
  obtain ⟨y, hy, hleft⟩ := head?_slots_of_head?_readings hx
  obtain ⟨n, hn, htext⟩ := (slots_spec e).2 x (List.mem_filter.1 (List.mem_of_head? hx)).1
  obtain ⟨id, hconst⟩ := exists_const_of_string (htext ▸ hw)
  have hne : e.slots r.target ≠ [] := fun hnil => by simp [hnil] at hy
  refine ⟨(redirect_eq_some_iff hvalue he).2 hne, y.place, x.place, id, fun p => ?_, fun p => ?_, ?_, hleft⟩
  · rw [overwrittenAt_iff he, hy]
    simp [eq_comm]
  · rw [readAt_iff he, hx]
    simp [eq_comm]
  · rw [hn, hconst, htext]

/-- Reading and redirecting walk alike. Where a string is read, a redirection finds its place too, and overwrites the
node that was read or one to the left of it. If behind every target there are only targets and strings, then a
redirection finds its place exactly if a string is read, and overwrites the very node that is read. -/
theorem redirect_where_read (e : Expr) (r : Redirection) (hvalue : r.value ≠ "") :
    (∀ w, w ≠ "" → e.comparand? r.target = some w →
      (e.redirect r).2 = some r.value ∧
      ∃ q s id, (∀ p, OverwrittenAt r e p ↔ p = q) ∧ (∀ p, ReadAt r.target e p ↔ p = s) ∧
        e.get? s = some (const id (.string w)) ∧ (q = s ∨ LeftOf q s)) ∧
    ((∀ c ∈ e.nodes, c.PlainValues r.target) →
      ((e.redirect r).2 = some r.value ↔ ∃ w, w ≠ "" ∧ e.comparand? r.target = some w) ∧
      ∀ p, OverwrittenAt r e p ↔ ReadAt r.target e p) := by
  refine ⟨fun w hw hfound => redirect_of_comparand? hvalue hw hfound, fun hplain => ?_⟩
  have hsame := readings_eq_slots hplain
  refine ⟨⟨fun hput => ?_, fun ⟨w, hw, hfound⟩ => (redirect_of_comparand? hvalue hw hfound).1⟩, fun p => ?_⟩
  · have he := not_target_of_redirect hvalue hput
    obtain ⟨x, rest, hslots⟩ := List.exists_cons_of_ne_nil ((redirect_eq_some_iff hvalue he).1 hput)
    have hx : x.text ≠ "" := text_of_plainValues hplain x (by simp [hslots])
    refine ⟨x.text, hx, ?_⟩
    rw [comparand?_eq_readings he, hsame, hslots]
    rfl
  · constructor
    · intro h
      have he := h.not_target
      rwa [overwrittenAt_iff he, ← hsame, ← readAt_iff he] at h
    · intro h
      have he := h.not_target
      rwa [readAt_iff he, hsame, ← overwrittenAt_iff he] at h

/-- The number behind the target is no string: it is overwritten, and the string behind it is read. -/
private def gallery : Expr :=
  .call 9 "AND"
    [.call 5 "=" [.ident 1 "doorId", .const 2 (.int 7), .const 3 (.string "east"), .const 4 (.string "west")],
      .call 8 "=" [.ident 6 "door_id", .const 7 (.string "south")]]

/-- The same without the number. -/
private def landing : Expr :=
  .call 9 "AND"
    [.call 5 "=" [.ident 1 "doorId", .const 3 (.string "east"), .ident 4 "door_id"],
      .call 8 "=" [.ident 6 "door_id", .const 7 (.string "south")]]

private def locking : Redirection := ⟨"door_id", "gate", "north"⟩

theorem redirect_where_read_gallery :
    locking.value ≠ "" ∧ gallery.comparand? locking.target = some "east" ∧
    (gallery.redirect locking).2 = some "north" ∧
    (∃ q s id, (∀ p, OverwrittenAt locking gallery p ↔ p = q) ∧ (∀ p, ReadAt locking.target gallery p ↔ p = s) ∧
      gallery.get? s = some (const id (.string "east")) ∧ (q = s ∨ LeftOf q s)) ∧
    (∀ c ∈ landing.nodes, c.PlainValues locking.target) ∧
    (landing.redirect locking).2 = some "north" ∧
    ∀ p, OverwrittenAt locking landing p ↔ ReadAt locking.target landing p := by
  have hvalue : locking.value ≠ "" := by decide
  have hread : gallery.comparand? locking.target = some "east" := by decide +kernel
  have hplain : ∀ c ∈ landing.nodes, c.PlainValues locking.target := by decide +kernel
  obtain ⟨hput, hplaces⟩ := (redirect_where_read gallery locking hvalue).1 "east" (by decide) hread
  obtain ⟨hiff, hsame⟩ := (redirect_where_read landing locking hvalue).2 hplain
  exact ⟨hvalue, hread, hput, hplaces, hplain, hiff.2 ⟨"east", by decide, by decide +kernel⟩, hsame⟩

end Expr

end FluxQuery
