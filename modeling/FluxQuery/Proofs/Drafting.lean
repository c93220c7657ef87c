import FluxQuery.Filter.Draft
import FluxQuery.Proofs.Offenders

/-!
# Drafts keep tree and types together

However a filter is drafted, the ids of its nodes grow from the leaves to the root, no id is given to two different
nodes, and the table holds for every node the type that the way it was made calls for, and nothing else. `Drafted` says
what can be done with a draft: its operations in any order, on any nodes made before, each as often as one likes. All of
them take one fresh id for a node on top of older ones, and this one step keeps `Sound`.
-/

namespace FluxQuery

/-- How a node comes into a draft. -/
inductive Making where
  | ident
  | typedIdent (ty : Ty)
  | const
  | timestamp
  | select
  | list
  | call
  | untypedCall
  deriving DecidableEq

/-- The type that a node gets. -/
def Making.type? (scope : Scope) (node : Expr) : Making → Option Ty
  | .ident => scope.typeOf? node.name
  | .typedIdent ty => some ty
  | .timestamp => some .timestamp
  | .call => some .bool
  | .const | .select | .list | .untypedCall => none

/-- The nodes that can be made in a way. -/
inductive Making.Makes : Making → Expr → Prop where
  | ident (id : NodeId) (name : String) : Makes .ident (.ident id name)
  | typedIdent (ty : Ty) (id : NodeId) (name : String) : Makes (.typedIdent ty) (.ident id name)
  | const (id : NodeId) (value : Literal) : Makes .const (.const id value)
  | timestamp (id i : NodeId) (value : String) :
      Makes .timestamp (.call id Operator.timestamp.name [.const i (.string value)])
  | select (id : NodeId) (operand : Expr) (field : String) : Makes .select (.select id operand field)
  | list (id : NodeId) (items : List Expr) : Makes .list (.list id items)
  | call (id : NodeId) (function : String) (args : List Expr) : Makes .call (.call id function args)
  | untypedCall (id : NodeId) (function : String) (args : List Expr) : Makes .untypedCall (.call id function args)

/-- The nodes that have been made over a scope, the latest first, and the draft that this leaves. -/
inductive Drafted (scope : Scope) : List (Expr × Making) → Draft → Prop where
  | start : Drafted scope [] { scope }
  | ident {made d} (name : String) :
      Drafted scope made d → Drafted scope (((d.ident name).1, .ident) :: made) (d.ident name).2
  | typedIdent {made d} (name : String) (ty : Ty) :
      Drafted scope made d → Drafted scope (((d.typedIdent name ty).1, .typedIdent ty) :: made) (d.typedIdent name ty).2
  | const {made d} (value : Literal) :
      Drafted scope made d → Drafted scope (((d.const value).1, .const) :: made) (d.const value).2
  /-- Both the call and the string inside it are made. -/
  | timestamp {made d} (value : String) :
      Drafted scope made d →
      Drafted scope (((d.timestamp value).1, .timestamp) :: ((d.const (.string value)).1, .const) :: made)
        (d.timestamp value).2
  | select {made d} (operand : Expr) (field : String) :
      Drafted scope made d → operand ∈ made.map Prod.fst →
      Drafted scope (((d.select operand field).1, .select) :: made) (d.select operand field).2
  | list {made d} (items : List Expr) :
      Drafted scope made d → items ⊆ made.map Prod.fst →
      Drafted scope (((d.list items).1, .list) :: made) (d.list items).2
  | call {made d} (function : String) (args : List Expr) :
      Drafted scope made d → args ⊆ made.map Prod.fst →
      Drafted scope (((d.call function args).1, .call) :: made) (d.call function args).2
  | untypedCall {made d} (function : String) (args : List Expr) :
      Drafted scope made d → args ⊆ made.map Prod.fst →
      Drafted scope (((d.untypedCall function args).1, .untypedCall) :: made) (d.untypedCall function args).2

variable {scope : Scope} {made : List (Expr × Making)} {d : Draft}

/-! ### One fresh id -/

/-- What holds of a draft and the nodes made in it. -/
private structure Sound (scope : Scope) (made : List (Expr × Making)) (d : Draft) : Prop where
  scope_eq : d.scope = scope
  next : d.next.toNat = made.length + 1
  id_bounds : ∀ p ∈ made, 1 ≤ p.1.id.toNat ∧ p.1.id.toNat ≤ made.length
  children : ∀ p ∈ made, ∀ c ∈ p.1.children, c ∈ made.map Prod.fst ∧ c.id < p.1.id
  unique : ∀ p ∈ made, ∀ q ∈ made, p.1.id = q.1.id → p = q
  makes : ∀ p ∈ made, p.2.Makes p.1
  types : ∀ p ∈ made, d.types[p.1.id]? = p.2.type? scope p.1
  untouched : ∀ id, d.next ≤ id → d.types[id]? = none

private theorem getElem?_fresh (d : Draft) (ty : Option Ty) (id : NodeId) (hnext : d.types[d.next]? = none) :
    (d.fresh ty).2.types[id]? = if id = d.next then ty else d.types[id]? := by
  cases ty with
  | none =>
    by_cases h : id = d.next
    · rw [if_pos h, h]
      exact hnext
    · rw [if_neg h]
      rfl
  | some ty =>
    have hinsert : (d.fresh (some ty)).2.types = d.types.insert d.next ty := rfl
    rw [hinsert, Std.ExtTreeMap.getElem?_insert]
    by_cases h : id = d.next
    · rw [if_pos h, if_pos (Std.LawfulEqCmp.compare_eq_iff_eq.2 h.symm)]
    · rw [if_neg h, if_neg fun heq => h (Std.LawfulEqCmp.compare_eq_iff_eq.1 heq).symm]

private theorem Sound.fresh (h : Sound scope made d) (hids : made.length + 2 < UInt64.size) {n : Expr} {how : Making}
    (hmakes : how.Makes n) (hid : n.id = d.next) (hchildren : n.children ⊆ made.map Prod.fst) :
    Sound scope ((n, how) :: made) (d.fresh (how.type? scope n)).2 := by
  have hnext : (d.next + 1).toNat = d.next.toNat + 1 := by
    rw [UInt64.toNat_add, h.next]
    exact Nat.mod_eq_of_lt hids
  have hold : ∀ p ∈ made, p.1.id < d.next := by
    intro p hp
    have := (h.id_bounds p hp).2
    have := h.next
    rw [UInt64.lt_iff_toNat_lt]
    omega
  have hne : ∀ p ∈ made, p.1.id ≠ d.next := fun p hp heq => by
    have := hold p hp
    rw [heq] at this
    exact UInt64.lt_irrefl _ this
  have hlookup := fun id => getElem?_fresh d (how.type? scope n) id (h.untouched d.next (UInt64.le_refl _))
  refine ⟨h.scope_eq, ?_, ?_, ?_, ?_, ?_, ?_, ?_⟩
  · change (d.next + 1).toNat = made.length + 1 + 1
    rw [hnext, h.next]
  · rintro p (_ | ⟨_, hp⟩)
    · rw [hid, h.next, List.length_cons]
      omega
    · have := h.id_bounds p hp
      rw [List.length_cons]
      omega
  · rintro p (_ | ⟨_, hp⟩) c hc
    · obtain ⟨q, hq, rfl⟩ := List.mem_map.1 (hchildren hc)
      refine ⟨by simp only [List.map_cons]; exact List.mem_cons_of_mem _ (hchildren hc), ?_⟩
      rw [hid]
      exact hold q hq
    · obtain ⟨hmem, hlt⟩ := h.children p hp c hc
      exact ⟨by simp only [List.map_cons]; exact List.mem_cons_of_mem _ hmem, hlt⟩
  · rintro p (_ | ⟨_, hp⟩) q (_ | ⟨_, hq⟩) heq
    · rfl
    · exact absurd (heq.symm.trans hid) (hne q hq)
    · exact absurd (heq.trans hid) (hne p hp)
    · exact h.unique p hp q hq heq
  · rintro p (_ | ⟨_, hp⟩)
    · exact hmakes
    · exact h.makes p hp
  · rintro p (_ | ⟨_, hp⟩)
    · rw [hlookup, if_pos hid]
    · rw [hlookup, if_neg (hne p hp)]
      exact h.types p hp
  · intro id hle
    have hle : d.next + 1 ≤ id := hle
    rw [UInt64.le_iff_toNat_le, hnext] at hle
    have hlt : d.next < id := by
      rw [UInt64.lt_iff_toNat_lt]
      omega
    rw [hlookup, if_neg (fun heq => by rw [heq] at hlt; exact UInt64.lt_irrefl _ hlt)]
    exact h.untouched id (UInt64.le_of_lt hlt)

/-- Of the two types that a point in time gets, the second one stays. -/
private theorem snd_timestamp (d : Draft) (value : String) :
    (d.timestamp value).2 = ((d.const (.string value)).2.fresh (some .timestamp)).2 :=
  congrArg (Draft.mk d.scope (d.next + 1 + 1)) Std.ExtTreeMap.insert_insert

/-! ### Whole drafts -/

private theorem sound_start (scope : Scope) : Sound scope [] { scope } :=
  ⟨rfl, rfl, by simp, by simp, by simp, by simp, by simp, fun _ _ => Std.ExtTreeMap.getElem?_empty⟩

/-- Every operation takes fresh ids for nodes on top of older ones. -/
private theorem Drafted.sound (h : Drafted scope made d) (hids : made.length + 1 < UInt64.size) :
    Sound scope made d := by
  induction h with
  | start => exact sound_start scope
  | ident name h ih =>
    have ih := ih (by simp at hids; omega)
    have := ih.fresh hids (.ident _ name) rfl (List.nil_subset _)
    rwa [← ih.scope_eq] at this ⊢
  | typedIdent name ty h ih =>
    have ih := ih (by simp at hids; omega)
    exact ih.fresh hids (.typedIdent ty _ name) rfl (List.nil_subset _)
  | const value h ih =>
    have ih := ih (by simp at hids; omega)
    exact ih.fresh hids (.const _ value) rfl (List.nil_subset _)
  | timestamp value h ih =>
    have ih := ih (by simp at hids; omega)
    have harg := ih.fresh (by simp at hids; omega) (.const _ (.string value)) rfl (List.nil_subset _)
    rw [snd_timestamp]
    exact harg.fresh hids (.timestamp _ _ value) rfl
      (List.cons_subset.2 ⟨List.mem_cons_self, List.nil_subset _⟩)
  | select operand field h hoperand ih =>
    have ih := ih (by simp at hids; omega)
    exact ih.fresh hids (.select _ operand field) rfl (List.cons_subset.2 ⟨hoperand, List.nil_subset _⟩)
  | list items h hitems ih =>
    have ih := ih (by simp at hids; omega)
    exact ih.fresh hids (.list _ items) rfl hitems
  | call function args h hargs ih =>
    have ih := ih (by simp at hids; omega)
    exact ih.fresh hids (.call _ function args) rfl hargs
  | untypedCall function args h hargs ih =>
    have ih := ih (by simp at hids; omega)
    exact ih.fresh hids (.untypedCall _ function args) rfl hargs

/-- Every node of a tree has been made. -/
private theorem Sound.exists_making (h : Sound scope made d) {root : Expr} (hroot : root ∈ made.map Prod.fst) :
    ∀ n ∈ root.nodes, ∃ how, (n, how) ∈ made := by
  induction root using Expr.children_induction with
  | step root ih =>
    obtain ⟨p, hp, rfl⟩ := List.mem_map.1 hroot
    intro n hn
    rcases Expr.mem_nodes_iff.1 hn with rfl | ⟨c, hc, hn⟩
    · exact ⟨p.2, hp⟩
    · exact ih c hc (h.children p hp c hc).1 n hn

private theorem Sound.eq_untypedCall (h : Sound scope made d) {id : NodeId} {function : String} {args : List Expr}
    {how : Making} (hhow : (.call id function args, how) ∈ made) (hty : d.types[id]? = none) : how = .untypedCall := by
  have htype : none = how.type? scope (.call id function args) := hty.symm.trans (h.types _ hhow)
  cases h.makes _ hhow with
  | timestamp => cases htype
  | call => cases htype
  | untypedCall => rfl

private theorem Sound.eq_ident (h : Sound scope made d) {id : NodeId} {name : String} {how : Making}
    (hhow : (.ident id name, how) ∈ made) (hty : d.types[id]? = none) : how = .ident ∧ scope.typeOf? name = none := by
  have htype : none = how.type? scope (.ident id name) := hty.symm.trans (h.types _ hhow)
  cases h.makes _ hhow with
  | ident => exact ⟨rfl, htype.symm⟩
  | typedIdent => cases htype

/-! ### Errors about types -/

namespace Context

variable {ctx : Context}

/-- An error about a missing type names a node of the tree, of the right kind, that has none. -/
private def Untyped (ctx : Context) (e : Expr) : RenderError → Prop
  | .untypedIdent id => ∃ name, .ident id name ∈ e.nodes ∧ ctx.types[id]? = none
  | .untypedCall id => ∃ function args, .call id function args ∈ e.nodes ∧ ctx.types[id]? = none
  | _ => True

private theorem untyped_of_render {e : Expr} {error : RenderError} (h : ctx.render e = .error error) :
    ctx.Untyped e error := by
  obtain ⟨place, node, hoffender⟩ := exists_offender h
  have hnode : node ∈ e.nodes := Expr.mem_nodes_of_get? hoffender.found
  cases hoffender.reason with
  | untypedIdent hid => exact ⟨_, hnode, Std.ExtTreeMap.getElem?_eq_none hid⟩
  | untypedCall hid => exact ⟨_, _, hnode, Std.ExtTreeMap.getElem?_eq_none hid⟩
  | _ => trivial

end Context

/-- The filter that is finished with a node made before holds the tree of that node and the types given. All nodes of
the tree have ids from `1` up to the next free one, smaller ones below greater ones, and one id for one node; each of
them has been made in one way, and has the type of that way. So its fragment lacks the type of a call only if the call
was made untyped, and the type of an identifier only if the scope does not know the name. The counter of ids must not
have run out. -/
theorem Drafted.tree_and_types (h : Drafted scope made d) (hids : made.length + 1 < UInt64.size) {root : Expr}
    (hroot : root ∈ made.map Prod.fst) :
    ∃ checked, (d.filter (some root)).checked? = some checked ∧ checked.expr = root ∧
      (∀ n ∈ checked.expr.nodes,
        1 ≤ n.id ∧ n.id < d.next ∧ (∀ c ∈ n.children, c.id < n.id) ∧
        (∀ m ∈ checked.expr.nodes, m.id = n.id → m = n) ∧
        ∃ how : Making, how.Makes n ∧ (n, how) ∈ made ∧ (∀ how', (n, how') ∈ made → how' = how) ∧
          checked.types[n.id]? = how.type? scope n) ∧
      ∀ enum? id,
        ((d.filter (some root)).render enum? = .error (.untypedCall id) →
          ∃ function args, .call id function args ∈ root.nodes ∧ (.call id function args, .untypedCall) ∈ made) ∧
        ((d.filter (some root)).render enum? = .error (.untypedIdent id) →
          ∃ name, .ident id name ∈ root.nodes ∧ (.ident id name, .ident) ∈ made ∧ scope.typeOf? name = none) := by
  have hsound : Sound scope made d := h.sound hids
  have hmade := hsound.exists_making hroot
  refine ⟨⟨root, d.types⟩, rfl, rfl, fun n hn => ?_, fun enum? id => ⟨fun herror => ?_, fun herror => ?_⟩⟩
  · obtain ⟨how, hhow⟩ := hmade n hn
    have hbounds := hsound.id_bounds _ hhow
    have hnext := hsound.next
    refine ⟨?_, ?_, fun c hc => (hsound.children _ hhow c hc).2, fun m hm heq => ?_, how, hsound.makes _ hhow, hhow,
      fun how' hhow' => ?_, hsound.types _ hhow⟩
    · rw [UInt64.le_iff_toNat_le]
      exact hbounds.1
    · rw [UInt64.lt_iff_toNat_lt, hnext]
      exact Nat.lt_succ_of_le hbounds.2
    · obtain ⟨how', hhow'⟩ := hmade m hm
      exact congrArg Prod.fst (hsound.unique _ hhow' _ hhow heq)
    · exact congrArg Prod.snd (hsound.unique _ hhow' _ hhow rfl)
  · obtain ⟨function, args, hcall, hty⟩ := Context.untyped_of_render (Except.map_eq_error_iff.1 herror)
    obtain ⟨how, hhow⟩ := hmade _ hcall
    refine ⟨function, args, hcall, ?_⟩
    rwa [hsound.eq_untypedCall hhow hty] at hhow
  · obtain ⟨name, hname, hty⟩ := Context.untyped_of_render (Except.map_eq_error_iff.1 herror)
    obtain ⟨how, hhow⟩ := hmade _ hname
    obtain ⟨rfl, hscope⟩ := hsound.eq_ident hhow hty
    exact ⟨name, hname, hhow, hscope⟩

/-! ### Stack programs -/

namespace Bench

private theorem take?_subset {count : Nat} {stack above below : List Expr}
    (h : take? count stack = some (above, below)) :
    above ⊆ stack ∧ below ⊆ stack := by
  unfold take? at h
  split at h
  · obtain ⟨rfl, rfl⟩ := Prod.mk.inj (Option.some.inj h)
    exact ⟨fun e he => List.mem_of_mem_take (List.mem_reverse.1 he), List.drop_subset _ _⟩
  · cases h

/-- A step makes at most two nodes, of operands that stand on the stack. -/
private theorem drafted_step {b b' : Bench} {step : Step} (h : b.step? step = some b')
    (hb : Drafted scope made b.draft) (hstack : b.stack ⊆ made.map Prod.fst) :
    ∃ made', Drafted scope made' b'.draft ∧ b'.stack ⊆ made'.map Prod.fst ∧ made'.length ≤ made.length + 2 := by
  -- what is put on the stack is what was made last
  have hpush : ∀ {e : Expr} {how : Making} {stack : List Expr}, stack ⊆ b.stack →
      e :: stack ⊆ ((e, how) :: made).map Prod.fst := fun hsub =>
    List.cons_subset_cons _ (List.Subset.trans hsub hstack)
  cases step with
  | ident name =>
    cases h
    exact ⟨_, .ident name hb, hpush (List.Subset.refl _), by simp⟩
  | typedIdent name ty =>
    cases h
    exact ⟨_, .typedIdent name ty hb, hpush (List.Subset.refl _), by simp⟩
  | const value =>
    cases h
    exact ⟨_, .const value hb, hpush (List.Subset.refl _), by simp⟩
  | timestamp value =>
    cases h
    exact ⟨_, .timestamp value hb, List.cons_subset_cons _ (List.subset_cons_of_subset _ hstack), by simp⟩
  | select field =>
    simp only [step?] at h
    split at h
    · rename_i operand stack heq
      cases h
      have hoperand : operand ∈ b.stack := by simp [heq]
      exact ⟨_, .select operand field hb (hstack hoperand), hpush (by simp [heq]), by simp⟩
    · cases h
  | list count =>
    obtain ⟨⟨items, stack⟩, htake, rfl⟩ := Option.map_eq_some_iff.1 h
    obtain ⟨hitems, hrest⟩ := take?_subset htake
    exact ⟨_, .list items hb (List.Subset.trans hitems hstack), hpush hrest, by simp⟩
  | call function count =>
    obtain ⟨⟨args, stack⟩, htake, rfl⟩ := Option.map_eq_some_iff.1 h
    obtain ⟨hargs, hrest⟩ := take?_subset htake
    exact ⟨_, .call function args hb (List.Subset.trans hargs hstack), hpush hrest, by simp⟩
  | untypedCall function count =>
    obtain ⟨⟨args, stack⟩, htake, rfl⟩ := Option.map_eq_some_iff.1 h
    obtain ⟨hargs, hrest⟩ := take?_subset htake
    exact ⟨_, .untypedCall function args hb (List.Subset.trans hargs hstack), hpush hrest, by simp⟩
  | duplicate =>
    simp only [step?] at h
    split at h
    · rename_i top stack heq
      cases h
      rw [heq] at hstack
      exact ⟨made, hb, List.cons_subset.2 ⟨hstack List.mem_cons_self, hstack⟩, by simp⟩
    · cases h
  | swap =>
    simp only [step?] at h
    split at h
    · rename_i top below stack heq
      cases h
      rw [heq] at hstack
      exact ⟨made, hb, List.Subset.trans (List.Perm.swap top below stack).subset hstack, by simp⟩
    · cases h

/-- A stack program is a draft of the nodes that it puts on the stack. -/
theorem drafted_run {b b' : Bench} {steps : List Step} (h : b.run? steps = some b') (hb : Drafted scope made b.draft)
    (hstack : b.stack ⊆ made.map Prod.fst) :
    ∃ made', Drafted scope made' b'.draft ∧ b'.stack ⊆ made'.map Prod.fst ∧
      made'.length ≤ made.length + 2 * steps.length := by
  induction steps generalizing b made with
  | nil =>
    cases h
    exact ⟨made, hb, hstack, by simp⟩
  | cons step steps ih =>
    obtain ⟨b₁, hstep, hrun⟩ := Option.bind_eq_some_iff.1 h
    obtain ⟨made₁, hb₁, hstack₁, hlength₁⟩ := drafted_step hstep hb hstack
    obtain ⟨made', hb', hstack', hlength'⟩ := ih hrun hb₁ hstack₁
    exact ⟨made', hb', hstack', by rw [List.length_cons]; omega⟩

end Bench

/-- A comparison that stands twice in the same conjunction, with the same ids. -/
private def twice : Expr :=
  let comparison : Expr :=
    .call 4 ">=" [.ident 1 "createdAt", .call 3 "timestamp" [.const 2 (.string "2024-01-01T00:00:00Z")]]
  .call 5 "AND" [comparison, comparison]

theorem Drafted.tree_and_types_twice :
    ∃ b made checked,
      Bench.run? { draft := { scope := {} } } [.ident "createdAt", .timestamp "2024-01-01T00:00:00Z", .call ">=" 2,
        .duplicate, .untypedCall "AND" 2] = some b ∧
      Drafted {} made b.draft ∧ made.length + 1 < UInt64.size ∧ twice ∈ made.map Prod.fst ∧
      (b.draft.filter (some twice)).checked? = some checked ∧
      (∀ n ∈ checked.expr.nodes, n.id < b.draft.next) ∧
      ∀ enum? id, (b.draft.filter (some twice)).render enum? = .error (.untypedCall id) →
        ∃ function args, .call id function args ∈ twice.nodes ∧ (.call id function args, .untypedCall) ∈ made := by
  obtain ⟨b, hrun, htop⟩ : ∃ b, Bench.run? { draft := { scope := {} } } [.ident "createdAt",
      .timestamp "2024-01-01T00:00:00Z", .call ">=" 2, .duplicate, .untypedCall "AND" 2] = some b ∧
      twice ∈ b.stack := ⟨_, rfl, by decide⟩
  obtain ⟨made, hdraft, hstack, hlength⟩ := Bench.drafted_run hrun (.start) (List.nil_subset _)
  have hids : made.length + 1 < UInt64.size := by
    have hsize : UInt64.size = 18446744073709551616 := rfl
    simp only [List.length_nil, List.length_cons] at hlength
    omega
  obtain ⟨checked, hchecked, -, hnodes, herrors⟩ := hdraft.tree_and_types hids (hstack htop)
  exact ⟨b, made, checked, hrun, hdraft, hids, hstack htop, hchecked, fun n hn => (hnodes n hn).2.1,
    fun enum? id => (herrors enum? id).1⟩

end FluxQuery
